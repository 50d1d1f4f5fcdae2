import Switchboard.Proofs.Dispatch.Served
import Switchboard.Proofs.Registry.Lives
/-!
# The answers to connect calls

A connect call is attached to the session that it finds or starts under its key (`Step.attached`).
It waits while that session is undecided, and the step that decides the session answers it
(`ConnectFate`). Whatever comes in whatever order, an answer has its grounds in that session and in
no other (`Grounds`, `course_judged`): the session is connected, or its credentials were just
rejected, or its budget is spent, or a caller has ended it.
-/

namespace Switchboard

namespace Session

variable {s : Session}

@[simp] theorem snapshot_state (s : Session) : s.snapshot.state = s.state := rfl

@[simp] theorem snapshot_lastError (s : Session) : s.snapshot.lastError = s.lastError := rfl

@[simp] theorem snapshot_retryScheduled (s : Session) :
    s.snapshot.retryScheduled = s.timers.retry.isArmed := rfl

/-- A session at rest is decided, and its snapshot says what its last error says. -/
theorem Resting.verdict (h : Resting s) :
    s.snapshot.verdict = some (.error s.snapshot.failure) := by
  unfold Snapshot.verdict
  rw [snapshot_state, snapshot_retryScheduled, h.timers]
  rcases h.state with state | state | ⟨state, -⟩
  · rw [state]
  · rw [state]
  · rw [state]
    exact if_neg nofun

/-- An ongoing session is connected or undecided. -/
theorem Ongoing.verdict (h : Ongoing s) (phase : InPhase s) :
    s.state = .connected ∧ s.snapshot.verdict = some (.ok s.snapshot) ∨
      s.snapshot.verdict = none := by
  unfold Snapshot.verdict
  rw [snapshot_state, snapshot_retryScheduled]
  cases phase with
  | resting rest => exact absurd rest h.not_resting
  | waiting waiting =>
    obtain ⟨deadline, timers⟩ := waiting.timers
    rw [waiting.state, timers]
    exact .inr rfl
  | attempting attempting =>
    have state := attempting.state
    cases e : s.state <;> rw [e] at state <;> cases state
    all_goals exact .inr rfl
  | live live =>
    have state := live.state
    cases e : s.state <;> rw [e] at state <;> cases state
    · exact .inl ⟨rfl, rfl⟩
    all_goals exact .inr rfl

theorem verdict_of_rejected {reason : String} (h : Resting s)
    (lastError : s.lastError = some (.auth reason)) :
    s.snapshot.verdict = some (.error (.auth reason)) := by
  rw [h.verdict, Snapshot.failure, snapshot_lastError, lastError]

theorem Exhausted.verdict (h : s.Exhausted) :
    s.snapshot.verdict = some (.error (.reconnectExhausted s.config.budget)) := by
  rw [h.rest.verdict, Snapshot.failure, snapshot_lastError, h.lastError]

theorem verdict_of_closed (h : Resting s)
    (lastError : ∀ e, s.lastError = some e → e.isFinal = false) :
    s.snapshot.verdict = some (.error .connectionClosed) := by
  rw [h.verdict, Snapshot.failure, snapshot_lastError]
  split
  · next reason remembered => cases lastError _ remembered
  · next attempts remembered => cases lastError _ remembered
  · rfl

end Session

open Session (Ongoing Resting Exhausted)

namespace Dispatcher

variable {σ : Type}

theorem mem_waiting_of_connects {d : Dispatcher σ} {w : ConnectWaiter}
    (mem : w ∈ d.connectWaiters) (listens : w.listens = true) : w.ticket ∈ d.waiting :=
  List.mem_append_left _ (List.mem_map_of_mem (List.mem_filter.mpr ⟨mem, listens⟩))

theorem ConnectWaiter.abandon_of_not {ticket : Ticket} {w : ConnectWaiter}
    (stays : ¬ (w.ticket = ticket ∧ w.listens = true)) : w.abandon ticket = w := by
  obtain ⟨mine, key, serial, listens⟩ := w
  unfold ConnectWaiter.abandon
  cases listens with
  | false => rfl
  | true =>
    have other : mine ≠ ticket := fun same => stays ⟨same, rfl⟩
    simp [other]

theorem verdictFor_of_own {r : Registry σ} {w : ConnectWaiter} {s : Session}
    (found : KeyMap.find? w.key r.sessions = some s) (own : s.serial = w.serial) :
    verdictFor r w = s.snapshot.verdict := by
  unfold verdictFor Registry.status
  rw [found]
  exact if_pos own

theorem verdictFor_of_other {r : Registry σ} {w : ConnectWaiter} {s : Session}
    (found : KeyMap.find? w.key r.sessions = some s) (other : s.serial ≠ w.serial) :
    verdictFor r w = some (.error .connectionClosed) := by
  unfold verdictFor Registry.status
  rw [found]
  exact if_neg other

theorem verdictFor_of_none {r : Registry σ} {w : ConnectWaiter}
    (none : KeyMap.find? w.key r.sessions = none) :
    verdictFor r w = some (.error .connectionClosed) := by
  unfold verdictFor Registry.status
  rw [none]
  rfl

variable [Environment σ]

/-- The session that a connect call gets, by the key and the serial of its snapshot. -/
def attachment (d : Dispatcher σ) (ticket : Ticket) (key : String) (target : Target)
    (config : Option SessionConfig) (now : Instant) : ConnectWaiter :=
  let snapshot := (d.registry.connectWith key target (config.getD d.registry.defaults) now).1
  ⟨ticket, key, snapshot.serial, true⟩

/-- The connect call that the step brings, attached to its session. -/
def Step.attached (m : Step σ) : List ConnectWaiter :=
  match m.input with
  | .command ticket (.connect key target config) now =>
    if m.before.stopped then [] else [m.before.attachment ticket key target config now]
  | _ => []

/-- The connect calls of a course, attached to their sessions. -/
def Course.attached (steps : List (Step σ)) : List ConnectWaiter := steps.flatMap Step.attached

/-! ## Who is answered -/

/-- A connect call waits on while its session is undecided, and it is answered once it is
decided. -/
structure Judged (worked : Registry σ) (given : List Answer) (d : Dispatcher σ)
    (w : ConnectWaiter) : Prop where
  waits : verdictFor worked w = none → w ∈ d.connectWaiters
  answered : ∀ result, verdictFor worked w = some result →
    ⟨w.ticket, result.map .session⟩ ∈ given

omit [Environment σ] in
theorem judged_resolve {d d' : Dispatcher σ} {connects : List ConnectWaiter}
    {requests : List RequestWaiter} {given : List Answer}
    (intake : Intake d d' connects requests given)
    (distinct : ((d.requestWaiters ++ requests).map RequestWaiter.request).Nodup) :
    ∃ more, d'.resolve.answers = d.answers ++ (given ++ more) ∧
      ∀ w ∈ d.connectWaiters ++ connects, w.listens = true →
        Judged d'.registry more d'.resolve w := by
  rw [← intake.requestWaiters] at distinct
  rw [← intake.connectWaiters]
  obtain ⟨served, left, -, resolved⟩ := resolve_spec d' distinct
  refine ⟨d'.verdicts ++ answersOf served, ?_, fun w mem listens => ⟨fun none => ?_, ?_⟩⟩
  · rw [resolved, intake.answers, List.append_assoc]
  · rw [resolved]
    exact List.mem_filter.mpr
      ⟨List.mem_filter.mpr ⟨mem, listens⟩, Option.isNone_iff_eq_none.mpr none⟩
  · intro result decided
    refine List.mem_append_left _
      (List.mem_filterMap.mpr ⟨w, List.mem_filter.mpr ⟨mem, listens⟩, ?_⟩)
    rw [decided]
    rfl

theorem Step.answers_eq {m : Step σ} {given : List Answer}
    (h : m.after.answers = m.before.answers ++ given) : m.answers = given := by
  unfold Step.answers
  rw [h, List.drop_left]

omit [Environment σ] in
theorem Judged.mono {worked : Registry σ} {given more : List Answer} {d : Dispatcher σ}
    {w : ConnectWaiter} (h : Judged worked given d w) (grows : ∀ a ∈ given, a ∈ more) :
    Judged worked more d w :=
  ⟨h.waits, fun result decided => grows _ (h.answered result decided)⟩

/-- An input that is taken in and resolved. -/
theorem Serving.judged_taken {steps : List (Step σ)} {m : Step σ} (h : Serving steps m.before)
    {d' : Dispatcher σ} {connects : List ConnectWaiter} {given : List Answer}
    (intake : Intake m.before d' connects m.entered given) (worked : d'.registry = m.worked)
    (after : m.after = d'.resolve) :
    (∀ a ∈ given, a ∈ m.answers) ∧
      ∀ w ∈ m.before.connectWaiters ++ connects, w.listens = true →
        Judged m.worked m.answers m.after w := by
  obtain ⟨more, answers, judged⟩ := judged_resolve intake h.distinct_with
  rw [← after] at answers judged
  rw [Step.answers_eq answers, ← worked]
  exact ⟨fun a mem => List.mem_append_left _ mem,
    fun w mem listens => (judged w mem listens).mono fun a mem => List.mem_append_right _ mem⟩

/-- A stop answers every connect call: no session is left to wait for. -/
theorem Serving.judged_stop {steps : List (Step σ)} {m : Step σ} (h : Serving steps m.before)
    (entered : m.entered = []) (worked : m.worked = m.before.registry.shutdown)
    {more : List Answer} (answers : m.after.answers = m.before.stop.answers ++ more) :
    ∀ w ∈ m.before.connectWaiters, w.listens = true →
      Judged m.worked m.answers m.after w := by
  have intake : Intake m.before { m.before with registry := m.before.registry.shutdown } [] [] [] :=
    ⟨rfl, (List.append_nil _).symm, (List.append_nil _).symm, (List.append_nil _).symm⟩
  have distinct := h.distinct_with
  rw [entered] at distinct
  obtain ⟨given, resolved, judged⟩ := judged_resolve intake distinct
  obtain ⟨left, stopped⟩ : ∃ left, m.before.stop.answers =
      ({ m.before with registry := m.before.registry.shutdown } : Dispatcher σ).resolve.answers ++
        left := ⟨_, rfl⟩
  rw [stopped, resolved, List.nil_append, List.append_assoc, List.append_assoc] at answers
  rw [Step.answers_eq answers, worked]
  intro w mem listens
  have empty := Registry.sessions_shutdown m.before.registry
  refine ⟨fun none => absurd none (verdictFor_of_empty empty w), fun result decided => ?_⟩
  exact List.mem_append_left _
    ((judged w (List.mem_append_left _ mem) listens).answered result decided)

theorem entered_of_going {m : Step σ} (going : m.before.stopped = false) {ticket : Ticket}
    {command : Command} {now : Instant} (input : m.input = .command ticket command now) :
    m.entered = m.before.entered ticket command now := by
  unfold Step.entered
  rw [input]
  dsimp only
  rw [going]
  rfl

/-- Connect calls whose callers wait are judged in every step but the departure of a caller. -/
theorem Serving.judged {steps : List (Step σ)} {m : Step σ} (h : Serving steps m.before)
    (stays : ∀ ticket, m.input ≠ .abandon ticket) :
    ∀ w ∈ m.before.connectWaiters, w.listens = true → Judged m.worked m.answers m.after w := by
  cases going : m.before.stopped with
  | true =>
    rw [(h.stopped going).1]
    exact List.forall_mem_nil _
  | false =>
    have goes : ¬ m.before.stopped = true := by
      rw [going]
      nofun
    have operated (entered : m.entered = [])
        (after : m.after = ({ m.before with registry := m.worked } : Dispatcher σ).resolve) :
        ∀ w ∈ m.before.connectWaiters, w.listens = true →
          Judged m.worked m.answers m.after w := by
      have intake : Intake m.before { m.before with registry := m.worked } [] m.entered [] := by
        rw [entered]
        exact ⟨rfl, (List.append_nil _).symm, (List.append_nil _).symm, (List.append_nil _).symm⟩
      exact fun w mem => (h.judged_taken intake rfl after).2 w (List.mem_append_left _ mem)
    obtain ⟨d, input⟩ := m
    cases input with
    | command ticket command now =>
      have after : (Step.mk d (.command ticket command now)).after =
          (d.execute ticket command now).resolve := if_neg goes
      have entered := entered_of_going (m := ⟨d, .command ticket command now⟩) going rfl
      have worked := worked_of_going (m := ⟨d, .command ticket command now⟩) going
      by_cases ends : command.operation? now = some .shutdown
      · have shutdown : command = .shutdown := by
          cases command <;> first | rfl | cases ends
        subst shutdown
        -- The caller of the shutdown is answered after the others, and then nobody is left.
        obtain ⟨more, answers, -⟩ := judged_resolve
          (intake_reply (d := d.stop) d.stop.registry ticket (.ok .done)) List.nodup_nil
        exact h.judged_stop entered worked ((congrArg Dispatcher.answers after).trans answers)
      · have distinct := Serving.distinct_with (m := ⟨d, .command ticket command now⟩) h
        rw [entered] at distinct
        have taken := taken_execute d ticket now ends distinct
        obtain ⟨connects, given, intake, -⟩ := taken.intake
        rw [← entered] at intake
        exact fun w mem => (h.judged_taken intake (taken.registry.trans worked.symm) after).2 w
          (List.mem_append_left _ mem)
    | event id event now =>
      exact operated rfl (by
        rw [worked_of_going going]
        exact if_neg goes)
    | poll now =>
      exact operated rfl (by
        rw [worked_of_going going]
        exact if_neg goes)
    | deserted =>
      have after : (Step.mk d .deserted).after = d.stop := if_neg goes
      exact h.judged_stop rfl (worked_of_going going)
        ((congrArg Dispatcher.answers after).trans (List.append_nil _).symm)
    | abandon ticket => exact absurd rfl (stays ticket)

/-- A connect call waits for the session that it gets, or it is answered at once. -/
theorem intake_connect {d : Dispatcher σ} {key : String} {target : Target}
    {config : Option SessionConfig} {now : Instant} {s : Session}
    (obtained : d.registry.Obtained key target (config.getD d.registry.defaults) now s)
    (ticket : Ticket) :
    ∃ connects given, Intake d (d.execute ticket (.connect key target config) now) connects []
        given ∧
      (s.snapshot.verdict = none → ⟨ticket, key, s.serial, true⟩ ∈ connects) ∧
      ∀ result, s.snapshot.verdict = some result → ⟨ticket, result.map .session⟩ ∈ given := by
  have told := obtained.snapshot
  rcases asked : d.registry.connectWith key target (config.getD d.registry.defaults) now with
    ⟨snapshot, registry⟩
  rw [asked] at told
  dsimp only at told
  subst told
  cases verdict : s.snapshot.verdict with
  | none =>
    have waits : d.execute ticket (.connect key target config) now =
        { d with
          registry
          connectWaiters := d.connectWaiters ++ [⟨ticket, key, s.serial, true⟩] } := by
      unfold execute
      simp only [asked, verdict]
      rfl
    rw [waits]
    have intake : Intake d { d with
        registry
        connectWaiters := d.connectWaiters ++ [⟨ticket, key, s.serial, true⟩] }
        [⟨ticket, key, s.serial, true⟩] [] [] :=
      ⟨rfl, rfl, (List.append_nil _).symm, (List.append_nil _).symm⟩
    exact ⟨_, _, intake, fun _ => List.mem_singleton_self _, fun result same => by cases same⟩
  | some result =>
    have answered : d.execute ticket (.connect key target config) now =
        reply { d with registry } ticket (result.map .session) := by
      unfold execute
      simp only [asked, verdict]
    rw [answered]
    refine ⟨[], _, intake_reply _ _ _, fun same => ?_, fun other same => ?_⟩
    · cases same
    · cases same
      exact List.mem_singleton_self _

/-- A connect call gets the session that is registered under its key, which is ongoing or has
just spent its budget. -/
structure Attached (m : Step σ) (w : ConnectWaiter) (s : Session) : Prop where
  found : KeyMap.find? w.key m.worked.sessions = some s
  own : s.serial = w.serial
  /-- The session is for the target that the caller asked for. -/
  input : ∃ config now, m.input = .command w.ticket (.connect w.key s.target config) now
  status : Ongoing s ∨ s.Exhausted

theorem Step.input_of_attached {m : Step σ} {w : ConnectWaiter} (mem : w ∈ m.attached) :
    m.before.stopped = false ∧ ∃ target config now,
      m.input = .command w.ticket (.connect w.key target config) now ∧
      w = m.before.attachment w.ticket w.key target config now := by
  unfold attached at mem
  split at mem
  · next ticket key target config now input =>
    split at mem
    · cases mem
    · next goes =>
      cases List.mem_singleton.mp mem
      exact ⟨eq_false_of_ne_true goes, target, config, now, input, rfl⟩
  · cases mem

theorem Course.listens_of_attached {steps : List (Step σ)} {w : ConnectWaiter}
    (mem : w ∈ Course.attached steps) : w.listens = true := by
  obtain ⟨m, -, new⟩ := List.mem_flatMap.mp mem
  obtain ⟨-, _, _, _, -, attachment⟩ := Step.input_of_attached new
  exact congrArg ConnectWaiter.listens attachment

theorem Serving.attached {steps : List (Step σ)} {m : Step σ} (plain : PlainRefusals σ)
    (h : Serving steps m.before) {w : ConnectWaiter} (mem : w ∈ m.attached) :
    Judged m.worked m.answers m.after w ∧ ∃ s, Attached m w s := by
  obtain ⟨going, target, config, now, input, attachment⟩ := Step.input_of_attached mem
  obtain ⟨ticket, key, serial, listens⟩ := w
  dsimp only at input attachment
  obtain rfl : listens = true := congrArg ConnectWaiter.listens attachment
  obtain ⟨s, obtained⟩ := Registry.connectWith_spec plain h.history.sound key target
    (config.getD m.before.registry.defaults) now
  obtain rfl := obtained.target
  have named : serial = s.serial :=
    (congrArg ConnectWaiter.serial attachment).trans (congrArg Snapshot.serial obtained.snapshot)
  subst named
  have worked : (m.before.execute ticket (.connect key s.target config) now).registry =
      m.worked := by
    have goes : (Command.connect key s.target config).operation? now ≠ some .shutdown := nofun
    have distinct := h.distinct_with
    rw [entered_of_going going input] at distinct
    rw [worked_of_going going, input]
    exact (taken_execute m.before ticket now goes distinct).registry
  have after : m.after = (m.before.execute ticket (.connect key s.target config) now).resolve := by
    rw [Step.after, input]
    exact if_neg (ne_true_of_eq_false going)
  have entered : m.entered = [] := entered_of_going going input
  have found : KeyMap.find? key m.worked.sessions = some s := by
    rw [worked_of_going going, input]
    exact obtained.found
  have own := verdictFor_of_own (w := ⟨ticket, key, s.serial, true⟩) found rfl
  obtain ⟨connects, given, intake, waits, answers⟩ := intake_connect obtained ticket
  rw [← entered] at intake
  obtain ⟨gave, judged⟩ := h.judged_taken intake worked after
  refine ⟨⟨fun none => ?_, fun result decided => ?_⟩, s, found, rfl, ⟨config, now, input⟩,
    obtained.status⟩
  · exact (judged _ (List.mem_append_right _ (waits (own.symm.trans none))) rfl).waits none
  · exact gave _ (answers result (own.symm.trans decided))

/-! ## On what grounds -/

/-- A caller has ended the session that a connect call is attached to. -/
inductive Ended (m : Step σ) (w : ConnectWaiter) : Prop
  | disconnected {ticket : Ticket} {now : Instant}
      (input : m.input = .command ticket (.disconnect w.key) now)
  | removed {ticket : Ticket} {now : Instant}
      (input : m.input = .command ticket (.remove w.key) now)
  | replaced {ticket : Ticket} {target : Target} {config : Option SessionConfig} {now : Instant}
      (input : m.input = .command ticket (.connect w.key target config) now) {s : Session}
      (found : KeyMap.find? w.key m.worked.sessions = some s) (other : s.serial ≠ w.serial)
  | stopped (stops : m.input.stops = true)

/-- What a connect call is answered in a step, and why: it is about the session that the call is
attached to. -/
inductive Grounds (earlier : List (Step σ)) (m : Step σ) (w : ConnectWaiter) :
    Except Error Snapshot → Prop
  | connected {s : Session} (found : KeyMap.find? w.key m.worked.sessions = some s)
      (own : s.serial = w.serial) (state : s.state = .connected) :
      Grounds earlier m w (.ok s.snapshot)
  /-- The peer rejects the credentials in this step, with these words. -/
  | rejected {s : Session} (found : KeyMap.find? w.key m.before.registry.sessions = some s)
      (own : s.serial = w.serial) (state : s.state = .authenticating) {bytes : Bytes}
      {now : Instant} (input : m.input = .event s.connectionId (.frame bytes) now)
      {words : Option String} (told : authPhase? bytes = some (.failure words)) :
      Grounds earlier m w (.error (.auth (words.getD "credentials rejected")))
  /-- The session has failed as often in a row as its settings allow. -/
  | exhausted {s : Session} (found : KeyMap.find? w.key m.worked.sessions = some s)
      (own : s.serial = w.serial) (state : s.state = .disconnected) {ms : List (Moment σ)}
      (lived : Registry.Lived (Course.turns (earlier ++ [m])) w.key s ms)
      (spent : failures (Run.strides ms) = s.config.budget) :
      Grounds earlier m w (.error (.reconnectExhausted s.config.budget))
  | closed {s : Session} (found : KeyMap.find? w.key m.before.registry.sessions = some s)
      (own : s.serial = w.serial) (ended : Ended m w) :
      Grounds earlier m w (.error .connectionClosed)

omit [Environment σ] in
/-- The input that asks for an operation. -/
theorem Input.of_operation {input : Input} {operation : Registry.Operation}
    (h : input.operation? = some operation) :
    match operation with
    | .connect key target config now =>
      ∃ ticket, input = .command ticket (.connect key target config) now
    | .disconnect key => ∃ ticket now, input = .command ticket (.disconnect key) now
    | .remove key => ∃ ticket now, input = .command ticket (.remove key) now
    | .handleTransportEvent id report now => input = .event id report now
    | .shutdown => input.stops = true
    | _ => True := by
  cases input with
  | command ticket command now =>
    cases command with
    | connect => cases h; exact ⟨_, rfl⟩
    | disconnect => cases h; exact ⟨_, _, rfl⟩
    | remove => cases h; exact ⟨_, _, rfl⟩
    | shutdown => cases h; rfl
    | _ => cases h <;> trivial
  | event => cases h; rfl
  | poll => cases h; trivial
  | deserted => cases h; rfl
  | abandon => cases h

section Grounds

variable {steps : List (Step σ)} {m : Step σ} {w : ConnectWaiter} {s : Session}
  {result : Except Error Snapshot}

/-- The session of a connect call is ongoing after a step or has spent its budget, and this
decides. -/
theorem Serving.grounds_own (h : Serving steps m.before)
    (found : KeyMap.find? w.key m.worked.sessions = some s) (own : s.serial = w.serial)
    (status : Ongoing s ∨ s.Exhausted) (decided : verdictFor m.worked w = some result) :
    Grounds steps m w result := by
  have told : s.snapshot.verdict = some result := (verdictFor_of_own found own).symm.trans decided
  rcases status with ongoing | spent
  · have phase := (h.worked.history.sound.owned found).inPhase
    rcases ongoing.verdict phase with ⟨state, verdict⟩ | verdict
    · cases verdict.symm.trans told
      exact .connected found own state
    · cases verdict.symm.trans told
  · cases spent.verdict.symm.trans told
    obtain ⟨ms, lived⟩ := h.worked.history.lived found
    exact .exhausted found own spent.state lived (lived.failures_eq.trans spent.attempts)

/-- A decision by an operation on a session that a connect call waits for has its grounds. -/
theorem Serving.grounds_turn (plain : PlainRefusals σ) (h : Serving steps m.before)
    (found : KeyMap.find? w.key m.before.registry.sessions = some s) (own : s.serial = w.serial)
    (ongoing : Ongoing s) {operation : Registry.Operation}
    (asked : m.input.operation? = some operation)
    (worked : m.worked = (Registry.Turn.mk m.before.registry operation).after)
    (decided : verdictFor m.worked w = some result) : Grounds steps m w result := by
  have input := Input.of_operation asked
  have becomes := Registry.Turn.ongoingOrEnded (t := ⟨m.before.registry, operation⟩) plain
    h.history.sound found ongoing
  have told {s' : Session} (after : KeyMap.find? w.key
      (Registry.Turn.mk m.before.registry operation).after.sessions = some s')
      (same : s'.serial = s.serial) : s'.snapshot.verdict = some result := by
    rw [worked] at decided
    exact (verdictFor_of_own after (same.trans own)).symm.trans decided
  cases becomes with
  | ongoing after same goesOn =>
    exact h.grounds_own (worked ▸ after) (same.trans own) (.inl goesOn) decided
  | exhausted after same spent =>
    exact h.grounds_own (worked ▸ after) (same.trans own) (.inr spent) decided
  | rejected after same asks rejects rest lastError =>
    cases (Session.verdict_of_rejected rest lastError).symm.trans (told after same)
    obtain ⟨state, bytes, now, words, call, phase, rfl⟩ := rejects
    rw [call] at asks
    cases asks.of_event
    exact .rejected found own state input phase
  | disconnected after same ends rest lastError =>
    cases (Session.verdict_of_closed rest lastError).symm.trans (told after same)
    cases ends
    obtain ⟨ticket, now, input⟩ := input
    exact .closed found own (.disconnected input)
  | removed after removes =>
    rw [worked] at decided
    cases (verdictFor_of_none after).symm.trans decided
    cases operation with
    | remove key =>
      obtain ⟨ticket, now, input⟩ := input
      have here : key = w.key := removes
      subst here
      exact .closed found own (.removed input)
    | shutdown => exact .closed found own (.stopped input)
    | _ => exact removes.elim
  | replaced after other connects =>
    rw [own] at other
    cases (verdictFor_of_other (worked ▸ after) other).symm.trans decided
    cases connects
    obtain ⟨ticket, input⟩ := input
    exact .closed found own (.replaced input (worked ▸ after) other)

/-- A decision about a session that a connect call waits for has its grounds. -/
theorem Serving.grounds (plain : PlainRefusals σ) (h : Serving steps m.before)
    (mem : w ∈ m.before.connectWaiters) (decided : verdictFor m.worked w = some result) :
    Grounds steps m w result := by
  obtain ⟨s, found, own, undecided⟩ := h.undecided mem
  have owned := h.history.sound.owned found
  have ongoing : Ongoing s := (owned.ongoing_or_resting plain).resolve_right fun rest => by
    rw [rest.verdict] at undecided
    cases undecided
  cases turned : m.turn? with
  | none =>
    rw [Step.worked_of_still turned, h.connects w mem] at decided
    cases decided
  | some t =>
    have worked := Step.worked_of_turn turned
    obtain ⟨operation, asked, rfl⟩ := Step.operation_of_turn turned
    exact h.grounds_turn plain found own ongoing asked worked decided

end Grounds

/-- What becomes of a connect call in a step. -/
inductive ConnectFate (earlier : List (Step σ)) (m : Step σ) (w : ConnectWaiter) : Prop
  | waits (mem : w ∈ m.after.connectWaiters)
  | answered {result : Except Error Snapshot} (grounds : Grounds earlier m w result)
      (answer : ⟨w.ticket, result.map .session⟩ ∈ m.answers)
  /-- Its caller gave up. -/
  | abandoned (mem : w.ticket ∈ m.abandoned)
  /-- Its caller had given up before, so it is forgotten. -/
  | forgotten (left : w.listens = false) (gone : w ∉ m.after.connectWaiters)

theorem Judged.fate {earlier : List (Step σ)} {m : Step σ} {w : ConnectWaiter}
    (h : Judged m.worked m.answers m.after w)
    (grounds : ∀ {result}, verdictFor m.worked w = some result → Grounds earlier m w result) :
    ConnectFate earlier m w := by
  cases decided : verdictFor m.worked w with
  | none => exact .waits (h.waits decided)
  | some result => exact .answered (grounds decided) (h.answered result decided)

theorem Serving.connectFate {steps : List (Step σ)} {m : Step σ} (plain : PlainRefusals σ)
    (h : Serving steps m.before) {w : ConnectWaiter}
    (mem : w ∈ m.before.connectWaiters ++ m.attached) : ConnectFate steps m w := by
  rcases List.mem_append.mp mem with old | new
  · by_cases left : ∃ ticket, m.input = .abandon ticket
    · obtain ⟨ticket, input⟩ := left
      obtain ⟨d, _⟩ := m
      subst input
      have kept : w.abandon ticket ∈ (d.abandon ticket).connectWaiters := List.mem_map_of_mem old
      by_cases leaves : w.ticket = ticket ∧ w.listens = true
      · have waited : w.ticket ∈ d.waiting := mem_waiting_of_connects old leaves.2
        exact .abandoned (List.mem_filter.mpr ⟨waited, decide_eq_true leaves.1⟩)
      · rw [ConnectWaiter.abandon_of_not leaves] at kept
        exact .waits kept
    · have stays (ticket : Ticket) : m.input ≠ .abandon ticket := fun input => left ⟨ticket, input⟩
      cases listens : w.listens with
      | true => exact (h.judged stays w old listens).fate (h.grounds plain old)
      | false =>
        obtain ⟨given, handled, -⟩ := h.handled stays
        refine .forgotten listens fun still => ?_
        rw [handled.listens w still] at listens
        cases listens
  · obtain ⟨judged, s, attached⟩ := h.attached plain new
    exact judged.fate (h.grounds_own attached.found attached.own attached.status)

/-- A call that waits is answered in the step in which its session becomes usable. -/
theorem Serving.prompt {steps : List (Step σ)} {m : Step σ} (h : Serving steps m.before)
    {w : ConnectWaiter} (mem : w ∈ m.before.connectWaiters) (listens : w.listens = true)
    {event : StatusEvent}
    (entered : (w.key, .entered event) ∈ m.acts) (state : event.state = .connected) :
    ∃ s, KeyMap.find? w.key m.worked.sessions = some s ∧ s.serial = w.serial ∧
      s.state = .connected ∧ ⟨w.ticket, .ok (.session s.snapshot)⟩ ∈ m.answers := by
  obtain ⟨s, found, own, -⟩ := h.undecided mem
  cases turned : m.turn? with
  | none =>
    unfold Step.acts at entered
    rw [turned] at entered
    cases entered
  | some t =>
    have worked := Step.worked_of_turn turned
    rw [Step.acts_of_turn turned] at entered
    obtain ⟨operation, asked, rfl⟩ := Step.operation_of_turn turned
    obtain ⟨s', after, same, connected⟩ := Registry.Turn.connected_of_entered
      (t := ⟨m.before.registry, operation⟩) h.history.sound (mem_under.mpr entered) state found
    rw [← worked] at after
    have stays (ticket : Ticket) : m.input ≠ .abandon ticket := by
      intro input
      rw [input] at asked
      cases asked
    have verdict : s'.snapshot.verdict = some (.ok s'.snapshot) := by
      rw [Snapshot.verdict, Session.snapshot_state, connected]
    have decided := (verdictFor_of_own after (same.trans own)).trans verdict
    exact ⟨s', after, same.trans own, connected, (h.judged stays w mem listens).answered _ decided⟩

/-! ## Courses -/

/-- A connect call was answered in a course, and on good grounds. -/
def Decided (steps : List (Step σ)) (w : ConnectWaiter) (a : Answer) : Prop :=
  ∃ early m late result, steps = early ++ m :: late ∧ a ∈ m.answers ∧ Grounds early m w result ∧
    a = ⟨w.ticket, result.map .session⟩

theorem Decided.concat {w : ConnectWaiter} {a : Answer} (h : Decided steps w a) (m : Step σ) :
    Decided (steps ++ [m]) w a := by
  obtain ⟨early, n, late, result, rfl, rest⟩ := h
  exact ⟨early, n, late ++ [m], result, by rw [List.append_assoc, List.cons_append], rest⟩

namespace Course

variable {steps : List (Step σ)} {d : Dispatcher σ}

theorem serving_before (h : Course steps d) {early late : List (Step σ)} {m : Step σ}
    (split : steps = early ++ m :: late) : Serving early m.before := by
  induction h generalizing late with
  | begin world defaults marks => simp at split
  | step before input ih =>
    rcases split_of_concat split with ⟨rfl, rfl, -⟩ | ⟨rest, rfl, earlier⟩
    · exact before.serving
    · exact ih earlier
  | drainAnswers _ ih => exact ih split
  | drainNotices _ ih => exact ih split
  | world _ _ ih => exact ih split

theorem attached_concat (steps : List (Step σ)) (m : Step σ) :
    attached (steps ++ [m]) = attached steps ++ m.attached := by
  unfold attached
  rw [List.flatMap_append, List.flatMap_singleton]

/-- A connect call waits, or it was answered on good grounds, or its caller gave up. -/
theorem attached_or (plain : PlainRefusals σ) (h : Course steps d) {w : ConnectWaiter}
    (mem : w ∈ attached steps) :
    w ∈ d.connectWaiters ∨ (∃ a, Decided steps w a) ∨ w.ticket ∈ steps.flatMap Step.abandoned := by
  induction h with
  | begin world defaults marks => cases mem
  | @step steps d h input ih =>
    have listens := listens_of_attached mem
    rw [attached_concat] at mem
    rw [List.flatMap_append, List.flatMap_singleton, List.mem_append]
    have waited : w ∈ d.connectWaiters ++ (Step.mk d input).attached ∨
        (∃ a, Decided steps w a) ∨ w.ticket ∈ steps.flatMap Step.abandoned := by
      rcases List.mem_append.mp mem with earlier | new
      · exact (ih earlier).imp_left (List.mem_append_left _)
      · exact .inl (List.mem_append_right _ new)
    rcases waited with waited | ⟨a, decided⟩ | left
    · cases Serving.connectFate (m := ⟨d, input⟩) plain h.serving waited with
      | waits waits => exact .inl waits
      | answered grounds answer =>
        exact .inr (.inl ⟨_, steps, _, [], _, rfl, answer, grounds, rfl⟩)
      | abandoned left => exact .inr (.inr (.inr left))
      | forgotten deaf => exact absurd listens (ne_true_of_eq_false deaf)
    · exact .inr (.inl ⟨a, decided.concat _⟩)
    · exact .inr (.inr (.inl left))
  | drainAnswers _ ih => exact ih mem
  | drainNotices _ ih => exact ih mem
  | world _ _ ih => exact ih mem

/-- An answer is told from the others by its ticket. -/
theorem answer_unique (h : Course steps d) (distinct : (called steps).Nodup) {m n : Step σ}
    (mem : m ∈ steps) (memToo : n ∈ steps) {a b : Answer} (gave : a ∈ m.answers)
    (gaveToo : b ∈ n.answers) (same : a.ticket = b.ticket) : a = b := by
  have once := h.answered_nodup distinct
  unfold answered at once
  rw [← List.map_flatMap] at once
  exact List.inj_on_of_nodup_map once (List.mem_flatMap.mpr ⟨m, mem, gave⟩)
    (List.mem_flatMap.mpr ⟨n, memToo, gaveToo⟩) same

/-- What a connect call is answered has its grounds. -/
theorem decided (plain : PlainRefusals σ) (h : Course steps d) (distinct : (called steps).Nodup)
    {m : Step σ} (mem : m ∈ steps) {a : Answer} (gave : a ∈ m.answers) {w : ConnectWaiter}
    (attached : w ∈ attached steps) (mine : a.ticket = w.ticket) : Decided steps w a := by
  have answered : a.ticket ∈ answered steps :=
    List.mem_flatMap.mpr ⟨m, mem, List.mem_map_of_mem gave⟩
  obtain ⟨-, ended, apart⟩ := List.nodup_append.mp (h.once distinct)
  have parted : (Course.answered steps ++ steps.flatMap Step.abandoned).Perm (released steps) :=
    List.flatMap_append_perm steps (fun m => m.answers.map Answer.ticket) Step.abandoned
  rcases h.attached_or plain attached with waits | ⟨b, decided⟩ | left
  · have waited : w.ticket ∈ d.waiting :=
      mem_waiting_of_connects waits (listens_of_attached attached)
    have gone : a.ticket ∈ released steps := parted.subset (List.mem_append_left _ answered)
    exact absurd mine.symm (apart _ waited _ gone)
  · obtain ⟨early, n, late, result, split, gaveToo, grounds, rfl⟩ := decided
    have memToo : n ∈ steps := by
      rw [split]
      exact List.mem_append_right _ List.mem_cons_self
    cases h.answer_unique distinct mem memToo gave gaveToo mine
    exact ⟨early, n, late, result, split, gaveToo, grounds, rfl⟩
  · have once := (List.nodup_append.mp (parted.nodup_iff.mpr ended)).2.2
    exact absurd mine (once _ answered _ left)

end Course

/-- What callers who connect can rely on. -/
structure ConnectsJudged (steps : List (Step σ)) : Prop where
  /-- A connect call is attached to a session for its target. After the end it is refused. -/
  calls : ∀ m ∈ steps, ∀ ticket key target config now,
    m.input = .command ticket (.connect key target config) now →
      (∃ w ∈ m.attached, ∃ s, w.ticket = ticket ∧ w.key = key ∧ s.target = target ∧
        KeyMap.find? key m.worked.sessions = some s ∧ s.serial = w.serial) ∨
      m.before.stopped = true ∧ m.answers = [⟨ticket, .error .connectionClosed⟩]
  /-- In each step, a connect call waits on, is answered on good grounds, or is given up. -/
  fate : ∀ early m late, steps = early ++ m :: late →
    ∀ w ∈ m.before.connectWaiters ++ m.attached, ConnectFate early m w
  /-- It is answered in the step in which its session becomes usable. -/
  prompt : ∀ m ∈ steps, ∀ w ∈ m.before.connectWaiters, w.listens = true → ∀ event,
    (w.key, .entered event) ∈ m.acts → event.state = .connected →
      ∃ s, KeyMap.find? w.key m.worked.sessions = some s ∧ s.serial = w.serial ∧
        s.state = .connected ∧ ⟨w.ticket, .ok (.session s.snapshot)⟩ ∈ m.answers
  /-- Whatever it is answered has its grounds. -/
  decided : (Course.called steps).Nodup → ∀ m ∈ steps, ∀ a ∈ m.answers,
    ∀ w ∈ Course.attached steps, a.ticket = w.ticket → Decided steps w a

/-- Each connect call gets the verdict on the session that it is attached to, whatever comes in
whatever order, in every world that words its refusals as failed connections. -/
theorem course_judged (plain : PlainRefusals σ) {steps : List (Step σ)} {d : Dispatcher σ}
    (h : Course steps d) : ConnectsJudged steps where
  calls m mem ticket key target config now input := by
    obtain ⟨early, late, split⟩ := List.append_of_mem mem
    have serving := h.serving_before split
    cases stopped : m.before.stopped with
    | true =>
      have refused : m.after = m.before.reply ticket (.error .connectionClosed) := by
        unfold Step.after
        rw [input]
        exact if_pos stopped
      refine .inr ⟨rfl, Step.answers_eq ?_⟩
      rw [refused]
      rfl
    | false =>
      have new : m.before.attachment ticket key target config now ∈ m.attached := by
        unfold Step.attached
        rw [input]
        dsimp only
        rw [stopped]
        exact List.mem_singleton_self _
      obtain ⟨-, s, attached⟩ := serving.attached plain new
      obtain ⟨_, _, asked⟩ := attached.input
      cases input.symm.trans asked
      exact .inl ⟨_, new, s, rfl, rfl, rfl, attached.found, attached.own⟩
  fate early m late split w mem := (h.serving_before split).connectFate plain mem
  prompt m mem w waits listens event entered state := by
    obtain ⟨early, late, split⟩ := List.append_of_mem mem
    exact (h.serving_before split).prompt waits listens entered state
  decided distinct m mem a gave w attached mine := h.decided plain distinct mem gave attached mine

/-- Two calls wait for one session until a third call for another target replaces it, and this one
is answered when its own transport opens. -/
theorem course_judged_replaced :
    ∃ (steps : List (Step ScriptedNetwork)) (d : Dispatcher ScriptedNetwork),
      PlainRefusals ScriptedNetwork ∧ Course steps d ∧
        Course.attached steps = [⟨1, "k", 1, true⟩, ⟨2, "k", 1, true⟩, ⟨3, "k", 2, true⟩] ∧
        steps.map (fun m => m.answers.map Answer.ticket) = [[], [], [1, 2], [], [3]] ∧
        ConnectsJudged steps :=
  have begun : Course [] _ := .begin ({} : ScriptedNetwork) {} scriptedMark
  have waiting := (begun.step (.command 1 (.connect "k" ⟨"a", 1, none⟩ none) ⟨0⟩)).step
    (.command 2 (.connect "k" ⟨"a", 1, none⟩ none) ⟨0⟩)
  have replaced := waiting.step (.command 3 (.connect "k" ⟨"b", 1, none⟩ none) ⟨0⟩)
  have stale := replaced.step (.event ⟨"k", 1⟩ .opened ⟨0⟩)
  have course := stale.step (.event ⟨"k", 3⟩ .opened ⟨0⟩)
  ⟨_, _, plainRefusals_scriptedNetwork, course, by decide +kernel, by decide +kernel,
    course_judged plainRefusals_scriptedNetwork course⟩

end Dispatcher

end Switchboard
