import Switchboard.Proofs.Session.Backoff
import Switchboard.Proofs.Session.Lockstep
import Switchboard.Proofs.Session.Retries
import Switchboard.Proofs.Session.Vigil
/-!
# When a session wants to be polled

The next deadline of a session is exact (`Run.exact`). A poll before it does nothing, and a poll at
it or after it finds the one timer that is armed and puts it to its use: an attempt fails because it
takes too long, a PING is sent, a silent peer is given up, or a new attempt begins. No task is
thrown away.

If all waits of a session take time (`SessionConfig.Paced`), then whatever such a poll arms lies in
the future (`Station.clear_fire`), so that one poll does all that is due, however its timers lead to
one another.
-/

namespace Switchboard

open Session (InPhase Stays Leaves)

/-! ## Waits -/

/-- Whatever a session waits for takes time. -/
structure SessionConfig.Paced (config : SessionConfig) : Prop where
  heartbeatInterval : 0 < config.heartbeatInterval.nanos
  connectTimeout : 0 < config.connectTimeout.nanos
  baseDelay : 0 < config.reconnect.baseDelay.nanos
  maxDelay : 0 < config.reconnect.maxDelay.nanos

namespace Instant

theorem earliest_mem {t : Instant} {slots : List (Option Instant)}
    (h : earliest slots = some t) : some t ∈ slots := by
  induction slots generalizing t with
  | nil => cases h
  | cons slot rest ih =>
    cases slot with
    | none => exact List.mem_cons_of_mem _ (ih h)
    | some u =>
      unfold earliest at h
      cases others : earliest rest with
      | none =>
        rw [others] at h
        cases h
        exact List.mem_cons_self
      | some v =>
        rw [others] at h
        cases h
        unfold Instant.min
        split
        · exact List.mem_cons_self
        · exact List.mem_cons_of_mem _ (ih others)

end Instant

/-- The slot of a kind of task. -/
def Timers.slot (timers : Timers) : TimerKind → TimerSlot
  | .heartbeat => timers.heartbeat
  | .connectTimeout => timers.connect
  | .retry => timers.retry

theorem TimerSlot.isDue_iff {slot : TimerSlot} {now : Instant} :
    slot.isDue now = true ↔ ∃ deadline, slot.deadline = some deadline ∧ deadline ≤ now := by
  cases slot with
  | none => exact ⟨nofun, nofun⟩
  | some task =>
    constructor
    · intro due
      exact ⟨_, rfl, of_decide_eq_true due⟩
    · rintro ⟨_, ⟨⟩, due⟩
      exact decide_eq_true due

namespace Session

variable {s : Session} {now : Instant}

/-- No task of the session is due. -/
def Clear (now : Instant) (s : Session) : Prop := ∀ kind, (s.timers.slot kind).isDue now = false

theorem nextDeadline_mem {deadline : Instant} (h : s.nextDeadline = some deadline) :
    ∃ kind, (s.timers.slot kind).deadline = some deadline := by
  have mem := Instant.earliest_mem h
  simp only [List.mem_cons, List.not_mem_nil, or_false] at mem
  rcases mem with armed | armed | armed
  · exact ⟨.heartbeat, armed.symm⟩
  · exact ⟨.connectTimeout, armed.symm⟩
  · exact ⟨.retry, armed.symm⟩

theorem nextDeadline_le {kind : TimerKind} {deadline : Instant}
    (armed : (s.timers.slot kind).deadline = some deadline) :
    ∃ first, s.nextDeadline = some first ∧ first ≤ deadline := by
  apply Instant.earliest_le
  rw [← armed]
  cases kind <;> simp [Timers.slot]

/-- Nothing is due exactly if the next deadline lies in the future. -/
theorem clear_iff : s.Clear now ↔ ∀ deadline ∈ s.nextDeadline, now < deadline := by
  constructor
  · intro clear deadline next
    obtain ⟨kind, armed⟩ := nextDeadline_mem next
    apply Nat.lt_of_not_le
    intro due
    have fires := TimerSlot.isDue_iff.mpr ⟨deadline, armed, due⟩
    rw [clear kind] at fires
    cases fires
  · intro later kind
    apply Bool.eq_false_iff.mpr
    intro due
    obtain ⟨deadline, armed, le⟩ := TimerSlot.isDue_iff.mp due
    obtain ⟨first, next, early⟩ := nextDeadline_le armed
    exact absurd (Nat.le_trans early le) (Nat.not_le_of_lt (later first next))

/-- Timers of which one alone is armed, for later. -/
theorem clear_of_retry (deadline : Instant) (generation : Nat)
    (timers : s.timers = { retry := some ⟨.retry, deadline, generation⟩ })
    (later : now < deadline) : s.Clear now := by
  intro kind
  rw [timers]
  cases kind with
  | retry => exact decide_eq_false (Nat.not_le_of_lt later)
  | _ => rfl

theorem clear_of_tick {task : TimerTask} (connect : s.timers.connect = none)
    (tick : s.timers.heartbeat = some task) (retry : s.timers.retry = none)
    (later : now < task.deadline) : s.Clear now := by
  intro kind
  cases kind with
  | connectTimeout =>
    dsimp only [Timers.slot]
    rw [connect]
    rfl
  | heartbeat =>
    dsimp only [Timers.slot]
    rw [tick]
    exact decide_eq_false (Nat.not_le_of_lt later)
  | retry =>
    dsimp only [Timers.slot]
    rw [retry]
    rfl

/-- The policy and the watch follow the settings. -/
structure Follows (s : Session) : Prop where
  policy : s.policy.config = s.config.reconnect
  interval : s.heartbeat.interval = s.config.heartbeatInterval

end Session

section Deadlines

variable {σ : Type} [Environment σ]

/-- A timer puts its task to use. -/
inductive Stride.Fires (s : Stride σ) : Prop
  /-- The attempt fails because it takes too long. -/
  | expires {now : Instant} (ticks : s.leg = .timer .connectTimeout now)
      (found : s.before.session.state.isAttempting = true)
      (fails : .entered ⟨s.before.session.key, s.before.session.target, .error, some (.connect
        s!"timed out after {s.before.session.config.connectTimeout.millis} ms"),
        Environment.wallClock s.after.world⟩ ∈ s.acts)
  /-- The next PING is sent. -/
  | pings {probe : Probe} (pings : s.Pings probe)
  /-- The peer is found silent. -/
  | silent {now : Instant} (ticks : s.leg = .timer .heartbeat now) (out : s.timesOut = true)
  /-- A new attempt begins: a transport is asked for. -/
  | attempts {now : Instant} (ticks : s.leg = .timer .retry now)
      (found : s.before.session.state = .error) {granted : Bool}
      (dials : .dialled ⟨s.before.session.key, s.before.session.generation + 1⟩
        s.before.session.target granted ∈ s.acts)

namespace Station

variable {c : Station σ} {now : Instant}

open Session (Clear Follows)

/-! ## Tasks that are due -/

theorem fires_connect (h : InPhase c.session)
    (due : c.session.timers.connect.isDue now = true) :
    Stride.Fires ⟨c, .timer .connectTimeout now⟩ := by
  obtain ⟨taken, found⟩ := ((Coherent.of_inPhase h).fires now).1 due
  have after : c.pollConnect now = (c.modify fun s => s.connectTaken now).failAttempt
      (.connect s!"timed out after {c.session.config.connectTimeout.millis} ms") now :=
    (pollConnect_eq c now).trans (if_pos ⟨taken, found⟩)
  obtain ⟨acts, later, journal, -⟩ := told_failAttempt (c.modify fun s => s.connectTaken now)
    (.connect s!"timed out after {c.session.config.connectTimeout.millis} ms") now
  rw [← after] at journal
  refine .expires rfl found ?_
  rw [Stride.acts_eq (s := ⟨c, .timer .connectTimeout now⟩) journal]
  exact List.mem_append_right _ List.mem_cons_self

theorem fires_heartbeat (h : InPhase c.session)
    (due : c.session.timers.heartbeat.isDue now = true) :
    Stride.Fires ⟨c, .timer .heartbeat now⟩ := by
  obtain ⟨live, ⟨stale, -, told, -⟩ | ⟨probe, pings, -⟩⟩ := tick_cases h due
  · refine .silent rfl ?_
    have some : 0 < (Stride.acts ⟨c, .timer .heartbeat now⟩).countP Act.isSilence := by
      rw [told]
      exact Nat.one_pos
    unfold Stride.timesOut
    rw [live, List.any_eq_true.mpr (List.countP_pos_iff.mp some)]
    rfl
  · exact .pings pings

theorem fires_retry (h : InPhase c.session) (due : c.session.timers.retry.isDue now = true) :
    Stride.Fires ⟨c, .timer .retry now⟩ := by
  obtain ⟨taken, found⟩ := ((Coherent.of_inPhase h).fires now).2.2 due
  have after := (pollRetry_eq c now).trans (if_pos ⟨taken, found⟩)
  obtain ⟨granted, journal, -⟩ := milestones_beginAttempt (c.modify fun s => s.retryTaken now)
    (by split <;> rfl : (if c.session.hasConnected then SessionState.reconnecting
      else .connecting).isAttempting = true) now
  rw [← after] at journal
  have told := congrArg milestones (Stride.journal ⟨c, .timer .retry now⟩)
  rw [milestones_append] at told
  have same : milestones (Stride.acts ⟨c, .timer .retry now⟩) = _ :=
    List.append_cancel_left (told.symm.trans journal)
  have dials : .dialled ⟨c.session.key, c.session.generation + 1⟩ c.session.target granted ∈
      milestones (Stride.acts ⟨c, .timer .retry now⟩) := by
    rw [same]
    exact List.mem_singleton_self _
  exact .attempts rfl found (List.mem_of_mem_filter dials)

/-- A task that is due is put to use, whatever its kind. -/
theorem fires_of_due (h : InPhase c.session) {kind : TimerKind}
    (due : (c.session.timers.slot kind).isDue now = true) : Stride.Fires ⟨c, .timer kind now⟩ := by
  cases kind with
  | connectTimeout => exact fires_connect h due
  | heartbeat => exact fires_heartbeat h due
  | retry => exact fires_retry h due

/-- A timer that is not due does nothing. -/
theorem fire_early {kind : TimerKind} (early : (c.session.timers.slot kind).isDue now = false) :
    c.fire now kind = c := by
  cases kind with
  | connectTimeout => exact pollConnect_early early
  | heartbeat => exact pollHeartbeat_early early
  | retry => exact pollRetry_early early

omit [Environment σ] in
/-- No more than one task is armed. -/
theorem early_of_due (h : InPhase c.session) {kind : TimerKind}
    (due : (c.session.timers.slot kind).isDue now = true) {other : TimerKind} (ne : other ≠ kind) :
    (c.session.timers.slot other).isDue now = false := by
  cases h with
  | resting h =>
    rw [h.timers]
    cases other <;> rfl
  | waiting h =>
    obtain ⟨deadline, timers⟩ := h.timers
    rw [timers] at due ⊢
    cases kind <;> cases other <;> first | rfl | cases due | exact absurd rfl ne
  | attempting h =>
    obtain ⟨deadline, timers⟩ := h.timers
    rw [timers] at due ⊢
    cases kind <;> cases other <;> first | rfl | cases due | exact absurd rfl ne
  | live h =>
    have connect : (c.session.timers.slot .connectTimeout).isDue now = false := by
      rw [show c.session.timers.slot .connectTimeout = none from h.connect]
      rfl
    have retry : (c.session.timers.slot .retry).isDue now = false := by
      rw [show c.session.timers.slot .retry = none from h.retry]
      rfl
    cases other with
    | connectTimeout => exact connect
    | retry => exact retry
    | heartbeat =>
      cases kind with
      | heartbeat => exact absurd rfl ne
      | connectTimeout => exact absurd due (Bool.eq_false_iff.mp connect)
      | retry => exact absurd due (Bool.eq_false_iff.mp retry)

/-! ## Tasks that a poll arms -/

theorem clear_failAttempt (paced : c.session.config.Paced)
    (policy : c.session.policy.config = c.session.config.reconnect) (error : Error)
    (now : Instant) : Clear now (c.failAttempt error now).session := by
  obtain ⟨s, wall, after, same, -, -, timers⟩ := c.failAttempt_session error now
  rw [after]
  rcases decision : s.policy.count.decision with ⟨attempt, delay⟩ | attempts
  · rw [Session.retryOrGiveUp_of_retry decision]
    refine Session.clear_of_retry (now + delay) s.generation ?_ ?_
    · unfold Session.scheduleRetry
      dsimp only
      rw [timers]
    · have config : s.policy.count.config = c.session.config.reconnect := by
        rw [same]
        exact policy
      have delayed : 0 < (s.policy.count.delayFor s.policy.count.attempts).nanos := by
        apply RetryPolicy.delayFor_pos <;> rw [config]
        · exact paced.baseDelay
        · exact paced.maxDelay
      unfold RetryPolicy.decision at decision
      split at decision
      · cases decision
      · cases decision
        exact Nat.lt_add_of_pos_right delayed
  · rw [Session.retryOrGiveUp_of_exhausted decision, Session.failRequests_eq,
      Session.discardQueue_eq]
    intro kind
    cases kind <;> rfl

theorem clear_beginAttempt (paced : c.session.config.Paced)
    (policy : c.session.policy.config = c.session.config.reconnect)
    (idle : c.session.timers.retry = none) (state : SessionState) (now : Instant) :
    Clear now (c.beginAttempt state now).session := by
  obtain ⟨d, stopped⟩ : ∃ d, d = c.stopConnection.enter state none := ⟨_, rfl⟩
  have same : d.session.config = c.session.config ∧ d.session.policy = c.session.policy ∧
      d.session.timers = {} := by
    rw [stopped]
    dsimp only [modify, enter, stopConnection]
    rw [Session.unplug_eq]
    dsimp only [Session.enter, Session.note]
    rw [idle]
    exact ⟨rfl, rfl, rfl⟩
  obtain ⟨config, kept, timers⟩ := same
  unfold beginAttempt
  dsimp only
  rw [← stopped]
  split
  · have waits : now < now + c.session.config.connectTimeout :=
      Nat.lt_add_of_pos_right paced.connectTimeout
    intro kind
    show (Timers.slot { d.session.timers with connect := some ⟨.connectTimeout,
      now + d.session.config.connectTimeout, d.session.generation⟩ } kind).isDue now = false
    rw [timers, config]
    cases kind with
    | connectTimeout => exact decide_eq_false (Nat.not_le_of_lt waits)
    | _ => rfl
  · apply clear_failAttempt
    · rw [← config] at paced
      exact paced
    · show d.session.policy.config = d.session.config.reconnect
      rw [kept, config]
      exact policy

theorem clear_tick (h : InPhase c.session) (follows : c.session.Follows)
    (paced : c.session.config.Paced) (due : c.session.timers.heartbeat.isDue now = true) :
    Clear now (c.pollHeartbeat now).session := by
  obtain ⟨taken, live⟩ := ((Coherent.of_inPhase h).fires now).2.1 due
  obtain ⟨-, ⟨stale, under, -⟩ | ⟨probe, pings, stays, watch⟩⟩ := tick_cases h due
  · have after := (pollHeartbeat_eq c now).trans (if_pos taken)
    rw [heartbeatTick_of_silence (c.modify fun s => s.tickTaken now) live under] at after
    rw [after]
    apply clear_failAttempt
    · show SessionConfig.Paced ((c.session.tickTaken now).expireRequests now).config
      rw [Session.expireRequests_eq_foldl]
      exact paced
    · show ((c.session.tickTaken now).expireRequests now).policy.config =
        ((c.session.tickTaken now).expireRequests now).config.reconnect
      rw [Session.expireRequests_eq_foldl]
      exact follows.policy
  · have at_ : probe.sentAt = now := by
      have same := pings.ticks
      injection same with _ same
      exact same.symm
    have slot : (c.pollHeartbeat now).session.timers.heartbeat = some ⟨.heartbeat,
        probe.sentAt + c.session.heartbeat.interval, c.session.generation⟩ :=
      congrArg Prod.snd watch
    have links := (inPhase_fire h .heartbeat now).live_of stays.live
    refine Session.clear_of_tick links.connect slot links.retry ?_
    show now < probe.sentAt + c.session.heartbeat.interval
    rw [at_, follows.interval]
    exact Nat.lt_add_of_pos_right paced.heartbeatInterval

/-- After a timer has put its task to use nothing is due. -/
theorem clear_fire (h : InPhase c.session) (follows : c.session.Follows)
    (paced : c.session.config.Paced) {kind : TimerKind}
    (due : (c.session.timers.slot kind).isDue now = true) :
    Clear now (c.fire now kind).session := by
  have fires := (Coherent.of_inPhase h).fires now
  cases kind with
  | connectTimeout =>
    have after := (pollConnect_eq c now).trans (if_pos (fires.1 due))
    show Clear now (c.pollConnect now).session
    rw [after]
    exact clear_failAttempt (c := c.modify fun s => s.connectTaken now) paced follows.policy _ now
  | heartbeat => exact clear_tick h follows paced due
  | retry =>
    have after := (pollRetry_eq c now).trans (if_pos (fires.2.2 due))
    show Clear now (c.pollRetry now).session
    rw [after]
    exact clear_beginAttempt (c := c.modify fun s => s.retryTaken now) paced follows.policy
      (TimerSlot.afterTake_due due) _ now

/-! ## Polls -/

/-- Where nothing is due, timers in a row do nothing. -/
theorem fires_of_clear (clear : Clear now c.session) (kinds : List TimerKind) :
    kinds.foldl (fun c kind => c.fire now kind) c = c := by
  induction kinds with
  | nil => rfl
  | cons kind kinds ih => rw [List.foldl_cons, fire_early (clear kind), ih]

/-- After timers in a row nothing is due, if the one that was due is among them. -/
theorem clear_fires (h : InPhase c.session) (follows : c.session.Follows)
    (paced : c.session.config.Paced) (kinds : List TimerKind)
    (all : ∀ kind, (c.session.timers.slot kind).isDue now = true → kind ∈ kinds) :
    Clear now (kinds.foldl (fun c kind => c.fire now kind) c).session := by
  induction kinds with
  | nil =>
    intro kind
    apply Bool.eq_false_iff.mpr
    intro due
    cases all kind due
  | cons kind kinds ih =>
    rw [List.foldl_cons]
    cases due : (c.session.timers.slot kind).isDue now with
    | true =>
      have clear := clear_fire h follows paced due
      rw [fires_of_clear clear]
      exact clear
    | false =>
      rw [fire_early due]
      refine ih fun other dueToo => ?_
      rcases List.mem_cons.mp (all other dueToo) with rfl | mem
      · rw [due] at dueToo
        cases dueToo
      · exact mem

/-- The timer that is due finds the session as the first one of the row did. -/
theorem mem_along_of_due (h : InPhase c.session) {kind : TimerKind}
    (due : (c.session.timers.slot kind).isDue now = true) (kinds : List TimerKind)
    (mem : kind ∈ kinds) :
    ⟨c, .timer kind now⟩ ∈ Stride.along c (kinds.map fun kind => .timer kind now) := by
  induction kinds with
  | nil => cases mem
  | cons first kinds ih =>
    by_cases same : kind = first
    · rw [same]
      exact List.mem_cons_self
    · have early := early_of_due h due (Ne.symm same)
      have still : c.go (.timer first now) = c := fire_early early
      refine List.mem_cons_of_mem _ ?_
      rw [still]
      exact ih ((List.mem_cons.mp mem).resolve_left same)

end Station

theorem Stride.inPhase_along {c : Station σ} (h : InPhase c.session) (legs : List Leg) :
    ∀ s ∈ along c legs, InPhase s.before.session := by
  induction legs generalizing c with
  | nil => exact List.forall_mem_nil _
  | cons leg legs ih => exact List.forall_mem_cons.mpr ⟨h, ih (Stride.inPhase ⟨c, leg⟩ h)⟩

/-- A poll takes the task with this deadline, of the generation that is current, and puts it to
use. -/
def Station.Uses (c : Station σ) (now deadline : Instant) : Prop :=
  ∃ kind task, (c.session.timers.slot kind).due? now c.session.generation = some task ∧
    task.deadline = deadline ∧
    (⟨c, .timer kind now⟩ : Stride σ) ∈ (Moment.mk c (.pollTimers now)).strides ∧
    Stride.Fires ⟨c, .timer kind now⟩

/-- The next deadline of a session tells exactly when it must be polled. -/
structure Station.Exact (c : Station σ) : Prop where
  /-- A poll before the next deadline changes nothing, neither in the session nor in the world. -/
  early : ∀ now, (∀ deadline ∈ c.session.nextDeadline, now < deadline) → c.pollTimers now = c
  /-- A poll at the next deadline or after it uses the task that was armed for it, -/
  due : ∀ now, ∀ deadline ∈ c.session.nextDeadline, deadline ≤ now → c.Uses now deadline
  /-- and throws none of those away that it finds due on its way. -/
  kept : ∀ now, ∀ s ∈ (Moment.mk c (.pollTimers now)).strides, ∀ kind, s.leg = .timer kind now →
    (s.before.session.timers.slot kind).isDue now = true → s.Fires
  /-- If all waits take time, one poll does all that is due. -/
  drained : c.session.config.Paced → ∀ now, ∀ deadline ∈ (c.pollTimers now).session.nextDeadline,
    now < deadline

/-- In every run, over every world, the next deadline is exact. -/
theorem Run.exact {key : String} {target : Target} {config : SessionConfig}
    {generation serial : Nat} {mark : String} {ms : List (Moment σ)} {c : Station σ}
    (h : Run (.create key target config generation serial mark) ms c) : c.Exact where
  early now later :=
    Station.fires_of_clear (Session.clear_iff.mpr later) [.connectTimeout, .heartbeat, .retry]
  due now deadline next le := by
    obtain ⟨kind, armed⟩ := Session.nextDeadline_mem next
    have due := TimerSlot.isDue_iff.mpr ⟨deadline, armed, le⟩
    obtain ⟨task, slot, at_⟩ := Option.map_eq_some_iff.mp armed
    have current : task.generation = c.session.generation := by
      refine (Coherent.of_inPhase h.inPhase).current (c.session.timers.slot kind) ?_ task slot
      cases kind <;> simp [Timers.slot]
    refine ⟨kind, task, ?_, at_, ?_, Station.fires_of_due h.inPhase due⟩
    · unfold TimerSlot.due?
      rw [slot]
      exact if_pos ⟨at_ ▸ le, current⟩
    · exact Station.mem_along_of_due h.inPhase due
        [.connectTimeout, .heartbeat, .retry] (by cases kind <;> simp)
  kept now s mem kind ticks due := by
    have phase := Stride.inPhase_along h.inPhase _ s mem
    obtain ⟨b, leg⟩ := s
    cases ticks
    exact Station.fires_of_due phase due
  drained paced now := by
    obtain ⟨settings, -, within⟩ := h.march.within
    have follows : c.session.Follows :=
      ⟨within.settings, h.march.interval.trans (congrArg _ settings.symm)⟩
    exact Session.clear_iff.mp (Station.clear_fires h.inPhase follows paced
      [.connectTimeout, .heartbeat, .retry] fun kind _ => by cases kind <;> simp)

end Deadlines

end Switchboard
