import Switchboard.Proofs.Session.Coherence
import Switchboard.Proofs.Session.Moves
/-!
# The path of a session through its states

A session tells of each state that it enters. Read in order, what it tells is a path of the state
machine (`SessionState.leadsTo`), and each event follows all those before it (`Follows`): it carries
an error exactly if it reports a failure, and a reconnection is never reported before a success.

`Charted` is what the session still knows of the events so far. Every edit keeps it, so every run
does.
-/

namespace Switchboard

/-- The moves of the state machine. -/
def SessionState.leadsTo : SessionState → SessionState → Bool
  | .idle, .connecting | .disconnected, .connecting => true
  | .connecting, .connected | .connecting, .error | .connecting, .disconnecting => true
  | .reconnecting, .reconnected | .reconnecting, .error | .reconnecting, .disconnecting => true
  | .reconnected, .connected => true
  | .connected, .authenticating | .connected, .needAuth | .connected, .error
  | .connected, .disconnecting => true
  | .needAuth, .authenticating | .needAuth, .error | .needAuth, .disconnecting => true
  | .authenticating, .connected | .authenticating, .error | .authenticating, .disconnecting => true
  | .error, .connecting | .error, .reconnecting | .error, .disconnecting
  | .error, .disconnected => true
  | .disconnecting, .disconnected => true
  | _, _ => false

/-- A move without a failure is a move of the machine, and not the one from a failure to the end. -/
theorem SessionState.leadsTo_of_turnsTo (s t : SessionState) : s.turnsTo t = true →
    s.leadsTo t = true ∧ t ≠ .error ∧ ¬ (t = .disconnected ∧ s = .error) := by
  cases s <;> cases t <;> decide

theorem SessionState.leadsTo_error (s : SessionState) :
    s.isAttempting = true ∨ s.isLive = true → s.leadsTo .error = true := by
  cases s <;> decide

/-- The state that events lead to. A session starts idle. -/
def stateAfter (events : List StatusEvent) : SessionState :=
  match events.getLast? with
  | some event => event.state
  | none => .idle

/-- An event may come after others. -/
structure Follows (earlier : List StatusEvent) (event : StatusEvent) : Prop where
  leads : (stateAfter earlier).leadsTo event.state = true
  /-- Failures and only failures carry an error. -/
  error_iff : event.error.isSome = true ↔
    event.state = .error ∨ event.state = .disconnected ∧ stateAfter earlier = .error
  exhausted : event.state = .disconnected →
    ∀ e ∈ event.error, ∃ attempts, e = .reconnectExhausted attempts
  again : event.state = .reconnecting → ∃ e ∈ earlier, e.state = .connected

/-- What a session knows of the events that it told of. -/
structure Charted (events : List StatusEvent) (s : Session) : Prop where
  follows : ∀ earlier event later, events = earlier ++ event :: later → Follows earlier event
  state : stateAfter events = s.state
  connected : s.hasConnected = true → ∃ e ∈ events, e.state = .connected
  reconnects : s.stats.reconnects =
    min (events.countP fun e => e.state = .reconnected) maxCount32

/-- The states that acts enter, in order. -/
def statuses (acts : List Act) : List StatusEvent := acts.filterMap Act.status?

@[simp] theorem stateAfter_concat (events : List StatusEvent) (event : StatusEvent) :
    stateAfter (events ++ [event]) = event.state := by
  simp [stateAfter]

/-! ## One more event -/

namespace Charted

variable {events : List StatusEvent} {event : StatusEvent} {s t : Session}

theorem of_eq (h : Charted events s) (state : t.state = s.state)
    (connected : t.hasConnected = s.hasConnected)
    (reconnects : t.stats.reconnects = s.stats.reconnects) : Charted events t :=
  ⟨h.follows, h.state.trans state.symm, fun c => h.connected (connected ▸ c),
    reconnects.trans h.reconnects⟩

theorem concat_follows (h : Charted events s) (next : Follows events event)
    (earlier : List StatusEvent) (e : StatusEvent) (later : List StatusEvent)
    (split : events ++ [event] = earlier ++ e :: later) : Follows earlier e := by
  rcases split_of_concat split with ⟨rfl, rfl, -⟩ | ⟨rest, -, split⟩
  · exact next
  · exact h.follows earlier e rest split

theorem concat (h : Charted events s) (next : Follows events event) (state : event.state = t.state)
    (connected : t.hasConnected = true → s.hasConnected = true ∨ event.state = .connected)
    (reconnects : t.stats.reconnects = saturatingAdd maxCount32 s.stats.reconnects
      (if event.state = .reconnected then 1 else 0)) : Charted (events ++ [event]) t := by
  refine ⟨h.concat_follows next, ?_, ?_, ?_⟩
  · rw [stateAfter_concat, state]
  · intro has
    rcases connected has with before | now
    · obtain ⟨e, mem, reached⟩ := h.connected before
      exact ⟨e, List.mem_append_left _ mem, reached⟩
    · exact ⟨event, by simp, now⟩
  · rw [reconnects, h.reconnects, saturatingAdd, List.countP_append, List.countP_singleton]
    simp only [decide_eq_true_eq]
    omega

theorem concat_plain (h : Charted events s) (next : Follows events event)
    (state : event.state = t.state) (plain : event.state ≠ .reconnected)
    (connected : t.hasConnected = true → s.hasConnected = true ∨ event.state = .connected)
    (reconnects : t.stats.reconnects = s.stats.reconnects) : Charted (events ++ [event]) t := by
  refine h.concat next state connected ?_
  have bound : s.stats.reconnects ≤ maxCount32 := by
    rw [h.reconnects]
    exact Nat.min_le_right _ _
  rw [reconnects, if_neg plain, saturatingAdd]
  omega

end Charted

/-! ## One edit -/

namespace Session

variable {cause : Call} {s t u : Session}

/-- The session may tell that it enters a state. -/
structure MayEnter (s : Session) (state : SessionState) (error : Option Error) : Prop where
  leads : s.state.leadsTo state = true
  error_iff : error.isSome = true ↔ state = .error ∨ state = .disconnected ∧ s.state = .error
  exhausted : state = .disconnected →
    ∀ e ∈ error, ∃ attempts, e = .reconnectExhausted attempts
  again : state = .reconnecting → s.hasConnected = true

namespace MayEnter

variable {state : SessionState} {error : Option Error}

theorem follows (may : s.MayEnter state error) {events : List StatusEvent} (h : Charted events s)
    (wall : UInt64) : Follows events ⟨s.key, s.target, state, error, wall⟩ where
  leads := by rw [h.state]; exact may.leads
  error_iff := by rw [h.state]; exact may.error_iff
  exhausted := may.exhausted
  again := fun re => h.connected (may.again re)

theorem of_turnsTo (turns : s.state.turnsTo state = true)
    (again : state = .reconnecting → s.hasConnected = true) : s.MayEnter state none := by
  obtain ⟨leads, noFailure, noEnd⟩ := SessionState.leadsTo_of_turnsTo _ _ turns
  refine ⟨leads, ?_, by simp, again⟩
  simp only [Option.isSome_none, Bool.false_eq_true, false_iff, not_or]
  exact ⟨noFailure, noEnd⟩

theorem of_failure (state : s.state.isAttempting = true ∨ s.state.isLive = true) (error : Error) :
    s.MayEnter .error (some error) :=
  ⟨s.state.leadsTo_error state, by simp, nofun, nofun⟩

theorem of_exhaustion (state : s.state = .error) (attempts : Nat) :
    s.MayEnter .disconnected (some (.reconnectExhausted attempts)) :=
  ⟨by rw [state]; rfl, by simp [state], by simp, nofun⟩

end MayEnter

/-- Between two sessions the events that were told follow those before them. -/
def Charts (s t : Session) : Prop :=
  ∀ events, Charted events s →
    ∃ acts, t.journal = s.journal ++ acts ∧ Charted (events ++ statuses acts) t

namespace Charts

theorem refl (s : Session) : Charts s s := by
  intro events h
  refine ⟨[], (List.append_nil _).symm, ?_⟩
  rw [statuses, List.filterMap_nil, List.append_nil]
  exact h

theorem trans (h : Charts s t) (k : Charts t u) : Charts s u := by
  intro events charted
  obtain ⟨acts, journal, charted⟩ := h events charted
  obtain ⟨more, journalToo, charted⟩ := k _ charted
  refine ⟨acts ++ more, by rw [journalToo, journal, List.append_assoc], ?_⟩
  rwa [statuses, List.filterMap_append, ← List.append_assoc]

/-- Acts that tell of no state, and nothing that the events speak of has changed. -/
theorem of_silent {acts : List Act} (journal : t.journal = s.journal ++ acts)
    (silent : ∀ act ∈ acts, act.status? = none) (state : t.state = s.state)
    (connected : t.hasConnected = s.hasConnected)
    (reconnects : t.stats.reconnects = s.stats.reconnects) : Charts s t := by
  intro events h
  refine ⟨acts, journal, ?_⟩
  rw [statuses, List.filterMap_eq_nil_iff.mpr silent, List.append_nil]
  exact h.of_eq state connected reconnects

theorem of_eq (journal : t.journal = s.journal) (state : t.state = s.state)
    (connected : t.hasConnected = s.hasConnected)
    (reconnects : t.stats.reconnects = s.stats.reconnects) : Charts s t :=
  of_silent (journal.trans (List.append_nil _).symm) (List.forall_mem_nil _) state connected
    reconnects

theorem of_note {act : Act} (journal : t.journal = s.journal ++ [act])
    (silent : act.status? = none) (state : t.state = s.state)
    (connected : t.hasConnected = s.hasConnected)
    (reconnects : t.stats.reconnects = s.stats.reconnects) : Charts s t :=
  of_silent journal (List.forall_mem_singleton.mpr silent) state connected reconnects

theorem of_enter {state : SessionState} {error : Option Error} {wall : UInt64}
    (may : s.MayEnter state error) (plain : state ≠ .reconnected) :
    Charts s (s.enter state error wall) :=
  fun _ h => ⟨_, rfl, h.concat_plain (may.follows h _) rfl plain .inl rfl⟩

end Charts

theorem charts_failRequests (s : Session) : Charts s s.failRequests := by
  rw [failRequests_eq]
  refine .of_silent rfl (fun act mem => ?_) rfl rfl rfl
  obtain ⟨id, -, rfl⟩ := List.mem_map.mp mem
  rfl

theorem charts_discardQueue (s : Session) : Charts s s.discardQueue := by
  rw [discardQueue_eq]
  refine .of_silent rfl (fun act mem => ?_) rfl rfl rfl
  unfold losses at mem
  split at mem
  · cases mem
  · cases List.mem_singleton.mp mem
    rfl

theorem charts_enqueue (s : Session) (packet : Packet) : Charts s (s.enqueue packet) := by
  rw [enqueue_eq, iterate_recordDropped]
  refine .of_silent rfl (fun act mem => ?_) rfl rfl rfl
  obtain ⟨packet, -, rfl⟩ := List.mem_map.mp mem
  rfl

theorem charts_expireRequests (s : Session) (now : Instant) : Charts s (s.expireRequests now) := by
  rw [expireRequests_eq_foldl]
  refine .of_silent rfl (fun act mem => ?_) rfl rfl rfl
  obtain ⟨id, -, rfl⟩ := List.mem_map.mp mem
  rfl

theorem charts_unplug (s : Session) : Charts s s.unplug := by
  rw [unplug_eq]
  refine .of_silent rfl (fun act mem => ?_) rfl rfl rfl
  unfold partings at mem
  cases held : s.transport with
  | none => rw [held] at mem; cases mem
  | some id =>
    rw [held] at mem
    cases List.mem_singleton.mp mem
    rfl

theorem charts_reconnected (wall : UInt64) (state : s.state = .reconnecting) :
    Charts s ({ s with stats := s.stats.recordReconnect }.enter .reconnected none wall) := by
  intro events h
  refine ⟨_, rfl, h.concat ⟨?_, by simp, by simp, by simp⟩ rfl .inl rfl⟩
  rw [h.state, state]
  rfl

theorem charts_connected (wall : UInt64)
    (state : s.state = .connecting ∨ s.state = .reconnected) :
    Charts s ({ s with hasConnected := true }.enter .connected none wall) := by
  intro events h
  refine ⟨_, rfl, h.concat_plain ⟨?_, by simp, by simp, by simp⟩ rfl nofun (fun _ => .inr rfl) rfl⟩
  rw [h.state]
  rcases state with state | state <;> rw [state] <;> rfl

theorem Edit.charts (h : Edit cause s t) : Charts s t := by
  cases h with
  | quiet => exact .of_eq rfl rfl rfl rfl
  | latency => exact .of_eq rfl rfl rfl rfl
  | advance => exact .of_eq rfl rfl rfl rfl
  | probe => exact .of_eq rfl rfl rfl rfl
  | misread => exact .of_eq rfl rfl rfl rfl
  | settleAll => exact charts_failRequests s
  | expire now => exact charts_expireRequests s now
  | hold packet => exact charts_enqueue s packet
  | unplug => exact charts_unplug s
  | @enter state wall turns again =>
    refine .of_enter (.of_turnsTo turns again) ?_
    rintro rfl
    cases old : s.state <;> rw [old] at turns <;> cases turns
  | reconnected state => exact charts_reconnected _ state
  | connected state => exact charts_connected _ state
  | fail error state => exact .of_enter (.of_failure state error) nofun
  | giveUp attempts state =>
    have cleared : Charts s s.discardQueue.failRequests :=
      (charts_discardQueue s).trans (charts_failRequests _)
    refine cleared.trans (.of_enter (.of_exhaustion ?_ attempts) nofun)
    rw [failRequests_eq, discardQueue_eq]
    exact state
  | reject reason state =>
    refine (charts_discardQueue s).trans (.of_enter (.of_failure (.inr ?_) _) nofun)
    rw [discardQueue_eq, state]
    rfl
  | announce wall turns prompted live held due =>
    refine Charts.trans (.of_enter (.of_turnsTo turns ?_) ?_) (.of_note rfl rfl rfl rfl rfl)
    · rintro rfl
      cases due
    · rintro rfl
      cases due
  | tearDown asked state =>
    have cleared : Charts s s.discardQueue.failRequests :=
      (charts_discardQueue s).trans (charts_failRequests _)
    have reset : Charts s { s.discardQueue.failRequests with
        policy := s.discardQueue.failRequests.policy.reset } :=
      cleared.trans (.of_eq rfl rfl rfl rfl)
    refine reset.trans (.of_enter (.of_turnsTo ?_ nofun) nofun)
    rw [failRequests_eq, discardQueue_eq]
    dsimp only
    rw [state]
    rfl
  | _ => exact .of_note rfl rfl rfl rfl rfl

theorem Edits.charts (h : Edits cause s t) : Charts s t := by
  induction h with
  | refl => exact .refl s
  | tail _ edit ih => exact ih.trans edit.charts

end Session

theorem Charted.entering {events : List StatusEvent} {s : Session} (h : Charted events s)
    (call : Call) (answer : Except Error (Option String)) :
    Charted events (s.entering call answer) := by
  unfold Session.entering
  split
  · exact h.of_eq rfl rfl rfl
  · exact h

/-! ## Calls and runs -/

variable {σ : Type} [Environment σ]

def Moment.statuses (m : Moment σ) : List StatusEvent := Switchboard.statuses m.acts

def Run.statuses (ms : List (Moment σ)) : List StatusEvent := ms.flatMap Moment.statuses

theorem Moment.charted (m : Moment σ) {events : List StatusEvent}
    (h : Charted events m.before.session) :
    Charted (events ++ m.statuses) m.after.session := by
  obtain ⟨s, edits, journal, after⟩ := m.edits
  obtain ⟨acts, added, charted⟩ := edits.charts events h
  have same : m.acts = acts := List.append_cancel_left (journal.symm.trans added)
  rw [after, Moment.statuses, same]
  exact charted.entering m.call m.answer

namespace Run

variable {key : String} {target : Target} {config : SessionConfig} {generation serial : Nat}
  {mark : String}
  {ms : List (Moment σ)} {c : Station σ}

theorem statuses_concat (ms : List (Moment σ)) (m : Moment σ) :
    statuses (ms ++ [m]) = statuses ms ++ m.statuses := by
  simp [statuses]

theorem charted (h : Run (.create key target config generation serial mark) ms c) :
    Charted (statuses ms) c.session := by
  induction h with
  | begin world => exact ⟨by simp [statuses], rfl, nofun, rfl⟩
  | call _ call ih =>
    rw [statuses_concat]
    exact Moment.charted ⟨_, call⟩ ih
  | drain _ ih => exact ih.of_eq rfl rfl rfl
  | world _ _ ih => exact ih

/-- A state that another one must follow is not the last that a call enters. -/
theorem completes (h : Run (.create key target config generation serial mark) ms c) {m : Moment σ}
    (mem : m ∈ ms) {earlier later : List StatusEvent} {event : StatusEvent}
    (split : m.statuses = earlier ++ event :: later)
    (transient : event.state = .reconnected ∨ event.state = .disconnecting) :
    ∃ next rest, later = next :: rest ∧ event.state.leadsTo next.state = true := by
  obtain ⟨before, run⟩ := h.until_mem mem
  have whole := run.call m.call
  have charted := whole.charted
  rw [statuses_concat] at charted
  cases later with
  | cons next rest =>
    have follows := charted.follows (statuses before ++ (earlier ++ [event])) next rest
      (by change statuses before ++ m.statuses = _; rw [split]; simp)
    have leads := follows.leads
    rw [← List.append_assoc, stateAfter_concat] at leads
    exact ⟨next, rest, rfl, leads⟩
  | nil =>
    have coherent := Coherent.of_inPhase whole.inPhase
    have state := charted.state
    change stateAfter (statuses before ++ m.statuses) = _ at state
    rw [split, ← List.append_assoc, stateAfter_concat] at state
    rw [state] at transient
    rcases transient with transient | transient
    · exact absurd transient coherent.transient.1
    · exact absurd transient coherent.transient.2

end Run

/-- What a run tells of its states is a path of the state machine from idle. -/
structure OnPath (ms : List (Moment σ)) (c : Station σ) : Prop where
  follows : ∀ earlier event later, Run.statuses ms = earlier ++ event :: later →
    Follows earlier event
  last : stateAfter (Run.statuses ms) = c.session.state
  /-- The call that reports a reconnection goes on to report the connection. -/
  reconnected : ∀ m ∈ ms, ∀ earlier event later, m.statuses = earlier ++ event :: later →
    event.state = .reconnected → ∃ next rest, later = next :: rest ∧ next.state = .connected
  /-- The call that starts a teardown ends it. -/
  disconnecting : ∀ m ∈ ms, ∀ earlier event later, m.statuses = earlier ++ event :: later →
    event.state = .disconnecting → ∃ next rest, later = next :: rest ∧ next.state = .disconnected
  reconnects : c.session.stats.reconnects =
    min ((Run.statuses ms).countP fun event => event.state = .reconnected) maxCount32

/-- Whatever is called, in any order, the states that a session tells of are a path of the state
machine that ends where the session is. -/
theorem run_onPath {key : String} {target : Target} {config : SessionConfig}
    {generation serial : Nat} {mark : String} {ms : List (Moment σ)} {c : Station σ}
    (h : Run (.create key target config generation serial mark) ms c) : OnPath ms c where
  follows := h.charted.follows
  last := h.charted.state
  reconnected := by
    intro m mem earlier event later split state
    obtain ⟨next, rest, rfl, leads⟩ := h.completes mem split (.inl state)
    refine ⟨next, rest, rfl, ?_⟩
    rw [state] at leads
    cases after : next.state <;> rw [after] at leads <;> first | rfl | cases leads
  disconnecting := by
    intro m mem earlier event later split state
    obtain ⟨next, rest, rfl, leads⟩ := h.completes mem split (.inr state)
    refine ⟨next, rest, rfl, ?_⟩
    rw [state] at leads
    cases after : next.state <;> rw [after] at leads <;> first | rfl | cases leads
  reconnects := h.charted.reconnects

/-- Two losses, of which the second finds the network gone and spends the retry budget, and then a
caller who connects once more and disconnects. -/
theorem run_onPath_exhausted :
    ∃ (ms : List (Moment ScriptedNetwork)) (c : Station ScriptedNetwork),
      Run (.create "k" default
        { reconnect := { baseDelay := .clamp 0, maxAttempts := 2 } } 0 1 "s0000001") ms c ∧
        (Run.statuses ms).map StatusEvent.state = [.connecting, .connected, .error, .reconnecting,
          .reconnected, .connected, .error, .reconnecting, .error, .disconnected, .connecting,
          .disconnecting, .disconnected] ∧
        OnPath ms c :=
  have begun : Run (.create "k" default
      { reconnect := { baseDelay := .clamp 0, maxAttempts := 2 } } 0 1 "s0000001") []
      ⟨_, ({} : ScriptedNetwork)⟩ := .begin _
  have lost := (((begun.call (.connect ⟨0⟩)).call (.handleEvent ⟨"k", 1⟩ .opened ⟨0⟩)).call
    (.handleEvent ⟨"k", 1⟩ .closed ⟨1⟩)).call (.pollTimers ⟨1⟩)
  have again := (lost.call (.handleEvent ⟨"k", 3⟩ .opened ⟨1⟩)).call
    (.handleEvent ⟨"k", 3⟩ .closed ⟨2⟩)
  have spent := (again.world { refuseAll := true }).call (.pollTimers ⟨2⟩)
  have run := ((spent.world {}).call (.connect ⟨3⟩)).call .disconnect
  ⟨_, _, run, rfl, run_onPath run⟩

end Switchboard
