import Switchboard.Proofs.Session.Phases
import Switchboard.Scripted.Network
/-!
# Coherent sessions

Each operation of a session leads from phases to phases, so every run stays in them (`Run.inPhase`).
What the four phases have in common is `Coherent`: a session holds a transport, an armed timer and a
running watch in exactly the states that need them, and every armed timer is of the current
generation. `run_coherent` says that of every run.
-/

namespace Switchboard

open Session (InPhase Resting Waiting Attempting Open Live)

namespace TimerSlot

/-- A slot that was armed under the current generation fires when it is due. -/
theorem isSome_due? {slot : TimerSlot} {task : TimerTask} {now : Instant} (h : slot = some task)
    (due : slot.isDue now = true) : (slot.due? now task.generation).isSome = true := by
  subst h
  have reached : task.deadline ≤ now := of_decide_eq_true due
  simp [due?, reached]

theorem afterTake_early {slot : TimerSlot} {now : Instant} (h : slot.isDue now = false) :
    slot.afterTake now = slot := by
  simp [afterTake, h]

theorem afterTake_due {slot : TimerSlot} {now : Instant} (h : slot.isDue now = true) :
    slot.afterTake now = none := by
  simp [afterTake, h]

theorem due?_early {slot : TimerSlot} {now : Instant} (h : slot.isDue now = false)
    (generation : Nat) : slot.due? now generation = none := by
  cases slot with
  | none => rfl
  | some task =>
    have early : ¬ task.deadline ≤ now := of_decide_eq_false h
    simp [due?, early]

end TimerSlot

theorem Session.state_complete (s : Session) (frame : Frame) :
    (s.complete frame).state = s.state := by
  unfold complete
  split
  · rfl
  · split
    · rfl
    · split <;> rfl

namespace Station

variable {σ : Type} [Environment σ]

/-! ## Leaving a connection -/

/-- However a connection fails, the session then waits for a retry or rests. -/
theorem inPhase_failAttempt (c : Station σ) (error : Error) (now : Instant) :
    InPhase (c.failAttempt error now).session := by
  unfold failAttempt
  dsimp only [modify, enter, stopConnection]
  rw [Session.unplug_eq]
  exact Session.inPhase_retryOrGiveUp rfl rfl rfl rfl (Heartbeat.stopped_stop _) now _

theorem resting_failAuth (c : Station σ) (reason : String) :
    Resting (c.failAuth reason).session := by
  unfold failAuth
  dsimp only [modify, enter, stopConnection]
  rw [Session.failRequests_eq, Session.unplug_eq, Session.discardQueue_eq]
  exact ⟨.inr (.inr ⟨rfl, reason, rfl⟩), rfl, rfl, Heartbeat.stopped_stop _, rfl, rfl⟩

theorem resting_disconnect {c : Station σ} (h : c.session.state.canDisconnect = true) :
    Resting c.disconnect.session := by
  unfold disconnect
  rw [if_pos h]
  dsimp only [modify, enter, stopConnection]
  rw [Session.unplug_eq, Session.discardQueue_eq, Session.failRequests_eq]
  exact ⟨.inr (.inl rfl), rfl, rfl, Heartbeat.stopped_stop _, rfl, rfl⟩

/-! ## Attempts -/

theorem inPhase_beginAttempt {c : Station σ} {state : SessionState}
    (retry : c.session.timers.retry = none) (attempts : state.isAttempting = true)
    (now : Instant) : InPhase (c.beginAttempt state now).session := by
  unfold beginAttempt
  dsimp only
  split
  · dsimp only [modify, enter, stopConnection]
    rw [Session.unplug_eq]
    refine .attempting
      ⟨attempts, rfl, ⟨now + c.session.config.connectTimeout, ?_⟩, Heartbeat.stopped_stop _⟩
    simp only [Session.plug, Session.note, Session.enter, retry]
  · exact inPhase_failAttempt _ _ now

theorem inPhase_connect {c : Station σ} (h : InPhase c.session) (now : Instant) :
    InPhase (c.connect now).session := by
  unfold connect
  split
  · exact inPhase_beginAttempt rfl rfl now
  · exact h

/-- The transport that an attempt waited for opens. -/
theorem live_recordOpened {s : Session} (h : Attempting s) (now : Instant) (wall : UInt64) :
    Live (s.recordOpened now wall) := by
  obtain ⟨deadline, timers⟩ := h.timers
  unfold Session.recordOpened
  dsimp only
  split
  all_goals
    refine ⟨⟨rfl, h.transport, rfl, ?_, rfl⟩, ⟨_, rfl⟩⟩
    simp [Session.scheduleTick, Session.enter, Session.note, timers]

theorem inPhase_opened {c : Station σ} (h : InPhase c.session) (now : Instant) :
    InPhase (c.opened now).session := by
  unfold opened
  split
  · next attempts =>
    have live := live_recordOpened (h.attempting_of attempts) now
      (Environment.wallClock c.world)
    exact .live (live.of_core (core_flushQueue _))
  · exact h

theorem inPhase_lost {c : Station σ} (h : InPhase c.session) (reason : String) (now : Instant) :
    InPhase (c.lost reason now).session := by
  unfold lost
  split
  · exact inPhase_failAttempt c _ now
  · split
    · exact inPhase_failAttempt c _ now
    · exact h

/-! ## Frames that arrive -/

theorem live_attend {c : Station σ} (h : Live c.session) (frame : Frame) (now : Instant) :
    Live (c.attend frame now).session := by
  have step := c.attend_step frame now
  generalize c.attend frame now = d at step ⊢
  cases step with
  | ignored => exact h
  | answered => exact h.of_core (core_sendAnyway _ _ _)
  | @ponged id =>
    -- The probe may be answered by this; whether the connection is watched stays as it is.
    have running : (c.session.heartbeat.answer id now).2.running =
        c.session.heartbeat.running := by
      unfold Heartbeat.answer
      split
      · split <;> rfl
      · rfl
    dsimp only [modify, Session.recordPong]
    split
    all_goals
      next answered =>
      rw [answered] at running
      exact ⟨⟨h.state, h.transport, h.connect, h.retry, running.trans h.running⟩, h.tick⟩
  | assigned => exact ⟨⟨h.state, h.transport, h.connect, h.retry, h.running⟩, h.tick⟩

/-- Entering another live state keeps a connection live. -/
theorem live_enter {s : Session} (h : Live s) {state : SessionState} (live : state.isLive = true)
    (error : Option Error) (wall : UInt64) : Live (s.enter state error wall) :=
  ⟨⟨live, h.transport, h.connect, h.retry, h.running⟩, h.tick⟩

theorem inPhase_negotiate {c : Station σ} (h : Live c.session) (phase : AuthPhase) :
    InPhase (c.negotiate phase).session := by
  have step := c.negotiate_step phase
  generalize c.negotiate phase = d at step ⊢
  cases step with
  | ignored => exact .live h
  | parked => exact .live (live_enter h rfl none _)
  | given => exact .live ((live_enter h rfl none _).of_core (core_sendAnyway _ _ _))
  | accepted => exact .live ((live_enter h rfl none _).of_core (core_flushQueue _))
  | rejected => exact .resting (resting_failAuth c _)

theorem inPhase_complete {s : Session} (h : InPhase s) (frame : Frame) :
    InPhase (s.complete frame) := by
  unfold Session.complete
  split
  · exact h
  · split
    · exact h
    · next id _ =>
      split
      · next pending =>
        -- A resting session has no request that a frame could answer.
        have erased := h.with_requests (s.requests.erase id) fun rest => by
          simp [Requests.contains, KeyMap.contains, rest.requests] at pending
        cases erased with
        | resting h =>
          exact .resting ⟨h.state, h.transport, h.timers, h.heartbeat, h.queue, h.requests⟩
        | waiting h => exact .waiting (h.of_core rfl)
        | attempting h => exact .attempting (h.of_core rfl)
        | live h => exact .live (h.of_core rfl)
      · exact h

theorem inPhase_hear {c : Station σ} (h : Live c.session) (frame : Frame) (now : Instant) :
    InPhase (c.hear frame now).session := by
  unfold hear
  refine inPhase_complete ?_ frame
  have attended := live_attend (c := c.modify fun s => s.note (.heard
    ⟨frame, (Message.ofFrame frame).toOption.join⟩)) (h.of_core rfl) frame now
  unfold negotiateMessage
  split
  · exact inPhase_negotiate attended _
  · exact .live attended

theorem inPhase_receive {c : Station σ} (h : InPhase c.session) (bytes : Bytes) (now : Instant) :
    InPhase (c.receive bytes now).session := by
  unfold receive
  split
  · next live =>
    have arrived := h.live_of live
    dsimp only
    split
    · next frame _ =>
      refine inPhase_hear ?_ frame now
      exact arrived.of_core rfl
    · exact .live (arrived.of_core rfl)
  · exact h

theorem inPhase_handleEvent {c : Station σ} (h : InPhase c.session) (id : ConnectionId)
    (event : TransportEvent) (now : Instant) : InPhase (c.handleEvent id event now).session := by
  unfold handleEvent
  split
  · cases event with
    | opened => exact inPhase_opened h now
    | frame bytes => exact inPhase_receive h bytes now
    | failed reason => exact inPhase_lost h reason now
    | closed => exact inPhase_lost h _ now
  · exact h

/-! ## Callers -/

/-- Where there is nothing to tear down, the session rests. -/
theorem resting_of_unable {s : Session} (h : InPhase s) (unable : ¬ s.state.canDisconnect = true) :
    Resting s := by
  cases h with
  | resting h => exact h
  | waiting h => simp [SessionState.canDisconnect, h.state] at unable
  | attempting h => simp [SessionState.canDisconnect, h.state] at unable
  | live h => simp [SessionState.canDisconnect, h.state] at unable

/-- A session that was told to disconnect rests. -/
theorem resting_disconnected {c : Station σ} (h : InPhase c.session) :
    Resting c.disconnect.session := by
  by_cases able : c.session.state.canDisconnect = true
  · exact resting_disconnect able
  · unfold disconnect
    rw [if_neg able]
    exact resting_of_unable h able

theorem resting_close {c : Station σ} (h : InPhase c.session) : Resting c.close.session := by
  unfold close
  split
  · next able => exact resting_disconnect able
  · next unable =>
    have rest := resting_of_unable h unable
    dsimp only [modify, stopConnection]
    rw [Session.unplug_eq]
    exact ⟨rest.state, rfl, rfl, Heartbeat.stopped_stop _, rest.queue, rest.requests⟩

theorem inPhase_authenticate {c : Station σ} (h : InPhase c.session) (credentials : Json) :
    InPhase (c.authenticate credentials).session := by
  unfold authenticate
  split
  · next asked =>
    have live := h.live_of (by rw [asked]; rfl)
    exact .live ((live_enter live rfl none _).of_core (core_sendAnyway _ _ _))
  · exact h

/-- A session at rest takes no frame. -/
theorem submit_resting {c : Station σ} (h : Resting c.session) (packet : Packet) :
    c.submit packet = (.error .connectionClosed, c) := by
  have unarmed : c.session.retryScheduled = false := by
    rw [Session.retryScheduled, h.timers]
    rfl
  unfold submit
  rcases h.state with e | e | ⟨e, -⟩
  · simp [e]
  · simp [e]
  · simp [e, unarmed]

theorem inPhase_submit {c : Station σ} (h : InPhase c.session) (packet : Packet) :
    InPhase (c.submit packet).2.session := by
  cases h with
  | resting h => rw [submit_resting h]; exact .resting h
  | waiting h => exact .waiting (h.of_core (core_submit c packet))
  | attempting h => exact .attempting (h.of_core (core_submit c packet))
  | live h => exact .live (h.of_core (core_submit c packet))

theorem inPhase_submitBytes {c : Station σ} (h : InPhase c.session) (purpose : Purpose)
    (bytes : Except Error Bytes) : InPhase (c.submitBytes purpose bytes).2.session := by
  cases bytes with
  | ok bytes => exact inPhase_submit h _
  | error e => exact h

theorem inPhase_request {c : Station σ} (h : InPhase c.session) (code : UInt8) (header : Header)
    (payload : Option Bytes) (now : Instant) :
    InPhase (c.request code header payload now).2.session := by
  have advanced : InPhase (c.modify Session.advanced).session :=
    h.with_requests _ Resting.requests
  have core : (c.requestSubmission code header payload).2.session.core = c.session.advanced.core :=
    core_submitBytes _ _ _
  rcases result : (c.requestSubmission code header payload).1 with e | ⟨⟨⟩⟩
  · rw [request_of_error c result]
    exact inPhase_submitBytes advanced _ _
  · rw [request_of_ok c result]
    cases advanced with
    | resting rest =>
      -- At rest nothing is taken, so there is no new request.
      exfalso
      unfold requestSubmission at result
      cases bytes : requestBytes c.session.requests.nextId code header payload with
      | ok bytes => rw [bytes, submitBytes, submit_resting rest] at result; cases result
      | error e => rw [bytes, submitBytes] at result; cases result
    | waiting h => exact .waiting ((h.of_core core).with_requests _)
    | attempting h => exact .attempting ((h.of_core core).with_requests _)
    | live h => exact .live ((h.of_core core).with_requests _)

/-! ## Timers -/

theorem pollConnect_early {c : Station σ} {now : Instant}
    (h : c.session.timers.connect.isDue now = false) : c.pollConnect now = c := by
  rw [pollConnect_eq, TimerSlot.due?_early h]
  simp [modify, Session.connectTaken, TimerSlot.afterTake_early h]

theorem pollHeartbeat_early {c : Station σ} {now : Instant}
    (h : c.session.timers.heartbeat.isDue now = false) : c.pollHeartbeat now = c := by
  rw [pollHeartbeat_eq, TimerSlot.due?_early h]
  simp [modify, Session.tickTaken, TimerSlot.afterTake_early h]

theorem pollRetry_early {c : Station σ} {now : Instant}
    (h : c.session.timers.retry.isDue now = false) : c.pollRetry now = c := by
  rw [pollRetry_eq, TimerSlot.due?_early h]
  simp [modify, Session.retryTaken, TimerSlot.afterTake_early h]

theorem inPhase_pollConnect {c : Station σ} (h : InPhase c.session) (now : Instant) :
    InPhase (c.pollConnect now).session := by
  by_cases due : c.session.timers.connect.isDue now = true
  · have attempt : Attempting c.session := by
      cases h with
      | resting h => rw [h.timers] at due; cases due
      | waiting h => obtain ⟨d, e⟩ := h.timers; rw [e] at due; cases due
      | attempting h => exact h
      | live h => rw [h.connect] at due; cases due
    obtain ⟨deadline, armed⟩ := attempt.timers
    have fires := TimerSlot.isSome_due? (congrArg Timers.connect armed) due
    rw [pollConnect_eq, if_pos ⟨fires, attempt.state⟩]
    exact inPhase_failAttempt _ _ now
  · rwa [pollConnect_early (Bool.not_eq_true _ ▸ due)]

theorem live_scheduleTick {s : Session} (h : Open s) (now : Instant) : Live (s.scheduleTick now) :=
  ⟨⟨h.state, h.transport, h.connect, h.retry, h.running⟩, ⟨s.heartbeat.nextTick now, rfl⟩⟩

/-- A tick ends with the next probe scheduled or with the connection given up. -/
theorem inPhase_heartbeatTick {c : Station σ} (h : Open c.session) (now : Instant) :
    InPhase (c.heartbeatTick now).session := by
  cases probe : c.session.heartbeat.probe with
  | some stale =>
    rw [heartbeatTick_of_silence c h.state probe]
    exact inPhase_failAttempt _ _ now
  | none =>
    rw [heartbeatTick_of_answer c h.state probe]
    have probing : Open ((c.session.expireRequests now).probing
        (Environment.wallClock c.world) now) := by
      rw [Session.expireRequests_eq_foldl]
      exact ⟨h.state, h.transport, h.connect, h.retry, h.running⟩
    exact .live (live_scheduleTick (probing.of_core (core_sendAnyway _ _ _)) now)

theorem inPhase_pollHeartbeat {c : Station σ} (h : InPhase c.session) (now : Instant) :
    InPhase (c.pollHeartbeat now).session := by
  by_cases due : c.session.timers.heartbeat.isDue now = true
  · have live : Live c.session := by
      cases h with
      | resting h => rw [h.timers] at due; cases due
      | waiting h => obtain ⟨d, e⟩ := h.timers; rw [e] at due; cases due
      | attempting h => obtain ⟨d, e⟩ := h.timers; rw [e] at due; cases due
      | live h => exact h
    obtain ⟨deadline, armed⟩ := live.tick
    have fires := TimerSlot.isSome_due? armed due
    rw [pollHeartbeat_eq, if_pos fires]
    apply inPhase_heartbeatTick
    exact ⟨live.state, live.transport, live.connect, live.retry, live.running⟩
  · rwa [pollHeartbeat_early (Bool.not_eq_true _ ▸ due)]

theorem inPhase_pollRetry {c : Station σ} (h : InPhase c.session) (now : Instant) :
    InPhase (c.pollRetry now).session := by
  by_cases due : c.session.timers.retry.isDue now = true
  · have waiting : Waiting c.session := by
      cases h with
      | resting h => rw [h.timers] at due; cases due
      | waiting h => exact h
      | attempting h => obtain ⟨d, e⟩ := h.timers; rw [e] at due; cases due
      | live h => rw [h.retry] at due; cases due
    obtain ⟨deadline, armed⟩ := waiting.timers
    have fires := TimerSlot.isSome_due? (congrArg Timers.retry armed) due
    rw [pollRetry_eq, if_pos ⟨fires, waiting.state⟩]
    refine inPhase_beginAttempt ?_ ?_ now
    · exact TimerSlot.afterTake_due due
    · split <;> rfl
  · rwa [pollRetry_early (Bool.not_eq_true _ ▸ due)]

/-! ## Every call, and every run -/

/-- Every call leads from phases to phases. -/
theorem inPhase_perform {c : Station σ} (h : InPhase c.session) (call : Call) :
    InPhase (c.perform call).2.session := by
  cases call with
  | connect now => exact inPhase_connect h now
  | disconnect => exact .resting (resting_disconnected h)
  | close => exact .resting (resting_close h)
  | authenticate credentials => exact inPhase_authenticate h credentials
  | send code header payload => exact inPhase_submitBytes h _ _
  | sendMessage message payload => exact inPhase_submitBytes h _ _
  | request code header payload now => exact inPhase_request h code header payload now
  | handleEvent id event now => exact inPhase_handleEvent h id event now
  | pollTimers now =>
    exact inPhase_pollRetry (inPhase_pollHeartbeat (inPhase_pollConnect h now) now) now

end Station

variable {σ : Type} [Environment σ] {key : String} {target : Target} {config : SessionConfig}
  {generation serial : Nat} {mark : String} {ms : List (Moment σ)} {c : Station σ}

theorem Run.inPhase (h : Run (.create key target config generation serial mark) ms c) :
    InPhase c.session := by
  induction h with
  | begin world => exact Session.inPhase_create key target config generation serial mark
  | call _ call ih => exact Station.inPhase_perform ih call
  | drain _ ih => exact ih.drained
  | world _ _ ih => exact ih

/-! ## What the phases say -/

/-- How the parts of a session stand to one another between two calls. -/
structure Coherent (s : Session) : Prop where
  /-- The states that others follow at once are never seen. -/
  transient : s.state ≠ .reconnected ∧ s.state ≠ .disconnecting
  transport_iff : s.transport.isSome = true ↔
    s.state.isAttempting = true ∨ s.state.isLive = true
  connect_iff : s.timers.connect.isArmed = true ↔ s.state.isAttempting = true
  heartbeat_iff : s.timers.heartbeat.isArmed = true ↔ s.state.isLive = true
  running_iff : s.heartbeat.running = true ↔ s.state.isLive = true
  probe : s.heartbeat.probe.isSome = true → s.state.isLive = true
  retry : s.timers.retry.isArmed = true → s.state = .error
  /-- A failure without a retry is a rejection. -/
  rejected : s.state = .error → s.timers.retry.isArmed = false →
    ∃ reason, s.lastError = some (.auth reason)
  /-- A session that only a caller can move on holds nothing back. -/
  parked : s.state = .idle ∨ s.state = .disconnected ∨
      s.state = .error ∧ s.timers.retry.isArmed = false →
    s.timers = .idle ∧ s.queue = [] ∧ s.requests.pending = []
  current : ∀ slot ∈ [s.timers.heartbeat, s.timers.connect, s.timers.retry],
    ∀ task ∈ slot, task.generation = s.generation
  /-- A due timer is taken for its purpose and not thrown away. -/
  fires : ∀ now,
    (s.timers.connect.isDue now = true →
      (s.timers.connect.due? now s.generation).isSome = true ∧ s.state.isAttempting = true) ∧
    (s.timers.heartbeat.isDue now = true →
      (s.timers.heartbeat.due? now s.generation).isSome = true ∧ s.state.isLive = true) ∧
    (s.timers.retry.isDue now = true →
      (s.timers.retry.due? now s.generation).isSome = true ∧ s.state = .error)

namespace Coherent

variable {s : Session}

private theorem unarmed_resting (h : Resting s) : s.timers.heartbeat = none ∧
    s.timers.connect = none ∧ s.timers.retry = none := by
  rw [h.timers]
  exact ⟨rfl, rfl, rfl⟩

theorem of_resting (h : Resting s) : Coherent s := by
  obtain ⟨tick, connect, retry⟩ := unarmed_resting h
  have idle := h.isAttempting_eq
  have dead := h.isLive_eq
  obtain ⟨still, quiet⟩ := h.heartbeat
  refine ⟨?_, ?_, ?_, ?_, ?_, ?_, ?_, ?_, fun _ => ⟨h.timers, h.queue, h.requests⟩, ?_, ?_⟩
  · rcases h.state with e | e | ⟨e, -⟩ <;> rw [e] <;> exact ⟨nofun, nofun⟩
  · simp [h.transport, idle, dead]
  · simp [TimerSlot.isArmed, connect, idle]
  · simp [TimerSlot.isArmed, tick, dead]
  · simp [still, dead]
  · simp [quiet]
  · simp [TimerSlot.isArmed, retry]
  · intro failed _
    rcases h.state with e | e | ⟨-, rejected⟩
    · rw [e] at failed; cases failed
    · rw [e] at failed; cases failed
    · exact rejected
  · simp [tick, connect, retry]
  · simp [TimerSlot.isDue, tick, connect, retry]

theorem of_waiting (h : Waiting s) : Coherent s := by
  obtain ⟨deadline, armed⟩ := h.timers
  have idle := h.isAttempting_eq
  have dead := h.isLive_eq
  obtain ⟨still, quiet⟩ := h.heartbeat
  refine ⟨?_, ?_, ?_, ?_, ?_, ?_, fun _ => h.state, ?_, ?_, ?_, fun now => ⟨?_, ?_, fun due => ?_⟩⟩
  · rw [h.state]; exact ⟨nofun, nofun⟩
  · simp [h.transport, idle, dead]
  · simp [TimerSlot.isArmed, armed, idle]
  · simp [TimerSlot.isArmed, armed, dead]
  · simp [still, dead]
  · simp [quiet]
  · simp [TimerSlot.isArmed, armed]
  · simp [TimerSlot.isArmed, armed, h.state]
  · simp [armed]
  · simp [TimerSlot.isDue, armed]
  · simp [TimerSlot.isDue, armed]
  · exact ⟨TimerSlot.isSome_due? (congrArg Timers.retry armed) due, h.state⟩

theorem of_attempting (h : Attempting s) : Coherent s := by
  obtain ⟨deadline, armed⟩ := h.timers
  have attempts := h.state
  have dead := h.isLive_eq
  obtain ⟨still, quiet⟩ := h.heartbeat
  have notFailed : s.state ≠ .error := by intro e; rw [e] at attempts; cases attempts
  refine ⟨?_, ?_, ?_, ?_, ?_, ?_, ?_, fun failed => absurd failed notFailed, ?_, ?_,
    fun now => ⟨fun due => ?_, ?_, ?_⟩⟩
  · constructor <;> intro e <;> rw [e] at attempts <;> cases attempts
  · simp [h.transport, attempts]
  · simp [TimerSlot.isArmed, armed, attempts]
  · simp [TimerSlot.isArmed, armed, dead]
  · simp [still, dead]
  · simp [quiet]
  · simp [TimerSlot.isArmed, armed]
  · rintro (e | e | ⟨e, -⟩) <;> rw [e] at attempts <;> cases attempts
  · simp [armed]
  · exact ⟨TimerSlot.isSome_due? (congrArg Timers.connect armed) due, attempts⟩
  · simp [TimerSlot.isDue, armed]
  · simp [TimerSlot.isDue, armed]

theorem of_live (h : Live s) : Coherent s := by
  obtain ⟨deadline, armed⟩ := h.tick
  have live := h.state
  have idle := h.isAttempting_eq
  have notFailed : s.state ≠ .error := by intro e; rw [e] at live; cases live
  refine ⟨?_, ?_, ?_, ?_, ?_, fun _ => live, ?_, fun failed => absurd failed notFailed, ?_, ?_,
    fun now => ⟨?_, fun due => ?_, ?_⟩⟩
  · constructor <;> intro e <;> rw [e] at live <;> cases live
  · simp [h.transport, live]
  · simp [TimerSlot.isArmed, h.connect, idle]
  · simp [TimerSlot.isArmed, armed, live]
  · simp [h.running, live]
  · simp [TimerSlot.isArmed, h.retry]
  · rintro (e | e | ⟨e, -⟩) <;> rw [e] at live <;> cases live
  · simp [armed, h.connect, h.retry]
  · simp [TimerSlot.isDue, h.connect]
  · exact ⟨TimerSlot.isSome_due? armed due, live⟩
  · simp [TimerSlot.isDue, h.retry]

theorem of_inPhase (h : InPhase s) : Coherent s := by
  cases h with
  | resting h => exact of_resting h
  | waiting h => exact of_waiting h
  | attempting h => exact of_attempting h
  | live h => exact of_live h

end Coherent

/-- Every run leaves its session coherent after every call, and also after each timer that a poll
asks, so a due timer is never thrown away: not at the start of the poll and not because of what an
earlier timer of the same poll did. -/
theorem run_coherent (h : Run (.create key target config generation serial mark) ms c) :
    Coherent c.session ∧ ∀ now, Coherent (c.pollConnect now).session ∧
      Coherent ((c.pollConnect now).pollHeartbeat now).session := by
  have connected (now : Instant) := Station.inPhase_pollConnect h.inPhase now
  refine ⟨.of_inPhase h.inPhase, fun now => ⟨.of_inPhase (connected now), ?_⟩⟩
  exact .of_inPhase (Station.inPhase_pollHeartbeat (connected now) now)

/-- A first attempt is refused and a retry is scheduled without delay. The poll that finds the
attempt of the retry open too long starts the next one at once. -/
theorem run_coherent_retrying :
    ∃ (ms : List (Moment ScriptedNetwork)) (c : Station ScriptedNetwork),
      Run (.create "k" default { reconnect := { baseDelay := .clamp 0 } } 7 1
        "s0000001") ms c ∧
        c.session.state = .connecting ∧ c.session.generation = 12 ∧
        Coherent c.session ∧ ∀ now, Coherent (c.pollConnect now).session ∧
          Coherent ((c.pollConnect now).pollHeartbeat now).session :=
  have begun : Run (.create "k" default { reconnect := { baseDelay := .clamp 0 } } 7 1
        "s0000001") []
      ⟨_, ({ refuseNext := 1 } : ScriptedNetwork)⟩ := .begin _
  have run := ((begun.call (.connect ⟨0⟩)).call (.pollTimers ⟨0⟩)).call (.pollTimers ⟨10000000000⟩)
  ⟨_, _, run, rfl, rfl, run_coherent run⟩

end Switchboard
