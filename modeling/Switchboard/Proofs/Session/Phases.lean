import Switchboard.Proofs.Session.Run
import Switchboard.Proofs.Session.Steps
/-!
# The phases of a session

Between two calls a session is in one of four phases, and the phase fixes how its state, its
transport, its three timers and its probes stand to one another: it rests, it waits for a retry, an
attempt is under way, or the connection is live.

Sending touches only the queue, the statistics and the journal. `core` is a session without these,
and every phase but rest is a property of the core.
-/

namespace Switchboard

namespace Session

/-- The session without what frames that come and go change. -/
def core (s : Session) : Session :=
  { s with
    queue := []
    stats := { s.stats with
      framesSent := 0, framesRecv := 0, bytesSent := 0, bytesRecv := 0
      decodeErrors := 0, droppedFrames := 0 }
    lastActivity := none
    journal := [] }

theorem core_enqueue (s : Session) (packet : Packet) : (s.enqueue packet).core = s.core := by
  rw [enqueue_eq, iterate_recordDropped]
  rfl

end Session

namespace Station

variable {σ : Type} [Environment σ]

theorem core_sendDirect (c : Station σ) (packet : Packet) :
    (c.sendDirect packet).2.session.core = c.session.core := by
  unfold sendDirect
  split
  · rfl
  · split <;> rfl

theorem core_sendAnyway (c : Station σ) (purpose : Purpose) (bytes : Except Error Bytes) :
    (c.sendAnyway purpose bytes).session.core = c.session.core := by
  cases bytes with
  | error e => rfl
  | ok bytes => exact core_sendDirect c _

theorem core_sendAll (packets : List Packet) (c : Station σ) :
    (sendAll packets c).2.session.core = c.session.core := by
  induction packets generalizing c with
  | nil => rfl
  | cons packet rest ih =>
    have sent := core_sendDirect c packet
    unfold sendAll
    split
    · next c' h =>
      rw [h] at sent
      exact (ih c').trans sent
    · next c' h =>
      rw [h] at sent
      exact sent

theorem core_flushQueue (c : Station σ) : c.flushQueue.session.core = c.session.core :=
  core_sendAll c.session.queue c

theorem core_submit (c : Station σ) (packet : Packet) :
    (c.submit packet).2.session.core = c.session.core := by
  have held : ∀ c : Station σ,
      (c.modify fun s => s.enqueue packet).session.core = c.session.core :=
    fun c => Session.core_enqueue c.session packet
  have sent := core_sendDirect c packet
  unfold submit
  cases c.session.state with
  | connected =>
    dsimp only
    split
    · split
      · next c' h => rw [h] at sent; exact sent
      · next c' h => rw [h] at sent; exact sent
    · exact (core_flushQueue _).trans (held c)
  | error =>
    dsimp only
    split
    · exact held c
    · rfl
  | idle => rfl
  | disconnecting => rfl
  | disconnected => rfl
  | connecting => exact held c
  | reconnecting => exact held c
  | reconnected => exact held c
  | needAuth => exact held c
  | authenticating => exact held c

theorem core_submitBytes (c : Station σ) (purpose : Purpose) (bytes : Except Error Bytes) :
    (c.submitBytes purpose bytes).2.session.core = c.session.core := by
  cases bytes with
  | ok bytes => exact core_submit c _
  | error e => rfl

end Station

namespace SessionState

theorem isLive_eq_false (s : SessionState) (h : s.isAttempting = true) : s.isLive = false := by
  cases s <;> first | rfl | cases h

theorem isAttempting_eq_false (s : SessionState) (h : s.isLive = true) :
    s.isAttempting = false := by
  cases s <;> first | rfl | cases h

end SessionState

/-- No connection is watched and no probe is under way. -/
def Heartbeat.Stopped (h : Heartbeat) : Prop := h.running = false ∧ h.probe = none

theorem Heartbeat.stopped_stop (h : Heartbeat) : h.stop.Stopped := ⟨rfl, rfl⟩

namespace Session

/-! ## The four phases -/

/-- Nothing will happen without a caller: never connected, torn down, or rejected. -/
structure Resting (s : Session) : Prop where
  state : s.state = .idle ∨ s.state = .disconnected ∨
    s.state = .error ∧ ∃ reason, s.lastError = some (.auth reason)
  transport : s.transport = none
  timers : s.timers = .idle
  heartbeat : s.heartbeat.Stopped
  queue : s.queue = []
  requests : s.requests.pending = []

/-- The last attempt failed and the next one is scheduled. -/
structure Waiting (s : Session) : Prop where
  state : s.state = .error
  transport : s.transport = none
  timers : ∃ deadline, s.timers = { retry := some ⟨.retry, deadline, s.generation⟩ }
  heartbeat : s.heartbeat.Stopped

/-- A transport is opening. -/
structure Attempting (s : Session) : Prop where
  state : s.state.isAttempting = true
  transport : s.transport = some s.connectionId
  timers : ∃ deadline, s.timers = { connect := some ⟨.connectTimeout, deadline, s.generation⟩ }
  heartbeat : s.heartbeat.Stopped

/-- A transport is open and watched, and neither an attempt nor a retry is timed. -/
structure Open (s : Session) : Prop where
  state : s.state.isLive = true
  transport : s.transport = some s.connectionId
  connect : s.timers.connect = none
  retry : s.timers.retry = none
  running : s.heartbeat.running = true

/-- A transport is open and the next probe is scheduled. -/
structure Live (s : Session) : Prop extends Open s where
  tick : ∃ deadline, s.timers.heartbeat = some ⟨.heartbeat, deadline, s.generation⟩

/-- The phases of a session between two calls. -/
inductive InPhase (s : Session) : Prop where
  | resting (h : Resting s)
  | waiting (h : Waiting s)
  | attempting (h : Attempting s)
  | live (h : Live s)

variable {s t : Session}

theorem Waiting.of_core (h : Waiting s) (e : t.core = s.core) : Waiting t := by
  have hs : Waiting s.core := ⟨h.state, h.transport, h.timers, h.heartbeat⟩
  rw [← e] at hs
  exact ⟨hs.state, hs.transport, hs.timers, hs.heartbeat⟩

theorem Attempting.of_core (h : Attempting s) (e : t.core = s.core) : Attempting t := by
  have hs : Attempting s.core := ⟨h.state, h.transport, h.timers, h.heartbeat⟩
  rw [← e] at hs
  exact ⟨hs.state, hs.transport, hs.timers, hs.heartbeat⟩

theorem Open.of_core (h : Open s) (e : t.core = s.core) : Open t := by
  have hs : Open s.core := ⟨h.state, h.transport, h.connect, h.retry, h.running⟩
  rw [← e] at hs
  exact ⟨hs.state, hs.transport, hs.connect, hs.retry, hs.running⟩

theorem Live.of_core (h : Live s) (e : t.core = s.core) : Live t := by
  have hs : Live s.core := ⟨⟨h.state, h.transport, h.connect, h.retry, h.running⟩, h.tick⟩
  rw [← e] at hs
  exact ⟨⟨hs.state, hs.transport, hs.connect, hs.retry, hs.running⟩, hs.tick⟩

theorem Waiting.with_requests (h : Waiting s) (r : Requests) :
    Waiting { s with requests := r } :=
  ⟨h.state, h.transport, h.timers, h.heartbeat⟩

theorem Attempting.with_requests (h : Attempting s) (r : Requests) :
    Attempting { s with requests := r } :=
  ⟨h.state, h.transport, h.timers, h.heartbeat⟩

theorem Live.with_requests (h : Live s) (r : Requests) : Live { s with requests := r } :=
  ⟨⟨h.state, h.transport, h.connect, h.retry, h.running⟩, h.tick⟩

/-- Every phase but rest lets requests come and go. -/
theorem InPhase.with_requests (h : InPhase s) (r : Requests)
    (rest : Resting s → r.pending = []) : InPhase { s with requests := r } := by
  cases h with
  | resting h =>
    exact .resting ⟨h.state, h.transport, h.timers, h.heartbeat, h.queue, rest h⟩
  | waiting h => exact .waiting (h.with_requests r)
  | attempting h => exact .attempting (h.with_requests r)
  | live h => exact .live (h.with_requests r)

theorem inPhase_create (key : String) (target : Target) (config : SessionConfig)
    (generation serial : Nat) (mark : String) :
    InPhase (create key target config generation serial mark) :=
  .resting ⟨.inl rfl, rfl, rfl, ⟨rfl, rfl⟩, rfl, rfl⟩

theorem InPhase.drained (h : InPhase s) : InPhase s.drained := by
  cases h with
  | resting h =>
    exact .resting ⟨h.state, h.transport, h.timers, h.heartbeat, h.queue, h.requests⟩
  | waiting h => exact .waiting (h.of_core rfl)
  | attempting h => exact .attempting (h.of_core rfl)
  | live h => exact .live (h.of_core rfl)

/-! ## The phase that a state tells -/

theorem Resting.isAttempting_eq (h : Resting s) : s.state.isAttempting = false := by
  rcases h.state with e | e | ⟨e, -⟩ <;> rw [e] <;> rfl

theorem Resting.isLive_eq (h : Resting s) : s.state.isLive = false := by
  rcases h.state with e | e | ⟨e, -⟩ <;> rw [e] <;> rfl

theorem Waiting.isAttempting_eq (h : Waiting s) : s.state.isAttempting = false := by
  rw [h.state]; rfl

theorem Waiting.isLive_eq (h : Waiting s) : s.state.isLive = false := by
  rw [h.state]; rfl

theorem Open.isAttempting_eq (h : Open s) : s.state.isAttempting = false :=
  s.state.isAttempting_eq_false h.state

theorem Attempting.isLive_eq (h : Attempting s) : s.state.isLive = false :=
  s.state.isLive_eq_false h.state

theorem InPhase.attempting_of (h : InPhase s) (state : s.state.isAttempting = true) :
    Attempting s := by
  cases h with
  | resting h => rw [h.isAttempting_eq] at state; cases state
  | waiting h => rw [h.isAttempting_eq] at state; cases state
  | attempting h => exact h
  | live h => rw [h.isAttempting_eq] at state; cases state

theorem InPhase.live_of (h : InPhase s) (state : s.state.isLive = true) : Live s := by
  cases h with
  | resting h => rw [h.isLive_eq] at state; cases state
  | waiting h => rw [h.isLive_eq] at state; cases state
  | attempting h => rw [h.isLive_eq] at state; cases state
  | live h => exact h

/-! ## What follows a failure -/

/-- With the transport let go, a failure leads to the wait for a retry or to rest. -/
theorem inPhase_retryOrGiveUp (state : s.state = .error) (transport : s.transport = none)
    (tick : s.timers.heartbeat = none) (connect : s.timers.connect = none)
    (heartbeat : s.heartbeat.Stopped) (now : Instant) (wall : UInt64) :
    InPhase (s.retryOrGiveUp now wall) := by
  unfold retryOrGiveUp
  dsimp only
  split
  · next delay _ =>
    refine .waiting ⟨state, transport, ⟨now + delay, ?_⟩, heartbeat⟩
    simp only [scheduleRetry, tick, connect]
  · rw [failRequests_eq, discardQueue_eq]
    exact .resting ⟨.inr (.inl rfl), transport, rfl, heartbeat, rfl, rfl⟩

end Session

end Switchboard
