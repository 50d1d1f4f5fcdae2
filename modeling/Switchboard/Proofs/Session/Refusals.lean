import Switchboard.Proofs.Session.Coherence
import Switchboard.Proofs.Session.Flow
/-!
# Refusals

A frame that a caller hands in is refused for one of three reasons (`Refusal`): it cannot be
written, no connection is there or under way, or nothing is held back and the transport does not
take it. Whoever is refused finds the session as it was before (`run_refusals`). The id of a request
is used up all the same, so that no two requests that were ever written bear the same one.

When something is held back, a transport that takes nothing is no reason: the frame joins the
others.
-/

namespace Switchboard

open Session (InPhase)

variable {σ : Type} [Environment σ]

/-- Why a frame is refused: the bytes of the frame if it could be written, the error that the caller
gets, and the world afterwards. -/
inductive Refusal (c : Station σ) : Except Error Bytes → Error → σ → Prop where
  /-- The header cannot be written. -/
  | unwritten (e : Error) : Refusal c (.error e) e c.world
  /-- There is no connection to wait for. -/
  | closed {bytes : Bytes} (state : c.session.state = .idle ∨ c.session.state = .disconnected ∨
      c.session.state = .error ∧ c.session.retryScheduled = false) :
    Refusal c (.ok bytes) .connectionClosed c.world
  /-- The frame would be the next one to go, and the transport does not take it. -/
  | untaken {bytes : Bytes} {id : ConnectionId} {e : Error} {world : σ}
      (state : c.session.state = .connected) (queue : c.session.queue = [])
      (transport : c.session.transport = some id)
      (answer : Environment.deliver c.world id bytes = (.error e, world)) :
    Refusal c (.ok bytes) e world

/-- What a call uses up whether its frame is taken or not. -/
def Call.spend : Call → Session → Session
  | .request .., s => s.advanced
  | _, s => s

namespace Call

theorem spend_eq (call : Call) (s : Session) : ∃ r, call.spend s = { s with requests := r } := by
  cases call <;> exact ⟨_, rfl⟩

theorem inPhase_spend {s : Session} (h : InPhase s) (call : Call) : InPhase (call.spend s) := by
  cases call with
  | request code header payload now => exact h.with_requests _ Session.Resting.requests
  | _ => exact h

end Call

namespace Refusal

variable {c : Station σ} {bytes : Except Error Bytes} {e : Error} {world : σ}

/-- Whether a frame is refused depends on little of the session. -/
theorem congr {s t : Session} {now : σ} (state : t.state = s.state) (timers : t.timers = s.timers)
    (queue : t.queue = s.queue) (transport : t.transport = s.transport)
    (h : Refusal ⟨s, now⟩ bytes e world) : Refusal ⟨t, now⟩ bytes e world := by
  cases h with
  | unwritten => exact .unwritten e
  | closed closed =>
    refine .closed ?_
    dsimp only [Session.retryScheduled] at closed ⊢
    rwa [state, timers]
  | untaken connected empty held answer =>
    exact .untaken (state.trans connected) (queue.trans empty) (transport.trans held) answer

theorem modify_spend_iff (call : Call) :
    Refusal (c.modify call.spend) bytes e world ↔ Refusal c bytes e world := by
  cases call with
  | request code header payload now =>
    exact ⟨congr rfl rfl rfl rfl, congr rfl rfl rfl rfl⟩
  | _ => rfl

end Refusal

namespace Station

variable {c : Station σ} {packet : Packet} {e : Error} {world : σ}

theorem submit_of_refusal (h : Refusal c (.ok packet.bytes) e world) :
    c.submit packet = (.error e, { c with world }) := by
  unfold submit
  cases h with
  | closed state =>
    rcases state with state | state | ⟨state, unscheduled⟩
    · simp only [state]
    · simp only [state]
    · simp only [state, unscheduled, Bool.false_eq_true, if_false]
  | untaken state queue transport answer =>
    simp only [state, queue, List.isEmpty_nil, if_true, sendDirect, transport, answer]

/-- The states that follow others at once are ruled out by the phase, and so is an open connection
without a transport. -/
theorem refusal_of_submit (phase : InPhase c.session) (h : (c.submit packet).1 = .error e) :
    ∃ world, Refusal c (.ok packet.bytes) e world := by
  have coherent := Coherent.of_inPhase phase
  unfold submit at h
  cases state : c.session.state with
  | connected =>
    have live := phase.live_of (by rw [state]; rfl)
    rw [state] at h
    dsimp only at h
    split at h
    · next empty =>
      rcases answer : Environment.deliver c.world c.session.connectionId packet.bytes with
        ⟨e' | ⟨⟨⟩⟩, world⟩
      · simp only [sendDirect, live.transport, answer] at h
        cases h
        exact ⟨world, .untaken state (List.isEmpty_iff.mp empty) live.transport answer⟩
      · simp only [sendDirect, live.transport, answer] at h
        cases h
    · cases h
  | error =>
    rw [state] at h
    dsimp only at h
    split at h
    · cases h
    · next unscheduled =>
      cases h
      exact ⟨c.world, .closed (.inr (.inr ⟨state, Bool.not_eq_true _ ▸ unscheduled⟩))⟩
  | idle =>
    rw [state] at h
    cases h
    exact ⟨c.world, .closed (.inl state)⟩
  | disconnected =>
    rw [state] at h
    cases h
    exact ⟨c.world, .closed (.inr (.inl state))⟩
  | disconnecting => exact absurd state coherent.transient.2
  | connecting | reconnecting | reconnected | needAuth | authenticating =>
    rw [state] at h
    cases h

variable {purpose : Purpose} {bytes : Except Error Bytes}

theorem submitBytes_of_refusal (h : Refusal c bytes e world) :
    c.submitBytes purpose bytes = (.error e, { c with world }) := by
  cases bytes with
  | ok written => exact submit_of_refusal h
  | error e' =>
    cases h
    rfl

theorem submitBytes_eq_error_iff (phase : InPhase c.session) :
    (c.submitBytes purpose bytes).1 = .error e ↔ ∃ world, Refusal c bytes e world := by
  constructor
  · intro refused
    cases bytes with
    | ok written => exact refusal_of_submit phase refused
    | error e' =>
      cases refused
      exact ⟨c.world, .unwritten e⟩
  · rintro ⟨world, refusal⟩
    rw [submitBytes_of_refusal refusal]

end Station

namespace Moment

/-- The bytes of the frame that a call hands in, or why it cannot be written. -/
def written? (m : Moment σ) : Option (Except Error Bytes) :=
  match m.call with
  | .send code header payload => some (Frame.encodeSerialized code header payload)
  | .sendMessage message payload => some (message.encode payload)
  | .request code header payload _ =>
    some (Station.requestBytes m.before.session.requests.nextId code header payload)
  | _ => none

/-- A call is refused for the reasons that there are and for no other one, and then nothing has
happened. -/
structure Refuses (m : Moment σ) (bytes : Except Error Bytes) : Prop where
  exact : ∀ e, m.answer = .error e ↔ ∃ world, Refusal m.before bytes e world
  /-- The session is what it was, but for the number that a request uses up. -/
  unchanged : ∀ e, m.answer = .error e → m.after.session = m.call.spend m.before.session
  /-- Nothing was asked of the world but to take a frame, which it did not. -/
  world : ∀ e world, Refusal m.before bytes e world → m.after.world = world
  silent : ∀ e, m.answer = .error e → m.acts = []

variable {m : Moment σ} {bytes : Except Error Bytes}

/-- A call hands in a frame: what it answers and what it asks of the world, and if the frame is
refused all that it does, is what becomes of these bytes. -/
structure HandsIn (m : Moment σ) (purpose : Purpose) (bytes : Except Error Bytes) : Prop where
  submission : m.submission? = bytes.toOption.map (Packet.mk purpose)
  answer : ∃ name : Unit → Option String,
    m.answer = ((m.before.modify m.call.spend).submitBytes purpose bytes).1.map name
  failed : ∀ e, ((m.before.modify m.call.spend).submitBytes purpose bytes).1 = .error e →
    m.after = ((m.before.modify m.call.spend).submitBytes purpose bytes).2
  world : m.after.world = ((m.before.modify m.call.spend).submitBytes purpose bytes).2.world
  alike : Alike ((m.before.modify m.call.spend).submitBytes purpose bytes).2.session m.after.session

theorem handsIn_of_written (h : m.written? = some bytes) : ∃ purpose, m.HandsIn purpose bytes := by
  obtain ⟨c, call⟩ := m
  cases call with
  | send code header payload =>
    cases h
    exact ⟨.submission, rfl, ⟨_, rfl⟩, fun _ _ => rfl, rfl, .refl _⟩
  | sendMessage message payload =>
    cases h
    exact ⟨.submission, rfl, ⟨_, rfl⟩, fun _ _ => rfl, rfl, .refl _⟩
  | request code header payload now =>
    cases h
    obtain ⟨answer, alike⟩ := Station.request_submits c code header payload now
    refine ⟨.request c.session.requests.nextId, rfl, ⟨_, answer⟩, fun e refused => ?_, ?_, alike⟩
    · exact congrArg Prod.snd (Station.request_of_error c refused now)
    · rcases result : (c.requestSubmission code header payload).1 with e | ⟨⟨⟩⟩
      · exact congrArg (·.2.world) (Station.request_of_error c result now)
      · exact congrArg (·.2.world) (Station.request_of_ok c result now)
  | _ => cases h

theorem refuses (phase : InPhase m.before.session) (h : m.written? = some bytes) :
    m.Refuses bytes := by
  obtain ⟨purpose, hands⟩ := handsIn_of_written h
  obtain ⟨name, answer⟩ := hands.answer
  have spent : InPhase (m.before.modify m.call.spend).session := Call.inPhase_spend phase m.call
  have refused (e : Error) : m.answer = .error e ↔
      ((m.before.modify m.call.spend).submitBytes purpose bytes).1 = .error e := by
    rw [answer]
    cases ((m.before.modify m.call.spend).submitBytes purpose bytes).1 <;> simp [Except.map]
  have exact (e : Error) : m.answer = .error e ↔ ∃ world, Refusal m.before bytes e world := by
    rw [refused, Station.submitBytes_eq_error_iff spent]
    exact exists_congr fun world => Refusal.modify_spend_iff m.call
  have left {e : Error} {world : σ} (refusal : Refusal m.before bytes e world) :
      m.after = { m.before.modify m.call.spend with world } := by
    have result : (m.before.modify m.call.spend).submitBytes purpose bytes = _ :=
      Station.submitBytes_of_refusal ((Refusal.modify_spend_iff m.call).mpr refusal)
    rw [hands.failed e (congrArg Prod.fst result), result]
  have unchanged (e : Error) (failed : m.answer = .error e) :
      m.after.session = m.call.spend m.before.session := by
    obtain ⟨world, refusal⟩ := (exact e).mp failed
    rw [left refusal]
    rfl
  refine ⟨exact, unchanged, fun e world refusal => by rw [left refusal], fun e failed => ?_⟩
  obtain ⟨r, spent⟩ := m.call.spend_eq m.before.session
  apply acts_eq
  rw [unchanged e failed, spent, List.append_nil]

end Moment

/-- Whatever was called before and whatever the transports answered: a frame is refused for exactly
the reasons that there are, and a refusal leaves the session as it was. -/
theorem run_refusals {key : String} {target : Target} {config : SessionConfig}
    {generation serial : Nat} {mark : String} {ms : List (Moment σ)} {c : Station σ}
    (h : Run (.create key target config generation serial mark) ms c) {call : Call}
    {bytes : Except Error Bytes} (handed : (⟨c, call⟩ : Moment σ).written? = some bytes) :
    (⟨c, call⟩ : Moment σ).Refuses bytes :=
  Moment.refuses h.inPhase handed

/-- The connection is open, nothing is held back and the transport takes nothing any more: the
request fails with what the transport says, and the next one will have the number after it. -/
theorem run_refusals_untaken :
    ∃ (ms : List (Moment ScriptedNetwork)) (c : Station ScriptedNetwork) (bytes : Bytes),
      Run (.create "k" default {} 0 1 "s0000001") ms c ∧
        (⟨c, .request 3 [] none ⟨5⟩⟩ : Moment ScriptedNetwork).answer =
          .error (.transport "mock send failure") ∧
        (⟨c, .request 3 [] none ⟨5⟩⟩ : Moment ScriptedNetwork).after.session.requests.next = 2 ∧
        (⟨c, .request 3 [] none ⟨5⟩⟩ : Moment ScriptedNetwork).Refuses (.ok bytes) :=
  have begun : Run (.create "k" default {} 0 1 "s0000001") [] ⟨_, ({} : ScriptedNetwork)⟩ :=
    .begin _
  have opened := (begun.call (.connect ⟨0⟩)).call (.handleEvent ⟨"k", 1⟩ .opened ⟨0⟩)
  have run := opened.world { refuseFrames := true }
  ⟨_, _, _, run, rfl, rfl, run_refusals run rfl⟩

end Switchboard
