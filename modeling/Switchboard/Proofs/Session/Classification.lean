import Switchboard.Proofs.Session.Coherence
import Switchboard.Proofs.Session.Strides
/-!
# The classes of strides

What a stride is to the failures of its session. It goes on as before, it begins an attempt, it
fails, it connects, it rejects the credentials, or it ends the session at a caller's wish, and every
stride does one of these (`Stride.classify`). What failures are counted, and what error is
remembered, follows from the class alone.

A peer that rejects credentials is the one way in which a frame ends anything, so a session that
hears another one goes on (`Station.goesOn_or_rejected_hear`).
-/

namespace Switchboard

/-- The error says that a session will not become usable. -/
def Error.isFinal : Error → Bool
  | auth _ | reconnectExhausted _ => true
  | _ => false

/-- The act tells of a transport that was refused. -/
def Act.refuses : Act → Bool
  | .dialled _ _ false => true
  | _ => false

/-- The step of the exchange of credentials that bytes are. -/
def authPhase? (bytes : Bytes) : Option AuthPhase :=
  match (Frame.decode bytes).toOption.bind fun frame => (Message.ofFrame frame).toOption.join with
  | some (.authenticate header) => some header.phase
  | _ => none

theorem authPhase?_of_read {bytes : Bytes} {frame : Frame} {header : AuthHeader}
    (decodes : Frame.decode bytes = .ok frame)
    (read : (Message.ofFrame frame).toOption.join = some (.authenticate header)) :
    authPhase? bytes = some header.phase := by
  have message : ((Frame.decode bytes).toOption.bind fun frame =>
      (Message.ofFrame frame).toOption.join) = some (.authenticate header) := by
    rw [decodes]
    exact read
  unfold authPhase?
  rw [message]

theorem authPhase?_eq_some {bytes : Bytes} {phase : AuthPhase} (h : authPhase? bytes = some phase) :
    ∃ frame header, Frame.decode bytes = .ok frame ∧
      (Message.ofFrame frame).toOption.join = some (.authenticate header) ∧
      header.phase = phase := by
  unfold authPhase? at h
  split at h
  · next header read =>
    obtain ⟨frame, decodes, message⟩ := Option.bind_eq_some_iff.mp read
    refine ⟨frame, header, ?_, message, Option.some.inj h⟩
    cases decoded : Frame.decode bytes with
    | error e => rw [decoded] at decodes; cases decodes
    | ok other => rw [decoded] at decodes; cases decodes; rfl
  · cases h

/-- The peer rejects the credentials of a session, with these words. -/
def Rejection (s : Session) (call : Call) (reason : String) : Prop :=
  s.state = .authenticating ∧ ∃ bytes now words,
    call = .handleEvent s.connectionId (.frame bytes) now ∧
      authPhase? bytes = some (.failure words) ∧ reason = words.getD "credentials rejected"

section Classification

open Session (Resting)

variable {σ : Type} [Environment σ]

namespace Stride

/-- An attempt or a connection fails: a transport is refused, it is reported lost, it does not open
in time, or it leaves a probe unanswered. -/
def fails (s : Stride σ) : Bool :=
  let found := s.before.session
  match s.leg with
  | .whole (.connect _) | .timer .retry _ => s.acts.any Act.refuses
  | .whole (.handleEvent id (.failed _) _) | .whole (.handleEvent id .closed _) =>
    decide (id = found.connectionId) && (found.state.isAttempting || found.state.isLive)
  | .timer .connectTimeout now =>
    (found.timers.connect.due? now found.generation).isSome && found.state.isAttempting
  | .timer .heartbeat now =>
    (found.timers.heartbeat.due? now found.generation).isSome && found.state.isLive &&
      found.heartbeat.probe.isSome
  | _ => false

/-- The peer rejects the credentials that it was given. -/
def rejects (s : Stride σ) : Bool :=
  match s.leg with
  | .whole (.handleEvent id (.frame bytes) _) =>
    match authPhase? bytes with
    | some (.failure _) =>
      decide (id = s.before.session.connectionId ∧ s.before.session.state = .authenticating)
    | _ => false
  | _ => false

/-- A caller starts or ends the session, the transport opens, or the credentials are rejected. -/
def restarts (s : Stride σ) : Bool :=
  let found := s.before.session
  match s.leg with
  | .whole (.connect _) => found.state.canConnect
  | .whole .disconnect | .whole .close => found.state.canDisconnect
  | .whole (.handleEvent id .opened _) =>
    decide (id = found.connectionId) && found.state.isAttempting
  | _ => s.rejects

variable {s : Stride σ} {now : Instant}

/-- An attempt of a caller fails if its transport is refused, -/
theorem fails_of_connect (asked : s.leg = .whole (.connect now)) :
    s.fails = s.acts.any Act.refuses := by
  unfold fails
  rw [asked]

/-- and so does an attempt that was scheduled. -/
theorem fails_of_retry (ticks : s.leg = .timer .retry now) :
    s.fails = s.acts.any Act.refuses := by
  unfold fails
  rw [ticks]

omit [Environment σ] in
theorem restarts_of_timer {kind : TimerKind} (ticks : s.leg = .timer kind now) :
    s.restarts = false := by
  unfold restarts rejects
  rw [ticks]

end Stride

namespace TimerSlot

variable {slot : TimerSlot} {now : Instant}

theorem isArmed_of_due {generation : Nat} (h : (slot.due? now generation).isSome = true) :
    slot.isArmed = true := by
  cases slot with
  | none => cases h
  | some task => rfl

theorem isArmed_of_afterTake (h : (slot.afterTake now).isArmed = true) : slot.isArmed = true := by
  unfold afterTake at h
  split at h
  · cases h
  · exact h

end TimerSlot

/-! ## Going on -/

namespace Session

/-- Nothing fails and nothing begins: the state stays, or an open connection stays open, no attempt
is counted, no error is remembered, and no retry is scheduled. -/
structure GoesOn (s t : Session) : Prop where
  state : t.state = s.state ∨ s.state.isLive = true ∧ t.state.isLive = true
  policy : t.policy = s.policy
  lastError : t.lastError = s.lastError
  armed : t.timers.retry.isArmed = true → s.timers.retry.isArmed = true

namespace GoesOn

variable {s t u : Session}

theorem refl (s : Session) : GoesOn s s := ⟨.inl rfl, rfl, rfl, id⟩

theorem trans (h : GoesOn s t) (k : GoesOn t u) : GoesOn s u where
  state := by
    rcases h.state with same | ⟨found, live⟩ <;> rcases k.state with sameToo | ⟨foundToo, liveToo⟩
    · exact .inl (sameToo.trans same)
    · exact .inr ⟨same ▸ foundToo, liveToo⟩
    · exact .inr ⟨found, sameToo ▸ live⟩
    · exact .inr ⟨found, liveToo⟩
  policy := k.policy.trans h.policy
  lastError := k.lastError.trans h.lastError
  armed := h.armed ∘ k.armed

/-- Sending is part of it. -/
theorem of_core (core : t.core = s.core) : GoesOn s t where
  state := .inl (congrArg Session.state core :)
  policy := (congrArg Session.policy core :)
  lastError := (congrArg Session.lastError core :)
  armed := fun armed => (congrArg (fun s => s.timers.retry) core :) ▸ armed

/-- From one state of an open connection to another. -/
theorem of_enter (found : s.state.isLive = true) {state : SessionState}
    (live : state.isLive = true) (wall : UInt64) : GoesOn s (s.enter state none wall) :=
  ⟨.inr ⟨found, live⟩, rfl, rfl, id⟩

theorem scheduleTick (h : GoesOn s t) (now : Instant) : GoesOn s (t.scheduleTick now) :=
  h.trans ⟨.inl rfl, rfl, rfl, id⟩

end GoesOn

theorem goesOn_complete (s : Session) (frame : Frame) : GoesOn s (s.complete frame) := by
  unfold complete
  split
  · exact .refl s
  · split
    · exact .refl s
    · split <;> exact ⟨.inl rfl, rfl, rfl, id⟩

theorem goesOn_expireRequests (s : Session) (now : Instant) : GoesOn s (s.expireRequests now) := by
  rw [expireRequests_eq_foldl]
  exact ⟨.inl rfl, rfl, rfl, id⟩

end Session

open Session (GoesOn)

/-- The classes of strides. -/
inductive Stride.Class (s : Stride σ) : Prop
  | calm (fails : s.fails = false) (restarts : s.restarts = false)
      (h : GoesOn s.before.session s.after.session)
  /-- A caller begins an attempt. It fails if the transport is refused. -/
  | connects {b : Station σ} {now : Instant} (asked : s.leg = .whole (.connect now))
      (restarts : s.restarts = true) (after : s.after = b.beginAttempt .connecting now)
      (journal : b.session.journal = s.before.session.journal)
      (policy : b.session.policy = s.before.session.policy.reset)
      (lastError : b.session.lastError = none)
  /-- The time of the next attempt has come. -/
  | retries {b : Station σ} {state : SessionState} {now : Instant}
      (ticks : s.leg = .timer .retry now) (after : s.after = b.beginAttempt state now)
      (attempts : state.isAttempting = true)
      (journal : b.session.journal = s.before.session.journal)
      (armed : s.before.session.timers.retry.isArmed = true)
      (policy : b.session.policy = s.before.session.policy)
      (lastError : b.session.lastError = s.before.session.lastError)
  /-- An attempt or a connection fails. -/
  | fails {b : Station σ} {e : Error} {now : Instant} (instant : s.leg.now? = some now)
      (fails : s.fails = true) (restarts : s.restarts = false)
      (after : s.after = b.failAttempt e now) (plain : e.isFinal = false)
      (found : s.before.session.state.isAttempting = true ∨ s.before.session.state.isLive = true)
      (policy : b.session.policy = s.before.session.policy)
  /-- The transport of an attempt opens. -/
  | opens {now : Instant}
      (reports : s.leg = .whole (.handleEvent s.before.session.connectionId .opened now))
      (fails : s.fails = false) (restarts : s.restarts = true)
      (state : s.after.session.state = .connected)
      (policy : s.after.session.policy = s.before.session.policy.reset)
      (lastError : s.after.session.lastError = none)
  | rejected {reason : String} (rejection : Rejection s.before.session s.leg.cause reason)
      (fails : s.fails = false) (rejects : s.rejects = true)
      (rest : Resting s.after.session)
      (policy : s.after.session.policy = s.before.session.policy)
      (lastError : s.after.session.lastError = some (.auth reason))
  /-- A caller ends the session. -/
  | tornDown (asked : s.leg = .whole .disconnect ∨ s.leg = .whole .close)
      (fails : s.fails = false) (restarts : s.restarts = true)
      (policy : s.after.session.policy = s.before.session.policy.reset)
      (lastError : s.after.session.lastError = s.before.session.lastError)

namespace Stride

/-- What changes nothing goes on. -/
theorem class_of_still {s : Stride σ} (fails : s.fails = false) (restarts : s.restarts = false)
    (still : s.after = s.before) : s.Class :=
  .calm fails restarts (still ▸ .refl _)

end Stride

namespace Station

open Stride (Class class_of_still)

variable {c : Station σ}

/-! ## Callers -/

theorem class_connect (c : Station σ) (now : Instant) : Class ⟨c, .whole (.connect now)⟩ := by
  by_cases able : c.session.state.canConnect = true
  · exact .connects rfl able (if_pos able) rfl rfl rfl
  · have still : Stride.after ⟨c, .whole (.connect now)⟩ = c := if_neg able
    refine class_of_still ?_ (Bool.eq_false_iff.mpr able) still
    dsimp only [Stride.fails]
    rw [Stride.acts_of_still still]
    rfl

/-- A teardown gives back the whole budget and remembers what went wrong before. -/
theorem ends_disconnect (able : c.session.state.canDisconnect = true) :
    c.disconnect.session.policy = c.session.policy.reset ∧
      c.disconnect.session.lastError = c.session.lastError := by
  unfold disconnect
  rw [if_pos able]
  dsimp only [modify, enter, stopConnection]
  rw [Session.unplug_eq, Session.failRequests_eq, Session.discardQueue_eq]
  dsimp only [Session.cancelTimers, Session.enter, Session.note]
  split
  · have core := core_sendAnyway (c.enter .disconnecting none) .farewell
      (Frame.encodeHeader MessageKind.disconnect.code
        (farewellHeader (c.enter .disconnecting none).session) none)
    exact ⟨congrArg RetryPolicy.reset (congrArg Session.policy core :),
      (congrArg Session.lastError core :)⟩
  · exact ⟨rfl, rfl⟩

theorem class_disconnect (c : Station σ) : Class ⟨c, .whole .disconnect⟩ := by
  by_cases able : c.session.state.canDisconnect = true
  · obtain ⟨policy, lastError⟩ := ends_disconnect able
    exact .tornDown (.inl rfl) rfl able policy lastError
  · exact class_of_still rfl (Bool.eq_false_iff.mpr able) (if_neg able)

theorem class_close (c : Station σ) : Class ⟨c, .whole .close⟩ := by
  by_cases able : c.session.state.canDisconnect = true
  · have same : Stride.after ⟨c, .whole .close⟩ = c.disconnect := if_pos able
    obtain ⟨policy, lastError⟩ := ends_disconnect able
    rw [← same] at policy lastError
    exact .tornDown (.inr rfl) rfl able policy lastError
  · have stopped : Stride.after ⟨c, .whole .close⟩ =
        (c.modify Session.cancelTimers).stopConnection := if_neg able
    refine .calm rfl (Bool.eq_false_iff.mpr able) ?_
    rw [stopped]
    dsimp only [modify, stopConnection]
    rw [Session.unplug_eq]
    exact ⟨.inl rfl, rfl, rfl, nofun⟩

theorem class_authenticate (c : Station σ) (credentials : Json) :
    Class ⟨c, .whole (.authenticate credentials)⟩ := by
  refine .calm rfl rfl ?_
  show GoesOn c.session (c.authenticate credentials).session
  unfold authenticate
  split
  · next asked =>
    have entered : GoesOn c.session (c.enter .authenticating none).session :=
      .of_enter (by rw [asked]; rfl) rfl _
    exact entered.trans (.of_core (core_sendAnyway _ _ _))
  · exact .refl _

theorem class_request (c : Station σ) (code : UInt8) (header : Header) (payload : Option Bytes)
    (now : Instant) : Class ⟨c, .whole (.request code header payload now)⟩ := by
  have advanced : GoesOn c.session c.session.advanced := ⟨.inl rfl, rfl, rfl, id⟩
  have submitted : GoesOn c.session (c.requestSubmission code header payload).2.session :=
    advanced.trans (.of_core (core_submitBytes (c.modify Session.advanced) _ _))
  refine .calm rfl rfl ?_
  show GoesOn c.session (c.request code header payload now).2.session
  rcases result : (c.requestSubmission code header payload).1 with e | ⟨⟨⟩⟩
  · rw [request_of_error c result]
    exact submitted
  · rw [request_of_ok c result]
    exact submitted.trans ⟨.inl rfl, rfl, rfl, id⟩

/-! ## Reports and frames -/

theorem class_opened (c : Station σ) (id : ConnectionId) (now : Instant) :
    Class ⟨c, .whole (.handleEvent id .opened now)⟩ := by
  by_cases accepted : id = c.session.connectionId ∧ c.session.state.isAttempting = true
  · have own : Leg.whole (.handleEvent id .opened now) =
        .whole (.handleEvent c.session.connectionId .opened now) := by rw [accepted.1]
    have opened : Stride.after ⟨c, .whole (.handleEvent id .opened now)⟩ =
        (c.modify fun s => s.recordOpened now (Environment.wallClock c.world)).flushQueue := by
      dsimp only [Stride.after, go, perform]
      unfold handleEvent
      rw [if_pos accepted.1]
      exact if_pos accepted.2
    have recorded (s : Session) (wall : UInt64) : (s.recordOpened now wall).state = .connected ∧
        (s.recordOpened now wall).policy = s.policy.reset ∧
        (s.recordOpened now wall).lastError = none := by
      unfold Session.recordOpened
      dsimp only
      split <;> exact ⟨rfl, rfl, rfl⟩
    obtain ⟨state, policy, lastError⟩ := recorded c.session (Environment.wallClock c.world)
    have core := core_flushQueue
      (c.modify fun s => s.recordOpened now (Environment.wallClock c.world))
    rw [← opened] at core
    refine .opens own rfl (by simp [Stride.restarts, accepted]) ?_ ?_ ?_
    · exact (congrArg Session.state core :).trans state
    · exact (congrArg Session.policy core :).trans policy
    · exact (congrArg Session.lastError core :).trans lastError
  · refine class_of_still rfl (by simpa [Stride.restarts] using accepted) ?_
    dsimp only [Stride.after, go, perform]
    unfold handleEvent
    split
    · next own => exact if_neg fun attempts => accepted ⟨own, attempts⟩
    · rfl

/-- A report of a loss, whatever its reason. -/
theorem class_lost {id : ConnectionId} {event : TransportEvent} {now : Instant} {reason : String}
    (fails : Stride.fails ⟨c, .whole (.handleEvent id event now)⟩ =
      (decide (id = c.session.connectionId) &&
        (c.session.state.isAttempting || c.session.state.isLive)))
    (continues : Stride.restarts ⟨c, .whole (.handleEvent id event now)⟩ = false)
    (lost : c.handleEvent id event now =
      if id = c.session.connectionId then c.lost reason now else c) :
    Class ⟨c, .whole (.handleEvent id event now)⟩ := by
  by_cases own : id = c.session.connectionId
  · rw [if_pos own] at lost
    by_cases attempts : c.session.state.isAttempting = true
    · refine .fails rfl ?_ continues (lost.trans (if_pos attempts)) rfl (.inl attempts) rfl
      rw [fails, attempts]
      simpa using own
    · by_cases live : c.session.state.isLive = true
      · refine .fails rfl ?_ continues ((lost.trans (if_neg attempts)).trans (if_pos live)) rfl
          (.inr live) rfl
        rw [fails, live]
        simpa using own
      · refine class_of_still ?_ continues ((lost.trans (if_neg attempts)).trans (if_neg live))
        rw [fails]
        simp [attempts, live]
  · refine class_of_still ?_ continues (lost.trans (if_neg own))
    rw [fails]
    simp [own]

theorem goesOn_attend (c : Station σ) (frame : Frame) (now : Instant) :
    GoesOn c.session (c.attend frame now).session := by
  have step := c.attend_step frame now
  generalize c.attend frame now = d at step ⊢
  cases step with
  | ignored => exact .refl _
  | answered => exact .of_core (core_sendAnyway _ _ _)
  | assigned => exact ⟨.inl rfl, rfl, rfl, id⟩
  | ponged =>
    dsimp only [modify, Session.recordPong]
    split <;> exact ⟨.inl rfl, rfl, rfl, id⟩

/-- The credentials are rejected, with these words. -/
structure Rejected (c d : Station σ) (words : Option String) : Prop where
  waiting : c.session.state = .authenticating
  rest : Resting d.session
  policy : d.session.policy = c.session.policy
  lastError : d.session.lastError = some (.auth (words.getD "credentials rejected"))

/-- A step of the exchange of credentials rejects them if they are waited for, or goes on. -/
inductive Answered (c d : Station σ) (phase : AuthPhase) : Prop
  | goesOn (h : GoesOn c.session d.session)
      (early : ∀ words, phase = .failure words → c.session.state ≠ .authenticating)
  | rejected {words : Option String} (failure : phase = .failure words) (h : Rejected c d words)

theorem answered_negotiate (c : Station σ) (phase : AuthPhase) :
    Answered c (c.negotiate phase) phase := by
  have step := c.negotiate_step phase
  generalize c.negotiate phase = d at step ⊢
  cases step with
  | ignored early => exact .goesOn (.refl _) early
  | parked connected => exact .goesOn (.of_enter (by rw [connected]; rfl) rfl _) nofun
  | given connected =>
    have entered : GoesOn c.session (c.enter .authenticating none).session :=
      .of_enter (by rw [connected]; rfl) rfl _
    exact .goesOn (entered.trans (.of_core (core_sendAnyway _ _ _))) nofun
  | accepted waiting =>
    have entered : GoesOn c.session (c.enter .connected none).session :=
      .of_enter (by rw [waiting]; rfl) rfl _
    exact .goesOn (entered.trans (.of_core (core_flushQueue _))) nofun
  | rejected waiting =>
    refine .rejected rfl ⟨waiting, resting_failAuth c _, ?_, ?_⟩
    all_goals
      unfold failAuth
      dsimp only [modify, enter, stopConnection]
      rw [Session.failRequests_eq, Session.unplug_eq, Session.discardQueue_eq]
      rfl

/-- Nothing is outstanding at rest that a frame could answer. -/
theorem resting_complete {s : Session} (h : Resting s) (frame : Frame) :
    Resting (s.complete frame) := by
  unfold Session.complete
  split
  · exact h
  · split
    · exact h
    · split
      · next pending => simp [Requests.contains, KeyMap.contains, h.requests] at pending
      · exact h

/-- A frame that is heard goes on, unless it is a step of the exchange that rejects. -/
theorem answered_hear (c : Station σ) (frame : Frame) (now : Instant) :
    (GoesOn c.session (c.hear frame now).session ∧ ∀ header,
        (Message.ofFrame frame).toOption.join ≠ some (.authenticate header)) ∨
      ∃ header, (Message.ofFrame frame).toOption.join = some (.authenticate header) ∧
        Answered c (c.hear frame now) header.phase := by
  obtain ⟨heard, hears⟩ : ∃ d, d = c.modify fun s =>
    s.note (.heard ⟨frame, (Message.ofFrame frame).toOption.join⟩) := ⟨_, rfl⟩
  have noted : GoesOn c.session heard.session := hears ▸ ⟨.inl rfl, rfl, rfl, id⟩
  have state : c.session.state = heard.session.state := by rw [hears]; rfl
  have completed {d : Station σ} (goes : GoesOn heard.session d.session) :
      GoesOn c.session (d.session.complete frame) :=
    noted.trans (goes.trans (d.session.goesOn_complete frame))
  unfold hear
  dsimp only
  rw [← hears]
  cases read : (Message.ofFrame frame).toOption.join with
  | none => exact .inl ⟨completed (goesOn_attend heard frame now), nofun⟩
  | some message =>
    cases message with
    | authenticate header =>
      rw [attend_of_authenticate read]
      refine .inr ⟨header, rfl, ?_⟩
      cases answered_negotiate heard header.phase with
      | goesOn goes early => exact .goesOn (completed goes) (state ▸ early)
      | rejected failure rejected =>
        have settled := Session.goesOn_complete (heard.negotiate header.phase).session frame
        exact .rejected failure ⟨state.trans rejected.waiting, resting_complete rejected.rest frame,
          settled.policy.trans (rejected.policy.trans noted.policy),
          settled.lastError.trans rejected.lastError⟩
    | _ => exact .inl ⟨completed (goesOn_attend heard frame now), nofun⟩

theorem class_frame (c : Station σ) (id : ConnectionId) (bytes : Bytes) (now : Instant) :
    Class ⟨c, .whole (.handleEvent id (.frame bytes) now)⟩ := by
  -- A frame that is no rejection does not start anything anew.
  have continues (other : ∀ words, authPhase? bytes = some (.failure words) →
      ¬ (id = c.session.connectionId ∧ c.session.state = .authenticating)) :
      Stride.restarts ⟨c, .whole (.handleEvent id (.frame bytes) now)⟩ = false := by
    dsimp only [Stride.restarts, Stride.rejects]
    split
    · next words phase => exact decide_eq_false (other words phase)
    · rfl
  by_cases heard : id = c.session.connectionId ∧ c.session.state.isLive = true
  · obtain ⟨rfl, live⟩ := heard
    have arrived : GoesOn c.session
        (c.session.recordArrival bytes (Environment.wallClock c.world)) := ⟨.inl rfl, rfl, rfl, id⟩
    cases decodes : Frame.decode bytes with
    | error e =>
      refine .calm rfl (continues fun words phase => ?_) ?_
      · obtain ⟨frame, header, decoded, -⟩ := authPhase?_eq_some phase
        cases decodes.symm.trans decoded
      · show GoesOn c.session (c.handleEvent _ _ now).session
        rw [handleEvent_garbled live decodes now]
        exact ⟨.inl rfl, rfl, rfl, id⟩
    | ok frame =>
      have after :
          Stride.after ⟨c, .whole (.handleEvent c.session.connectionId (.frame bytes) now)⟩ =
            (c.modify fun s => s.recordArrival bytes (Environment.wallClock c.world)).hear
              frame now :=
        handleEvent_heard live decodes now
      rcases answered_hear (c.modify fun s => s.recordArrival bytes
        (Environment.wallClock c.world)) frame now with ⟨goes, other⟩ | ⟨header, read, answered⟩
      · refine .calm rfl (continues fun words phase => ?_) ?_
        · obtain ⟨same, header, decoded, read, -⟩ := authPhase?_eq_some phase
          cases decodes.symm.trans decoded
          exact absurd read (other header)
        · rw [after]
          exact arrived.trans goes
      · have phase := authPhase?_of_read decodes read
        cases answered with
        | goesOn goes early =>
          refine .calm rfl (continues fun words failure waiting => ?_) ?_
          · exact early words (Option.some.inj (phase.symm.trans failure)) waiting.2
          · rw [after]
            exact arrived.trans goes
        | rejected failure rejected =>
          rw [failure] at phase
          have rejects : Stride.rejects
              ⟨c, .whole (.handleEvent c.session.connectionId (.frame bytes) now)⟩ = true := by
            dsimp only [Stride.rejects]
            rw [phase]
            exact decide_eq_true ⟨rfl, rejected.waiting⟩
          rw [← after] at rejected
          exact .rejected ⟨rejected.waiting, bytes, now, _, rfl, phase, rfl⟩ rfl rejects
            rejected.rest rejected.policy rejected.lastError
  · refine class_of_still rfl (continues fun words phase waiting => heard ⟨waiting.1, ?_⟩)
      (handleEvent_unheard heard now)
    rw [waiting.2]
    rfl

theorem class_handleEvent (c : Station σ) (id : ConnectionId) (event : TransportEvent)
    (now : Instant) : Class ⟨c, .whole (.handleEvent id event now)⟩ := by
  cases event with
  | opened => exact class_opened c id now
  | frame bytes => exact class_frame c id bytes now
  | failed reason => exact class_lost rfl rfl rfl
  | closed => exact class_lost rfl rfl rfl

/-! ## Timers -/

theorem class_pollConnect (c : Station σ) (now : Instant) :
    Class ⟨c, .timer .connectTimeout now⟩ := by
  have after := c.pollConnect_eq now
  by_cases due : (c.session.timers.connect.due? now c.session.generation).isSome ∧
      c.session.state.isAttempting
  · rw [if_pos due] at after
    exact .fails rfl (by simpa [Stride.fails] using due) rfl after rfl (.inl due.2) rfl
  · rw [if_neg due] at after
    refine .calm (by simpa [Stride.fails] using due) rfl ?_
    show GoesOn c.session (c.pollConnect now).session
    rw [after]
    exact ⟨.inl rfl, rfl, rfl, id⟩

/-- A tick that sends the next probe goes on. -/
theorem goesOn_heartbeatTick (live : c.session.state.isLive = true)
    (idle : c.session.heartbeat.probe = none) (now : Instant) :
    GoesOn c.session (c.heartbeatTick now).session := by
  have probing : GoesOn c.session ((c.session.expireRequests now).probing
      (Environment.wallClock c.world) now) :=
    (c.session.goesOn_expireRequests now).trans ⟨.inl rfl, rfl, rfl, id⟩
  rw [heartbeatTick_of_answer c live idle]
  exact GoesOn.scheduleTick (probing.trans (.of_core (core_sendAnyway _ _ _))) now

theorem class_pollHeartbeat (c : Station σ) (now : Instant) :
    Class ⟨c, .timer .heartbeat now⟩ := by
  have after := c.pollHeartbeat_eq now
  have taken : GoesOn c.session (c.session.tickTaken now) := ⟨.inl rfl, rfl, rfl, id⟩
  by_cases due : (c.session.timers.heartbeat.due? now c.session.generation).isSome = true
  · rw [if_pos due] at after
    by_cases live : c.session.state.isLive = true
    · cases probe : c.session.heartbeat.probe with
      | some stale =>
        rw [heartbeatTick_of_silence (c.modify fun s => s.tickTaken now) live probe] at after
        refine .fails rfl ?_ rfl after rfl (.inr live)
          (Session.goesOn_expireRequests (c.session.tickTaken now) now).policy
        simp [Stride.fails, due, live, probe]
      | none =>
        refine .calm (by simp [Stride.fails, probe]) rfl ?_
        show GoesOn c.session (c.pollHeartbeat now).session
        rw [after]
        exact taken.trans (goesOn_heartbeatTick (c := c.modify fun s => s.tickTaken now) live
          probe now)
    · have dead : heartbeatTick (c.modify fun s => s.tickTaken now) now =
          c.modify fun s => s.tickTaken now := if_neg live
      refine .calm (by simp [Stride.fails, live]) rfl ?_
      show GoesOn c.session (c.pollHeartbeat now).session
      rw [after, dead]
      exact taken
  · rw [if_neg due] at after
    refine .calm (by simp [Stride.fails, due]) rfl ?_
    show GoesOn c.session (c.pollHeartbeat now).session
    rw [after]
    exact taken

theorem class_pollRetry (c : Station σ) (now : Instant) : Class ⟨c, .timer .retry now⟩ := by
  have after := c.pollRetry_eq now
  by_cases due : (c.session.timers.retry.due? now c.session.generation).isSome ∧
      c.session.state = .error
  · rw [if_pos due] at after
    exact .retries rfl after (by split <;> rfl) rfl (TimerSlot.isArmed_of_due due.1) rfl rfl
  · rw [if_neg due] at after
    have taken : Stride.after ⟨c, .timer .retry now⟩ = c.modify fun s => s.retryTaken now := after
    have quiet : Stride.acts ⟨c, .timer .retry now⟩ = [] :=
      Stride.acts_eq (by rw [taken]; exact (List.append_nil _).symm)
    refine .calm ?_ rfl ?_
    · dsimp only [Stride.fails]
      rw [quiet]
      rfl
    · rw [taken]
      exact ⟨.inl rfl, rfl, rfl, TimerSlot.isArmed_of_afterTake⟩

end Station

/-- Every stride is of one of the classes. -/
theorem Stride.classify {s : Stride σ} (single : s.leg.IsSingle) : s.Class := by
  obtain ⟨c, leg⟩ := s
  cases leg with
  | timer kind now =>
    cases kind with
    | connectTimeout => exact Station.class_pollConnect c now
    | heartbeat => exact Station.class_pollHeartbeat c now
    | retry => exact Station.class_pollRetry c now
  | whole call =>
    cases call with
    | connect now => exact Station.class_connect c now
    | disconnect => exact Station.class_disconnect c
    | close => exact Station.class_close c
    | authenticate credentials => exact Station.class_authenticate c credentials
    | send code header payload => exact .calm rfl rfl (.of_core (Station.core_submitBytes _ _ _))
    | sendMessage message payload => exact .calm rfl rfl (.of_core (Station.core_submitBytes _ _ _))
    | request code header payload now => exact Station.class_request c code header payload now
    | handleEvent id event now => exact Station.class_handleEvent c id event now
    | pollTimers now => exact single.elim

namespace Stride

variable {s : Stride σ}

omit [Environment σ] in
/-- A rejection comes in a frame of the transport that is held. -/
theorem leg_of_rejects (h : s.rejects = true) : ∃ bytes now,
    s.leg = .whole (.handleEvent s.before.session.connectionId (.frame bytes) now) := by
  unfold rejects at h
  split at h
  · next id bytes now brings =>
    split at h
    · rw [(of_decide_eq_true h).1] at brings
      exact ⟨bytes, now, brings⟩
    · cases h
  · cases h

/-- A session whose credentials are rejected comes to rest. -/
theorem resting_of_rejects (h : s.rejects = true) : Resting s.after.session := by
  obtain ⟨bytes, now, brings⟩ := leg_of_rejects h
  have single : s.leg.IsSingle := by
    rw [brings]
    trivial
  have anew : s.restarts = true := by
    unfold restarts
    rw [brings]
    exact h
  cases s.classify single with
  | rejected _ _ _ rest => exact rest
  | calm _ restarts => cases anew.symm.trans restarts
  | fails _ _ restarts => cases anew.symm.trans restarts
  | connects asked => cases brings.symm.trans asked
  | retries ticks => cases brings.symm.trans ticks
  | opens reports => cases brings.symm.trans reports
  | tornDown asked => rcases asked with asked | asked <;> cases brings.symm.trans asked

end Stride

end Classification

end Switchboard
