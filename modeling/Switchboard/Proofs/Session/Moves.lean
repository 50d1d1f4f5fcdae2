import Switchboard.Proofs.Session.Edits
/-!
# What a call does to a session and to its world

A `Move` is an edit of a session together with what the world is asked for by it. Most edits ask
nothing (`Session.Silent`). The others dial, hand a frame over or hang up, each with the answer that
the world gives; and a world that refuses a frame may change while the session does not.

Every call is a sequence of moves (`Station.moves_perform`). That a call is a sequence of edits,
with the acts that the journal tells of, follows (`Moment.edits`).
-/

namespace Switchboard

/-- The act asks something of the world. -/
def Act.asks : Act → Bool
  | .dialled .. | .hungUp _ | .delivered .. => true
  | _ => false

namespace Message

theorem exists_of_map {α : Type} {f : α → Message} {message : Message}
    {x : Except Json.Mismatch α} (h : f <$> x = .ok message) : ∃ a, f a = message := by
  cases x with
  | error mismatch => cases h
  | ok a => exact ⟨a, Except.ok.inj h⟩

/-- A header is narrowed to a step of the exchange of credentials only in a frame of that kind. -/
theorem kind?_of_authenticate {frame : Frame} {header : AuthHeader}
    (h : (ofFrame frame).toOption.join = some (.authenticate header)) :
    frame.kind? = some .authenticate := by
  unfold ofFrame at h
  split at h
  · cases h
  · next kind found =>
    rw [found]
    cases narrowed : read kind frame.header with
    | error mismatch =>
      rw [ofHeader, narrowed] at h
      cases h
    | ok message =>
      rw [ofHeader, narrowed] at h
      cases h
      -- Only one kind is read by the constructor in question.
      unfold read at narrowed
      split at narrowed
      case h_3 => rfl
      case h_11 =>
        split at narrowed
        · obtain ⟨fields, other⟩ := exists_of_map narrowed
          cases other
        · cases narrowed
      all_goals
        obtain ⟨fields, other⟩ := exists_of_map narrowed
        cases other

end Message

namespace Session

/-! ## Steps that ask nothing -/

/-- The journal grew by acts that ask nothing. -/
abbrev Silent : Session → Session → Prop := Adds fun act => act.asks = false

theorem silent_enter (s : Session) (state : SessionState) (error : Option Error)
    (wall : UInt64) : Silent s (s.enter state error wall) :=
  .of_note rfl rfl

theorem silent_failRequests (s : Session) : Silent s s.failRequests :=
  s.adds_failRequests fun _ => rfl

theorem silent_discardQueue (s : Session) : Silent s s.discardQueue :=
  s.adds_discardQueue fun _ => rfl

/-- Frames leave at once only while the connection is live. -/
theorem Permits.isLive {s : Session} {cause : Call} {purpose : Purpose}
    (h : s.Permits cause purpose) : s.state.isLive = true := by
  cases purpose with
  | submission => rw [h.2.1]; rfl
  | request => rw [h.2.1]; rfl
  | ping => exact h.1
  | pong => exact h
  | credentials => cases h
  | farewell => cases h

/-- When a call may offer a frame to the transport: it may hand it over at once, or the frame is the
next of those held back. -/
def Offers (s : Session) (cause : Call) (packet : Packet) : Prop :=
  packet.Genuine ∧ s.Permits cause packet.purpose ∨
    s.state = .connected ∧ ∃ rest, s.queue = packet :: rest

theorem Offers.isLive {s : Session} {cause : Call} {packet : Packet}
    (h : s.Offers cause packet) : s.state.isLive = true := by
  rcases h with ⟨-, permitted⟩ | ⟨connected, -⟩
  · exact permitted.isLive
  · rw [connected]
    rfl

end Session

namespace Station

open Session (Edit Edits)

variable {σ : Type} [Environment σ] {cause : Call}

/-- The elementary changes that a call can make to a session and to its world at once. -/
inductive Move (cause : Call) : Station σ → Station σ → Prop where
  /-- The session changes and asks nothing. -/
  | alone {s t : Session} (world : σ) (edit : Edit cause s t) (silent : s.Silent t) :
      Move cause ⟨s, world⟩ ⟨t, world⟩
  | dial {c : Station σ} {world : σ} (now : Instant) (state : c.session.state.isAttempting = true)
      (free : c.session.transport = none) (asked : cause.Attempts)
      (answer : Environment.dial c.world c.session.target c.session.connectionId = (.ok (), world)) :
      Move cause c
        ⟨(c.session.note (.dialled c.session.connectionId c.session.target true)).plug now, world⟩
  | refuse {c : Station σ} {world : σ} {e : Error} (state : c.session.state.isAttempting = true)
      (free : c.session.transport = none) (asked : cause.Attempts)
      (answer : Environment.dial c.world c.session.target c.session.connectionId =
        (.error e, world)) :
      Move cause c
        ⟨c.session.note (.dialled c.session.connectionId c.session.target false), world⟩
  | hangUp {c : Station σ} {id : ConnectionId} (held : c.session.transport = some id) :
      Move cause c ⟨c.session.unplug, Environment.hangUp c.world id⟩
  | hand {c : Station σ} {id : ConnectionId} {packet : Packet} {world : σ}
      (held : c.session.transport = some id) (permitted : c.session.Permits cause packet.purpose)
      (genuine : packet.Genuine)
      (answer : Environment.deliver c.world id packet.bytes = (.ok (), world)) :
      Move cause c ⟨c.session.recordDelivery id packet (Environment.wallClock world), world⟩
  | flush {c : Station σ} {id : ConnectionId} {packet : Packet} {rest : List Packet} {world : σ}
      (held : c.session.transport = some id) (state : c.session.state = .connected)
      (queue : c.session.queue = packet :: rest) (flushes : cause.Flushes)
      (answer : Environment.deliver c.world id packet.bytes = (.ok (), world)) :
      Move cause c ⟨{ c.session.recordDelivery id packet (Environment.wallClock world) with
        queue := rest }, world⟩
  | announce {c : Station σ} {id : ConnectionId} {state : SessionState} {packet : Packet} {world : σ}
      (turns : c.session.state.turnsTo state = true)
      (prompted : Prompted cause c.session.connectionId c.session.lastPhase? c.session.state state)
      (live : c.session.state.isLive = true) (held : c.session.transport = some id)
      (due : state.announces? = some packet.purpose) (genuine : packet.Genuine)
      (asked : cause.Enters state)
      (answer : Environment.deliver c.world id packet.bytes = (.ok (), world)) :
      Move cause c ⟨(c.enter state none).session.recordDelivery id packet
        (Environment.wallClock world), world⟩
  /-- A state is entered, and the frame that goes with it is refused. -/
  | announceInVain {c : Station σ} {id : ConnectionId} {state : SessionState} {packet : Packet}
      {world : σ} {e : Error} (turns : c.session.state.turnsTo state = true)
      (prompted : Prompted cause c.session.connectionId c.session.lastPhase? c.session.state state)
      (live : c.session.state.isLive = true)
      (held : c.session.transport = some id) (due : state.announces? = some packet.purpose)
      (genuine : packet.Genuine) (asked : cause.Enters state)
      (answer : Environment.deliver c.world id packet.bytes = (.error e, world)) :
      Move cause c ⟨(c.enter state none).session, world⟩
  /-- A frame is refused. -/
  | lose {c : Station σ} {id : ConnectionId} {packet : Packet} {world : σ} {e : Error}
      (held : c.session.transport = some id) (offers : c.session.Offers cause packet)
      (answer : Environment.deliver c.world id packet.bytes = (.error e, world)) :
      Move cause c { c with world }

/-- Some moves of a call, in a row. -/
abbrev Moves (cause : Call) : Station σ → Station σ → Prop := Relation.ReflTransGen (Move cause)

variable {c d : Station σ}

theorem Move.edits (h : Move cause c d) : Edits cause c.session d.session := by
  cases h with
  | alone _ edit => exact .single edit
  | dial now state free asked => exact .single (.dial now state free asked)
  | refuse state free asked => exact .single (.refuse state free asked)
  | hangUp => exact .single (.unplug _)
  | hand held permitted genuine => exact .single (.hand _ held permitted genuine)
  | flush held state queue flushes => exact .single (.flush _ held state queue flushes)
  | announce turns prompted live held due genuine asked =>
    exact .single (.announce _ turns prompted live held due genuine asked)
  | announceInVain turns prompted live held due genuine asked =>
    have idle := SessionState.isAttempting_of_announces due
    refine .single (.enter turns ?_ ?_ prompted asked)
    · rintro rfl
      cases due
    · rw [idle]
      nofun
  | lose => exact .refl

theorem Moves.edits (h : Moves cause c d) : Edits cause c.session d.session := by
  induction h with
  | refl => exact .refl
  | tail _ move ih => exact ih.trans move.edits

/-- Edits that ask nothing on the whole are moves that leave the world alone. -/
theorem Moves.alone {s t : Session} (edits : Edits cause s t) (silent : s.Silent t) (world : σ) :
    Moves cause ⟨s, world⟩ ⟨t, world⟩ := by
  induction edits with
  | refl => exact .refl
  | tail earlier edit ih =>
    have last : Edits cause _ _ := .single edit
    obtain ⟨before, after⟩ :=
      silent.split (Session.Edits.journal_prefix earlier) (Session.Edits.journal_prefix last)
    exact (ih before).tail (.alone world edit after)

/-- A silent edit alone. -/
theorem Moves.of_edit {s t : Session} (edit : Edit cause s t) (silent : s.Silent t) (world : σ) :
    Moves cause ⟨s, world⟩ ⟨t, world⟩ :=
  .single (.alone world edit silent)

theorem moves_timers (c : Station σ) (timers : Timers) :
    Moves cause c (c.modify fun s => { s with timers }) :=
  .alone (Session.edits_timers _ _) (.of_eq rfl) _

/-- A change of state that carries no failure. -/
theorem moves_enter {state : SessionState} (turns : c.session.state.turnsTo state = true)
    (again : state = .reconnecting → c.session.hasConnected = true)
    (free : state.isAttempting = true → c.session.transport = none)
    (prompted : Prompted cause c.session.connectionId c.session.lastPhase? c.session.state state)
    (asked : cause.Enters state) : Moves cause c (c.enter state none) :=
  .of_edit (.enter turns again free prompted asked) (Session.silent_enter _ _ _ _) _

/-! ## Sending -/

theorem moves_sendDirect {packet : Packet}
    (permitted : c.session.Permits cause packet.purpose) (genuine : packet.Genuine) :
    Moves cause c (c.sendDirect packet).2 := by
  unfold sendDirect
  split
  · exact .refl
  · next id held =>
    split
    · next e world answer => exact .single (.lose held (.inl ⟨genuine, permitted⟩) answer)
    · next world answer => exact .single (.hand held permitted genuine answer)

theorem moves_sendAnyway (c : Station σ) (purpose : Purpose)
    (permitted : c.session.Permits cause purpose) (bytes : Except Error Bytes)
    (genuine : ∀ written, bytes = .ok written → Packet.Genuine ⟨purpose, written⟩) :
    Moves cause c (c.sendAnyway purpose bytes) := by
  cases bytes with
  | error e => exact .refl
  | ok written => exact moves_sendDirect permitted (genuine written rfl)

/-- A live connection enters a state and hands over the frame that goes with it, unless nobody takes
the frame. -/
theorem moves_announce {state : SessionState} {purpose : Purpose}
    (turns : c.session.state.turnsTo state = true)
    (prompted : Prompted cause c.session.connectionId c.session.lastPhase? c.session.state state)
    (live : c.session.state.isLive = true) (due : state.announces? = some purpose)
    (asked : cause.Enters state) {bytes : Except Error Bytes}
    (genuine : ∀ written, bytes = .ok written → Packet.Genuine ⟨purpose, written⟩) :
    Moves cause c ((c.enter state none).sendAnyway purpose bytes) := by
  have idle := SessionState.isAttempting_of_announces due
  have entered : Moves cause c (c.enter state none) := by
    refine moves_enter turns ?_ ?_ prompted asked
    · rintro rfl
      cases due
    · rw [idle]
      nofun
  cases bytes with
  | error e => exact entered
  | ok written =>
    dsimp only [sendAnyway]
    unfold sendDirect
    split
    · exact entered
    · next id held =>
      have due : state.announces? = some (Packet.mk purpose written).purpose := due
      split
      · next e world answer =>
        exact .single (.announceInVain turns prompted live held due (genuine written rfl) asked
          answer)
      · next world answer =>
        exact .single (.announce turns prompted live held due (genuine written rfl) asked answer)

theorem moves_sendAll (flushes : cause.Flushes) (packets : List Packet) (c : Station σ)
    (state : c.session.state = .connected) :
    Moves cause (c.modify fun s => { s with queue := packets })
      ((sendAll packets c).2.modify fun s => { s with queue := (sendAll packets c).1 }) := by
  -- By induction on the frames to go: at every point the queue is what is left of them, although
  -- the model writes it back only at the end.
  induction packets generalizing c with
  | nil => exact .refl
  | cons packet rest ih =>
    unfold sendAll
    cases held : c.session.transport with
    | none =>
      have refused : c.sendDirect packet = (.error .connectionClosed, c) := by
        unfold sendDirect
        rw [held]
      rw [refused]
    | some id =>
      rcases answer : Environment.deliver c.world id packet.bytes with ⟨e | ⟨⟨⟩⟩, world⟩
      · have refused : c.sendDirect packet = (.error e, { c with world }) := by
          unfold sendDirect
          rw [held]
          simp only [answer]
        rw [refused]
        exact .single (.lose (c := c.modify fun s => { s with queue := packet :: rest }) held
          (.inr ⟨state, rest, rfl⟩) answer)
      · have taken : c.sendDirect packet = (.ok (),
            ⟨c.session.recordDelivery id packet (Environment.wallClock world), world⟩) := by
          unfold sendDirect
          rw [held]
          simp only [answer]
        rw [taken]
        refine .head ?_ (ih _ state)
        exact .flush (c := c.modify fun s => { s with queue := packet :: rest }) held state rfl
          flushes answer

theorem moves_flushQueue (flushes : cause.Flushes) (state : c.session.state = .connected) :
    Moves cause c c.flushQueue :=
  moves_sendAll flushes c.session.queue c state

theorem moves_submit (c : Station σ) (submission : cause.isSubmission = true) {packet : Packet}
    (submitted : packet.purpose.isSubmitted = true) : Moves cause c (c.submit packet).2 := by
  have held : Moves cause c (c.modify fun s => s.enqueue packet) :=
    .of_edit (.hold packet submission submitted) (Session.adds_enqueue _ _ fun _ => rfl) _
  have accepted (d : Station σ) : Moves cause d (d.modify fun s => s.note (.accepted packet)) :=
    .of_edit (.accept packet submission) (.of_note rfl rfl) _
  unfold submit
  cases state : c.session.state with
  | connected =>
    dsimp only
    split
    · next empty =>
      have sent : Moves cause c (c.sendDirect packet).2 := by
        refine moves_sendDirect ?_ (Packet.genuine_of_submitted submitted)
        have direct : cause.isSubmission = true ∧ c.session.state = .connected ∧
            c.session.queue = [] := ⟨submission, state, List.isEmpty_iff.mp empty⟩
        cases purpose : packet.purpose <;> rw [purpose] at submitted <;>
          first | exact direct | cases submitted
      split
      · next d h => rw [h] at sent; exact sent.trans (accepted d)
      · next d h => rw [h] at sent; exact sent
    · have still : (c.session.enqueue packet).state = .connected := by
        rw [Session.enqueue_eq]
        exact state
      have flushed : Moves cause _ _ :=
        moves_flushQueue (c := c.modify fun s => s.enqueue packet) (.inl submission) still
      exact (held.trans flushed).trans (accepted _)
  | error =>
    dsimp only
    split
    · exact held.trans (accepted _)
    · exact .refl
  | idle => exact .refl
  | disconnecting => exact .refl
  | disconnected => exact .refl
  | _ => exact held.trans (accepted _)

theorem moves_submitBytes (c : Station σ) (submission : cause.isSubmission = true)
    {purpose : Purpose} (submitted : purpose.isSubmitted = true) (bytes : Except Error Bytes) :
    Moves cause c (c.submitBytes purpose bytes).2 := by
  cases bytes with
  | ok bytes => exact moves_submit c submission submitted
  | error e => exact .refl

/-! ## The life of a connection -/

theorem moves_stopConnection (c : Station σ) : Moves cause c c.stopConnection := by
  unfold stopConnection
  cases held : c.session.transport with
  | none =>
    refine .of_edit (.unplug _) (.of_eq ?_) _
    rw [Session.unplug_eq, held]
    exact List.append_nil _
  | some id => exact .single (.hangUp held)

theorem moves_failAttempt (apart : ¬ cause.Flushes)
    (state : c.session.state.isAttempting = true ∨ c.session.state.isLive = true) (error : Error)
    (now : Instant) : Moves cause c (c.failAttempt error now) := by
  have settled : Moves cause c
      (if c.session.state.isLive then c.modify Session.failRequests else c) := by
    split
    · exact .of_edit (.settleAll _ apart) (Session.silent_failRequests _) _
    · exact .refl
  have same : (if c.session.state.isLive then c.modify Session.failRequests else c).session.state =
      c.session.state := by
    split
    · dsimp only [modify]
      rw [Session.failRequests_eq]
    · rfl
  unfold failAttempt
  refine (settled.trans (moves_stopConnection _)).trans (Moves.alone ?_ ?_ _)
  · refine .head (.fail error ?_ apart) (Session.edits_retryOrGiveUp apart rfl now _)
    rw [Session.unplug_eq]
    dsimp only
    rwa [same]
  · exact (Session.silent_enter _ _ _ _).trans
      (Session.adds_retryOrGiveUp _ _ _ (fun _ => rfl) (fun _ => rfl) fun _ => rfl)

theorem moves_failAuth (apart : ¬ cause.Flushes) (state : c.session.state = .authenticating)
    (reason : String) :
    Moves cause c (c.failAuth reason) := by
  have settled : Moves cause c (c.modify Session.failRequests) :=
    .of_edit (.settleAll _ apart) (Session.silent_failRequests _) _
  have stopped := settled.trans (moves_stopConnection _)
  unfold failAuth
  refine (stopped.trans (moves_timers _ .idle)).trans
    (Moves.of_edit (.reject reason ?_ apart) ?_ _)
  · dsimp only [modify, stopConnection]
    rw [Session.unplug_eq, Session.failRequests_eq]
    exact state
  · exact (Session.silent_discardQueue _).trans (Session.silent_enter _ _ _ _)

theorem moves_beginAttempt (asked : cause.Attempts) {state : SessionState}
    (turns : c.session.state.turnsTo state = true) (attempts : state.isAttempting = true)
    (again : state = .reconnecting → c.session.hasConnected = true) (now : Instant) :
    Moves cause c (c.beginAttempt state now) := by
  have entered : Moves cause c (c.stopConnection.enter state none) := by
    refine (moves_stopConnection c).trans (moves_enter ?_ ?_ ?_ ?_ ?_)
    · dsimp only [stopConnection]
      rw [Session.unplug_eq]
      exact turns
    · dsimp only [stopConnection]
      rw [Session.unplug_eq]
      exact again
    · dsimp only [stopConnection]
      rw [Session.unplug_eq]
      exact fun _ => rfl
    · exact prompted_of_dead (state.isLive_eq_false attempts)
    · cases state <;> first | exact asked | cases attempts
  have free : (c.stopConnection.enter state none).session.transport = none := by
    dsimp only [stopConnection, modify]
    rw [Session.unplug_eq]
    rfl
  unfold beginAttempt
  dsimp only
  split
  · next world answer => exact entered.tail (.dial now attempts free asked answer)
  · next e world answer =>
    exact (entered.tail (.refuse attempts free asked answer)).trans
      (moves_failAttempt (c := ⟨_, world⟩) asked.not_flushes (.inl attempts) e now)

theorem moves_opened {now : Instant}
    (opens : cause = .handleEvent c.session.connectionId .opened now) :
    Moves cause c (c.opened now) := by
  unfold opened
  split
  · next attempts =>
    have recorded : Moves cause c
        (c.modify fun s => s.recordOpened now (Environment.wallClock c.world)) :=
      .alone (Session.edits_recordOpened attempts opens _)
        (Session.adds_recordOpened _ _ _ fun _ _ => rfl) _
    have connected (wall : UInt64) : (c.session.recordOpened now wall).state = .connected := by
      unfold Session.recordOpened
      rfl
    exact recorded.trans (moves_flushQueue (.inr (.inl ⟨_, now, opens⟩)) (connected _))
  · exact .refl

theorem moves_lost (apart : ¬ cause.Flushes) (c : Station σ) (reason : String) (now : Instant) :
    Moves cause c (c.lost reason now) := by
  unfold lost
  split
  · next attempts => exact moves_failAttempt apart (.inl attempts) _ now
  · split
    · next live => exact moves_failAttempt apart (.inr live) _ now
    · exact .refl

theorem moves_connect (c : Station σ) (now : Instant) :
    Moves (.connect now) c (c.connect now) := by
  unfold connect
  split
  · next able =>
    have prepared : Moves (.connect now) c (c.modify fun s =>
        { s.cancelRetry with policy := s.policy.reset, lastError := none }) :=
      .of_edit (.quiet c.session _ _ c.session.heartbeat none c.session.remoteId) (.of_eq rfl) _
    have turns : c.session.state.turnsTo .connecting = true := by
      cases state : c.session.state <;> rw [state] at able <;> first | rfl | cases able
    exact prepared.trans (moves_beginAttempt (c := c.modify fun s =>
      { s.cancelRetry with policy := s.policy.reset, lastError := none }) ⟨now, .inl rfl⟩ turns rfl
      nofun now)
  · exact .refl

theorem moves_tearDown (asked : cause.Ends)
    (state : c.session.state = .disconnecting) :
    Moves cause c ((c.stopConnection.modify fun s =>
      { s.cancelTimers.discardQueue.failRequests with
        policy := s.cancelTimers.discardQueue.failRequests.policy.reset }).enter
        .disconnected none) := by
  refine (moves_stopConnection c).trans (Moves.alone (Session.edits_tearDown asked ?_ _) ?_ _)
  · rw [Session.unplug_eq]
    exact state
  · have dropped : c.stopConnection.session.Silent
        c.stopConnection.session.cancelTimers.discardQueue.failRequests :=
      (Session.adds_drop c.stopConnection.session.cancelTimers (fun _ => rfl) fun _ => rfl).congr
        rfl rfl
    exact (dropped.trans (.of_eq rfl)).trans (Session.silent_enter _ _ _ _)

theorem moves_disconnect (asked : cause.Ends) (c : Station σ) :
    Moves cause c c.disconnect := by
  unfold disconnect
  split
  · next able =>
    have turns : c.session.state.turnsTo .disconnecting = true := by
      cases state : c.session.state <;> rw [state] at able <;> first | rfl | cases able
    dsimp only
    split
    · next live =>
      have left : Moves cause c ((c.enter .disconnecting none).sendAnyway .farewell
          (Frame.encodeHeader MessageKind.disconnect.code
            (farewellHeader (c.enter .disconnecting none).session) none)) :=
        moves_announce turns (prompted_of_dead rfl) live rfl asked fun _ written => ⟨_, written⟩
      exact left.trans (moves_tearDown asked (congrArg Session.state (core_sendAnyway _ _ _)))
    · exact (moves_enter turns nofun nofun (prompted_of_dead rfl) asked).trans
        (moves_tearDown asked rfl)
  · exact .refl

theorem moves_close (c : Station σ) : Moves .close c c.close := by
  unfold close
  split
  · exact moves_disconnect (.inr rfl) c
  · exact (moves_timers c .idle).trans (moves_stopConnection _)

/-! ## Frames that arrive -/

/-- Credentials go out on the way into the wait for the verdict. -/
theorem moves_giveCredentials (turns : c.session.state.turnsTo .authenticating = true)
    (live : c.session.state.isLive = true)
    (prompted : Prompted cause c.session.connectionId c.session.lastPhase? c.session.state
      .authenticating)
    (credentials : Json) :
    Moves cause c ((c.enter .authenticating none).sendCredentials credentials) :=
  moves_announce turns prompted live rfl (prompted.enters turns rfl) fun _ written =>
    ⟨_, _, written⟩

theorem moves_authenticate (c : Station σ) (credentials : Json) :
    Moves (.authenticate credentials) c (c.authenticate credentials) := by
  unfold authenticate
  split
  · next asked =>
    refine moves_giveCredentials (by rw [asked]; rfl) (by rw [asked]; rfl) ?_ credentials
    rw [asked]
    exact ⟨credentials, rfl⟩
  · exact .refl

theorem moves_attend (live : c.session.state.isLive = true) (frame : Frame) (now : Instant) :
    Moves cause c (c.attend frame now) := by
  have quiet (heartbeat : Heartbeat) (remoteId : Option String) :
      Edit cause c.session { c.session with heartbeat, remoteId } :=
    .quiet c.session _ _ heartbeat _ remoteId
  have step := c.attend_step frame now
  generalize c.attend frame now = d at step ⊢
  cases step with
  | ignored => exact .refl
  | answered => exact moves_sendAnyway c .pong live _ fun _ written => ⟨_, written⟩
  | ponged =>
    dsimp only [modify]
    unfold Session.recordPong
    split
    · next latency heartbeat _ =>
      exact .alone (.tail (.single (quiet heartbeat _)) (.latency _ latency)) (.of_eq rfl) _
    · next heartbeat _ => exact .of_edit (quiet heartbeat _) (.of_eq rfl) _
  | assigned _ id => exact .of_edit (quiet _ (some id)) (.of_eq rfl) _

theorem moves_negotiate {phase : AuthPhase} (heard : c.session.lastPhase? = some phase)
    (tells : cause.Tells c.session.connectionId phase) : Moves cause c (c.negotiate phase) := by
  have step := c.negotiate_step phase
  generalize c.negotiate phase = d at step ⊢
  cases step with
  | ignored => exact .refl
  | parked connected =>
    have turns : c.session.state.turnsTo .needAuth = true := by rw [connected]; rfl
    have prompted : Prompted cause c.session.connectionId c.session.lastPhase? c.session.state
        .needAuth := by
      rw [connected]
      exact ⟨_, heard, tells⟩
    exact moves_enter turns nofun nofun prompted (prompted.enters turns rfl)
  | given connected credentials =>
    have prompted : Prompted cause c.session.connectionId c.session.lastPhase? c.session.state
        .authenticating := by
      rw [connected]
      exact ⟨_, heard, tells⟩
    exact moves_giveCredentials (by rw [connected]; rfl) (by rw [connected]; rfl) prompted
      credentials
  | accepted waiting =>
    have turns : c.session.state.turnsTo .connected = true := by rw [waiting]; rfl
    have prompted : Prompted cause c.session.connectionId c.session.lastPhase? c.session.state
        .connected := by
      rw [waiting]
      exact ⟨heard, tells⟩
    have entered : Moves cause c (c.enter .connected none) :=
      moves_enter turns nofun nofun prompted (prompted.enters turns rfl)
    exact entered.trans (moves_flushQueue (.inr (.inr ⟨_, tells⟩)) rfl)
  | rejected waiting => exact moves_failAuth tells.not_flushes waiting _

/-- A frame that is a step of the exchange of credentials asks for nothing else. -/
theorem attend_of_authenticate {frame : Frame} {header : AuthHeader}
    (read : (Message.ofFrame frame).toOption.join = some (.authenticate header)) (c : Station σ)
    (now : Instant) : c.attend frame now = c := by
  have kind : frame.kind? = some .authenticate := Message.kind?_of_authenticate read
  unfold attend
  rw [kind]

/-- A frame that was just heard, and the exchange of credentials that it is a step of. -/
theorem moves_react (live : c.session.state.isLive = true) {bytes : Bytes} {frame : Frame}
    {now : Instant} (brings : cause = .handleEvent c.session.connectionId (.frame bytes) now)
    (decodes : Frame.decode bytes = .ok frame)
    (heard : c.session.journal.getLast? =
      some (.heard ⟨frame, (Message.ofFrame frame).toOption.join⟩)) :
    Moves cause c ((c.attend frame now).negotiateMessage (Message.ofFrame frame).toOption.join) := by
  unfold negotiateMessage
  split
  · next header read =>
    rw [attend_of_authenticate read]
    refine moves_negotiate ?_ ⟨bytes, now, frame, header, brings, decodes, read, rfl⟩
    rw [Session.lastPhase?, heard, read]
    rfl
  · exact moves_attend live frame now

theorem moves_receive {bytes : Bytes} {now : Instant}
    (brings : cause = .handleEvent c.session.connectionId (.frame bytes) now) :
    Moves cause c (c.receive bytes now) := by
  unfold receive
  split
  · next live =>
    dsimp only
    split
    · next frame decodes =>
      have heard : Moves cause c
          ((c.modify fun s => s.recordArrival bytes (Environment.wallClock c.world)).modify
            fun s => s.note (.heard ⟨frame, (Message.ofFrame frame).toOption.join⟩)) :=
        .of_edit (.hear _ ⟨now, brings⟩ decodes live) (.of_note rfl rfl) _
      have reacted : Moves cause _ _ := moves_react
        (c := (c.modify fun s => s.recordArrival bytes (Environment.wallClock c.world)).modify
          fun s => s.note (.heard ⟨frame, (Message.ofFrame frame).toOption.join⟩)) live brings
        decodes List.getLast?_concat
      exact (heard.trans reacted).trans
        (Moves.alone (Session.edits_complete ⟨_, now, brings⟩ decodes)
          (Session.adds_complete _ _ fun _ => rfl) _)
    · next garbled =>
      refine .of_edit (.misread (Environment.wallClock c.world) ⟨_, now, brings⟩
        (fun frame ok => ?_) live) (.of_eq rfl) _
      rw [ok] at garbled
      cases garbled
  · exact .refl

theorem moves_handleEvent (c : Station σ) (id : ConnectionId) (event : TransportEvent)
    (now : Instant) : Moves (.handleEvent id event now) c (c.handleEvent id event now) := by
  unfold handleEvent
  split
  · next own =>
    cases event with
    | opened => exact moves_opened (by rw [own])
    | frame bytes => exact moves_receive (by rw [own])
    | failed reason =>
      have apart : ¬ Call.Flushes (.handleEvent id (.failed reason) now) :=
        Call.not_flushes_of_loss nofun nofun
      exact moves_lost apart c reason now
    | closed =>
      have apart : ¬ Call.Flushes (.handleEvent id .closed now) :=
        Call.not_flushes_of_loss nofun nofun
      exact moves_lost apart c _ now
  · exact .refl

/-! ## Timers -/

/-- A poll leaves the frames held back alone. -/
theorem apart_of_tick {now : Instant} (tick : cause = .pollTimers now) : ¬ cause.Flushes := by
  rw [tick]
  exact Call.not_flushes_of_quiet rfl nofun

theorem moves_pollConnect (c : Station σ) (apart : ¬ cause.Flushes) (now : Instant) :
    Moves cause c (c.pollConnect now) := by
  have taken : Moves cause c (c.modify fun s => s.connectTaken now) := moves_timers _ _
  rw [pollConnect_eq]
  split
  · next due =>
    exact taken.trans
      (moves_failAttempt (c := c.modify fun s => s.connectTaken now) apart (.inl due.2) _ now)
  · exact taken

theorem moves_heartbeatTick {now : Instant} (tick : cause = .pollTimers now) :
    Moves cause c (c.heartbeatTick now) := by
  by_cases live : c.session.state.isLive = true
  · have expired : Moves cause c (c.modify fun s => s.expireRequests now) :=
      .of_edit (.expire now tick live) (Session.adds_expireRequests _ _ fun _ => rfl) _
    have still := Session.expireRequests_eq_foldl c.session now
    have liveStill : (c.session.expireRequests now).state.isLive = true := by
      rw [still]
      exact live
    cases probe : c.session.heartbeat.probe with
    | some stale =>
      rw [heartbeatTick_of_silence c live probe]
      have silenced : Moves cause c (c.modify fun s =>
          { (s.expireRequests now).advanced with heartbeat := s.heartbeat.stop }) :=
        expired.trans (Moves.alone (.tail (.single (.advance _))
          (.quiet _ _ _ c.session.heartbeat.stop _ _)) (.of_eq rfl) _)
      exact silenced.trans (moves_failAttempt (c := c.modify fun s =>
        { (s.expireRequests now).advanced with heartbeat := s.heartbeat.stop })
        (apart_of_tick tick) (.inr liveStill) _ now)
    | none =>
      rw [heartbeatTick_of_answer c live probe]
      have probing : Moves cause c (c.modify fun s =>
          (s.expireRequests now).probing (Environment.wallClock c.world) now) :=
        expired.trans (Moves.of_edit (.probe (Environment.wallClock c.world) now tick liveStill
          (by rw [still]; exact probe)) (.of_eq rfl) _)
      have sent : Moves cause _ _ :=
        moves_sendAnyway (c.modify fun s =>
          (s.expireRequests now).probing (Environment.wallClock c.world) now) .ping
          ⟨liveStill, now, tick⟩
          ((c.session.expireRequests now).probeBytes (Environment.wallClock c.world))
          fun _ written => ⟨_, written⟩
      exact (probing.trans sent).trans (moves_timers _ _)
  · unfold heartbeatTick
    rw [if_neg live]

theorem moves_pollHeartbeat {now : Instant} (tick : cause = .pollTimers now) :
    Moves cause c (c.pollHeartbeat now) := by
  have taken : Moves cause c (c.modify fun s => s.tickTaken now) := moves_timers _ _
  rw [pollHeartbeat_eq]
  split
  · exact taken.trans (moves_heartbeatTick tick)
  · exact taken

theorem moves_pollRetry (c : Station σ) (asked : cause.Attempts) (now : Instant) :
    Moves cause c (c.pollRetry now) := by
  have taken : Moves cause c (c.modify fun s => s.retryTaken now) := moves_timers _ _
  rw [pollRetry_eq]
  split
  · next due =>
    refine taken.trans (moves_beginAttempt (c := c.modify fun s => s.retryTaken now)
      asked ?_ ?_ ?_ now)
    · have failed : (c.session.retryTaken now).state = .error := due.2
      dsimp only [modify]
      rw [failed]
      split <;> rfl
    · split <;> rfl
    · intro again
      split at again
      · next connected => exact connected
      · cases again
  · exact taken

theorem moves_pollTimers (c : Station σ) (now : Instant) :
    Moves (.pollTimers now) c (c.pollTimers now) :=
  ((moves_pollConnect c (apart_of_tick rfl) now).trans (moves_pollHeartbeat rfl)).trans
    (moves_pollRetry _ ⟨now, .inr rfl⟩ now)

/-! ## Every call -/

/-- What a call does to a session and to its world is a sequence of moves, and at the end the entry
of the request that it may have taken. -/
theorem moves_perform (c : Station σ) (call : Call) :
    ∃ d, Moves call c d ∧
      (c.perform call).2 = d.modify fun s => s.entering call (c.perform call).1 := by
  cases call with
  | connect now => exact ⟨_, moves_connect c now, rfl⟩
  | disconnect => exact ⟨_, moves_disconnect (.inl rfl) c, rfl⟩
  | close => exact ⟨_, moves_close c, rfl⟩
  | authenticate credentials => exact ⟨_, moves_authenticate c credentials, rfl⟩
  | send code header payload => exact ⟨_, moves_submitBytes c rfl rfl _, rfl⟩
  | sendMessage message payload => exact ⟨_, moves_submitBytes c rfl rfl _, rfl⟩
  | request code header payload now =>
    have advanced : Moves (.request code header payload now) c (c.modify Session.advanced) :=
      .of_edit (.advance c.session) (.of_eq rfl) _
    have submitted : Moves (.request code header payload now) c
        (c.requestSubmission code header payload).2 :=
      advanced.trans (moves_submitBytes (c.modify Session.advanced) rfl rfl _)
    refine ⟨_, submitted, ?_⟩
    dsimp only [perform]
    rcases result : (c.requestSubmission code header payload).1 with e | ⟨⟨⟩⟩
    · rw [request_of_error c result]
      rfl
    · rw [request_of_ok c result]
      rfl
  | handleEvent id event now => exact ⟨_, moves_handleEvent c id event now, rfl⟩
  | pollTimers now => exact ⟨_, moves_pollTimers c now, rfl⟩

end Station

namespace Moment

variable {σ : Type} [Environment σ]

/-- What a call does, from the moment that it belongs to. -/
theorem moves (m : Moment σ) : ∃ d, Station.Moves m.call m.before d ∧
    d.session.journal = m.before.session.journal ++ m.acts ∧
    m.after = d.modify fun s => s.entering m.call m.answer := by
  obtain ⟨d, moves, after⟩ := Station.moves_perform m.before m.call
  obtain ⟨acts, added⟩ := moves.edits.journal_prefix
  refine ⟨d, moves, ?_, after⟩
  have journal : m.after.session.journal = m.before.session.journal ++ acts := by
    rw [added]
    exact (congrArg (fun c => c.session.journal) after).trans (d.session.journal_entering _ _)
  rw [acts_eq journal, added]

/-- What a call does to its session. -/
theorem edits (m : Moment σ) : ∃ s, Session.Edits m.call m.before.session s ∧
    s.journal = m.before.session.journal ++ m.acts ∧
    m.after.session = s.entering m.call m.answer := by
  obtain ⟨d, moves, journal, after⟩ := m.moves
  exact ⟨d.session, moves.edits, journal, congrArg Station.session after⟩

theorem journal (m : Moment σ) :
    m.after.session.journal = m.before.session.journal ++ m.acts := by
  obtain ⟨s, -, journal, after⟩ := m.edits
  rw [after, Session.journal_entering, journal]

theorem sameIdentity (m : Moment σ) :
    Session.SameIdentity m.before.session m.after.session := by
  obtain ⟨s, edits, -, after⟩ := m.edits
  rw [after]
  exact edits.sameIdentity.trans (s.sameIdentity_entering _ _)

end Moment

theorem Run.sameIdentity {σ : Type} [Environment σ] {start : Session} {ms : List (Moment σ)}
    {c : Station σ} (h : Run start ms c) : Session.SameIdentity start c.session := by
  induction h with
  | begin world => exact .refl start
  | call _ call ih => exact ih.trans (Moment.sameIdentity ⟨_, call⟩)
  | drain _ ih => exact ⟨ih.key, ih.target, ih.config, ih.serial, ih.mark⟩
  | world _ _ ih => exact ih

end Switchboard
