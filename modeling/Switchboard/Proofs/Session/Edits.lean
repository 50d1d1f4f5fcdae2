import Switchboard.Proofs.Session.Growth
import Mathlib.Logic.Relation
/-!
# What a call can do to a session

`Edit cause` lists the elementary changes that a call `cause` can make to a session, each with all
that holds whenever it is made: which state it is made in, which transport is held, which request is
outstanding, what the call must have brought. Every call is a sequence of such edits
(`Moment.edits`), apart from the entry of a new request among the outstanding ones at its end
(`Session.entering`).

Whatever is said of whole histories is proved once for each edit and follows for all calls.
-/

namespace Switchboard

/-- The moves of the state machine that carry no failure and count nothing. -/
def SessionState.turnsTo : SessionState → SessionState → Bool
  | .idle, .connecting | .disconnected, .connecting | .error, .connecting => true
  | .error, .reconnecting => true
  | .connected, .authenticating | .connected, .needAuth | .needAuth, .authenticating
  | .authenticating, .connected => true
  | .disconnecting, .disconnected => true
  | s, .disconnecting => s.canDisconnect
  | _, _ => false

/-- The call brings a frame. -/
def Call.Brings (call : Call) (bytes : Bytes) : Prop :=
  ∃ id now, call = .handleEvent id (.frame bytes) now

/-- The call hands in a frame to be sent. -/
def Call.isSubmission : Call → Bool
  | .send .. | .sendMessage .. | .request .. => true
  | _ => false

/-- The act neither ends a request nor opens or closes a transport. -/
def Act.tells : Act → Bool
  | .settled _ | .hungUp _ | .dialled _ _ true => false
  | _ => true

/-- The phase of the exchange of credentials that an act has heard. -/
def Act.phase? : Act → Option AuthPhase
  | heard ⟨_, some (.authenticate header)⟩ => some header.phase
  | _ => none

/-- The call brings a step of the exchange of credentials on a connection. -/
def Call.Tells (call : Call) (id : ConnectionId) (phase : AuthPhase) : Prop :=
  ∃ bytes now frame header, call = .handleEvent id (.frame bytes) now ∧
    Frame.decode bytes = .ok frame ∧
    (Message.ofFrame frame).toOption.join = some (.authenticate header) ∧ header.phase = phase

/-- The call may release the frames that are held back: it adds one to them, it reports the
transport open, or it tells that credentials are accepted. -/
def Call.Flushes (call : Call) : Prop :=
  call.isSubmission = true ∨ (∃ id now, call = .handleEvent id .opened now) ∨
    ∃ id, call.Tells id .success

/-- The call may begin an attempt. -/
def Call.Attempts (call : Call) : Prop := ∃ now, call = .connect now ∨ call = .pollTimers now

/-- The call tears the session down. -/
def Call.Ends (call : Call) : Prop := call = .disconnect ∨ call = .close

/-- The call may lead to a state where no failure does. To hand in a frame leads to none. -/
def Call.Enters (call : Call) : SessionState → Prop
  | .connecting | .reconnecting => call.Attempts
  | .disconnecting => call.Ends
  | _ => call.isSubmission = false

section Calls

variable {call : Call} {id other : ConnectionId} {phase phaseToo : AuthPhase}

/-- A call tells of one step. -/
theorem Call.Tells.phase_eq (h : call.Tells id phase) (k : call.Tells other phaseToo) :
    phase = phaseToo := by
  obtain ⟨bytes, now, frame, header, rfl, decodes, read, rfl⟩ := h
  obtain ⟨_, _, frameToo, headerToo, same, decodesToo, readToo, rfl⟩ := k
  cases same
  rw [decodes] at decodesToo
  cases decodesToo
  rw [read] at readToo
  cases readToo
  rfl

/-- A call that is no event of a transport and hands in no frame releases none. -/
theorem Call.not_flushes_of_quiet (submission : call.isSubmission = false)
    (quiet : ∀ id event now, call ≠ .handleEvent id event now) : ¬ call.Flushes := by
  rintro (submits | ⟨id, now, opens⟩ | ⟨id, bytes, now, -, -, brings, -⟩)
  · rw [submission] at submits
    cases submits
  · exact quiet _ _ _ opens
  · exact quiet _ _ _ brings

theorem Call.not_flushes_of_asked (asked : call.Ends) : ¬ call.Flushes := by
  refine not_flushes_of_quiet ?_ ?_
  · rcases asked with rfl | rfl <;> rfl
  · intro id event now same
    rcases asked with rfl | rfl <;> cases same

theorem Call.not_flushes_close : ¬ Call.close.Flushes := not_flushes_of_asked (.inr rfl)

/-- A call that releases no frame hands in none. -/
theorem Call.isSubmission_eq_false (apart : ¬ call.Flushes) : call.isSubmission = false :=
  Bool.eq_false_iff.mpr fun submits => apart (.inl submits)

theorem Call.Attempts.not_flushes (h : call.Attempts) : ¬ call.Flushes := by
  obtain ⟨now, rfl | rfl⟩ := h <;> exact not_flushes_of_quiet rfl nofun

theorem Call.Enters.isSubmission_eq_false {state : SessionState} (h : call.Enters state) :
    call.isSubmission = false := by
  unfold Enters at h
  split at h
  · exact Call.isSubmission_eq_false h.not_flushes
  · exact Call.isSubmission_eq_false h.not_flushes
  · exact Call.isSubmission_eq_false (not_flushes_of_asked h)
  · exact h

/-- And so does the report of a loss. -/
theorem Call.not_flushes_of_loss {event : TransportEvent} {now : Instant} (opened : event ≠ .opened)
    (silent : ∀ bytes, event ≠ .frame bytes) : ¬ (Call.handleEvent id event now).Flushes := by
  rintro (submits | ⟨id, now, opens⟩ | ⟨id, bytes, now, -, -, brings, -⟩)
  · cases submits
  · cases opens
    exact opened rfl
  · cases brings
    exact silent bytes rfl

theorem Call.Tells.isSubmission_eq_false (h : call.Tells id phase) : call.isSubmission = false := by
  obtain ⟨bytes, now, frame, header, rfl, -⟩ := h
  rfl

theorem Call.Tells.not_flushes {reason : Option String} (h : call.Tells id (.failure reason)) :
    ¬ call.Flushes := by
  rintro (submits | ⟨other, now, opens⟩ | ⟨other, tells⟩)
  · obtain ⟨bytes, now, -, -, rfl, -⟩ := h
    cases submits
  · obtain ⟨bytes, now, -, -, rfl, -⟩ := h
    cases opens
  · cases h.phase_eq tells

end Calls

/-- What makes a connection live and moves the exchange of credentials on from one state to another:
the call, and for a step that the peer takes also the phase that was heard last. -/
def Prompted (cause : Call) (id : ConnectionId) (heard : Option AuthPhase) :
    SessionState → SessionState → Prop
  | .connecting, .connected | .reconnected, .connected => ∃ now, cause = .handleEvent id .opened now
  | .connected, .needAuth | .connected, .authenticating =>
    ∃ methods, heard = some (.required methods) ∧ cause.Tells id (.required methods)
  | .needAuth, .authenticating => ∃ credentials, cause = .authenticate credentials
  | .authenticating, .connected => heard = some .success ∧ cause.Tells id .success
  | _, _ => True

section Prompts

variable {cause : Call} {id : ConnectionId} {heard heardToo : Option AuthPhase}
  {before after : SessionState}

/-- Only live states are entered when the peer or a caller prompts for it. -/
theorem prompted_of_dead (dead : after.isLive = false) : Prompted cause id heard before after := by
  unfold Prompted
  split <;> trivial

/-- What prompts for a live state is no frame that is handed in. -/
theorem Prompted.enters (h : Prompted cause id heard before after)
    (turns : before.turnsTo after = true) (live : after.isLive = true) : cause.Enters after := by
  have steps : before = .connected ∧ (after = .needAuth ∨ after = .authenticating) ∨
      before = .needAuth ∧ after = .authenticating ∨
      before = .authenticating ∧ after = .connected := by
    cases before <;> cases after <;>
      first | exact absurd turns Bool.false_ne_true | exact absurd live Bool.false_ne_true | simp
  rcases steps with ⟨rfl, rfl | rfl⟩ | ⟨rfl, rfl⟩ | ⟨rfl, rfl⟩
  · obtain ⟨methods, -, tells⟩ := h
    exact tells.isSubmission_eq_false
  · obtain ⟨methods, -, tells⟩ := h
    exact tells.isSubmission_eq_false
  · obtain ⟨credentials, rfl⟩ := h
    rfl
  · exact h.2.isSubmission_eq_false

theorem Prompted.mono (h : Prompted cause id heard before after)
    (same : ∀ phase, heard = some phase → heardToo = some phase) :
    Prompted cause id heardToo before after := by
  unfold Prompted at h ⊢
  split
  · exact h
  · exact h
  · exact h.imp fun methods => And.imp_left (same _)
  · exact h.imp fun methods => And.imp_left (same _)
  · exact h
  · exact h.imp_left (same _)
  · trivial

end Prompts

/-- The purpose of the frame that is handed over on the way into a state. -/
def SessionState.announces? : SessionState → Option Purpose
  | .authenticating => some .credentials
  | .disconnecting => some .farewell
  | _ => none

/-- What is announced comes from the session itself. -/
theorem SessionState.isSubmitted_of_announces {state : SessionState} {purpose : Purpose}
    (due : state.announces? = some purpose) : purpose.isSubmitted = false := by
  cases state <;> cases due <;> rfl

/-- No attempt is begun by an announcement. -/
theorem SessionState.isAttempting_of_announces {state : SessionState} {purpose : Purpose}
    (due : state.announces? = some purpose) : state.isAttempting = false := by
  cases state <;> first | rfl | cases due

/-- The bytes are a frame of the kind that the purpose names. Callers hand in what they like. -/
def Packet.Genuine (packet : Packet) : Prop :=
  match packet.purpose with
  | .submission | .request _ => True
  | .ping => ∃ header, Frame.encodeHeader MessageKind.ping.code header none = .ok packet.bytes
  | .pong => ∃ header, Frame.encodeHeader MessageKind.pong.code header none = .ok packet.bytes
  | .credentials => ∃ id value,
    (Message.authenticate ⟨id, .credentials value⟩).encode none = .ok packet.bytes
  | .farewell => ∃ header,
    Frame.encodeHeader MessageKind.disconnect.code header none = .ok packet.bytes

theorem Packet.genuine_of_submitted {packet : Packet} (h : packet.purpose.isSubmitted = true) :
    packet.Genuine := by
  unfold Genuine
  cases purpose : packet.purpose <;> rw [purpose] at h <;> trivial

namespace Session

/-- When a call may hand over a frame of a purpose at once. A caller's frame never overtakes one
that is held back. Credentials and the farewell go out on the way into a state, by an edit of their
own. -/
def Permits (s : Session) (cause : Call) : Purpose → Prop
  | .submission | .request _ => cause.isSubmission = true ∧ s.state = .connected ∧ s.queue = []
  | .ping => s.state.isLive = true ∧ ∃ now, cause = .pollTimers now
  | .pong => s.state.isLive = true
  | .credentials | .farewell => False

/-- The phase of the exchange of credentials that was heard last, if nothing was done since. -/
def lastPhase? (s : Session) : Option AuthPhase := s.journal.getLast?.bind Act.phase?

/-- The elementary changes that a call can make to a session. -/
inductive Edit (cause : Call) : Session → Session → Prop where
  /-- Fields that no act tells of. -/
  | quiet (s : Session) (timers : Timers) (policy : RetryPolicy) (heartbeat : Heartbeat)
      (lastError : Option Error) (remoteId : Option String) :
      Edit cause s { s with timers, policy, heartbeat, lastError, remoteId }
  /-- A round trip was measured. -/
  | latency (s : Session) (sample : Duration) :
      Edit cause s { s with stats := s.stats.recordLatency sample }
  | enter {s : Session} {state : SessionState} {wall : UInt64}
      (turns : s.state.turnsTo state = true)
      (again : state = .reconnecting → s.hasConnected = true)
      (free : state.isAttempting = true → s.transport = none)
      (prompted : Prompted cause s.connectionId s.lastPhase? s.state state)
      (asked : cause.Enters state) : Edit cause s (s.enter state none wall)
  /-- A reconnection counts. -/
  | reconnected {s : Session} {wall : UInt64} (state : s.state = .reconnecting)
      (opens : ∃ now, cause = .handleEvent s.connectionId .opened now) :
      Edit cause s ({ s with stats := s.stats.recordReconnect }.enter .reconnected none wall)
  /-- The transport opened. -/
  | connected {s : Session} {wall : UInt64}
      (state : s.state = .connecting ∨ s.state = .reconnected)
      (opens : ∃ now, cause = .handleEvent s.connectionId .opened now) :
      Edit cause s ({ s with hasConnected := true }.enter .connected none wall)
  /-- An attempt failed or a connection was lost. -/
  | fail {s : Session} {wall : UInt64} (error : Error)
      (state : s.state.isAttempting = true ∨ s.state.isLive = true) (apart : ¬ cause.Flushes) :
      Edit cause s (s.enter .error (some error) wall)
  /-- The retry budget is spent. -/
  | giveUp {s : Session} {wall : UInt64} (attempts : Nat) (state : s.state = .error)
      (apart : ¬ cause.Flushes) :
      Edit cause s (s.discardQueue.failRequests.enter .disconnected
        (some (.reconnectExhausted attempts)) wall)
  /-- The credentials are rejected. -/
  | reject {s : Session} {wall : UInt64} (reason : String) (state : s.state = .authenticating)
      (apart : ¬ cause.Flushes) :
      Edit cause s (s.discardQueue.enter .error (some (.auth reason)) wall)
  /-- A live connection enters a state and hands over the frame that goes with it. -/
  | announce {s : Session} {id : ConnectionId} {state : SessionState} {packet : Packet}
      {entered : UInt64} (wall : UInt64) (turns : s.state.turnsTo state = true)
      (prompted : Prompted cause s.connectionId s.lastPhase? s.state state)
      (live : s.state.isLive = true) (held : s.transport = some id)
      (due : state.announces? = some packet.purpose) (genuine : packet.Genuine)
      (asked : cause.Enters state) :
      Edit cause s ((s.enter state none entered).recordDelivery id packet wall)
  /-- A caller wants the session torn down. -/
  | tearDown {s : Session} {wall : UInt64} (asked : cause.Ends)
      (state : s.state = .disconnecting) :
      Edit cause s ({ s.discardQueue.failRequests with
        policy := s.discardQueue.failRequests.policy.reset }.enter .disconnected none
          wall)
  /-- An id is used up. -/
  | advance (s : Session) : Edit cause s s.advanced
  /-- A probe gets an id and is under way. -/
  | probe {s : Session} (wall : UInt64) (now : Instant) (tick : cause = .pollTimers now)
      (live : s.state.isLive = true) (idle : s.heartbeat.probe = none) :
      Edit cause s (s.probing wall now)
  /-- Every outstanding request fails. -/
  | settleAll (s : Session) (apart : ¬ cause.Flushes) : Edit cause s s.failRequests
  /-- The requests that have waited too long fail. -/
  | expire {s : Session} (now : Instant) (tick : cause = .pollTimers now)
      (live : s.state.isLive = true) : Edit cause s (s.expireRequests now)
  /-- A frame answers a request. -/
  | answer {s : Session} {bytes : Bytes} {frame : Frame} {id : String} (brings : cause.Brings bytes)
      (decodes : Frame.decode bytes = .ok frame) (final : frame.kind? ≠ some .sftpProgress)
      (named : frame.requestId? = some id) (pending : id ∈ s.requests.ids) :
      Edit cause s (s.settle id (.ok frame))
  /-- A caller's frame is held back, or given up for want of room. -/
  | hold {s : Session} (packet : Packet) (submission : cause.isSubmission = true)
      (submitted : packet.purpose.isSubmitted = true) : Edit cause s (s.enqueue packet)
  | accept {s : Session} (packet : Packet) (submission : cause.isSubmission = true) :
      Edit cause s (s.note (.accepted packet))
  /-- A frame is handed over at once. -/
  | hand {s : Session} {id : ConnectionId} {packet : Packet} (wall : UInt64)
      (held : s.transport = some id) (permitted : s.Permits cause packet.purpose)
      (genuine : packet.Genuine) : Edit cause s (s.recordDelivery id packet wall)
  /-- The oldest frame held back is handed over. -/
  | flush {s : Session} {id : ConnectionId} {packet : Packet} {rest : List Packet} (wall : UInt64)
      (held : s.transport = some id) (state : s.state = .connected)
      (queue : s.queue = packet :: rest) (flushes : cause.Flushes) :
      Edit cause s { s.recordDelivery id packet wall with queue := rest }
  | unplug (s : Session) : Edit cause s s.unplug
  /-- A dial is granted, and the session holds the transport. -/
  | dial {s : Session} (now : Instant) (state : s.state.isAttempting = true)
      (free : s.transport = none) (asked : cause.Attempts) :
      Edit cause s ((s.note (.dialled s.connectionId s.target true)).plug now)
  | refuse {s : Session} (state : s.state.isAttempting = true) (free : s.transport = none)
      (asked : cause.Attempts) :
      Edit cause s (s.note (.dialled s.connectionId s.target false))
  | hear {s : Session} {bytes : Bytes} {frame : Frame} (wall : UInt64)
      (brings : ∃ now, cause = .handleEvent s.connectionId (.frame bytes) now)
      (decodes : Frame.decode bytes = .ok frame) (live : s.state.isLive = true) :
      Edit cause s ((s.recordArrival bytes wall).note
        (.heard ⟨frame, (Message.ofFrame frame).toOption.join⟩))
  | misread {s : Session} {bytes : Bytes} (wall : UInt64) (brings : cause.Brings bytes)
      (garbled : ∀ frame, Frame.decode bytes ≠ .ok frame) (live : s.state.isLive = true) :
      Edit cause s { s.recordArrival bytes wall with
        stats := (s.recordArrival bytes wall).stats.recordDecodeError }

/-- Some edits of a call, in a row. -/
abbrev Edits (cause : Call) : Session → Session → Prop := Relation.ReflTransGen (Edit cause)

/-! ## What no edit changes -/

variable {cause : Call} {s t : Session}

/-- What stays the same for the life of a session. -/
structure SameIdentity (s t : Session) : Prop where
  key : t.key = s.key
  target : t.target = s.target
  config : t.config = s.config
  serial : t.serial = s.serial
  mark : t.requests.mark = s.requests.mark

theorem SameIdentity.refl (s : Session) : SameIdentity s s := ⟨rfl, rfl, rfl, rfl, rfl⟩

theorem SameIdentity.trans {u : Session} (h : SameIdentity s t) (k : SameIdentity t u) :
    SameIdentity s u :=
  ⟨k.key.trans h.key, k.target.trans h.target, k.config.trans h.config,
    k.serial.trans h.serial, k.mark.trans h.mark⟩

theorem sameIdentity_discardQueue (s : Session) : SameIdentity s s.discardQueue := by
  rw [discardQueue_eq]
  exact ⟨rfl, rfl, rfl, rfl, rfl⟩

theorem sameIdentity_failRequests (s : Session) : SameIdentity s s.failRequests := by
  rw [failRequests_eq]
  exact ⟨rfl, rfl, rfl, rfl, rfl⟩

/-- What a session drops with its connection is none of its identity. -/
theorem sameIdentity_drop (s : Session) : SameIdentity s s.discardQueue.failRequests :=
  (sameIdentity_discardQueue s).trans (sameIdentity_failRequests _)

theorem Edit.sameIdentity (h : Edit cause s t) : SameIdentity s t := by
  cases h with
  | settleAll => exact sameIdentity_failRequests s
  | expire now =>
    rw [expireRequests_eq_foldl, Requests.foldl_erase_eq]
    exact ⟨rfl, rfl, rfl, rfl, rfl⟩
  | giveUp => exact (sameIdentity_drop s).trans ⟨rfl, rfl, rfl, rfl, rfl⟩
  | reject => exact (sameIdentity_discardQueue s).trans ⟨rfl, rfl, rfl, rfl, rfl⟩
  | tearDown => exact (sameIdentity_drop s).trans ⟨rfl, rfl, rfl, rfl, rfl⟩
  | hold => rw [enqueue_eq]; exact ⟨rfl, rfl, rfl, rfl, rfl⟩
  | unplug => rw [unplug_eq]; exact ⟨rfl, rfl, rfl, rfl, rfl⟩
  | _ => exact ⟨rfl, rfl, rfl, rfl, rfl⟩

theorem Edits.sameIdentity (h : Edits cause s t) : SameIdentity s t := by
  induction h with
  | refl => exact .refl s
  | tail _ edit ih => exact ih.trans edit.sameIdentity

/-! ## The edits that do more than tell -/

/-- A change that leaves the requests and the transport as they are. -/
structure Telling (s t : Session) (acts : List Act) : Prop where
  journal : t.journal = s.journal ++ acts
  tells : ∀ act ∈ acts, act.tells = true
  pending : t.requests.pending = s.requests.pending
  /-- Ids are used up and never given back. -/
  next : s.requests.next ≤ t.requests.next
  transport : t.transport = s.transport

theorem telling_enter (s : Session) (state : SessionState) (error : Option Error)
    (wall : UInt64) :
    Telling s (s.enter state error wall) [.entered ⟨s.key, s.target, state, error, wall⟩] :=
  ⟨rfl, List.forall_mem_singleton.mpr rfl, rfl, Nat.le_refl _, rfl⟩

theorem telling_discardQueue (s : Session) : Telling s s.discardQueue (losses s.queue) := by
  rw [discardQueue_eq]
  refine ⟨rfl, fun act mem => ?_, rfl, Nat.le_refl _, rfl⟩
  unfold losses at mem
  split at mem
  · cases mem
  · cases List.mem_singleton.mp mem
    rfl

/-- What a change does to the requests and to the transport. -/
inductive Effect (cause : Call) (s : Session) : Session → Prop where
  | tell {t : Session} {acts : List Act} (h : Telling s t acts) : Effect cause s t
  | settleAll : Effect cause s s.failRequests
  | expire (now : Instant) (tick : cause = .pollTimers now) : Effect cause s (s.expireRequests now)
  | answer {bytes : Bytes} {frame : Frame} {id : String} (brings : cause.Brings bytes)
      (decodes : Frame.decode bytes = .ok frame) (final : frame.kind? ≠ some .sftpProgress)
      (named : frame.requestId? = some id) (pending : id ∈ s.requests.ids) :
      Effect cause s (s.settle id (.ok frame))
  | unplug : Effect cause s s.unplug
  | dial (now : Instant) (free : s.transport = none) :
      Effect cause s ((s.note (.dialled s.connectionId s.target true)).plug now)

/-- Some effects in a row. -/
abbrev Effects (cause : Call) : Session → Session → Prop := Relation.ReflTransGen (Effect cause)

theorem Telling.effects {acts : List Act} (h : Telling s t acts) : Effects cause s t :=
  .single (.tell h)

theorem Edit.effects (h : Edit cause s t) : Effects cause s t := by
  have still {t : Session} (journal : t.journal = s.journal)
      (pending : t.requests.pending = s.requests.pending)
      (next : s.requests.next ≤ t.requests.next) (transport : t.transport = s.transport) :
      Effects cause s t :=
    have told : Telling s t [] :=
      ⟨by rw [journal, List.append_nil], List.forall_mem_nil _, pending, next, transport⟩
    told.effects
  have noted {s t : Session} {act : Act} (journal : t.journal = s.journal ++ [act])
      (tells : act.tells = true) (requests : t.requests = s.requests)
      (transport : t.transport = s.transport) : Effects cause s t :=
    have told : Telling s t [act] :=
      ⟨journal, List.forall_mem_singleton.mpr tells, congrArg Requests.pending requests,
        Nat.le_of_eq (congrArg Requests.next requests.symm), transport⟩
    told.effects
  have discarded : Effects cause s s.discardQueue := (telling_discardQueue s).effects
  cases h with
  | settleAll => exact .single .settleAll
  | expire now tick => exact .single (.expire now tick)
  | answer brings decodes final named pending =>
    exact .single (.answer brings decodes final named pending)
  | unplug => exact .single .unplug
  | dial now _ free => exact .single (.dial now free)
  | giveUp => exact (discarded.tail .settleAll).trans (telling_enter _ _ _ _).effects
  | reject => exact discarded.trans (telling_enter _ _ _ _).effects
  | tearDown =>
    exact (discarded.tail .settleAll).trans (noted rfl rfl rfl rfl)
  | @announce id state =>
    exact (telling_enter s state none _).effects.trans (noted rfl rfl rfl rfl)
  | hold packet =>
    rw [enqueue_eq]
    refine Telling.effects ⟨rfl, fun act mem => ?_, rfl, Nat.le_refl _, rfl⟩
    obtain ⟨packet, -, rfl⟩ := List.mem_map.mp mem
    rfl
  | quiet => exact still rfl rfl (Nat.le_refl _) rfl
  | latency => exact still rfl rfl (Nat.le_refl _) rfl
  | advance => exact still rfl rfl (Nat.le_succ _) rfl
  | probe => exact still rfl rfl (Nat.le_succ _) rfl
  | misread => exact still rfl rfl (Nat.le_refl _) rfl
  | _ => exact noted rfl rfl rfl rfl

theorem Edits.effects (h : Edits cause s t) : Effects cause s t := by
  induction h with
  | refl => exact .refl
  | tail _ edit ih => exact ih.trans edit.effects

/-- Acts are only ever added to the journal. -/
theorem Effect.journal_prefix (h : Effect cause s t) : s.journal <+: t.journal := by
  cases h with
  | tell told => exact ⟨_, told.journal.symm⟩
  | settleAll => rw [failRequests_eq]; exact List.prefix_append _ _
  | expire now => rw [expireRequests_eq_foldl]; exact List.prefix_append _ _
  | answer => exact List.prefix_append _ _
  | unplug => rw [unplug_eq]; exact List.prefix_append _ _
  | dial => exact List.prefix_append _ _

theorem Edits.journal_prefix (h : Edits cause s t) : s.journal <+: t.journal := by
  have effects := h.effects
  clear h
  induction effects with
  | refl => exact List.prefix_rfl
  | tail _ effect ih => exact ih.trans effect.journal_prefix

/-! ## Steps without the world -/

/-- A request that was taken is outstanding from the end of its call. -/
def entering (s : Session) : Call → Except Error (Option String) → Session
  | .request code _ _ now, .ok (some id) => s.awaiting id code now
  | _, _ => s

theorem edits_timers {cause : Call} (s : Session) (timers : Timers) :
    Edits cause s { s with timers } :=
  .single (.quiet s timers s.policy s.heartbeat s.lastError s.remoteId)

theorem edits_retryOrGiveUp {cause : Call} (apart : ¬ cause.Flushes) {s : Session}
    (state : s.state = .error) (now : Instant) (wall : UInt64) :
    Edits cause s (s.retryOrGiveUp now wall) := by
  have counted : Edits cause s { s with policy := s.policy.count } :=
    .single (.quiet s s.timers s.policy.count s.heartbeat s.lastError s.remoteId)
  unfold retryOrGiveUp
  dsimp only
  split
  · exact counted.trans (edits_timers _ _)
  · exact (counted.trans (edits_timers _ _)).tail (.giveUp _ state apart)

theorem edits_recordOpened {cause : Call} {s : Session} (attempts : s.state.isAttempting = true)
    {now : Instant} (opens : cause = .handleEvent s.connectionId .opened now) (wall : UInt64) :
    Edits cause s (s.recordOpened now wall) := by
  have prepared : Edits cause s
      { s with
        timers := { s.timers with connect := none }
        policy := s.policy.reset
        lastError := none } :=
    .single (.quiet s _ _ s.heartbeat none s.remoteId)
  have watched : ∀ s : Session,
      Edits cause s ({ s with heartbeat := s.heartbeat.start }.scheduleTick now) := fun s =>
    .single (.quiet s _ s.policy s.heartbeat.start s.lastError s.remoteId)
  unfold recordOpened
  dsimp only
  refine .trans ?_ (watched _)
  split
  · next again =>
    exact (prepared.tail (.reconnected again ⟨now, opens⟩)).tail
      (.connected (.inr rfl) ⟨now, opens⟩)
  · next first =>
    refine prepared.tail (.connected (.inl ?_) ⟨now, opens⟩)
    cases state : s.state <;> rw [state] at attempts <;>
      first | rfl | exact absurd state first | cases attempts

theorem edits_complete {cause : Call} {s : Session} {bytes : Bytes} {frame : Frame}
    (brings : cause.Brings bytes) (decodes : Frame.decode bytes = .ok frame) :
    Edits cause s (s.complete frame) := by
  unfold complete
  split
  · exact .refl
  · next final =>
    split
    · exact .refl
    · next id named =>
      split
      · next pending =>
        exact .single (.answer brings decodes final named (Requests.contains_iff.mp pending))
      · exact .refl

/-- With the transport let go, a session at its caller's wish comes to rest. -/
theorem edits_tearDown {cause : Call} (asked : cause.Ends) {s : Session}
    (state : s.state = .disconnecting) (wall : UInt64) :
    Edits cause s
      ({ s.cancelTimers.discardQueue.failRequests with
          policy := s.cancelTimers.discardQueue.failRequests.policy.reset }.enter
        .disconnected none wall) :=
  (edits_timers s .idle).tail (.tearDown (s := s.cancelTimers) asked state)

/-! ## The entry of a request -/

theorem journal_entering (s : Session) (call : Call) (answer : Except Error (Option String)) :
    (s.entering call answer).journal = s.journal := by
  unfold entering
  split <;> rfl

theorem transport_entering (s : Session) (call : Call) (answer : Except Error (Option String)) :
    (s.entering call answer).transport = s.transport := by
  unfold entering
  split <;> rfl

theorem queue_entering (s : Session) (call : Call) (answer : Except Error (Option String)) :
    (s.entering call answer).queue = s.queue := by
  unfold entering
  split <;> rfl

theorem generation_entering (s : Session) (call : Call) (answer : Except Error (Option String)) :
    (s.entering call answer).generation = s.generation := by
  unfold entering
  split <;> rfl

theorem sameIdentity_entering (s : Session) (call : Call) (answer : Except Error (Option String)) :
    SameIdentity s (s.entering call answer) := by
  unfold entering
  split <;> exact ⟨rfl, rfl, rfl, rfl, rfl⟩

end Session

end Switchboard
