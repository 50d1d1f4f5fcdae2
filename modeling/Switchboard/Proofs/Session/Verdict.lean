import Switchboard.Proofs.Session.Accounts
import Switchboard.Proofs.Session.Coherence
import Switchboard.Proofs.Session.Conduct
import Switchboard.Scripted.Network
import Mathlib.Data.List.DropRight
/-!
# Awaiting the verdict

A session awaits the verdict on its credentials from the moment at which it goes to give them. It
hands them over once, by the call that brings it there, and since it left the connection no other
credentials went out (`Given`). So the transport that it holds has taken credentials if and only if
they could be written and it took them then. If it did not take them, the session waits all the
same, for a verdict on credentials that nobody has (`run_given_in_vain`).

How a call can lead to the wait is read off its edits (`Session.Passed`).
-/

namespace Switchboard

/-- The credentials that an act tells of, with the transport that took them. -/
def Act.disclosed? : Act → Option (ConnectionId × Packet)
  | delivered id packet => if packet.purpose = .credentials then some (id, packet) else none
  | _ => none

/-- The credentials that acts tell of. -/
def disclosuresOf (acts : List Act) : List (ConnectionId × Packet) := acts.filterMap Act.disclosed?

theorem disclosuresOf_append (acts more : List Act) :
    disclosuresOf (acts ++ more) = disclosuresOf acts ++ disclosuresOf more :=
  List.filterMap_append

theorem disclosuresOf_note {act : Act} (silent : act.disclosed? = none) (acts : List Act) :
    disclosuresOf (acts ++ [act]) = disclosuresOf acts := by
  rw [disclosuresOf_append]
  simp [disclosuresOf, silent]

theorem disclosuresOf_map {α : Type} {act : α → Act} (silent : ∀ a, (act a).disclosed? = none)
    (acts : List Act) (as : List α) :
    disclosuresOf (acts ++ as.map act) = disclosuresOf acts := by
  have none : disclosuresOf (as.map act) = [] := by
    rw [disclosuresOf, List.filterMap_map, List.filterMap_eq_nil_iff]
    exact fun a _ => silent a
  rw [disclosuresOf_append, none, List.append_nil]

/-- The machine does not turn from a state to itself. -/
theorem SessionState.ne_of_turnsTo {before after : SessionState}
    (turns : before.turnsTo after = true) : after ≠ before := by
  rintro rfl
  cases after <;> cases turns

namespace Session

variable {cause : Call} {s t u : Session}

/-- The transport is kept or let go. -/
def Retains (s t : Session) : Prop := t.transport = s.transport ∨ t.transport = none

theorem Retains.trans (h : Retains s t) (k : Retains t u) : Retains s u := by
  rcases k with same | gone
  · exact h.imp same.trans same.trans
  · exact .inr gone

/-- The transport is kept or let go, and no credentials are taken. -/
structure Keeps (s t : Session) : Prop where
  transport : Retains s t
  disclosures : disclosuresOf t.journal = disclosuresOf s.journal

namespace Keeps

theorem refl (s : Session) : Keeps s s := ⟨.inl rfl, rfl⟩

theorem trans (h : Keeps s t) (k : Keeps t u) : Keeps s u where
  transport := h.transport.trans k.transport
  disclosures := k.disclosures.trans h.disclosures

theorem of_note {act : Act} (transport : t.transport = s.transport)
    (journal : t.journal = s.journal ++ [act]) (silent : act.disclosed? = none) : Keeps s t :=
  ⟨.inl transport, by rw [journal, disclosuresOf_note silent]⟩

end Keeps

theorem keeps_discardQueue (s : Session) : Keeps s s.discardQueue := by
  unfold discardQueue
  split
  · exact .refl s
  · exact .of_note rfl rfl rfl

theorem keeps_failRequests (s : Session) : Keeps s s.failRequests := by
  rw [failRequests_eq]
  exact ⟨.inl rfl, disclosuresOf_map (fun _ => rfl) _ _⟩

theorem keeps_complete (s : Session) (frame : Frame) : Keeps s (s.complete frame) := by
  unfold complete
  split
  · exact .refl s
  · split
    · exact .refl s
    · split
      · exact .of_note rfl rfl rfl
      · exact .refl s

/-- What an edit does that takes hold of a transport or hands credentials over, or may do so with
the frames that are held back. -/
def Discloses (cause : Call) (s t : Session) : Prop :=
  t.state.isAttempting = true ∨ t.state ≠ s.state ∨ t.state = .connected ∧ cause.Flushes

theorem Edit.keeps_or (h : Edit cause s t) : Keeps s t ∨ Discloses cause s t := by
  cases h with
  | quiet => exact .inl ⟨.inl rfl, rfl⟩
  | latency => exact .inl ⟨.inl rfl, rfl⟩
  | advance => exact .inl ⟨.inl rfl, rfl⟩
  | probe => exact .inl ⟨.inl rfl, rfl⟩
  | misread => exact .inl ⟨.inl rfl, rfl⟩
  | giveUp =>
    have cleared := (keeps_discardQueue s).trans (keeps_failRequests _)
    exact .inl (cleared.trans (.of_note rfl rfl rfl))
  | reject => exact .inl ((keeps_discardQueue s).trans (.of_note rfl rfl rfl))
  | tearDown =>
    have cleared := (keeps_discardQueue s).trans (keeps_failRequests _)
    exact .inl (cleared.trans (.of_note rfl rfl rfl))
  | settleAll => exact .inl (keeps_failRequests s)
  | expire now =>
    rw [expireRequests_eq_foldl]
    exact .inl ⟨.inl rfl, disclosuresOf_map (fun _ => rfl) _ _⟩
  | hold packet =>
    rw [enqueue_eq]
    exact .inl ⟨.inl rfl, disclosuresOf_map (fun _ => rfl) _ _⟩
  | unplug =>
    rw [unplug_eq]
    refine .inl ⟨.inr rfl, ?_⟩
    cases s.transport with
    | none => exact congrArg disclosuresOf (List.append_nil _)
    | some id => exact disclosuresOf_note rfl _
  | @hand id packet wall held permitted =>
    refine .inl (.of_note rfl rfl (if_neg fun credentials => ?_))
    rw [credentials] at permitted
    exact permitted
  | announce _ turns => exact .inr (.inr (.inl (SessionState.ne_of_turnsTo turns)))
  | dial now attempts => exact .inr (.inl attempts)
  | flush _ _ state _ flushes => exact .inr (.inr (.inr ⟨state, flushes⟩))
  | _ => exact .inl (.of_note rfl rfl rfl)

/-- A call that finds a session connected or parked makes it give credentials. -/
def Answers (cause : Call) (s : Session) : Prop :=
  s.state = .connected ∧ (∃ id methods, cause.Tells id (.required methods)) ∨
    s.state = .needAuth ∧ ∃ credentials, cause = .authenticate credentials

/-- How a call can have led from one session to another one that is connected, parked or awaits the
verdict. -/
def Passed (cause : Call) (s t : Session) : Prop :=
  match t.state with
  | .connected => s.state = .connected ∧ Keeps s t ∨ cause.Flushes
  | .needAuth => Keeps s t ∧ (s.state = .needAuth ∨
      s.state = .connected ∧ ∃ id methods, cause.Tells id (.required methods))
  | .authenticating => Retains s t ∧ (s.state = .authenticating ∧ Keeps s t ∨ Answers cause s)
  | _ => True

namespace Passed

theorem refl (s : Session) : Passed cause s s := by
  unfold Passed
  cases s.state with
  | connected => exact .inl ⟨rfl, .refl s⟩
  | needAuth => exact ⟨.refl s, .inl rfl⟩
  | authenticating => exact ⟨.inl rfl, .inl ⟨rfl, .refl s⟩⟩
  | _ => trivial

theorem of_connected (h : Passed cause s t) (state : t.state = .connected) :
    s.state = .connected ∧ Keeps s t ∨ cause.Flushes := by
  unfold Passed at h
  rwa [state] at h

theorem of_needAuth (h : Passed cause s t) (state : t.state = .needAuth) :
    Keeps s t ∧ (s.state = .needAuth ∨
      s.state = .connected ∧ ∃ id methods, cause.Tells id (.required methods)) := by
  unfold Passed at h
  rwa [state] at h

theorem of_authenticating (h : Passed cause s t) (state : t.state = .authenticating) :
    Retains s t ∧ (s.state = .authenticating ∧ Keeps s t ∨ Answers cause s) := by
  unfold Passed at h
  rwa [state] at h

/-- What stays in its state and keeps its transport goes on to keep what it kept. -/
theorem still (h : Passed cause s t) (state : u.state = t.state) (keeps : Keeps t u) :
    Passed cause s u := by
  unfold Passed at h ⊢
  rw [state]
  cases found : t.state with
  | connected =>
    rw [found] at h
    exact h.imp_left fun ⟨same, kept⟩ => ⟨same, kept.trans keeps⟩
  | needAuth =>
    rw [found] at h
    exact h.imp_left fun kept => kept.trans keeps
  | authenticating =>
    rw [found] at h
    exact h.imp (·.trans keeps.transport) (.imp_left fun ⟨same, kept⟩ => ⟨same, kept.trans keeps⟩)
  | _ => trivial

end Passed

theorem not_flushes_of_required {id : ConnectionId} {methods : List String}
    (tells : cause.Tells id (.required methods)) : ¬ cause.Flushes := by
  rintro (submits | ⟨other, now, opens⟩ | ⟨other, accepts⟩)
  · obtain ⟨bytes, now, -, -, rfl, -⟩ := tells
    cases submits
  · obtain ⟨bytes, now, -, -, rfl, -⟩ := tells
    cases opens
  · cases tells.phase_eq accepts

/-- A state of the machine is entered, with or without the frame that goes with it. -/
theorem Passed.enter (h : Passed cause s t) {state : SessionState}
    (entered : u.state = state) (turns : t.state.turnsTo state = true)
    (prompted : Prompted cause t.connectionId t.lastPhase? t.state state)
    (transport : u.transport = t.transport) (keeps : state.announces? = none → Keeps t u) :
    Passed cause s u := by
  unfold Passed
  rw [entered]
  cases state with
  | connected =>
    cases before : t.state <;> rw [before] at turns prompted <;> try cases turns
    exact .inr (.inr (.inr ⟨_, prompted.2⟩))
  | needAuth =>
    cases before : t.state <;> rw [before] at turns prompted <;> try cases turns
    obtain ⟨methods, -, tells⟩ := prompted
    obtain ⟨connected, kept⟩ :=
      (h.of_connected before).resolve_right (not_flushes_of_required tells)
    exact ⟨kept.trans (keeps rfl), .inr ⟨connected, _, methods, tells⟩⟩
  | authenticating =>
    cases before : t.state <;> rw [before] at turns prompted <;> try cases turns
    · obtain ⟨methods, -, tells⟩ := prompted
      obtain ⟨connected, kept⟩ :=
        (h.of_connected before).resolve_right (not_flushes_of_required tells)
      exact ⟨kept.transport.trans (.inl transport), .inr (.inl ⟨connected, _, methods, tells⟩)⟩
    · obtain ⟨credentials, supplied⟩ := prompted
      obtain ⟨kept, parked | ⟨-, id, methods, tells⟩⟩ := h.of_needAuth before
      · exact ⟨kept.transport.trans (.inl transport), .inr (.inr ⟨parked, credentials, supplied⟩)⟩
      · obtain ⟨bytes, now, -, -, brings, -⟩ := tells
        rw [supplied] at brings
        cases brings
  | _ => trivial

theorem Passed.edit (h : Passed cause s t) (edit : Edit cause t u) : Passed cause s u := by
  -- Unless a state is entered, the transport is kept or the call flushes.
  have stays (state : u.state = t.state) : Passed cause s u := by
    rcases edit.keeps_or with keeps | attempts | moves | ⟨connected, flushes⟩
    · exact h.still state keeps
    · unfold Passed
      cases found : u.state <;> first | trivial | (rw [found] at attempts; cases attempts)
    · exact absurd state moves
    · unfold Passed
      rw [connected]
      exact .inr flushes
  cases edit with
  | enter turns _ _ prompted _ => exact h.enter rfl turns prompted rfl fun _ => .of_note rfl rfl rfl
  | announce _ turns prompted _ _ due =>
    exact h.enter rfl turns prompted rfl fun silent => absurd (due.symm.trans silent) nofun
  | connected _ opens =>
    obtain ⟨now, opens⟩ := opens
    exact .inr (.inr (.inl ⟨_, now, opens⟩))
  | reconnected => trivial
  | fail => trivial
  | giveUp => trivial
  | reject => trivial
  | tearDown => trivial
  | settleAll => exact stays (by rw [failRequests_eq])
  | expire => exact stays (by rw [expireRequests_eq_foldl])
  | hold => exact stays (by rw [enqueue_eq])
  | unplug => exact stays (by rw [unplug_eq])
  | _ => exact stays rfl

theorem Passed.edits (h : Edits cause s t) : Passed cause s t := by
  induction h with
  | refl => exact .refl s
  | tail _ edit ih => exact ih.edit edit

/-- The frame that gives credentials to the peer. -/
def credentialsFrame (s : Session) (credentials : Json) : Except Error Bytes :=
  (Message.authenticate ⟨s.remoteId, .credentials credentials⟩).encode none

end Session

variable {σ : Type} [Environment σ]

/-- What a transport takes of a frame with credentials that it is handed if it could be written. -/
def taken (world : σ) (id : ConnectionId) : Except Error Bytes → List (ConnectionId × Packet)
  | .error _ => []
  | .ok bytes =>
    match (Environment.deliver world id bytes).1 with
    | .ok () => [(id, ⟨.credentials, bytes⟩)]
    | .error _ => []

namespace Station

variable {c : Station σ} {id : ConnectionId}

/-- Credentials are given once, and the transport takes them or does not. -/
theorem disclosuresOf_sendCredentials (held : c.session.transport = some id) (credentials : Json) :
    disclosuresOf (c.sendCredentials credentials).session.journal =
      disclosuresOf c.session.journal ++
        taken c.world id (c.session.credentialsFrame credentials) := by
  unfold sendCredentials Session.credentialsFrame
  cases (Message.authenticate ⟨c.session.remoteId, .credentials credentials⟩).encode none with
  | error e => exact (List.append_nil _).symm
  | ok bytes =>
    dsimp only [sendAnyway, taken]
    unfold sendDirect
    rw [held]
    dsimp only
    rcases Environment.deliver c.world id bytes with ⟨e | ⟨⟨⟩⟩, world⟩
    · exact (List.append_nil _).symm
    · exact disclosuresOf_append _ _

/-- A connected session that is asked for credentials answers in a step of its own, between hearing
the frame and settling what the frame answers. -/
theorem perform_asked {call : Call} {methods : List String}
    (connected : c.session.state = .connected)
    (asked : call.Tells c.session.connectionId (.required methods)) :
    ∃ (s : Session) (frame : Frame), s.core = c.session.core ∧
      disclosuresOf s.journal = disclosuresOf c.session.journal ∧
      (c.perform call).2 = (negotiate ⟨s, c.world⟩ (.required methods)).modify
        fun s => s.complete frame := by
  obtain ⟨bytes, now, frame, header, rfl, decodes, read, phase⟩ := asked
  have live : c.session.state.isLive = true := by rw [connected]; rfl
  refine ⟨(c.session.recordArrival bytes (Environment.wallClock c.world)).note
    (.heard ⟨frame, some (.authenticate header)⟩), frame, rfl, disclosuresOf_note rfl _, ?_⟩
  dsimp only [perform]
  rw [handleEvent_heard live decodes]
  unfold hear
  dsimp only
  rw [attend_of_authenticate read, read, ← phase]
  rfl

end Station

namespace Moment

open Session (InPhase)

variable {m : Moment σ} {id : ConnectionId}

/-- The call supplies credentials: a caller hands them in, or the peer asks for them and they are
configured. -/
inductive Supplies (m : Moment σ) (credentials : Json) : Prop
  | caller (parked : m.before.session.state = .needAuth)
      (supplied : m.call = .authenticate credentials)
  | configured (connected : m.before.session.state = .connected)
      (asked : ∃ methods, m.call.Tells m.before.session.connectionId (.required methods))
      (configured : m.before.session.config.credentials = some credentials)

theorem passed (m : Moment σ) :
    ∃ s, Session.Passed m.call m.before.session s ∧ s.state = m.after.session.state ∧
      s.transport = m.after.session.transport ∧
      disclosuresOf s.journal = disclosuresOf m.before.session.journal ++ disclosuresOf m.acts := by
  obtain ⟨s, edits, journal, after⟩ := m.edits
  refine ⟨s, .edits edits, ?_, ?_, by rw [journal, disclosuresOf_append]⟩
  · rw [after, s.state_entering]
  · rw [after, s.transport_entering]

theorem acts_of_keeps {s : Session} (keeps : Session.Keeps m.before.session s)
    (journal : disclosuresOf s.journal =
      disclosuresOf m.before.session.journal ++ disclosuresOf m.acts) :
    disclosuresOf m.acts = [] := by
  have same := journal.symm.trans keeps.disclosures
  exact List.append_right_eq_self.mp same

/-- Whoever supplies them, credentials are given once to the transport that is held. -/
theorem disclosures_of_supplies (held : m.before.session.transport = some id) {credentials : Json}
    (h : m.Supplies credentials) : disclosuresOf m.acts =
      taken m.before.world id (m.before.session.credentialsFrame credentials) := by
  -- The step that gives them starts from a session that differs in nothing that the step reads.
  have given {s : Session} (wall : UInt64) (core : s.core = m.before.session.core)
      (journal : disclosuresOf s.journal = disclosuresOf m.before.session.journal) :
      disclosuresOf ((Station.mk (s.enter .authenticating none wall) m.before.world).sendCredentials
          credentials).session.journal = disclosuresOf m.before.session.journal ++
        taken m.before.world id (m.before.session.credentialsFrame credentials) := by
    have transport : s.transport = some id := (congrArg Session.transport core).trans held
    have remoteId : s.remoteId = m.before.session.remoteId :=
      (congrArg Session.remoteId core :)
    have entered : disclosuresOf (s.enter .authenticating none wall).journal =
        disclosuresOf m.before.session.journal := (disclosuresOf_note rfl _).trans journal
    have frame : (s.enter .authenticating none wall).credentialsFrame credentials =
        m.before.session.credentialsFrame credentials := by
      unfold Session.credentialsFrame
      rw [← remoteId]
      rfl
    rw [← frame, ← entered]
    exact Station.disclosuresOf_sendCredentials transport credentials
  have added := congrArg disclosuresOf m.journal
  rw [disclosuresOf_append] at added
  cases h with
  | caller parked supplied =>
    refine List.append_cancel_left (added.symm.trans ?_)
    unfold after
    rw [supplied]
    dsimp only [Station.perform]
    unfold Station.authenticate
    rw [if_pos parked]
    exact given _ rfl rfl
  | configured connected asked configured =>
    obtain ⟨methods, asked⟩ := asked
    obtain ⟨s, frame, core, journal, answered⟩ := Station.perform_asked connected asked
    refine List.append_cancel_left (added.symm.trans ?_)
    have state : s.state = .connected := (congrArg Session.state core).trans connected
    have config : s.config.credentials = some credentials :=
      (congrArg (fun s => s.config.credentials) core).trans configured
    unfold after
    rw [answered]
    refine (Session.keeps_complete _ frame).disclosures.trans ?_
    unfold Station.negotiate
    dsimp only
    rw [if_pos state, config]
    exact given _ core journal

/-- A call by which the wait begins supplies credentials. -/
theorem supplies_of_answers (h : Session.Answers m.call m.before.session)
    (awaits : m.after.session.state = .authenticating) : ∃ credentials, m.Supplies credentials := by
  rcases h with ⟨connected, id, methods, tells⟩ | ⟨parked, credentials, supplied⟩
  · obtain rfl : id = m.before.session.connectionId := by
      by_contra other
      obtain ⟨bytes, now, -, -, call, -⟩ := tells
      unfold after at awaits
      rw [call] at awaits
      dsimp only [Station.perform] at awaits
      rw [Station.handleEvent_unheard fun heard => other heard.1, connected] at awaits
      cases awaits
    obtain ⟨s, frame, core, -, answered⟩ := Station.perform_asked connected tells
    cases configured : m.before.session.config.credentials with
    | some credentials => exact ⟨credentials, .configured connected ⟨methods, tells⟩ configured⟩
    | none =>
      have state : s.state = .connected := (congrArg Session.state core).trans connected
      have config : s.config.credentials = none :=
        (congrArg (fun s => s.config.credentials) core).trans configured
      unfold after at awaits
      rw [answered] at awaits
      unfold Station.negotiate at awaits
      dsimp only at awaits
      rw [if_pos state, config] at awaits
      dsimp only [Station.modify] at awaits
      rw [Session.state_complete] at awaits
      cases awaits
  · exact ⟨credentials, .caller parked supplied⟩

end Moment

namespace Run

variable {key : String} {target : Target} {config : SessionConfig} {generation serial : Nat}
  {mark : String}
  {ms : List (Moment σ)} {c : Station σ} {id : ConnectionId} {m : Moment σ}

/-- The calls since the last one that ended with a connected session. -/
def away (ms : List (Moment σ)) : List (Moment σ) :=
  ms.rtakeWhile fun m => m.after.session.state ≠ .connected

/-- The credentials that transports took during calls, each with the transport that took it. -/
def disclosures (ms : List (Moment σ)) : List (ConnectionId × Packet) :=
  ms.flatMap fun m => disclosuresOf m.acts

theorem disclosures_concat (ms : List (Moment σ)) (m : Moment σ) :
    disclosures (ms ++ [m]) = disclosures ms ++ disclosuresOf m.acts := by
  rw [disclosures, List.flatMap_append, List.flatMap_singleton]
  rfl

theorem away_concat_of_connected (ms : List (Moment σ))
    (connected : m.after.session.state = .connected) : away (ms ++ [m]) = [] :=
  List.rtakeWhile_concat_neg _ _ _ (by simpa using connected)

theorem away_concat (ms : List (Moment σ)) (left : m.after.session.state ≠ .connected) :
    away (ms ++ [m]) = away ms ++ [m] :=
  List.rtakeWhile_concat_pos _ _ _ (by simpa using left)

/-- Nothing has happened since the last call if that left the session connected. -/
theorem away_of_connected (h : Run (.create key target config generation serial mark) ms c)
    (connected : c.session.state = .connected) : away ms = [] := by
  induction h with
  | begin world => cases connected
  | call _ call => exact away_concat_of_connected (m := ⟨_, call⟩) _ connected
  | drain _ ih => exact ih connected
  | world _ _ ih => exact ih connected

/-- The transport is held by every call since the session was connected, and by the end. -/
structure Stays (ms : List (Moment σ)) (c : Station σ) (id : ConnectionId) : Prop where
  left : ∃ first rest, away ms = first :: rest ∧ first.before.session.state = .connected
  held : ∀ m ∈ away ms, m.before.session.transport = some id ∧ m.after.session.transport = some id
  holds : c.session.transport = some id

theorem transport_of_live (h : Run (.create key target config generation serial mark) ms c)
    (live : c.session.state.isLive = true) : c.session.transport = some c.session.connectionId :=
  (h.inPhase.live_of live).transport

/-- A call that leaves a live connection and lets go of no transport but for good holds on to it. -/
theorem holds_of_retains (h : Run (.create key target config generation serial mark) ms m.before)
    (live : m.after.session.state.isLive = true)
    (retains : m.before.session.Retains m.after.session)
    (held : m.before.session.transport = some id) : m.after.session.transport = some id := by
  rcases retains with same | gone
  · exact same.trans held
  · have holds := (h.call m.call).transport_of_live live
    rw [show (m.before.perform m.call).2.session.transport = none from gone] at holds
    cases holds

/-- The call that leaves the connected state is the first one away from it. -/
theorem stays_of_connected (h : Run (.create key target config generation serial mark) ms m.before)
    (connected : m.before.session.state = .connected)
    (left : m.after.session.state ≠ .connected) (live : m.after.session.state.isLive = true)
    (retains : m.before.session.Retains m.after.session) :
    Stays (ms ++ [m]) m.after m.before.session.connectionId := by
  have held := h.transport_of_live (by rw [connected]; rfl)
  have holds := h.holds_of_retains live retains held
  have away : away (ms ++ [m]) = [m] := by
    rw [away_concat ms left, h.away_of_connected connected]
    rfl
  refine ⟨⟨m, [], away, connected⟩, ?_, holds⟩
  rw [away]
  exact List.forall_mem_singleton.mpr ⟨held, holds⟩

theorem Stays.call (stays : Stays ms m.before id)
    (h : Run (.create key target config generation serial mark) ms m.before)
    (left : m.after.session.state ≠ .connected) (live : m.after.session.state.isLive = true)
    (retains : m.before.session.Retains m.after.session) : Stays (ms ++ [m]) m.after id := by
  obtain ⟨first, rest, started, connected⟩ := stays.left
  have holds := h.holds_of_retains live retains stays.holds
  refine ⟨⟨first, rest ++ [m], ?_, connected⟩, fun m' mem => ?_, holds⟩
  · rw [away_concat ms left, started]
    rfl
  · rw [away_concat ms left] at mem
    rcases List.mem_append.mp mem with old | new
    · exact stays.held m' old
    · cases List.mem_singleton.mp new
      exact ⟨stays.holds, holds⟩

/-- A session that is parked has given no credentials since it left the connection. -/
theorem parked (h : Run (.create key target config generation serial mark) ms c)
    (state : c.session.state = .needAuth) :
    ∃ id, Stays ms c id ∧ disclosures (away ms) = [] := by
  induction h with
  | begin world => cases state
  | @call ms c h call ih =>
    let m : Moment σ := ⟨c, call⟩
    change m.after.session.state = .needAuth at state
    obtain ⟨s, passed, same, transport, journal⟩ := m.passed
    obtain ⟨keeps, before⟩ := passed.of_needAuth (same.trans state)
    have live : m.after.session.state.isLive = true := by rw [state]; rfl
    have left : m.after.session.state ≠ .connected := by rw [state]; nofun
    have retains : c.session.Retains m.after.session := keeps.transport.trans (.inl transport.symm)
    obtain ⟨id, stays, none⟩ : ∃ id, Stays (ms ++ [m]) m.after id ∧ disclosures (away ms) = [] := by
      rcases before with parked | ⟨connected, -⟩
      · obtain ⟨id, stays, none⟩ := ih parked
        exact ⟨id, stays.call (m := m) h left live retains, none⟩
      · refine ⟨_, h.stays_of_connected (m := m) connected left live retains, ?_⟩
        rw [h.away_of_connected connected]
        rfl
    refine ⟨id, stays, ?_⟩
    rw [away_concat ms left, disclosures_concat, none, m.acts_of_keeps keeps journal]
    rfl
  | drain _ ih =>
    obtain ⟨id, stays, none⟩ := ih state
    exact ⟨id, ⟨stays.left, stays.held, stays.holds⟩, none⟩
  | world _ _ ih =>
    obtain ⟨id, stays, none⟩ := ih state
    exact ⟨id, ⟨stays.left, stays.held, stays.holds⟩, none⟩

/-- What a session that awaits the verdict has done for it: it left the connection, a call supplied
credentials, and that call alone gave any, to the transport that is held throughout. -/
structure Given (ms : List (Moment σ)) (c : Station σ) (id : ConnectionId) (m : Moment σ)
    (credentials : Json) : Prop extends Stays ms c id where
  mem : m ∈ away ms
  supplies : m.Supplies credentials
  disclosed : disclosures (away ms) =
    taken m.before.world id (m.before.session.credentialsFrame credentials)

theorem given (h : Run (.create key target config generation serial mark) ms c)
    (state : c.session.state = .authenticating) :
    ∃ id m credentials, Given ms c id m credentials := by
  induction h with
  | begin world => cases state
  | @call ms c h call ih =>
    let m : Moment σ := ⟨c, call⟩
    change m.after.session.state = .authenticating at state
    obtain ⟨s, passed, same, transport, journal⟩ := m.passed
    obtain ⟨retained, before⟩ := passed.of_authenticating (same.trans state)
    have live : m.after.session.state.isLive = true := by rw [state]; rfl
    have left : m.after.session.state ≠ .connected := by rw [state]; nofun
    have retains : c.session.Retains m.after.session := retained.trans (.inl transport.symm)
    have among : away (ms ++ [m]) = away ms ++ [m] := away_concat ms left
    rcases before with ⟨awaiting, keeps⟩ | answers
    · obtain ⟨id, first, credentials, given⟩ := ih awaiting
      refine ⟨id, first, credentials, given.toStays.call (m := m) h left live retains, ?_,
        given.supplies, ?_⟩
      · rw [among]
        exact List.mem_append_left _ given.mem
      · rw [among, disclosures_concat, m.acts_of_keeps keeps journal, List.append_nil]
        exact given.disclosed
    · obtain ⟨credentials, supplies⟩ := m.supplies_of_answers answers state
      -- Nothing was given before this call: the session was connected or parked until then.
      obtain ⟨id, stays, none⟩ :
          ∃ id, Stays (ms ++ [m]) m.after id ∧ disclosures (away ms) = [] := by
        rcases answers with ⟨connected, -⟩ | ⟨parked, -⟩
        · refine ⟨_, h.stays_of_connected (m := m) connected left live retains, ?_⟩
          rw [h.away_of_connected connected]
          rfl
        · obtain ⟨id, stays, none⟩ := h.parked parked
          exact ⟨id, stays.call (m := m) h left live retains, none⟩
      have last : m ∈ away (ms ++ [m]) := by
        rw [among]
        exact List.mem_append_right _ (List.mem_singleton_self m)
      refine ⟨id, m, credentials, stays, last, supplies, ?_⟩
      rw [among, disclosures_concat, none]
      exact m.disclosures_of_supplies (stays.held m last).1 supplies
  | drain _ ih =>
    obtain ⟨id, m, credentials, given⟩ := ih state
    exact ⟨id, m, credentials, ⟨given.left, given.held, given.holds⟩, given.mem, given.supplies,
      given.disclosed⟩
  | world _ _ ih =>
    obtain ⟨id, m, credentials, given⟩ := ih state
    exact ⟨id, m, credentials, ⟨given.left, given.held, given.holds⟩, given.mem, given.supplies,
      given.disclosed⟩

end Run

/-- The transport that is held has taken credentials since the session left the connection. -/
def Lodged (ms : List (Moment σ)) (c : Station σ) : Prop :=
  ∃ id packet, c.session.transport = some id ∧ (id, packet) ∈ Run.disclosures (Run.away ms)

theorem not_lodged {ms : List (Moment σ)} {c : Station σ}
    (none : (Run.disclosures (Run.away ms)).isEmpty = true) : ¬ Lodged ms c := by
  rintro ⟨id, packet, -, mem⟩
  rw [List.isEmpty_iff.mp none] at mem
  cases mem

theorem mem_taken {world : σ} {id other : ConnectionId} {frame : Except Error Bytes}
    {packet : Packet} (mem : (other, packet) ∈ taken world id frame) : other = id ∧
      ∃ bytes, frame = .ok bytes ∧ (Environment.deliver world id bytes).1 = .ok () := by
  unfold taken at mem
  split at mem
  · cases mem
  · next bytes =>
    split at mem
    · next answer =>
      cases List.mem_singleton.mp mem
      exact ⟨rfl, bytes, rfl, answer⟩
    · cases mem

theorem taken_of_answer {world : σ} {id : ConnectionId} {bytes : Bytes}
    (answer : (Environment.deliver world id bytes).1 = .ok ()) :
    taken world id (.ok bytes) = [(id, ⟨.credentials, bytes⟩)] := by
  unfold taken
  dsimp only
  rw [answer]

namespace Run.Given

variable {ms : List (Moment σ)} {c : Station σ} {id : ConnectionId} {m : Moment σ}
  {credentials : Json}

/-- It depends on one answer of the world whether the peer has what it shall judge. -/
theorem lodged_iff (h : Given ms c id m credentials) : Lodged ms c ↔
    ∃ bytes, m.before.session.credentialsFrame credentials = .ok bytes ∧
      (Environment.deliver m.before.world id bytes).1 = .ok () := by
  constructor
  · rintro ⟨other, packet, -, mem⟩
    rw [h.disclosed] at mem
    exact (mem_taken mem).2
  · rintro ⟨bytes, written, answer⟩
    refine ⟨id, ⟨.credentials, bytes⟩, h.holds, ?_⟩
    rw [h.disclosed, written, taken_of_answer answer]
    exact List.mem_singleton_self _

end Run.Given

/-- In every run, over every world, a session that awaits the verdict has given credentials once to
the transport that it holds, since it left the connection. The transport has them if and only if
they could be written and it took them then. -/
theorem run_given {key : String} {target : Target} {config : SessionConfig}
    {generation serial : Nat} {mark : String} {ms : List (Moment σ)} {c : Station σ}
    (h : Run (.create key target config generation serial mark) ms c)
    (awaits : c.session.state = .authenticating) :
    ∃ id m credentials, Run.Given ms c id m credentials ∧
      (Lodged ms c ↔ ∃ bytes, m.before.session.credentialsFrame credentials = .ok bytes ∧
        (Environment.deliver m.before.world id bytes).1 = .ok ()) := by
  obtain ⟨id, m, credentials, given⟩ := h.given awaits
  exact ⟨id, m, credentials, given, given.lodged_iff⟩

/-- The peer asks for credentials, the caller supplies them, and the transport takes them. Asked
again, the session goes on waiting. -/
theorem run_given_asked_again :
    ∃ (ms : List (Moment ScriptedNetwork)) (c : Station ScriptedNetwork),
      Run (.create "k" default {} 0 1 "s0000001") ms c ∧ c.session.state = .authenticating ∧
        c.world.frames.length = 1 ∧ ∃ id m credentials, Run.Given ms c id m credentials ∧
          (Lodged ms c ↔ ∃ bytes, m.before.session.credentialsFrame credentials = .ok bytes ∧
            (Environment.deliver m.before.world id bytes).1 = .ok ()) :=
  have begun : Run (.create "k" default {} 0 1 "s0000001") [] ⟨_, ({} : ScriptedNetwork)⟩ :=
    .begin _
  have asking {ms : List (Moment ScriptedNetwork)} {c : Station ScriptedNetwork}
      (h : Run (.create "k" default {} 0 1 "s0000001") ms c) :=
    h.call (.handleEvent ⟨"k", 1⟩ (.frame
      (((Message.authenticate ⟨none, .required []⟩).encode none).toOption.getD [])) ⟨0⟩)
  have opened := (begun.call (.connect ⟨0⟩)).call (.handleEvent ⟨"k", 1⟩ .opened ⟨0⟩)
  have run := asking ((asking opened).call (.authenticate (.str "secret")))
  ⟨_, _, run, by decide +kernel, by decide +kernel, run_given run (by decide +kernel)⟩

/-- The transport does not take the credentials. The session awaits a verdict on them all the same,
and a caller who supplies them again is not heard. -/
theorem run_given_in_vain :
    ∃ (ms : List (Moment ScriptedNetwork)) (c : Station ScriptedNetwork),
      Run (.create "k" ⟨"h", 22, some "u"⟩ {} 0 1 "s0000001") ms c ∧ c.session.state = .authenticating ∧
        ¬ Lodged ms c :=
  have begun : Run (.create "k" ⟨"h", 22, some "u"⟩ {} 0 1 "s0000001") [] ⟨_, ({} : ScriptedNetwork)⟩ :=
    .begin _
  have opened := (begun.call (.connect ⟨0⟩)).call (.handleEvent ⟨"k", 1⟩ .opened ⟨0⟩)
  have parked := opened.call (.handleEvent ⟨"k", 1⟩ (.frame
    (((Message.authenticate ⟨none, .required ["password"]⟩).encode none).toOption.getD [])) ⟨0⟩)
  have refused := (parked.world { refuseFrames := true }).call
    (.authenticate (.obj [("password", .str "pw")]))
  have run := (refused.world {}).call (.authenticate (.obj [("password", .str "pw")]))
  ⟨_, _, run, by decide +kernel, not_lodged (by decide +kernel)⟩

end Switchboard
