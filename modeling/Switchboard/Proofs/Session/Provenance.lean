import Switchboard.Proofs.Session.Moves
import Switchboard.Proofs.Session.Path
/-!
# Where acts come from

An act says something of the call that it is a part of: a state is entered under the name of the
session and not because a caller hands in a frame, a transport is asked for by a call that may begin
an attempt, a PING leaves at a poll, and so on for every kind of act (`Act.ComesOf`). Each edit adds
such acts only (`Session.Edit.comesOf`), and so does a call (`Moment.comesOf`).

Others wait for two kinds of acts: states that were entered, and requests that were settled. A call
that hands in a frame does neither (`Moment.quiet_of_submission`), so that nobody misses anything if
the journal is not drained after it. Every state that is told of bears the key and the target of its
session (`Moment.named`).
-/

namespace Switchboard

/-- What an act says of the call that it is a part of, and of the session that the call found. -/
def Act.ComesOf (cause : Call) (s : Session) : Act → Prop
  | entered event => event.key = s.key ∧ event.target = s.target ∧ cause.isSubmission = false ∧
      (event.state = .connected → ∃ id event now, cause = .handleEvent id event now)
  | dialled .. => cause.Attempts
  | delivered _ packet => packet ∈ s.queue ∨
      (packet.purpose = .ping → ∃ now, cause = .pollTimers now)
  | heard _ => ∃ bytes, cause.Brings bytes
  | accepted _ | dropped _ => cause.isSubmission = true
  | discarded _ | settled _ => cause.isSubmission = false
  | hungUp _ => True

/-- A frame from a caller is no PING of the session. -/
theorem Purpose.ne_ping {purpose : Purpose} (submitted : purpose.isSubmitted = true) :
    purpose ≠ .ping := by
  rintro rfl
  cases submitted

theorem SessionState.ne_ping_of_announces {state : SessionState} {purpose : Purpose}
    (due : state.announces? = some purpose) : purpose ≠ .ping := by
  cases state <;> cases due <;> exact Purpose.noConfusion

namespace Session

variable {cause : Call} {s t : Session}

/-- Only events of the transport make a session connected. -/
theorem reported_of_prompted {id : ConnectionId} {heard : Option AuthPhase}
    {before : SessionState} (turns : before.turnsTo .connected = true)
    (prompted : Prompted cause id heard before .connected) :
    ∃ id event now, cause = .handleEvent id event now := by
  have waiting : before = .authenticating := by
    cases before <;> first | rfl | cases turns
  rw [waiting] at prompted
  obtain ⟨-, bytes, now, -, -, brings, -⟩ := prompted
  exact ⟨_, _, _, brings⟩

/-- What is held back was held back before, or a caller has handed it in. -/
theorem Edit.mem_queue (h : Edit cause s t) {packet : Packet} (mem : packet ∈ t.queue) :
    packet ∈ s.queue ∨ packet.purpose.isSubmitted = true := by
  cases h with
  | hold other submission submitted =>
    rcases mem_queue_of_enqueue mem with rfl | mem
    · exact .inr submitted
    · exact .inl mem
  | flush wall own state queue flushes =>
    rw [queue]
    exact .inl (List.mem_cons_of_mem _ mem)
  | settleAll => rw [failRequests_eq] at mem; exact .inl mem
  | expire now => rw [expireRequests_eq_foldl] at mem; exact .inl mem
  | unplug => rw [unplug_eq] at mem; exact .inl mem
  | giveUp => rw [failRequests_eq, discardQueue_eq] at mem; cases mem
  | reject => rw [discardQueue_eq] at mem; cases mem
  | tearDown => rw [failRequests_eq, discardQueue_eq] at mem; cases mem
  | _ => exact .inl mem

theorem Edits.mem_queue (h : Edits cause s t) {packet : Packet} (mem : packet ∈ t.queue) :
    packet ∈ s.queue ∨ packet.purpose.isSubmitted = true := by
  induction h with
  | refl => exact .inl mem
  | tail _ edit ih => exact (edit.mem_queue mem).elim ih .inr

/-- An edit adds acts that come of the call. -/
theorem Edit.comesOf (h : Edit cause s t) : Adds (Act.ComesOf cause s) s t := by
  -- An event bears the names that the session has at the time, whatever was dropped before it.
  have entered {u v : Session} {state : SessionState} {error : Option Error} {wall : UInt64}
      (same : SameIdentity s u) (journal : v.journal = u.journal ++
        [.entered ⟨u.key, u.target, state, error, wall⟩]) (quiet : cause.isSubmission = false)
      (reported : state = .connected → ∃ id event now, cause = .handleEvent id event now) :
      Adds (Act.ComesOf cause s) u v := by
    refine .of_note journal ?_
    exact ⟨same.key, same.target, quiet, reported⟩
  cases h with
  | quiet => exact .of_eq rfl
  | latency => exact .of_eq rfl
  | advance => exact .of_eq rfl
  | probe => exact .of_eq rfl
  | misread => exact .of_eq rfl
  | enter turns _ _ prompted asked =>
    refine entered (.refl s) rfl asked.isSubmission_eq_false ?_
    rintro rfl
    exact reported_of_prompted turns prompted
  | reconnected _ opens =>
    obtain ⟨now, rfl⟩ := opens
    exact entered (.refl s) rfl rfl nofun
  | connected _ opens =>
    obtain ⟨now, rfl⟩ := opens
    exact entered (.refl s) rfl rfl fun _ => ⟨_, _, _, rfl⟩
  | fail error _ apart => exact entered (.refl s) rfl (Call.isSubmission_eq_false apart) nofun
  | giveUp attempts _ apart =>
    have quiet := Call.isSubmission_eq_false apart
    exact (s.adds_drop (fun _ => quiet) fun _ => quiet).trans
      (entered (sameIdentity_drop s) rfl quiet nofun)
  | reject reason _ apart =>
    have quiet := Call.isSubmission_eq_false apart
    exact (s.adds_discardQueue fun _ => quiet).trans
      (entered (sameIdentity_discardQueue s) rfl quiet nofun)
  | tearDown asked =>
    have quiet := Call.isSubmission_eq_false (Call.not_flushes_of_asked asked)
    exact (s.adds_drop (fun _ => quiet) fun _ => quiet).trans
      (entered (sameIdentity_drop s) rfl quiet nofun)
  | @announce id state packet first wall turns prompted live held due genuine asked =>
    have noted : Adds (Act.ComesOf cause s) s (s.enter state none first) := by
      refine entered (.refl s) rfl asked.isSubmission_eq_false ?_
      rintro rfl
      cases due
    exact noted.trans (.of_note rfl (.inr fun ping =>
      absurd ping (SessionState.ne_ping_of_announces due)))
  | settleAll apart => exact s.adds_failRequests fun _ => Call.isSubmission_eq_false apart
  | expire now tick => exact s.adds_expireRequests now fun _ => by rw [tick]; rfl
  | answer brings =>
    obtain ⟨id, now, rfl⟩ := brings
    exact .of_note rfl rfl
  | hold packet submission => exact s.adds_enqueue packet fun _ => submission
  | accept packet submission => exact .of_note rfl submission
  | hand wall held permitted =>
    refine .of_note rfl (.inr fun ping => ?_)
    rw [ping] at permitted
    exact permitted.2
  | flush wall held state queue =>
    refine .of_note rfl (.inl ?_)
    rw [queue]
    exact List.mem_cons_self
  | unplug => exact s.adds_unplug fun _ _ => trivial
  | dial now _ _ asked => exact .of_note rfl asked
  | refuse _ _ asked => exact .of_note rfl asked
  | hear wall brings => exact .of_note rfl ⟨_, _, brings⟩

/-- Edits in a row add acts that come of the call on the session that the first of them found. -/
theorem Edits.comesOf (h : Edits cause s t) : Adds (Act.ComesOf cause s) s t := by
  induction h with
  | refl => exact .of_eq rfl
  | @tail t u edits edit ih =>
    have same := Edits.sameIdentity edits
    refine ih.trans (edit.comesOf.mono fun act comes => ?_)
    cases act with
    | entered event =>
      exact ⟨comes.1.trans same.key, comes.2.1.trans same.target, comes.2.2⟩
    | delivered id packet =>
      rcases comes with mem | polled
      · rcases Edits.mem_queue edits mem with mem | submitted
        · exact .inl mem
        · exact .inr fun ping => absurd ping (Purpose.ne_ping submitted)
      · exact .inr polled
    | _ => exact comes

end Session

variable {σ : Type} [Environment σ]

/-- All acts of a call come of it. -/
theorem Moment.comesOf (m : Moment σ) : ∀ act ∈ m.acts, act.ComesOf m.call m.before.session := by
  obtain ⟨s, edits, journal, -⟩ := m.edits
  exact edits.comesOf.mem journal

/-! ## Acts that others wait for -/

/-- Somebody waits for the act: a state was entered or a request settled. -/
def Act.isAwaited : Act → Bool
  | .entered _ | .settled _ => true
  | _ => false

/-- The acts that somebody waits for. -/
def awaited (acts : List Act) : List Act := acts.filter Act.isAwaited

theorem statuses_append (acts more : List Act) :
    statuses (acts ++ more) = statuses acts ++ statuses more := List.filterMap_append

/-- Handing in a frame enters no state and settles no request. -/
theorem Moment.quiet_of_submission (m : Moment σ) (submission : m.call.isSubmission = true) :
    awaited m.acts = [] := by
  rw [awaited, List.filter_eq_nil_iff]
  intro act mem told
  have comes := m.comesOf act mem
  have quiet : m.call.isSubmission = false := by
    cases act with
    | entered event => exact comes.2.2.1
    | settled outcome => exact comes
    | _ => cases told
  rw [submission] at quiet
  cases quiet

/-- A call tells of states under the name of its session. -/
theorem Moment.named (m : Moment σ) {event : StatusEvent} (mem : event ∈ m.statuses) :
    event.key = m.before.session.key ∧ event.target = m.before.session.target := by
  obtain ⟨act, among, tells⟩ := List.mem_filterMap.mp mem
  have comes := m.comesOf act among
  cases act with
  | entered other =>
    cases tells
    exact ⟨comes.1, comes.2.1⟩
  | _ => cases tells

end Switchboard
