import Switchboard.Proofs.Session.Ledger
import Switchboard.Proofs.Session.Submission
/-!
# Every request ends once

The ids that a run gave out are those that are still outstanding and those whose outcome stands
among the acts, each once (`Accounted.balance`, `Accounted.once`). The invariant behind it is
`Booked`: an id names its number, numbers only grow, so a new id is none of the old ones.
-/

namespace Switchboard

variable {σ : Type} [Environment σ]

namespace Session

theorem entering_of_quiet {s : Session} {call : Call} {answer : Except Error (Option String)}
    (h : ∀ id, answer ≠ .ok (some id)) : s.entering call answer = s := by
  unfold entering
  split
  · next id => exact absurd rfl (h id)
  · rfl

theorem sorted_entering {s : Session} (sorted : KeyMap.Sorted s.requests.pending) (call : Call)
    (answer : Except Error (Option String)) :
    KeyMap.Sorted (s.entering call answer).requests.pending := by
  unfold entering
  split
  · exact KeyMap.sorted_insert _ _ sorted
  · exact sorted

/-- A frame that is no progress report leaves no request behind that it names. -/
theorem not_mem_ids_complete (s : Session) {frame : Frame} {id : String}
    (final : frame.kind? ≠ some .sftpProgress) (named : frame.requestId? = some id) :
    id ∉ (s.complete frame).requests.ids := by
  unfold complete
  rw [if_neg final, named]
  dsimp only
  split
  · exact KeyMap.find?_eq_none_iff.mp (KeyMap.find?_erase_self id _)
  · next gone => exact fun mem => gone (Requests.contains_iff.mpr mem)

theorem complete_of_progress (s : Session) {frame : Frame} (h : frame.kind? = some .sftpProgress) :
    s.complete frame = s := by
  unfold complete
  rw [if_pos h]

end Session

namespace Station

variable {c : Station σ}

theorem perform_issued {call : Call} {id : String} (h : (c.perform call).1 = .ok (some id)) :
    ∃ code header payload now, call = .request code header payload now ∧
      id = c.session.requests.nextId ∧ (c.requestSubmission code header payload).1 = .ok () := by
  cases call with
  | request code header payload now =>
    refine ⟨code, header, payload, now, rfl, ?_⟩
    rcases result : (c.requestSubmission code header payload).1 with e | ⟨⟨⟩⟩
    · dsimp only [perform] at h
      rw [request_of_error c result] at h
      cases h
    · dsimp only [perform] at h
      rw [request_of_ok c result] at h
      cases h
      exact ⟨rfl, rfl⟩
  | send code header payload =>
    dsimp only [perform] at h
    cases result : (c.send code header payload).1 <;> rw [result] at h <;> cases h
  | sendMessage message payload =>
    dsimp only [perform] at h
    cases result : (c.sendMessage message payload).1 <;> rw [result] at h <;> cases h
  | _ => cases h

/-- Submitting a request uses an id up and does nothing else to the requests. -/
theorem requests_requestSubmission (c : Station σ) (code : UInt8) (header : Header)
    (payload : Option Bytes) :
    (c.requestSubmission code header payload).2.session.requests = c.session.requests.advance :=
  congrArg Session.requests (core_submitBytes (c.modify Session.advanced) _ _)

theorem requests_request {code : UInt8} {header : Header} {payload : Option Bytes}
    (h : (c.requestSubmission code header payload).1 = .ok ()) (now : Instant) :
    (c.request code header payload now).2.session.requests =
      c.session.requests.advance.insert c.session.requests.nextId code now := by
  rw [request_of_ok c h]
  dsimp only [modify, Session.awaiting]
  rw [requests_requestSubmission]

/-- A call that brings a frame and is not heard does nothing. -/
theorem handleEvent_unheard {id : ConnectionId} {bytes : Bytes}
    (h : ¬ (id = c.session.connectionId ∧ c.session.state.isLive = true)) (now : Instant) :
    c.handleEvent id (.frame bytes) now = c := by
  unfold handleEvent
  split
  · next own =>
    dsimp only [receive]
    rw [if_neg fun live => h ⟨own, live⟩]
  · rfl

theorem handleEvent_heard {bytes : Bytes} {frame : Frame}
    (live : c.session.state.isLive = true) (decodes : Frame.decode bytes = .ok frame)
    (now : Instant) :
    c.handleEvent c.session.connectionId (.frame bytes) now =
      (c.modify fun s => s.recordArrival bytes (Environment.wallClock c.world)).hear frame now := by
  unfold handleEvent
  rw [if_pos rfl]
  dsimp only [receive]
  rw [if_pos live]
  simp only [decodes]

/-- Bytes that are no frame are counted, and nothing else comes of them. -/
theorem handleEvent_garbled {bytes : Bytes} {e : Error}
    (live : c.session.state.isLive = true) (garbled : Frame.decode bytes = .error e)
    (now : Instant) :
    c.handleEvent c.session.connectionId (.frame bytes) now = c.modify fun s =>
      { s.recordArrival bytes (Environment.wallClock c.world) with
        stats := (s.recordArrival bytes
          (Environment.wallClock c.world)).stats.recordDecodeError } := by
  unfold handleEvent
  rw [if_pos rfl]
  dsimp only [receive]
  rw [if_pos live, garbled]
  rfl

/-- A progress report is heard and nothing else. -/
theorem hear_progress {frame : Frame} (h : frame.kind? = some .sftpProgress) (c : Station σ)
    (now : Instant) : c.hear frame now =
      c.modify fun s => s.note (.heard ⟨frame, (Message.ofFrame frame).toOption.join⟩) := by
  have ignored (c : Station σ) : c.negotiateMessage (Message.ofFrame frame).toOption.join = c := by
    have read : Message.ofFrame frame = some <$> Message.ofHeader .sftpProgress frame.header := by
      unfold Message.ofFrame
      rw [h]
    have shape : Message.read .sftpProgress frame.header =
        Message.sftp .sftpProgress <$> SftpHeader.read frame.header := by
      unfold Message.read
      exact if_pos (by decide)
    rw [read, Message.ofHeader, shape]
    cases SftpHeader.read frame.header <;> rfl
  unfold hear
  dsimp only
  rw [ignored]
  unfold attend
  rw [h]
  dsimp only [modify]
  rw [Session.complete_of_progress _ h]

/-- A request that is taken submits the caller's header with the id written into it. -/
theorem requestSubmission_fate {code : UInt8} {header : Header} {payload : Option Bytes}
    (h : (c.requestSubmission code header payload).1 = .ok ()) :
    ∃ bytes acts, Frame.encodeHeader code (KeyMap.insert Frame.requestIdField
        (.str c.session.requests.nextId) header) payload = .ok bytes ∧
      (c.requestSubmission code header payload).2.session.journal = c.session.journal ++
        (acts ++ [.accepted ⟨.request c.session.requests.nextId, bytes⟩]) ∧
      Disposed ⟨.request c.session.requests.nextId, bytes⟩ acts
        (c.requestSubmission code header payload).2.session.queue := by
  unfold requestSubmission requestBytes at h ⊢
  cases written : Frame.encodeHeader code (KeyMap.insert Frame.requestIdField
    (.str c.session.requests.nextId) header) payload with
  | error e => rw [written] at h; cases h
  | ok bytes =>
    rw [written] at h
    obtain ⟨acts, journal, disposed⟩ := submit_fate h
    exact ⟨bytes, acts, rfl, journal, disposed⟩

end Station

/-! ## One call -/

namespace Moment

variable {m : Moment σ} {id : String} {frame : Frame}

theorem answer_of_issued (h : m.issued? = some id) : m.answer = .ok (some id) := by
  unfold issued? at h
  split at h
  · next ok => rw [ok, h]
  · cases h

theorem session_of_quiet (h : m.issued? = none) (s : Session) :
    s.entering m.call m.answer = s := by
  refine Session.entering_of_quiet fun id ok => ?_
  unfold issued? at h
  rw [ok] at h
  cases h

theorem settling (sorted : KeyMap.Sorted m.before.session.requests.pending) :
    ∃ s, Session.Edits m.call m.before.session s ∧ Settling m.call m.before.session s m.acts ∧
      m.after.session = s.entering m.call m.answer := by
  obtain ⟨s, edits, journal, after⟩ := m.edits
  obtain ⟨acts, settled⟩ := edits.effects.settling sorted
  have same : m.acts = acts := List.append_cancel_left (journal.symm.trans settled.journal)
  exact ⟨s, edits, same ▸ settled, after⟩

theorem sorted_after (sorted : KeyMap.Sorted m.before.session.requests.pending) :
    KeyMap.Sorted m.after.session.requests.pending := by
  obtain ⟨s, edits, -, after⟩ := m.settling sorted
  have kept := edits.effects.sorted_pending sorted
  rw [after]
  exact Session.sorted_entering kept _ _

theorem requests_of_issued (h : m.issued? = some id) : ∃ code now,
    m.after.session.requests = m.before.session.requests.advance.insert id code now := by
  obtain ⟨code, header, payload, now, call, rfl, taken⟩ :=
    Station.perform_issued (answer_of_issued h)
  refine ⟨code, now, ?_⟩
  unfold after
  rw [call]
  exact Station.requests_request taken now

theorem issued_eq (h : m.issued? = some id) : id = m.before.session.requests.nextId := by
  obtain ⟨-, -, -, -, -, eq, -⟩ := Station.perform_issued (answer_of_issued h)
  exact eq

/-- What a call leaves outstanding and what it settles was outstanding before or is new. -/
theorem balance (sorted : KeyMap.Sorted m.before.session.requests.pending)
    (fresh : m.before.session.requests.nextId ∉ m.before.session.requests.ids) :
    (m.after.session.requests.ids ++ m.outcomes.map Outcome.requestId).Perm
      (m.issued?.toList ++ m.before.session.requests.ids) := by
  obtain ⟨s, -, settled, after⟩ := m.settling sorted
  cases issued : m.issued? with
  | none =>
    rw [after, session_of_quiet issued]
    exact settled.balance
  | some id =>
    have answered := answer_of_issued issued
    obtain ⟨code, header, payload, now, call, rfl, -⟩ := Station.perform_issued answered
    -- The request enters at the end, among those that the call has left outstanding.
    have notHeld : m.before.session.requests.nextId ∉ s.requests.ids := fun mem =>
      fresh (settled.balance.subset (List.mem_append_left _ mem))
    have one : m.after.session.requests.ids.Perm
        (m.before.session.requests.nextId :: s.requests.ids) := by
      rw [after, answered, call]
      exact KeyMap.keys_insert_perm _ notHeld
    refine (one.append_right _).trans ?_
    exact (settled.balance.cons _)

/-- Numbers never go back, and an id that is given out uses its number up. -/
theorem next_after (m : Moment σ) :
    m.before.session.requests.next + m.issued?.toList.length ≤ m.after.session.requests.next := by
  cases issued : m.issued? with
  | none =>
    obtain ⟨s, edits, -, after⟩ := m.edits
    rw [after, session_of_quiet issued]
    exact edits.effects.next_le
  | some id =>
    obtain ⟨code, now, requests⟩ := requests_of_issued issued
    rw [requests]
    exact Nat.le_refl _

theorem pending_of_settled (sorted : KeyMap.Sorted m.before.session.requests.pending)
    {outcome : Outcome} (mem : outcome ∈ m.outcomes) :
    outcome.requestId ∈ m.before.session.requests.ids := by
  obtain ⟨s, -, settled, -⟩ := m.settling sorted
  exact settled.balance.subset (List.mem_append_right _ (List.mem_map_of_mem mem))

theorem due (sorted : KeyMap.Sorted m.before.session.requests.pending) {outcome : Outcome}
    (mem : outcome ∈ m.outcomes) : Due m.call outcome := by
  obtain ⟨s, -, settled, -⟩ := m.settling sorted
  exact settled.due outcome mem

theorem outcomes_of_still (h : m.after = m.before) : m.outcomes = [] := by
  unfold outcomes acts
  rw [h, List.drop_length]
  rfl

/-- A request that ends well was answered by a frame that the session heard. -/
theorem hears_of_settled (sorted : KeyMap.Sorted m.before.session.requests.pending)
    (mem : ⟨id, .ok frame⟩ ∈ m.outcomes) :
    m.Hears frame ∧ frame.kind? ≠ some .sftpProgress ∧ frame.requestId? = some id := by
  cases due sorted mem with
  | @answered bytes _ _ brings decodes final named =>
    refine ⟨?_, final, named⟩
    obtain ⟨tag, now, call⟩ := brings
    by_cases heard : tag = m.before.session.connectionId ∧ m.before.session.state.isLive = true
    · obtain ⟨rfl, live⟩ := heard
      exact ⟨bytes, now, call, decodes, live⟩
    · -- A frame that was not heard ends nothing.
      have still : m.after = m.before := by
        unfold after
        rw [call]
        exact Station.handleEvent_unheard heard now
      rw [outcomes_of_still still] at mem
      cases mem

theorem after_of_hears (h : m.Hears frame) :
    ∃ (c : Station σ) (now : Instant), c.session.requests = m.before.session.requests ∧
      c.session.journal = m.before.session.journal ∧ m.after = c.hear frame now := by
  obtain ⟨bytes, now, call, decodes, live⟩ := h
  refine ⟨m.before.modify fun s => s.recordArrival bytes (Environment.wallClock m.before.world),
    now, rfl, rfl, ?_⟩
  unfold after
  rw [call]
  exact Station.handleEvent_heard live decodes now

/-- A frame that is no progress report ends the request that it names, one way or another. -/
theorem gone_of_hears (h : m.Hears frame) (final : frame.kind? ≠ some .sftpProgress)
    (named : frame.requestId? = some id) : id ∉ m.after.session.requests.ids := by
  obtain ⟨c, now, -, -, after⟩ := after_of_hears h
  rw [after]
  exact Session.not_mem_ids_complete _ final named

/-- A progress report leaves every request as it is. -/
theorem progress (h : m.Hears frame) (kind : frame.kind? = some .sftpProgress) :
    m.after.session.requests = m.before.session.requests ∧ m.outcomes = [] := by
  obtain ⟨c, now, requests, journal, after⟩ := after_of_hears h
  rw [Station.hear_progress kind] at after
  refine ⟨by rw [after]; exact requests, ?_⟩
  have added : m.acts = [.heard ⟨frame, (Message.ofFrame frame).toOption.join⟩] := by
    apply acts_eq
    rw [after]
    exact congrArg (· ++ _) journal
  unfold outcomes
  rw [added]
  rfl

/-- The frame that a request submits: the caller's header with the id written into it. -/
structure Submits (m : Moment σ) (id : String) (bytes : Bytes) : Prop where
  written : ∃ code header payload now, m.call = .request code header payload now ∧
    Frame.encodeHeader code (KeyMap.insert Frame.requestIdField (.str id) header) payload =
      .ok bytes
  /-- Taking the frame is the last act of the call. -/
  accepted : m.acts.getLast? = some (.accepted ⟨.request id, bytes⟩)
  disposed : Disposed ⟨.request id, bytes⟩ m.acts m.after.session.queue

theorem submits (h : m.issued? = some id) : ∃ bytes, m.Submits id bytes := by
  obtain ⟨code, header, payload, now, call, rfl, taken⟩ :=
    Station.perform_issued (answer_of_issued h)
  obtain ⟨bytes, acts, written, journal, disposed⟩ := Station.requestSubmission_fate taken
  have after : m.after.session = (m.before.requestSubmission code header payload).2.session.awaiting
      m.before.session.requests.nextId code now := by
    unfold after
    rw [call]
    exact congrArg (fun r => r.2.session) (Station.request_of_ok m.before taken now)
  have added : m.acts = acts ++ [.accepted ⟨.request m.before.session.requests.nextId, bytes⟩] := by
    apply acts_eq
    rw [after]
    exact journal
  refine ⟨bytes, ⟨code, header, payload, now, call, written⟩, ?_, ?_⟩
  · rw [added, List.getLast?_concat]
  · rw [added, after]
    rcases disposed with ⟨tag, delivered⟩ | held | dropped
    · exact .inl ⟨tag, List.mem_append_left _ delivered⟩
    · exact .inr (.inl held)
    · exact .inr (.inr (List.mem_append_left _ dropped))

end Moment

/-! ## Runs -/

/-- The books of a run: ids are numbered below the next number, given out once, and outstanding or
settled. -/
structure Booked (ms : List (Moment σ)) (c : Station σ) : Prop where
  sorted : KeyMap.Sorted c.session.requests.pending
  numbered : ∀ id ∈ Run.issued ms,
    ∃ n < c.session.requests.next, id = Requests.idAt c.session.requests.mark n
  distinct : (Run.issued ms).Nodup
  balance : (Run.issued ms).Perm
    (c.session.requests.ids ++ (Run.outcomes ms).map Outcome.requestId)

namespace Booked

variable {ms : List (Moment σ)} {c : Station σ}

theorem next_fresh (h : Booked ms c) : c.session.requests.nextId ∉ Run.issued ms := by
  intro mem
  obtain ⟨n, lt, eq⟩ := h.numbered _ mem
  have same := (Requests.idAt_inj.mp eq).2
  omega

theorem next_not_pending (h : Booked ms c) :
    c.session.requests.nextId ∉ c.session.requests.ids := fun mem =>
  h.next_fresh (h.balance.symm.subset (List.mem_append_left _ mem))

theorem call (h : Booked ms c) (call : Call) :
    Booked (ms ++ [⟨c, call⟩]) (c.perform call).2 := by
  let m : Moment σ := ⟨c, call⟩
  have issued : Run.issued (ms ++ [m]) = Run.issued ms ++ m.issued?.toList := by
    unfold Run.issued
    rw [List.filterMap_append]
    cases e : m.issued? <;> simp [e]
  have outcomes : Run.outcomes (ms ++ [m]) = Run.outcomes ms ++ m.outcomes := by
    simp [Run.outcomes]
  have balanced : (m.after.session.requests.ids ++ m.outcomes.map Outcome.requestId).Perm
      (m.issued?.toList ++ c.session.requests.ids) := m.balance h.sorted h.next_not_pending
  refine ⟨m.sorted_after h.sorted, fun id mem => ?_, ?_, ?_⟩
  · have grown := m.next_after
    have marked : m.after.session.requests.mark = c.session.requests.mark :=
      m.sameIdentity.mark
    change ∃ n < m.after.session.requests.next, id = Requests.idAt m.after.session.requests.mark n
    rw [marked]
    rw [issued] at mem
    rcases List.mem_append.mp mem with old | new
    · obtain ⟨n, lt, eq⟩ := h.numbered id old
      exact ⟨n, Nat.lt_of_lt_of_le lt (Nat.le_trans (Nat.le_add_right _ _) grown), eq⟩
    · rw [Option.mem_toList] at new
      rw [new] at grown
      exact ⟨c.session.requests.next, grown, Moment.issued_eq new⟩
  · rw [issued, List.nodup_append]
    refine ⟨h.distinct, ?_, fun old oldMem id new same => ?_⟩
    · cases m.issued? <;> simp
    · rw [Option.mem_toList] at new
      rw [same, Moment.issued_eq new] at oldMem
      exact h.next_fresh oldMem
  · rw [issued, outcomes, List.map_append]
    exact perm_carry h.balance balanced

end Booked

namespace Run

variable {key : String} {target : Target} {config : SessionConfig} {generation serial : Nat}
  {mark : String}
  {ms : List (Moment σ)} {c : Station σ}

/-- The books of a run are in order if it begins with no request outstanding. -/
theorem booked_of_clear {start : Session} (h : Run start ms c)
    (clear : start.requests.pending = []) : Booked ms c := by
  induction h with
  | begin world =>
    have none : start.requests.ids = [] := congrArg KeyMap.keys clear
    refine ⟨?_, nofun, List.nodup_nil, ?_⟩
    · show KeyMap.Sorted start.requests.pending
      rw [clear]
      exact List.Pairwise.nil
    · exact .of_eq ((List.append_nil _).trans none).symm
  | call _ call ih => exact ih.call call
  | drain _ ih => exact ⟨ih.sorted, ih.numbered, ih.distinct, ih.balance⟩
  | world _ _ ih => exact ⟨ih.sorted, ih.numbered, ih.distinct, ih.balance⟩

theorem booked (h : Run (.create key target config generation serial mark) ms c) : Booked ms c :=
  h.booked_of_clear rfl

end Run

/-- A frame answers a request: it is the first frame, of all that the session heard while the
request was outstanding, that names the request and is no progress report. -/
structure FirstAnswer (earlier : List (Moment σ)) (m : Moment σ) (id : String) (frame : Frame) :
    Prop where
  heard : m.Hears frame
  named : frame.requestId? = some id
  final : frame.kind? ≠ some .sftpProgress
  pending : id ∈ m.before.session.requests.ids
  first : ∀ m' ∈ earlier, ∀ frame' : Frame, m'.Hears frame' → frame'.requestId? = some id →
    id ∈ m'.before.session.requests.ids → frame'.kind? = some .sftpProgress

/-- An outcome is the first answer, or says why there is none. -/
def Deserved (earlier : List (Moment σ)) (m : Moment σ) (outcome : Outcome) : Prop :=
  match outcome.result with
  | .ok frame => FirstAnswer earlier m outcome.requestId frame
  | .error e => e = .connectionClosed ∨ e = .requestTimeout outcome.requestId

/-- The books of a run as its callers read them. -/
structure Accounted (ms : List (Moment σ)) (c : Station σ) : Prop where
  /-- The ids given out are those outstanding and those settled. -/
  balance : (Run.issued ms).Perm
    (c.session.requests.ids ++ (Run.outcomes ms).map Outcome.requestId)
  /-- No id is outstanding and settled, or settled twice. -/
  once : (c.session.requests.ids ++ (Run.outcomes ms).map Outcome.requestId).Nodup
  deserved : ∀ earlier m later, ms = earlier ++ m :: later →
    ∀ outcome ∈ m.outcomes, Deserved earlier m outcome
  progress : ∀ m ∈ ms, ∀ frame : Frame, m.Hears frame → frame.kind? = some .sftpProgress →
    m.after.session.requests = m.before.session.requests ∧ m.outcomes = []
  submitted : ∀ m ∈ ms, ∀ id, m.issued? = some id → ∃ bytes, m.Submits id bytes

namespace Run

variable {key : String} {target : Target} {config : SessionConfig} {generation serial : Nat}
  {mark : String}
  {ms : List (Moment σ)} {c : Station σ}

/-- A request that a call ends is not ended by another one. -/
theorem outcomes_disjoint {early late : List (Moment σ)} {m : Moment σ}
    (h : ((outcomes (early ++ m :: late)).map Outcome.requestId).Nodup) {m' : Moment σ}
    (mem : m' ∈ early) {id : String} (settled : id ∈ m.outcomes.map Outcome.requestId) :
    id ∉ m'.outcomes.map Outcome.requestId := by
  intro settledToo
  unfold outcomes at h
  rw [List.flatMap_append, List.map_append, List.nodup_append] at h
  refine h.2.2 id ?_ id ?_ rfl
  · rw [List.map_flatMap]
    exact List.mem_flatMap.mpr ⟨m', mem, settledToo⟩
  · rw [List.map_flatMap]
    exact List.mem_flatMap.mpr ⟨m, List.mem_cons_self, settled⟩

/-- An earlier frame that could have answered would have ended the request, which then could not
end again. -/
theorem firstAnswer (h : Run (.create key target config generation serial mark) ms c)
    {earlier later : List (Moment σ)} {m : Moment σ} (split : ms = earlier ++ m :: later)
    {id : String} {frame : Frame} (mem : ⟨id, .ok frame⟩ ∈ m.outcomes) :
    FirstAnswer earlier m id frame := by
  have books (m' : Moment σ) (mem' : m' ∈ ms) : ∃ ms', Booked ms' m'.before := by
    obtain ⟨ms', run⟩ := h.until_mem mem'
    exact ⟨ms', run.booked⟩
  obtain ⟨_, booked⟩ := books m (by rw [split]; simp)
  obtain ⟨heard, final, named⟩ := Moment.hears_of_settled booked.sorted mem
  refine ⟨heard, named, final, Moment.pending_of_settled booked.sorted mem, ?_⟩
  intro m' early frame' heard' named' pending'
  by_contra final'
  obtain ⟨_, booked'⟩ := books m' (by rw [split]; exact List.mem_append_left _ early)
  have gone := Moment.gone_of_hears heard' final' named'
  have settled' : id ∈ m'.outcomes.map Outcome.requestId := by
    have kept := (m'.balance booked'.sorted booked'.next_not_pending).symm.subset
      (List.mem_append_right _ pending')
    exact (List.mem_append.mp kept).resolve_left gone
  have once := (h.booked.balance.nodup_iff.mp h.booked.distinct).sublist
    (List.sublist_append_right _ _)
  rw [split] at once
  exact outcomes_disjoint once early (List.mem_map_of_mem mem) settled'

theorem accounted (h : Run (.create key target config generation serial mark) ms c) :
    Accounted ms c where
  balance := h.booked.balance
  once := h.booked.balance.nodup_iff.mp h.booked.distinct
  deserved := by
    intro earlier m later split outcome mem
    obtain ⟨_, run⟩ := h.until_mem (by rw [split]; simp : m ∈ ms)
    obtain ⟨id, result⟩ := outcome
    cases result with
    | ok frame => exact h.firstAnswer split mem
    | error e =>
      cases Moment.due run.booked.sorted mem with
      | closed => exact .inl rfl
      | expired => exact .inr rfl
  progress := fun _ _ _ heard kind => Moment.progress heard kind
  submitted := fun _ _ _ issued => Moment.submits issued

end Run

end Switchboard
