import Switchboard.Proofs.Session.Phases
/-!
# The growth of a journal

A step only ever adds to the journal of its session. `Session.Adds P` says that it adds acts of the
sort `P`, whichever these are: none, one, or one for each request or frame that the step is about.
What the steps that loop add is said here for any sort, so that a property of acts needs to be
checked for each kind of act only.
-/

namespace Switchboard

namespace Session

variable {s t u : Session} {P Q : Act → Prop}

/-- The journal grew by acts of one sort. -/
def Adds (P : Act → Prop) (s t : Session) : Prop :=
  ∃ acts, t.journal = s.journal ++ acts ∧ ∀ act ∈ acts, P act

namespace Adds

theorem of_eq (journal : t.journal = s.journal) : Adds P s t :=
  ⟨[], by rw [journal, List.append_nil], List.forall_mem_nil _⟩

theorem of_note {act : Act} (journal : t.journal = s.journal ++ [act]) (sort : P act) :
    Adds P s t := by
  refine ⟨[act], journal, ?_⟩
  intro other mem
  rwa [List.mem_singleton.mp mem]

/-- One act for each element of a list. -/
theorem of_map {α : Type} {act : α → Act} {as : List α}
    (journal : t.journal = s.journal ++ as.map act) (sort : ∀ a ∈ as, P (act a)) : Adds P s t := by
  refine ⟨as.map act, journal, ?_⟩
  intro other mem
  obtain ⟨a, among, rfl⟩ := List.mem_map.mp mem
  exact sort a among

theorem trans (h : Adds P s t) (k : Adds P t u) : Adds P s u := by
  obtain ⟨acts, first, sort⟩ := h
  obtain ⟨more, second, sortToo⟩ := k
  refine ⟨acts ++ more, by rw [second, first, List.append_assoc], ?_⟩
  intro act mem
  exact (List.mem_append.mp mem).elim (sort act) (sortToo act)

theorem mono (h : Adds P s t) (weaker : ∀ act, P act → Q act) : Adds Q s t := by
  obtain ⟨acts, journal, sort⟩ := h
  exact ⟨acts, journal, fun act mem => weaker act (sort act mem)⟩

/-- Only the journals count. -/
theorem congr {s' t' : Session} (h : Adds P s t) (found : s.journal = s'.journal)
    (left : t'.journal = t.journal) : Adds P s' t' := by
  obtain ⟨acts, journal, sort⟩ := h
  exact ⟨acts, by rw [left, journal, found], sort⟩

/-- Of a journal that is known it is the new acts that are of the sort. -/
theorem mem (h : Adds P s t) {acts : List Act} (journal : t.journal = s.journal ++ acts) :
    ∀ act ∈ acts, P act := by
  obtain ⟨told, added, sort⟩ := h
  rw [journal] at added
  rwa [List.append_cancel_left added]

/-- Of a change that adds acts of one sort every part does. -/
theorem split (h : Adds P s u) (first : s.journal <+: t.journal)
    (second : t.journal <+: u.journal) : Adds P s t ∧ Adds P t u := by
  obtain ⟨before, journalBefore⟩ := first
  obtain ⟨after, journalAfter⟩ := second
  have sort : ∀ act ∈ before ++ after, P act :=
    h.mem (by rw [← journalAfter, ← journalBefore, List.append_assoc])
  exact ⟨⟨before, journalBefore.symm, fun act mem => sort act (List.mem_append_left _ mem)⟩,
    ⟨after, journalAfter.symm, fun act mem => sort act (List.mem_append_right _ mem)⟩⟩

end Adds

/-! ## What the steps add -/

variable (s)

theorem adds_failRequests (settles : ∀ outcome, P (.settled outcome)) :
    Adds P s s.failRequests := by
  rw [failRequests_eq]
  exact .of_map rfl fun _ _ => settles _

theorem adds_expireRequests (now : Instant) (settles : ∀ outcome, P (.settled outcome)) :
    Adds P s (s.expireRequests now) := by
  rw [expireRequests_eq_foldl]
  exact .of_map rfl fun _ _ => settles _

theorem adds_discardQueue (discards : ∀ packets, P (.discarded packets)) :
    Adds P s s.discardQueue := by
  unfold discardQueue
  split
  · exact .of_eq rfl
  · exact .of_note rfl (discards _)

/-- What a session drops when no connection is left to hope for. -/
theorem adds_drop (settles : ∀ outcome, P (.settled outcome))
    (discards : ∀ packets, P (.discarded packets)) : Adds P s s.discardQueue.failRequests :=
  (s.adds_discardQueue discards).trans (adds_failRequests _ settles)

theorem adds_enqueue (packet : Packet) (drops : ∀ packet, P (.dropped packet)) :
    Adds P s (s.enqueue packet) := by
  rw [enqueue_eq]
  exact .of_map rfl fun _ _ => drops _

theorem adds_unplug (parts : ∀ id, s.transport = some id → P (.hungUp id)) :
    Adds P s s.unplug := by
  rw [unplug_eq]
  cases held : s.transport with
  | none => exact .of_eq (List.append_nil _)
  | some id => exact .of_note rfl (parts id held)

/-- What a failure leads to is told if it is the end of the session. -/
theorem adds_retryOrGiveUp (now : Instant) (wall : UInt64)
    (settles : ∀ outcome, P (.settled outcome)) (discards : ∀ packets, P (.discarded packets))
    (ends : ∀ attempts, P (.entered ⟨s.key, s.target, .disconnected,
      some (.reconnectExhausted attempts), wall⟩)) : Adds P s (s.retryOrGiveUp now wall) := by
  unfold retryOrGiveUp
  dsimp only
  split
  · exact .of_eq rfl
  · next attempts _ =>
    have dropped := adds_drop { s with policy := s.policy.count }.cancelTimers settles discards
    refine (dropped.congr rfl rfl : Adds P s _).trans (.of_note rfl ?_)
    rw [failRequests_eq, discardQueue_eq]
    exact ends attempts.toNat

/-- A transport that opens makes the session connected, again or for the first time. -/
theorem adds_recordOpened (now : Instant) (wall : UInt64)
    (enters : ∀ state, state = .reconnected ∨ state = .connected →
      P (.entered ⟨s.key, s.target, state, none, wall⟩)) : Adds P s (s.recordOpened now wall) := by
  unfold recordOpened
  dsimp only
  split
  · exact Adds.trans (t := Session.enter _ .reconnected none wall)
      (.of_note rfl (enters _ (.inl rfl))) (.of_note rfl (enters _ (.inr rfl)))
  · exact .of_note rfl (enters _ (.inr rfl))

theorem adds_complete (frame : Frame) (settles : ∀ outcome, P (.settled outcome)) :
    Adds P s (s.complete frame) := by
  unfold complete
  split
  · exact .of_eq rfl
  · split
    · exact .of_eq rfl
    · split
      · exact .of_note rfl (settles _)
      · exact .of_eq rfl

end Session

namespace Station

open Session (Adds)

variable {σ : Type} [Environment σ] {P : Act → Prop}

/-! ## What sending adds -/

theorem adds_sendDirect (c : Station σ) (packet : Packet)
    (sends : ∀ id, c.session.transport = some id → P (.delivered id packet)) :
    Adds P c.session (c.sendDirect packet).2.session := by
  unfold sendDirect
  split
  · exact .of_eq rfl
  · next id held =>
    split
    · exact .of_eq rfl
    · exact .of_note rfl (sends id held)

theorem adds_sendAnyway (c : Station σ) {purpose : Purpose} (bytes : Except Error Bytes)
    (sends : ∀ id bytes, c.session.transport = some id → P (.delivered id ⟨purpose, bytes⟩)) :
    Adds P c.session (c.sendAnyway purpose bytes).session := by
  cases bytes with
  | error e => exact .of_eq rfl
  | ok bytes => exact adds_sendDirect c _ fun id held => sends id bytes held

theorem adds_sendAll (packets : List Packet) (c : Station σ)
    (sends : ∀ id, ∀ packet ∈ packets, c.session.transport = some id → P (.delivered id packet)) :
    Adds P c.session (sendAll packets c).2.session := by
  induction packets generalizing c with
  | nil => exact .of_eq rfl
  | cons packet rest ih =>
    have first := adds_sendDirect (P := P) c packet fun id =>
      sends id packet List.mem_cons_self
    have held := congrArg Session.transport (core_sendDirect c packet)
    unfold sendAll
    split
    · next d sent =>
      rw [sent] at first held
      refine first.trans (ih d ?_)
      intro id packet mem own
      exact sends id packet (List.mem_cons_of_mem _ mem) (held.symm.trans own)
    · next d refused =>
      rw [refused] at first
      exact first

theorem adds_flushQueue (c : Station σ) (sends : ∀ id, ∀ packet ∈ c.session.queue,
      c.session.transport = some id → P (.delivered id packet)) :
    Adds P c.session c.flushQueue.session :=
  (adds_sendAll c.session.queue c sends).congr rfl rfl

/-- Taking a frame tells of nothing but frames given up, and of frames handed over if the session is
connected. -/
theorem adds_submit (c : Station σ) (packet : Packet) (drops : ∀ packet, P (.dropped packet))
    (accepts : ∀ packet, P (.accepted packet))
    (sends : c.session.state = .connected → ∀ id other, c.session.transport = some id →
      other = packet ∨ other ∈ c.session.queue → P (.delivered id other)) :
    Adds P c.session (c.submit packet).2.session := by
  have held : Adds P c.session (c.session.enqueue packet) :=
    c.session.adds_enqueue packet drops
  have accepted (s : Session) : Adds P s (s.note (.accepted packet)) :=
    .of_note rfl (accepts packet)
  unfold submit
  cases state : c.session.state with
  | connected =>
    dsimp only
    split
    · have sent := adds_sendDirect (P := P) c packet fun id own =>
        sends state id packet own (.inl rfl)
      split
      · next d taken => rw [taken] at sent; exact sent.trans (accepted _)
      · next d refused => rw [refused] at sent; exact sent
    · have flushed := adds_flushQueue (P := P) (c.modify fun s => s.enqueue packet)
      refine (held.trans (flushed ?_)).trans (accepted _)
      intro id other mem own
      refine sends state id other ?_ (Session.mem_queue_of_enqueue mem)
      exact (congrArg Session.transport (Session.core_enqueue c.session packet)).symm.trans own
  | error =>
    dsimp only
    split
    · exact held.trans (accepted _)
    · exact .of_eq rfl
  | idle => exact .of_eq rfl
  | disconnecting => exact .of_eq rfl
  | disconnected => exact .of_eq rfl
  | _ => exact held.trans (accepted _)

theorem adds_submitBytes (c : Station σ) {purpose : Purpose} (bytes : Except Error Bytes)
    (drops : ∀ packet, P (.dropped packet)) (accepts : ∀ packet, P (.accepted packet))
    (sends : c.session.state = .connected → ∀ id other, c.session.transport = some id →
      other.purpose = purpose ∨ other ∈ c.session.queue → P (.delivered id other)) :
    Adds P c.session (c.submitBytes purpose bytes).2.session := by
  cases bytes with
  | error e => exact .of_eq rfl
  | ok bytes =>
    refine adds_submit c _ drops accepts fun state id other held which => ?_
    exact sends state id other held (which.imp_left fun same => by rw [same])

theorem adds_request (c : Station σ) (code : UInt8) (header : Header) (payload : Option Bytes)
    (now : Instant) (drops : ∀ packet, P (.dropped packet))
    (accepts : ∀ packet, P (.accepted packet))
    (sends : c.session.state = .connected → ∀ id other, c.session.transport = some id →
      other.purpose = .request c.session.requests.nextId ∨ other ∈ c.session.queue →
        P (.delivered id other)) :
    Adds P c.session (c.request code header payload now).2.session := by
  have submitted : Adds P c.session (c.requestSubmission code header payload).2.session :=
    adds_submitBytes (c.modify Session.advanced) _ drops accepts sends
  rcases result : (c.requestSubmission code header payload).1 with e | ⟨⟨⟩⟩
  · rw [request_of_error c result]
    exact submitted
  · rw [request_of_ok c result]
    exact submitted.congr rfl rfl

end Station

end Switchboard
