import Switchboard.Proofs.Session.Phases
/-!
# What becomes of a frame that is taken

A frame that a session takes from a caller has been handed over, is held back or was given up for
want of room by the time the call ends (`submit_fate`), and taking it is the last act of the call.
-/

namespace Switchboard

/-- Acts and a queue show what became of a frame. -/
def Disposed (packet : Packet) (acts : List Act) (queue : List Packet) : Prop :=
  (∃ id, Act.delivered id packet ∈ acts) ∨ packet ∈ queue ∨ Act.dropped packet ∈ acts

namespace Session

/-- A frame that is held back is the last of the queue, or there is no queue. -/
theorem mem_queue_enqueue (s : Session) (packet : Packet) :
    packet ∈ (s.enqueue packet).queue ∨
      Act.dropped packet ∈
        (toll s.config.maxQueuedFrames.toNat s.queue packet).map Act.dropped := by
  rw [enqueue_eq]
  unfold queueAfter toll
  split
  · exact .inr (List.mem_singleton_self _)
  · exact .inl (List.mem_append_right _ (List.mem_singleton_self _))

end Session

namespace Station

variable {σ : Type}

theorem enqueue_fate (c : Station σ) (packet : Packet) :
    ∃ acts, (c.modify fun s => s.enqueue packet).session.journal = c.session.journal ++ acts ∧
      Disposed packet acts (c.modify fun s => s.enqueue packet).session.queue := by
  refine ⟨(Session.toll c.session.config.maxQueuedFrames.toNat c.session.queue packet).map
    Act.dropped, ?_, ?_⟩
  · dsimp only [modify]
    rw [Session.enqueue_eq]
  · rcases Session.mem_queue_enqueue c.session packet with held | given
    · exact .inr (.inl held)
    · exact .inr (.inr given)

variable [Environment σ] {c : Station σ} {packet : Packet}

theorem sendDirect_of_ok (h : (c.sendDirect packet).1 = .ok ()) :
    ∃ id, (c.sendDirect packet).2.session.journal =
        c.session.journal ++ [.delivered id packet] ∧
      (c.sendDirect packet).2.session.queue = c.session.queue ∧
      (c.sendDirect packet).2.session.stats.droppedFrames = c.session.stats.droppedFrames := by
  unfold sendDirect at h ⊢
  split
  · next free => rw [free] at h; cases h
  · next id held =>
    rcases answer : Environment.deliver c.world id packet.bytes with ⟨e | ⟨⟨⟩⟩, world⟩
    · rw [held] at h
      simp only [answer] at h
      cases h
    · exact ⟨id, rfl, rfl, rfl⟩

theorem sendDirect_of_error {e : Error} (h : (c.sendDirect packet).1 = .error e) :
    (c.sendDirect packet).2.session = c.session := by
  unfold sendDirect at h ⊢
  split
  · rfl
  · next id held =>
    rcases answer : Environment.deliver c.world id packet.bytes with ⟨e | ⟨⟨⟩⟩, world⟩
    · rfl
    · rw [held] at h
      simp only [answer] at h
      cases h

/-- Every frame to go is handed over or left, by induction on the frames. -/
theorem sendAll_fate (packets : List Packet) (c : Station σ) :
    ∃ acts, (sendAll packets c).2.session.journal = c.session.journal ++ acts ∧
      ∀ packet ∈ packets,
        (∃ id, Act.delivered id packet ∈ acts) ∨ packet ∈ (sendAll packets c).1 := by
  induction packets generalizing c with
  | nil => exact ⟨[], (List.append_nil _).symm, nofun⟩
  | cons first rest ih =>
    unfold sendAll
    rcases sent : c.sendDirect first with ⟨e | ⟨⟨⟩⟩, c'⟩
    · have same := sendDirect_of_error (congrArg Prod.fst sent)
      rw [sent] at same
      refine ⟨[], ?_, fun packet mem => .inr mem⟩
      rw [List.append_nil]
      exact congrArg Session.journal same
    · obtain ⟨id, journal, -, -⟩ := sendDirect_of_ok (congrArg Prod.fst sent)
      obtain ⟨acts, later, fate⟩ := ih c'
      rw [sent] at journal
      refine ⟨.delivered id first :: acts, ?_, fun packet mem => ?_⟩
      · exact later.trans (by rw [journal, List.append_assoc]; rfl)
      · rcases List.mem_cons.mp mem with rfl | mem
        · exact .inl ⟨id, List.mem_cons_self⟩
        · rcases fate packet mem with ⟨id', delivered⟩ | left
          · exact .inl ⟨id', List.mem_cons_of_mem _ delivered⟩
          · exact .inr left

theorem flushQueue_fate {acts : List Act} (h : Disposed packet acts c.session.queue) :
    ∃ more, c.flushQueue.session.journal = c.session.journal ++ more ∧
      Disposed packet (acts ++ more) c.flushQueue.session.queue := by
  obtain ⟨more, journal, fate⟩ := sendAll_fate c.session.queue c
  refine ⟨more, journal, ?_⟩
  rcases h with ⟨id, delivered⟩ | held | dropped
  · exact .inl ⟨id, List.mem_append_left _ delivered⟩
  · rcases fate packet held with ⟨id, delivered⟩ | left
    · exact .inl ⟨id, List.mem_append_right _ delivered⟩
    · exact .inr (.inl left)
  · exact .inr (.inr (List.mem_append_left _ dropped))

/-- A frame that is taken has been disposed of, and the last act says that it was taken. -/
theorem submit_fate (h : (c.submit packet).1 = .ok ()) :
    ∃ acts, (c.submit packet).2.session.journal =
        c.session.journal ++ (acts ++ [.accepted packet]) ∧
      Disposed packet acts (c.submit packet).2.session.queue := by
  have accepting {c' : Station σ} {acts : List Act}
      (journal : c'.session.journal = c.session.journal ++ acts) :
      (c'.modify fun s => s.note (.accepted packet)).session.journal =
        c.session.journal ++ (acts ++ [.accepted packet]) := by
    rw [← List.append_assoc, ← journal]
    rfl
  obtain ⟨acts, journal, disposed⟩ := enqueue_fate c packet
  unfold submit at h ⊢
  cases state : c.session.state with
  | connected =>
    rw [state] at h
    dsimp only at h ⊢
    split
    · next empty =>
      rcases sent : c.sendDirect packet with ⟨e | ⟨⟨⟩⟩, c'⟩
      · rw [if_pos empty, sent] at h
        cases h
      · obtain ⟨id, delivered, -, -⟩ := sendDirect_of_ok (congrArg Prod.fst sent)
        rw [sent] at delivered
        exact ⟨_, accepting delivered, .inl ⟨id, List.mem_singleton_self _⟩⟩
    · obtain ⟨more, flushed, disposed⟩ := flushQueue_fate disposed
      refine ⟨acts ++ more, accepting ?_, disposed⟩
      rw [flushed, journal, List.append_assoc]
  | error =>
    rw [state] at h
    dsimp only at h ⊢
    split
    · exact ⟨acts, accepting journal, disposed⟩
    · next scheduled => rw [if_neg scheduled] at h; cases h
  | idle => rw [state] at h; cases h
  | disconnecting => rw [state] at h; cases h
  | disconnected => rw [state] at h; cases h
  | connecting => exact ⟨acts, accepting journal, disposed⟩
  | reconnecting => exact ⟨acts, accepting journal, disposed⟩
  | reconnected => exact ⟨acts, accepting journal, disposed⟩
  | needAuth => exact ⟨acts, accepting journal, disposed⟩
  | authenticating => exact ⟨acts, accepting journal, disposed⟩

end Station

end Switchboard
