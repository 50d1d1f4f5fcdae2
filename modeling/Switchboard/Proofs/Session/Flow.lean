import Switchboard.Proofs.Session.Departures
import Switchboard.Proofs.Session.Submission
import Switchboard.Proofs.Session.World
import Switchboard.Scripted.Network
/-!
# Frames flow in order

The frames that a session took from its callers, in order, are those that have left and then those
that are held back (`Flow.order`): frames leave at the front of the queue, and a frame that is
handed over directly finds the queue empty. So no frame overtakes another one, none is doubled, and
the lost ones are accounted for one by one.

A call that is taken adds its frame at the end and may push out the oldest (`Intake`); any other
call only takes frames off the queue (`Release`).
-/

namespace Switchboard

/-- The frames held back come from callers and fit the queue. -/
structure Orderly (s : Session) : Prop where
  submitted : ∀ packet ∈ s.queue, packet.purpose.isSubmitted = true
  bounded : s.queue.length ≤ s.config.maxQueuedFrames.toNat

/-- Two sessions that differ in nothing that frames depend on. -/
structure Alike (s t : Session) : Prop where
  journal : t.journal = s.journal
  queue : t.queue = s.queue
  stats : t.stats = s.stats
  config : t.config = s.config

namespace Alike

variable {s t u : Session}

theorem refl (s : Session) : Alike s s := ⟨rfl, rfl, rfl, rfl⟩

theorem trans (h : Alike s t) (k : Alike t u) : Alike s u :=
  ⟨k.journal.trans h.journal, k.queue.trans h.queue, k.stats.trans h.stats,
    k.config.trans h.config⟩

theorem orderly (h : Alike s t) (k : Orderly s) : Orderly t :=
  ⟨by rw [h.queue]; exact k.submitted, by rw [h.queue, h.config]; exact k.bounded⟩

end Alike

/-- A call that is taken: its frame joins the queue at the end, and frames leave at the front. -/
structure Intake (s : Session) (packet : Packet) (t : Session) (acts : List Act) : Prop where
  submitted : packet.purpose.isSubmitted = true
  journal : t.journal = s.journal ++ acts
  queue : s.queue ++ [packet] = (departures acts).map Fated.packet ++ t.queue
  drops : drops acts = [] ∨ drops acts = Session.toll s.config.maxQueuedFrames.toNat s.queue packet
  dropped : t.stats.droppedFrames =
    (Stats.recordDropped^[(Switchboard.drops acts).length] s.stats).droppedFrames
  undiscarded : ∀ packets, .discarded packets ∉ acts
  bounded : t.queue.length ≤ s.config.maxQueuedFrames.toNat

/-- The acts are deliveries of callers' frames. -/
def Handing (acts : List Act) : Prop :=
  ∀ act ∈ acts, ∃ id packet, act = .delivered id packet ∧ packet.purpose.isSubmitted = true

theorem drops_of_handing {acts : List Act} (h : Handing acts) : drops acts = [] := by
  refine List.filterMap_eq_nil_iff.mpr fun act mem => ?_
  obtain ⟨id, packet, rfl, -⟩ := h act mem
  rfl

theorem undiscarded_of_handing {acts : List Act} (h : Handing acts) (packets : List Packet) :
    .discarded packets ∉ acts := by
  intro mem
  obtain ⟨id, packet, same, -⟩ := h _ mem
  cases same

namespace Session

theorem departures_map_dropped (packets : List Packet) :
    departures (packets.map Act.dropped) = packets.map fun packet => ⟨packet, .dropped⟩ := by
  induction packets with
  | nil => rfl
  | cons packet packets ih => exact congrArg (⟨packet, .dropped⟩ :: ·) ih

theorem drops_map_dropped (packets : List Packet) : drops (packets.map Act.dropped) = packets := by
  induction packets with
  | nil => rfl
  | cons packet packets ih => exact congrArg (packet :: ·) ih

/-- What an arrival costs and what is left are the queue and the arrival, in order. -/
theorem toll_append_queueAfter {s : Session} (h : Orderly s) (packet : Packet) :
    toll s.config.maxQueuedFrames.toNat s.queue packet ++
      queueAfter s.config.maxQueuedFrames.toNat s.queue packet = s.queue ++ [packet] := by
  unfold toll queueAfter
  split
  · next none =>
    have empty : s.queue = [] := by
      apply List.eq_nil_of_length_eq_zero
      have := h.bounded
      omega
    rw [empty]
    rfl
  · rw [← List.append_assoc, List.take_append_drop]

theorem length_queueAfter {s : Session} (h : Orderly s) (packet : Packet) :
    (queueAfter s.config.maxQueuedFrames.toNat s.queue packet).length ≤
      s.config.maxQueuedFrames.toNat := by
  have bounded := h.bounded
  unfold queueAfter
  split
  · exact bounded
  · simp only [List.length_append, List.length_drop, List.length_singleton, overflow]
    omega

theorem intake_enqueue {s : Session} (h : Orderly s) {packet : Packet}
    (own : packet.purpose.isSubmitted = true) :
    ∃ acts, Intake s packet (s.enqueue packet) acts := by
  rw [enqueue_eq]
  refine ⟨_, own, rfl, ?_, .inr (drops_map_dropped _), by rw [drops_map_dropped], ?_, ?_⟩
  · rw [departures_map_dropped, List.map_map]
    simp only [Function.comp_def, List.map_id']
    exact (toll_append_queueAfter h packet).symm
  · intro packets mem
    obtain ⟨packet, -, same⟩ := List.mem_map.mp mem
    cases same
  · exact length_queueAfter h packet

end Session

namespace Intake

variable {s t u : Session} {packet : Packet} {acts more : List Act}

theorem handing (h : Intake s packet t acts) (journal : u.journal = t.journal ++ more)
    (hands : Handing more) (queue : t.queue = (departures more).map Fated.packet ++ u.queue)
    (dropped : u.stats.droppedFrames = t.stats.droppedFrames) : Intake s packet u (acts ++ more) := by
  have same : Switchboard.drops (acts ++ more) = Switchboard.drops acts := by
    have none := drops_of_handing hands
    unfold Switchboard.drops at *
    rw [List.filterMap_append, none, List.append_nil]
  refine ⟨h.submitted, ?_, ?_, ?_, ?_, ?_, ?_⟩
  · rw [journal, h.journal, List.append_assoc]
  · rw [h.queue, queue, departures_append, List.map_append, List.append_assoc]
  · rw [same]; exact h.drops
  · rw [same, dropped]; exact h.dropped
  · intro packets mem
    rcases List.mem_append.mp mem with mem | mem
    · exact h.undiscarded packets mem
    · exact undiscarded_of_handing hands packets mem
  · have less := congrArg List.length queue
    simp only [List.length_append] at less
    have := h.bounded
    omega

theorem congr {s' t' : Session} (h : Intake s packet t acts) (found : Alike s' s)
    (left : Alike t t') : Intake s' packet t' acts where
  submitted := h.submitted
  journal := by rw [left.journal, h.journal, found.journal]
  queue := by rw [← found.queue, left.queue]; exact h.queue
  drops := by rw [← found.queue, ← found.config]; exact h.drops
  dropped := by rw [← found.stats, left.stats]; exact h.dropped
  undiscarded := h.undiscarded
  bounded := by rw [← found.config, left.queue]; exact h.bounded

theorem accepted (h : Intake s packet t acts) :
    Intake s packet (t.note (.accepted packet)) (acts ++ [.accepted packet]) := by
  have same : Switchboard.drops (acts ++ [.accepted packet]) = Switchboard.drops acts := by
    simp [Switchboard.drops, Act.dropped?]
  refine ⟨h.submitted, ?_, ?_, ?_, ?_, ?_, h.bounded⟩
  · exact (congrArg (· ++ [Act.accepted packet]) h.journal).trans (List.append_assoc ..)
  · have none : departures [Act.accepted packet] = [] := rfl
    rw [departures_append, none, List.append_nil]
    exact h.queue
  · rw [same]; exact h.drops
  · rw [same]; exact h.dropped
  · intro packets mem
    rcases List.mem_append.mp mem with mem | mem
    · exact h.undiscarded packets mem
    · cases List.mem_singleton.mp mem

end Intake

/-! ## Submitting -/

namespace Station

variable {σ : Type} [Environment σ] {c : Station σ} {packet : Packet}

/-- Frames are handed over in order until one is refused, by induction on the frames. -/
theorem sendAll_hands (packets : List Packet)
    (submitted : ∀ packet ∈ packets, packet.purpose.isSubmitted = true) (c : Station σ) :
    ∃ acts, (sendAll packets c).2.session.journal = c.session.journal ++ acts ∧ Handing acts ∧
      packets = (departures acts).map Fated.packet ++ (sendAll packets c).1 ∧
      (sendAll packets c).2.session.stats.droppedFrames = c.session.stats.droppedFrames := by
  induction packets generalizing c with
  | nil => exact ⟨[], (List.append_nil _).symm, List.forall_mem_nil _, rfl, rfl⟩
  | cons first rest ih =>
    unfold sendAll
    rcases sent : c.sendDirect first with ⟨e | ⟨⟨⟩⟩, c'⟩
    · have same := sendDirect_of_error (congrArg Prod.fst sent)
      rw [sent] at same
      dsimp only at same ⊢
      rw [same]
      exact ⟨[], (List.append_nil _).symm, List.forall_mem_nil _, rfl, rfl⟩
    · obtain ⟨id, journal, -, dropped⟩ := sendDirect_of_ok (congrArg Prod.fst sent)
      obtain ⟨acts, later, hands, split, still⟩ :=
        ih (fun packet mem => submitted packet (List.mem_cons_of_mem _ mem)) c'
      rw [sent] at journal dropped
      have own := submitted first List.mem_cons_self
      refine ⟨.delivered id first :: acts, ?_, ?_, ?_, still.trans dropped⟩
      · exact later.trans (by rw [journal, List.append_assoc]; rfl)
      · exact List.forall_mem_cons.mpr ⟨⟨id, first, rfl, own⟩, hands⟩
      · have first' : departures (.delivered id first :: acts) =
            ⟨first, .sent id⟩ :: departures acts := by
          simp [departures, Act.departures, own]
        rw [first']
        exact congrArg (first :: ·) split

theorem flushQueue_hands
    (submitted : ∀ packet ∈ c.session.queue, packet.purpose.isSubmitted = true) :
    ∃ acts, c.flushQueue.session.journal = c.session.journal ++ acts ∧ Handing acts ∧
      c.session.queue = (departures acts).map Fated.packet ++ c.flushQueue.session.queue ∧
      c.flushQueue.session.stats.droppedFrames = c.session.stats.droppedFrames :=
  sendAll_hands c.session.queue submitted c

theorem submit_of_error {e : Error} (h : (c.submit packet).1 = .error e) :
    (c.submit packet).2.session = c.session := by
  unfold submit at h ⊢
  cases state : c.session.state with
  | connected =>
    rw [state] at h
    dsimp only at h ⊢
    split
    · next empty =>
      rw [if_pos empty] at h
      rcases sent : c.sendDirect packet with ⟨e | ⟨⟨⟩⟩, c'⟩
      · have same := sendDirect_of_error (congrArg Prod.fst sent)
        rw [sent] at same
        exact same
      · rw [sent] at h
        cases h
    · next full => rw [if_neg full] at h; cases h
  | error =>
    rw [state] at h
    dsimp only at h ⊢
    split
    · next scheduled => rw [if_pos scheduled] at h; cases h
    · rfl
  | idle => rfl
  | disconnecting => rfl
  | disconnected => rfl
  | _ => rw [state] at h; cases h

theorem submitted_enqueue {s : Session} (h : Orderly s) (own : packet.purpose.isSubmitted = true) :
    ∀ other ∈ (s.enqueue packet).queue, other.purpose.isSubmitted = true := by
  intro other mem
  rw [Session.enqueue_eq] at mem
  unfold Session.queueAfter at mem
  dsimp only at mem
  split at mem
  · exact h.submitted other mem
  · rcases List.mem_append.mp mem with mem | mem
    · exact h.submitted other (List.mem_of_mem_drop mem)
    · cases List.mem_singleton.mp mem
      exact own

theorem intake_submit (h : Orderly c.session) (own : packet.purpose.isSubmitted = true)
    (taken : (c.submit packet).1 = .ok ()) :
    ∃ acts, Intake c.session packet (c.submit packet).2.session acts := by
  obtain ⟨acts, joined⟩ := Session.intake_enqueue h own
  unfold submit at taken ⊢
  cases state : c.session.state with
  | connected =>
    rw [state] at taken
    dsimp only at taken ⊢
    split
    · next empty =>
      rw [if_pos empty] at taken
      rcases sent : c.sendDirect packet with ⟨e | ⟨⟨⟩⟩, c'⟩
      · rw [sent] at taken
        cases taken
      · obtain ⟨id, journal, queue, dropped⟩ := sendDirect_of_ok (congrArg Prod.fst sent)
        rw [sent] at journal queue dropped
        have none := List.isEmpty_iff.mp empty
        have direct : Intake c.session packet c'.session [.delivered id packet] := by
          refine ⟨own, journal, ?_, .inl rfl, dropped, by simp, ?_⟩
          · dsimp only at queue
            rw [queue, none]
            simp [departures, Act.departures, own]
          · dsimp only at queue
            rw [queue]
            exact h.bounded
        exact ⟨_, direct.accepted⟩
    · obtain ⟨more, journal, hands, queue, dropped⟩ :=
        flushQueue_hands (c := c.modify fun s => s.enqueue packet) (submitted_enqueue h own)
      exact ⟨_, (joined.handing journal hands queue dropped).accepted⟩
  | error =>
    rw [state] at taken
    dsimp only at taken ⊢
    split
    · exact ⟨_, joined.accepted⟩
    · next unscheduled => rw [if_neg unscheduled] at taken; cases taken
  | idle => rw [state] at taken; cases taken
  | disconnecting => rw [state] at taken; cases taken
  | disconnected => rw [state] at taken; cases taken
  | _ => exact ⟨_, joined.accepted⟩

theorem submitBytes_of_error {purpose : Purpose} {bytes : Except Error Bytes} {e : Error}
    (h : (c.submitBytes purpose bytes).1 = .error e) :
    (c.submitBytes purpose bytes).2.session = c.session := by
  cases bytes with
  | ok bytes => exact submit_of_error h
  | error e => rfl

theorem intake_submitBytes (h : Orderly c.session) {purpose : Purpose}
    (own : purpose.isSubmitted = true) {bytes : Except Error Bytes}
    (taken : (c.submitBytes purpose bytes).1 = .ok ()) :
    ∃ written acts, bytes = .ok written ∧
      Intake c.session ⟨purpose, written⟩ (c.submitBytes purpose bytes).2.session acts := by
  cases bytes with
  | ok written =>
    obtain ⟨acts, intake⟩ := intake_submit h own taken
    exact ⟨written, acts, rfl, intake⟩
  | error e => cases taken

/-- A request is answered as its submission is, and afterwards only its entry is new. -/
theorem request_submits (c : Station σ) (code : UInt8) (header : Header) (payload : Option Bytes)
    (now : Instant) :
    (c.perform (.request code header payload now)).1 =
        (c.requestSubmission code header payload).1.map (fun _ => some c.session.requests.nextId) ∧
      Alike (c.requestSubmission code header payload).2.session
        (c.perform (.request code header payload now)).2.session := by
  dsimp only [perform]
  rcases result : (c.requestSubmission code header payload).1 with e | ⟨⟨⟩⟩
  · rw [request_of_error c result]
    exact ⟨rfl, .refl _⟩
  · rw [request_of_ok c result]
    exact ⟨rfl, rfl, rfl, rfl, rfl⟩

end Station

/-! ## Calls -/

variable {σ : Type} [Environment σ]

namespace Moment

/-- The frame that a call hands in, if it can be written. -/
def submission? (m : Moment σ) : Option Packet :=
  match m.call with
  | .send code header payload =>
    (Frame.encodeSerialized code header payload).toOption.map (Packet.mk .submission)
  | .sendMessage message payload => (message.encode payload).toOption.map (Packet.mk .submission)
  | .request code header payload _ =>
    (Station.requestBytes m.before.session.requests.nextId code header payload).toOption.map
      (Packet.mk (.request m.before.session.requests.nextId))
  | _ => none

/-- The frame that a call takes from its caller: the answer is no error. -/
def accepted (m : Moment σ) : List Packet :=
  match m.answer with
  | .ok _ => m.submission?.toList
  | .error _ => []

/-- A frame that the queue has no room for: without a queue the one that arrives, and else the
oldest one of a full queue. -/
def Overflows (room : Nat) (m : Moment σ) (lost : Packet) : Prop :=
  ∃ arrival, m.accepted = [arrival] ∧
    (room = 0 ∧ lost = arrival ∨
      0 < room ∧ m.before.session.queue.length = room ∧ m.before.session.queue.head? = some lost)

variable {m : Moment σ}

/-- A call takes a frame, or it takes none and only releases some. -/
def Passes (m : Moment σ) : Prop :=
  (∃ packet, m.accepted = [packet] ∧
    Intake m.before.session packet m.after.session m.acts) ∨
  m.accepted = [] ∧ (m.call.isSubmission = true → ∃ e, m.answer = .error e) ∧
    Release m.call m.before.session m.after.session m.acts

/-- The calls that submit a frame do so from a station `c` that differs from the one they found in
nothing that matters here, and likewise the session afterwards. -/
theorem passes_of_submitBytes {c : Station σ} {purpose : Purpose} {bytes : Except Error Bytes}
    {name : Unit → Option String} (orderly : Orderly m.before.session)
    (found : Alike m.before.session c.session) (own : purpose.isSubmitted = true)
    (answer : m.answer = (c.submitBytes purpose bytes).1.map name)
    (submission : m.submission? = bytes.toOption.map (Packet.mk purpose))
    (left : Alike (c.submitBytes purpose bytes).2.session m.after.session) : m.Passes := by
  rcases result : (c.submitBytes purpose bytes).1 with e | ⟨⟨⟩⟩
  · have refused : m.accepted = [] := by
      unfold accepted
      rw [answer, result]
      rfl
    have same := Station.submitBytes_of_error result
    rw [same] at left
    have still := found.trans left
    refine .inr ⟨refused, fun _ => ⟨e, by rw [answer, result]; rfl⟩, ?_⟩
    rw [acts_eq (still.journal.trans (List.append_nil _).symm)]
    exact .of_eq still.journal still.queue (congrArg Stats.droppedFrames still.stats)
  · obtain ⟨written, acts, rfl, intake⟩ :=
      Station.intake_submitBytes (found.orderly orderly) own result
    have taken : m.accepted = [⟨purpose, written⟩] := by
      unfold accepted
      rw [answer, result, submission]
      rfl
    have intake := intake.congr found left
    refine .inl ⟨_, taken, ?_⟩
    rw [acts_eq intake.journal]
    exact intake

theorem passes_of_edits (orderly : Orderly m.before.session) (other : m.call.isSubmission = false) :
    m.Passes := by
  obtain ⟨s, edits, journal, after⟩ := m.edits
  obtain ⟨acts, release⟩ := edits.release other orderly.submitted
  have same : m.after.session = s := by
    rw [after]
    unfold Session.entering
    split
    · next call _ => rw [call] at other; cases other
    · rfl
  have nothing : m.accepted = [] := by
    unfold accepted submission?
    split
    · cases call : m.call <;> rw [call] at other <;> first | rfl | cases other
    · rfl
  refine .inr ⟨nothing, fun submits => absurd submits (by rw [other]; nofun), ?_⟩
  rw [same, acts_eq (same ▸ release.journal)]
  exact release

theorem passes (orderly : Orderly m.before.session) : m.Passes := by
  by_cases submits : m.call.isSubmission = true
  · obtain ⟨c, call⟩ := m
    cases call with
    | send code header payload =>
      exact passes_of_submitBytes (c := c) orderly (.refl _) rfl rfl rfl (.refl _)
    | sendMessage message payload =>
      exact passes_of_submitBytes (c := c) orderly (.refl _) rfl rfl rfl (.refl _)
    | request code header payload now =>
      have found : Alike c.session (c.modify Session.advanced).session := ⟨rfl, rfl, rfl, rfl⟩
      obtain ⟨answer, left⟩ := Station.request_submits c code header payload now
      exact passes_of_submitBytes orderly found rfl answer rfl left
    | _ => cases submits
  · exact passes_of_edits orderly (Bool.not_eq_true _ ▸ submits)

theorem overflows_of_intake {packet : Packet} (orderly : Orderly m.before.session)
    (taken : m.accepted = [packet])
    (intake : Intake m.before.session packet m.after.session m.acts) :
    drops m.acts = [] ∨ ∃ lost, drops m.acts = [lost] ∧
      m.Overflows m.before.session.config.maxQueuedFrames.toNat lost := by
  have bounded := orderly.bounded
  rcases intake.drops with none | toll
  · exact .inl none
  · rw [toll]
    unfold Session.toll Session.overflow
    split
    · next closed => exact .inr ⟨packet, rfl, packet, taken, .inl ⟨closed, rfl⟩⟩
    · next opened =>
      by_cases full : m.before.session.queue.length = m.before.session.config.maxQueuedFrames.toNat
      · cases held : m.before.session.queue with
        | nil => rw [held] at full; exact absurd full.symm opened
        | cons lost rest =>
          refine .inr ⟨lost, ?_, packet, taken, .inr ⟨Nat.pos_of_ne_zero opened, full, ?_⟩⟩
          · rw [held] at full
            rw [full, Nat.add_sub_cancel_left]
            rfl
          · rw [held]
            rfl
      · have none : m.before.session.queue.length + 1 -
            m.before.session.config.maxQueuedFrames.toNat = 0 := by omega
        rw [none]
        exact .inl rfl

theorem orderly_after (orderly : Orderly m.before.session) : Orderly m.after.session := by
  have config : m.after.session.config = m.before.session.config := m.sameIdentity.config
  rcases m.passes orderly with ⟨packet, -, intake⟩ | ⟨-, -, release⟩
  · refine ⟨fun other mem => ?_, by rw [config]; exact intake.bounded⟩
    have joined : other ∈ m.before.session.queue ++ [packet] := by
      rw [intake.queue]
      exact List.mem_append_right _ mem
    rcases List.mem_append.mp joined with old | new
    · exact orderly.submitted other old
    · cases List.mem_singleton.mp new
      exact intake.submitted
  · refine ⟨fun other mem => orderly.submitted other ?_, ?_⟩
    · rw [release.queue]
      exact List.mem_append_right _ mem
    · have less := congrArg List.length release.queue
      simp only [List.length_append] at less
      have := orderly.bounded
      rw [config]
      omega

/-- What a call found and what it takes has left or is held back after it, in order. -/
theorem order (orderly : Orderly m.before.session) :
    m.before.session.queue ++ m.accepted =
      (departures m.acts).map Fated.packet ++ m.after.session.queue := by
  rcases m.passes orderly with ⟨packet, taken, intake⟩ | ⟨nothing, -, release⟩
  · rw [taken]
    exact intake.queue
  · rw [nothing, List.append_nil]
    exact release.queue

end Moment

/-- A count that stops at the end of its word goes on doing so. -/
theorem droppedFrames_recordDropped (n : Nat) {stats : Stats} {count : Nat}
    (h : stats.droppedFrames = min count maxCount64) :
    (Stats.recordDropped^[n] stats).droppedFrames = min (count + n) maxCount64 := by
  induction n generalizing stats count with
  | zero => exact h
  | succ n ih =>
    have next : stats.recordDropped.droppedFrames = min (count + 1) maxCount64 := by
      change min (stats.droppedFrames + 1) maxCount64 = _
      rw [h]
      omega
    have rest := ih next
    rw [Nat.add_right_comm] at rest
    exact rest

theorem Moment.counted {m : Moment σ} (orderly : Orderly m.before.session) {count : Nat}
    (h : m.before.session.stats.droppedFrames = min count maxCount64) :
    m.after.session.stats.droppedFrames = min (count + (drops m.acts).length) maxCount64 := by
  rcases m.passes orderly with ⟨packet, -, intake⟩ | ⟨-, -, release⟩
  · rw [intake.dropped]
    exact droppedFrames_recordDropped _ h
  · rw [release.dropped, release.roomy]
    exact h

/-! ## Runs -/

namespace Run

def accepted (ms : List (Moment σ)) : List Packet := ms.flatMap Moment.accepted

def handed (ms : List (Moment σ)) : List Packet := ms.flatMap fun m => Switchboard.handed m.acts

def drops (ms : List (Moment σ)) : List Packet := ms.flatMap fun m => Switchboard.drops m.acts

/-- The frames that have left in a run, in order, and what became of each. -/
def departures (ms : List (Moment σ)) : List Fated :=
  ms.flatMap fun m => Switchboard.departures m.acts

/-- What became of each frame so far: those that have left, and then those held back. -/
def fates (ms : List (Moment σ)) (c : Station σ) : List Fated :=
  departures ms ++ c.session.queue.map fun packet => ⟨packet, .held⟩

/-- The books of the frames of a run. -/
structure Kept (ms : List (Moment σ)) (c : Station σ) : Prop where
  orderly : Orderly c.session
  order : accepted ms = (departures ms).map Fated.packet ++ c.session.queue
  counted : c.session.stats.droppedFrames = min (drops ms).length maxCount64

variable {key : String} {target : Target} {config : SessionConfig} {generation serial : Nat}
  {mark : String}
  {ms : List (Moment σ)} {c : Station σ}

theorem kept (h : Run (.create key target config generation serial mark) ms c) : Kept ms c := by
  induction h with
  | begin world => exact ⟨⟨nofun, Nat.zero_le _⟩, rfl, rfl⟩
  | @call ms c _ call ih =>
    let m : Moment σ := ⟨c, call⟩
    refine ⟨m.orderly_after ih.orderly, ?_, ?_⟩
    · have step := m.order ih.orderly
      calc accepted (ms ++ [m])
          = accepted ms ++ m.accepted := by simp [accepted]
        _ = (departures ms).map Fated.packet ++ (c.session.queue ++ m.accepted) := by
          rw [ih.order, List.append_assoc]
        _ = (departures (ms ++ [m])).map Fated.packet ++ m.after.session.queue := by
          rw [step]
          simp [departures]
    · have step := m.counted ih.orderly ih.counted
      have length : (drops (ms ++ [m])).length =
          (drops ms).length + (Switchboard.drops m.acts).length := by simp [drops]
      rw [length]
      exact step
  | drain _ ih => exact ⟨⟨ih.orderly.submitted, ih.orderly.bounded⟩, ih.order, ih.counted⟩
  | world _ _ ih => exact ⟨ih.orderly, ih.order, ih.counted⟩

theorem handed_eq_departures (ms : List (Moment σ)) :
    handed ms = ((departures ms).filter Fated.isKept).map Fated.packet := by
  rw [handed, departures, List.filter_flatMap, List.map_flatMap]
  exact List.flatMap_congr fun m _ => handed_eq m.acts

theorem handed_append_queue (ms : List (Moment σ)) (c : Station σ) :
    handed ms ++ c.session.queue = ((fates ms c).filter Fated.isKept).map Fated.packet := by
  have held (packets : List Packet) :
      ((packets.map fun packet => Fated.mk packet .held).filter Fated.isKept).map Fated.packet =
        packets := by
    induction packets with
    | nil => rfl
    | cons packet packets ih => exact congrArg (packet :: ·) ih
  rw [fates, List.filter_append, List.map_append, ← handed_eq_departures, held]

end Run

/-- How the frames of a run flow, with room for so many to be held back. -/
structure Flow (room : Nat) (ms : List (Moment σ)) (c : Station σ) : Prop where
  /-- Each frame that was taken has one fate, and frames leave in the order in which they were
  taken. -/
  order : Run.accepted ms = (Run.fates ms c).map Fated.packet
  /-- The frames handed over and then those held back are the frames taken without the lost ones. -/
  kept : Run.handed ms ++ c.session.queue =
    ((Run.fates ms c).filter Fated.isKept).map Fated.packet
  /-- A call that submits a frame either takes it or is refused. -/
  taken : ∀ m ∈ ms, m.call.isSubmission = true →
    (∃ packet, m.accepted = [packet]) ∨ ∃ e, m.answer = .error e
  overflows : ∀ m ∈ ms, drops m.acts = [] ∨ ∃ lost, drops m.acts = [lost] ∧ m.Overflows room lost
  counted : c.session.stats.droppedFrames = min (Run.drops ms).length maxCount64
  /-- Frames are discarded with the whole queue and for a reason. -/
  discarded : ∀ m ∈ ms, ∀ earlier packets later,
    m.acts = earlier ++ .discarded packets :: later →
      departures later = [] ∧ m.after.session.queue = [] ∧ Gone m.call later
  bounded : c.session.queue.length ≤ room
  /-- What is said to be handed over was taken by the transport. -/
  asked : ∀ m ∈ ms, Asked m.before.world m.acts m.after.world

/-- Whatever is called, in any order, and whatever the transports answer, frames flow in order and the
lost ones are accounted for. -/
theorem run_flow {key : String} {target : Target} {config : SessionConfig}
    {generation serial : Nat} {mark : String} {ms : List (Moment σ)} {c : Station σ}
    (h : Run (.create key target config generation serial mark) ms c) :
    Flow config.maxQueuedFrames.toNat ms c := by
  have orderly (m : Moment σ) (mem : m ∈ ms) : Orderly m.before.session ∧
      m.before.session.config = config := by
    obtain ⟨earlier, run⟩ := h.until_mem mem
    exact ⟨run.kept.orderly, run.sameIdentity.config⟩
  refine ⟨?_, Run.handed_append_queue ms c, ?_, ?_, h.kept.counted, ?_, ?_, fun m _ => m.asked⟩
  · rw [h.kept.order, Run.fates, List.map_append, List.map_map]
    simp [Function.comp_def]
  · intro m mem submits
    rcases m.passes (orderly m mem).1 with ⟨packet, taken, -⟩ | ⟨-, refused, -⟩
    · exact .inl ⟨packet, taken⟩
    · exact .inr (refused submits)
  · intro m mem
    obtain ⟨good, same⟩ := orderly m mem
    rcases m.passes good with ⟨packet, taken, intake⟩ | ⟨-, -, release⟩
    · have costs := m.overflows_of_intake good taken intake
      rwa [same] at costs
    · exact .inl release.roomy
  · intro m mem earlier packets later split
    rcases m.passes (orderly m mem).1 with ⟨packet, -, intake⟩ | ⟨-, -, release⟩
    · exact absurd (by rw [split]; simp) (intake.undiscarded packets)
    · exact release.discarded earlier packets later split
  · have bounded := h.kept.orderly.bounded
    rwa [h.sameIdentity.config] at bounded

/-- A queue of two frames. While the first attempt lasts a third frame pushes the first one out; the
flush is refused, so the next frame pushes out one more before the others go; the connection is lost,
and what is then held back is discarded when the caller disconnects. -/
theorem run_flow_pushed_out :
    ∃ (ms : List (Moment ScriptedNetwork)) (c : Station ScriptedNetwork),
      Run (.create "k" default { maxQueuedFrames := 2 } 0 1 "s0000001") ms c ∧
        (Run.accepted ms).length = 7 ∧
        (Run.fates ms c).map Fated.fate = [.dropped, .dropped, .sent ⟨"k", 1⟩, .sent ⟨"k", 1⟩,
          .discarded, .discarded, .held] ∧
        c.session.stats.droppedFrames = 2 ∧ Flow 2 ms c :=
  have begun : Run (.create "k" default { maxQueuedFrames := 2 } 0 1 "s0000001") []
      ⟨_, ({ refuseFrames := true } : ScriptedNetwork)⟩ := .begin _
  have full := (((begun.call (.connect ⟨0⟩)).call (.send 1 (.ok (.obj [])) none)).call
    (.send 2 (.ok (.obj [])) none)).call (.request 3 [] none ⟨0⟩)
  have flushed := ((full.call (.handleEvent ⟨"k", 1⟩ .opened ⟨0⟩)).world {}).call
    (.send 4 (.ok (.obj [])) (some [0]))
  have lost := ((flushed.call (.handleEvent ⟨"k", 1⟩ .closed ⟨1⟩)).call
    (.send 5 (.ok (.obj [])) none)).call (.send 6 (.ok (.obj [])) none)
  have run := ((lost.call .disconnect).call (.connect ⟨2⟩)).call (.send 7 (.ok (.obj [])) none)
  ⟨_, _, run, rfl, rfl, rfl, run_flow run⟩

end Switchboard
