import Switchboard.Proofs.Session.Moves
/-!
# How frames leave the queue

A frame that is held back leaves the queue at its front: it is handed over, given up for want of
room, or discarded with all the others. The acts of a session tell which (`departures`), and a call
that submits nothing takes the frames of its acts off the queue and leaves the others as they are
(`Release`).

Frames are discarded for three reasons only (`Gone`), and then the queue is empty and stays so until
the end of the call.
-/

namespace Switchboard

/-- What became of a frame that a session took. -/
inductive Fate where
  /-- It was handed to a transport. -/
  | sent (id : ConnectionId)
  | held
  /-- It was given up for want of room. -/
  | dropped
  /-- It was given up with the whole queue. -/
  | discarded
  deriving DecidableEq, Repr

structure Fated where
  packet : Packet
  fate : Fate
  deriving DecidableEq, Repr

/-- The frame is not lost. -/
def Fated.isKept (f : Fated) : Bool :=
  match f.fate with
  | .sent _ | .held => true
  | .dropped | .discarded => false

namespace Act

/-- The callers' frames that an act makes leave. -/
def departures : Act → List Fated
  | delivered id packet => if packet.purpose.isSubmitted then [⟨packet, .sent id⟩] else []
  | dropped packet => [⟨packet, .dropped⟩]
  | discarded packets => packets.map fun packet => ⟨packet, .discarded⟩
  | _ => []

def handed? : Act → Option Packet
  | delivered _ packet => if packet.purpose.isSubmitted then some packet else none
  | _ => none

def dropped? : Act → Option Packet
  | dropped packet => some packet
  | _ => none

/-- The act makes a caller's frame leave, or the whole queue. -/
def releases : Act → Bool
  | delivered _ packet => packet.purpose.isSubmitted
  | dropped _ | discarded _ => true
  | _ => false

theorem departures_of_not_releases {act : Act} (h : act.releases = false) : act.departures = [] := by
  cases act with
  | delivered id packet =>
    have own : packet.purpose.isSubmitted = false := h
    simp [departures, own]
  | dropped packet => cases h
  | discarded packets => cases h
  | _ => rfl

end Act

def departures (acts : List Act) : List Fated := acts.flatMap Act.departures

/-- The callers' frames that acts hand over, in order. -/
def handed (acts : List Act) : List Packet := acts.filterMap Act.handed?

/-- The frames that acts give up for want of room, in order. -/
def drops (acts : List Act) : List Packet := acts.filterMap Act.dropped?

@[simp] theorem departures_append (acts more : List Act) :
    departures (acts ++ more) = departures acts ++ departures more := by
  simp [departures]

theorem departures_of_silent {acts : List Act} (h : ∀ act ∈ acts, act.releases = false) :
    departures acts = [] := by
  refine List.flatMap_eq_nil_iff.mpr fun act mem => ?_
  exact Act.departures_of_not_releases (h act mem)

theorem Act.handed?_eq (act : Act) :
    act.handed?.toList = (act.departures.filter Fated.isKept).map Fated.packet := by
  cases act with
  | delivered id packet =>
    by_cases own : packet.purpose.isSubmitted = true
    · simp only [handed?, departures, if_pos own]
      rfl
    · simp only [handed?, departures, if_neg own]
      rfl
  | discarded packets =>
    have lost : (packets.map fun packet => Fated.mk packet .discarded).filter Fated.isKept = [] := by
      rw [List.filter_map]
      exact congrArg (List.map _) (List.filter_false packets)
    rw [departures, lost]
    rfl
  | _ => rfl

/-- What is handed over is what leaves and is not lost. -/
theorem handed_eq (acts : List Act) :
    handed acts = ((departures acts).filter Fated.isKept).map Fated.packet := by
  rw [handed, departures, List.filterMap_eq_flatMap_toList, List.filter_flatMap, List.map_flatMap]
  exact List.flatMap_congr fun act _ => act.handed?_eq

/-- Why a whole queue is given up: a caller wants the session torn down, the retry budget is spent,
or the credentials are rejected. The last two are told of after the loss. -/
inductive Gone (cause : Call) (later : List Act) : Prop where
  | asked (h : cause = .disconnect ∨ cause = .close)
  | exhausted (event : StatusEvent) (attempts : Nat) (told : .entered event ∈ later)
      (state : event.state = .disconnected) (error : event.error = some (.reconnectExhausted attempts))
  | rejected (event : StatusEvent) (reason : String) (told : .entered event ∈ later)
      (state : event.state = .error) (error : event.error = some (.auth reason))

theorem Gone.append {cause : Call} {later : List Act} (h : Gone cause later) (more : List Act) :
    Gone cause (later ++ more) := by
  cases h with
  | asked h => exact .asked h
  | exhausted event attempts told state error =>
    exact .exhausted event attempts (List.mem_append_left _ told) state error
  | rejected event reason told state error =>
    exact .rejected event reason (List.mem_append_left _ told) state error

/-- A call that submits nothing: between two sessions the frames of the acts leave the queue, and
nothing else happens to it. -/
structure Release (cause : Call) (s t : Session) (acts : List Act) : Prop where
  journal : t.journal = s.journal ++ acts
  queue : s.queue = (departures acts).map Fated.packet ++ t.queue
  roomy : drops acts = []
  dropped : t.stats.droppedFrames = s.stats.droppedFrames
  /-- What is discarded is all that is left. -/
  discarded : ∀ earlier packets later, acts = earlier ++ .discarded packets :: later →
    departures later = [] ∧ t.queue = [] ∧ Gone cause later

namespace Release

variable {cause : Call} {s t u : Session} {acts more : List Act}

theorem of_silent (journal : t.journal = s.journal ++ acts)
    (silent : ∀ act ∈ acts, act.releases = false) (queue : t.queue = s.queue)
    (dropped : t.stats.droppedFrames = s.stats.droppedFrames) : Release cause s t acts := by
  refine ⟨journal, by rw [departures_of_silent silent, queue]; rfl, ?_, dropped, ?_⟩
  · refine List.filterMap_eq_nil_iff.mpr fun act mem => ?_
    have still := silent act mem
    cases act <;> first | rfl | cases still
  · rintro earlier packets later rfl
    cases silent (.discarded packets) (by simp)

theorem of_eq (journal : t.journal = s.journal) (queue : t.queue = s.queue)
    (dropped : t.stats.droppedFrames = s.stats.droppedFrames) : Release cause s t [] :=
  of_silent (journal.trans (List.append_nil _).symm) (List.forall_mem_nil _) queue dropped

theorem of_note {act : Act} (journal : t.journal = s.journal ++ [act])
    (silent : act.releases = false) (queue : t.queue = s.queue)
    (dropped : t.stats.droppedFrames = s.stats.droppedFrames) : Release cause s t [act] :=
  of_silent journal (List.forall_mem_singleton.mpr silent) queue dropped

theorem refl (s : Session) : Release cause s s [] := of_eq rfl rfl rfl

theorem departures_of_nil (h : Release cause s t acts) (empty : s.queue = []) :
    departures acts = [] ∧ t.queue = [] := by
  have both := h.queue
  rw [empty] at both
  obtain ⟨none, rest⟩ := List.append_eq_nil_iff.mp both.symm
  exact ⟨List.map_eq_nil_iff.mp none, rest⟩

theorem trans (h : Release cause s t acts) (k : Release cause t u more) :
    Release cause s u (acts ++ more) where
  journal := by rw [k.journal, h.journal, List.append_assoc]
  queue := by rw [h.queue, k.queue, departures_append, List.map_append, List.append_assoc]
  roomy := by rw [drops, List.filterMap_append, ← drops, ← drops, h.roomy, k.roomy]; rfl
  dropped := k.dropped.trans h.dropped
  discarded := by
    intro earlier packets later split
    rcases List.append_eq_append_iff.mp split with ⟨early, rfl, late⟩ | ⟨rest, first, late⟩
    · exact k.discarded early packets later late
    · cases rest with
      | nil =>
        exact k.discarded [] packets later late.symm
      | cons act rest =>
        obtain ⟨rfl, rfl⟩ := List.cons_eq_cons.mp late
        obtain ⟨none, empty, why⟩ := h.discarded earlier packets rest first
        obtain ⟨noneToo, emptyToo⟩ := k.departures_of_nil empty
        have nothing : departures (rest ++ more) = [] := by
          rw [departures_append, none, noneToo]
          rfl
        exact ⟨nothing, emptyToo, why.append more⟩

end Release

/-! ## One edit -/

namespace Session

variable {cause : Call} {s t : Session}

theorem departures_losses (packets : List Packet) :
    departures (losses packets) = packets.map fun packet => ⟨packet, .discarded⟩ := by
  cases packets <;> simp [losses, departures, Act.departures]

theorem release_discard (rest : List Act)
    (journal : t.journal = s.journal ++ (losses s.queue ++ rest))
    (silent : ∀ act ∈ rest, act.releases = false) (queue : t.queue = [])
    (dropped : t.stats.droppedFrames = s.stats.droppedFrames) (why : Gone cause rest) :
    Release cause s t (losses s.queue ++ rest) := by
  have still := departures_of_silent silent
  have quiet (earlier : List Act) (packets : List Packet) (later : List Act) :
      rest ≠ earlier ++ .discarded packets :: later := by
    rintro rfl
    cases silent (.discarded packets) (by simp)
  refine ⟨journal, ?_, ?_, dropped, ?_⟩
  · rw [departures_append, departures_losses, still, queue]
    simp [Function.comp_def]
  · refine List.filterMap_eq_nil_iff.mpr fun act mem => ?_
    rcases List.mem_append.mp mem with mem | mem
    · cases held : s.queue with
      | nil => rw [held] at mem; cases mem
      | cons packet packets =>
        rw [held] at mem
        cases List.mem_singleton.mp mem
        rfl
    · have still := silent act mem
      cases act <;> first | rfl | cases still
  · intro earlier packets later split
    cases held : s.queue with
    | nil =>
      rw [held] at split
      exact absurd split (quiet _ _ _)
    | cons packet more =>
      rw [held] at split
      cases earlier with
      | nil =>
        obtain ⟨-, rfl⟩ := List.cons_eq_cons.mp split
        exact ⟨still, queue, why⟩
      | cons act earlier => exact absurd (List.cons_eq_cons.mp split).2 (quiet _ _ _)

theorem release_settled (ids : List String) (result : String → Except Error Frame)
    (journal : t.journal = s.journal ++ ids.map fun id => .settled ⟨id, result id⟩)
    (queue : t.queue = s.queue) (dropped : t.stats.droppedFrames = s.stats.droppedFrames) :
    Release cause s t (ids.map fun id => .settled ⟨id, result id⟩) := by
  refine .of_silent journal (fun act mem => ?_) queue dropped
  obtain ⟨id, -, rfl⟩ := List.mem_map.mp mem
  rfl

theorem releases_settled_entered (ids : List String) (event : StatusEvent) :
    ∀ act ∈ (ids.map fun id => Act.settled ⟨id, .error .connectionClosed⟩) ++ [.entered event],
      act.releases = false := by
  intro act mem
  rcases List.mem_append.mp mem with mem | mem
  · obtain ⟨id, -, rfl⟩ := List.mem_map.mp mem
    rfl
  · cases List.mem_singleton.mp mem
    rfl

theorem Edit.release (h : Edit cause s t) (other : cause.isSubmission = false)
    (submitted : ∀ packet ∈ s.queue, packet.purpose.isSubmitted = true) :
    ∃ acts, Release cause s t acts := by
  have foreign {p : Prop} (submission : cause.isSubmission = true) : p := by
    rw [submission] at other
    cases other
  cases h with
  | quiet => exact ⟨_, .of_eq rfl rfl rfl⟩
  | latency => exact ⟨_, .of_eq rfl rfl rfl⟩
  | advance => exact ⟨_, .of_eq rfl rfl rfl⟩
  | probe => exact ⟨_, .of_eq rfl rfl rfl⟩
  | misread => exact ⟨_, .of_eq rfl rfl rfl⟩
  | settleAll =>
    rw [failRequests_eq]
    exact ⟨_, release_settled _ (fun _ => .error .connectionClosed) rfl rfl rfl⟩
  | expire now =>
    rw [expireRequests_eq_foldl]
    exact ⟨_, release_settled _ (fun id => .error (.requestTimeout id)) rfl rfl rfl⟩
  | hold packet submission => exact foreign submission
  | accept packet submission => exact foreign submission
  | @hand id packet wall held permitted =>
    refine ⟨_, .of_note rfl ?_ rfl rfl⟩
    show packet.purpose.isSubmitted = false
    cases purpose : packet.purpose with
    | submission => rw [purpose] at permitted; exact foreign permitted.1
    | request id => rw [purpose] at permitted; exact foreign permitted.1
    | _ => rfl
  | @flush id packet rest wall held state queue =>
    have own := submitted packet (by rw [queue]; exact List.mem_cons_self)
    refine ⟨[.delivered id packet], rfl, ?_, rfl, rfl, ?_⟩
    · simp [queue, departures, Act.departures, own]
    · intro earlier packets later split
      have mem : Act.discarded packets ∈ [Act.delivered id packet] := by rw [split]; simp
      cases List.mem_singleton.mp mem
  | unplug =>
    rw [unplug_eq]
    refine ⟨_, .of_silent rfl (fun act mem => ?_) rfl rfl⟩
    unfold partings at mem
    cases held : s.transport with
    | none => rw [held] at mem; cases mem
    | some id =>
      rw [held] at mem
      cases List.mem_singleton.mp mem
      rfl
  | @giveUp wall attempts state =>
    refine ⟨_, release_discard _ ?_ (releases_settled_entered s.requests.ids
      ⟨s.key, s.target, .disconnected, some (.reconnectExhausted attempts), wall⟩) ?_ ?_
      (.exhausted _ attempts (List.mem_append_right _ (List.mem_singleton_self _)) rfl rfl)⟩
    all_goals rw [failRequests_eq, discardQueue_eq]
    · simp [Session.enter, Session.note]
    · rfl
    · rfl
  | @reject wall reason state =>
    refine ⟨_, release_discard _ ?_ (releases_settled_entered []
      ⟨s.key, s.target, .error, some (.auth reason), wall⟩) ?_ ?_ (.rejected
      _ reason (List.mem_append_right _ (List.mem_singleton_self _)) rfl rfl)⟩
    all_goals rw [discardQueue_eq]
    · simp [Session.enter, Session.note]
    · rfl
    · rfl
  | @announce id state packet entered wall turns prompted live held due =>
    have own : packet.purpose.isSubmitted = false :=
      SessionState.isSubmitted_of_announces due
    refine ⟨[_, _], .of_silent (List.append_assoc ..) ?_ rfl rfl⟩
    simp [Act.releases, own]
  | @tearDown wall asked state =>
    refine ⟨_, release_discard _ ?_ (releases_settled_entered s.requests.ids
      ⟨s.key, s.target, .disconnected, none, wall⟩) ?_ ?_ (.asked asked)⟩
    all_goals rw [failRequests_eq, discardQueue_eq]
    · simp [Session.enter, Session.note]
    · rfl
    · rfl
  | _ => exact ⟨_, .of_note rfl rfl rfl rfl⟩

theorem Edits.release (h : Edits cause s t) (other : cause.isSubmission = false)
    (submitted : ∀ packet ∈ s.queue, packet.purpose.isSubmitted = true) :
    ∃ acts, Release cause s t acts := by
  induction h with
  | refl => exact ⟨_, .refl s⟩
  | tail _ edit ih =>
    obtain ⟨acts, released⟩ := ih
    obtain ⟨more, releasedToo⟩ := edit.release other fun packet mem =>
      submitted packet (by rw [released.queue]; exact List.mem_append_right _ mem)
    exact ⟨_, released.trans releasedToo⟩

end Session

end Switchboard
