import Switchboard.Proofs.Session.Courses
import Switchboard.Proofs.Session.Hearing
import Switchboard.Proofs.Session.Recounting
/-!
# What the counters count

The counters of a session are an exact ledger of its traffic, over all its connections. `run_ledger`
says so of every run and over every world: the frames sent are those that a transport took, whatever
sent them and for whatever purpose, and a frame that is refused is not counted; the frames received
are those that came over the open connection, and each of them is either heard or a decoding error.
Counters stop at the end of their word, and below it they are equal to what they count.
-/

namespace Switchboard

/-- The bytes of all these frames together. -/
def octets (frames : List Bytes) : Nat := frames.flatten.length

theorem octets_concat (frames : List Bytes) (bytes : Bytes) :
    octets (frames ++ [bytes]) = octets frames + bytes.length := by
  simp [octets]

/-- The frame that a transport took. -/
def Act.posted? : Act → Option Bytes
  | delivered _ packet => some packet.bytes
  | _ => none

/-- The frames that transports took. -/
def posted (acts : List Act) : List Bytes := acts.filterMap Act.posted?

theorem posted_append (acts more : List Act) : posted (acts ++ more) = posted acts ++ posted more :=
  List.filterMap_append

/-- The frame that the world took, of what passed between it and a session. -/
def Signal.taken? : Signal → Option Bytes
  | sent _ bytes true => some bytes
  | _ => none

/-! ## Counters that stop at the end of their word -/

/-- A counter stands at a total, or at the end of its word. -/
def Reads (counter total : Nat) : Prop := counter = min total maxCount64

namespace Reads

variable {counter total : Nat}

theorem add (h : Reads counter total) (amount : Nat) :
    Reads (saturatingAdd maxCount64 counter amount) (total + amount) := by
  unfold Reads saturatingAdd at *
  omega

theorem exact (h : Reads counter total) (fits : total < UInt64.size) : counter = total := by
  have within : total ≤ maxCount64 := Nat.le_sub_one_of_lt fits
  unfold Reads at h
  omega

end Reads

namespace Session

/-- The traffic that the counters of a session stand for. -/
structure Counts (s : Session) (sent received garbled : List Bytes) : Prop where
  framesSent : Reads s.stats.framesSent sent.length
  bytesSent : Reads s.stats.bytesSent (octets sent)
  framesRecv : Reads s.stats.framesRecv received.length
  bytesRecv : Reads s.stats.bytesRecv (octets received)
  decodeErrors : Reads s.stats.decodeErrors garbled.length

/-- The counters of traffic are the same. -/
structure SameTraffic (s t : Session) : Prop where
  framesSent : t.stats.framesSent = s.stats.framesSent
  bytesSent : t.stats.bytesSent = s.stats.bytesSent
  framesRecv : t.stats.framesRecv = s.stats.framesRecv
  bytesRecv : t.stats.bytesRecv = s.stats.bytesRecv
  decodeErrors : t.stats.decodeErrors = s.stats.decodeErrors

variable {s t u : Session} {sent received garbled : List Bytes} {bytes : Bytes} {cause : Call}

theorem SameTraffic.of_eq (h : t.stats = s.stats) : SameTraffic s t := by
  constructor <;> rw [h]

theorem sameTraffic_recordDropped (n : Nat) (s : Session) :
    SameTraffic s { s with stats := Stats.recordDropped^[n] s.stats } := by
  rw [iterate_recordDropped]
  exact ⟨rfl, rfl, rfl, rfl, rfl⟩

namespace Counts

theorem congr (h : s.Counts sent received garbled) (same : SameTraffic s t) :
    t.Counts sent received garbled := by
  constructor
  · rw [same.framesSent]; exact h.framesSent
  · rw [same.bytesSent]; exact h.bytesSent
  · rw [same.framesRecv]; exact h.framesRecv
  · rw [same.bytesRecv]; exact h.bytesRecv
  · rw [same.decodeErrors]; exact h.decodeErrors

theorem recordDelivery (h : s.Counts sent received garbled) (id : ConnectionId) (packet : Packet)
    (wall : UInt64) :
    (s.recordDelivery id packet wall).Counts (sent ++ [packet.bytes]) received garbled where
  framesSent := by
    rw [List.length_append]
    exact h.framesSent.add 1
  bytesSent := by
    rw [octets_concat]
    exact h.bytesSent.add packet.bytes.length
  framesRecv := h.framesRecv
  bytesRecv := h.bytesRecv
  decodeErrors := h.decodeErrors

theorem recordArrival (h : s.Counts sent received garbled) (bytes : Bytes) (wall : UInt64) :
    (s.recordArrival bytes wall).Counts sent (received ++ [bytes]) garbled where
  framesSent := h.framesSent
  bytesSent := h.bytesSent
  framesRecv := by
    rw [List.length_append]
    exact h.framesRecv.add 1
  bytesRecv := by
    rw [octets_concat]
    exact h.bytesRecv.add bytes.length
  decodeErrors := h.decodeErrors

theorem recordDecodeError (h : s.Counts sent received garbled) (bytes : Bytes) :
    { s with stats := s.stats.recordDecodeError }.Counts sent received (garbled ++ [bytes]) where
  framesSent := h.framesSent
  bytesSent := h.bytesSent
  framesRecv := h.framesRecv
  bytesRecv := h.bytesRecv
  decodeErrors := by
    rw [List.length_append]
    exact h.decodeErrors.add 1

end Counts

/-- A change counts what it tells of: a frame for each that a transport took, and these bytes for
each frame that was heard. -/
def Books (bytes : Bytes) (s t : Session) : Prop :=
  ∃ acts, t.journal = s.journal ++ acts ∧ ∀ sent received garbled,
    s.Counts sent received garbled →
      t.Counts (sent ++ posted acts) (received ++ (inboundsOf acts).map fun _ => bytes) garbled

namespace Books

theorem refl (bytes : Bytes) (s : Session) : Books bytes s s :=
  ⟨[], (List.append_nil _).symm, fun _ _ _ h => by simpa [posted, inboundsOf] using h⟩

theorem trans (h : Books bytes s t) (k : Books bytes t u) : Books bytes s u := by
  obtain ⟨acts, first, counts⟩ := h
  obtain ⟨more, second, countsToo⟩ := k
  refine ⟨acts ++ more, by rw [second, first, List.append_assoc], ?_⟩
  intro sent received garbled before
  have after := countsToo _ _ _ (counts _ _ _ before)
  rwa [List.append_assoc, List.append_assoc, ← posted_append, ← List.map_append,
    ← inboundsOf_append] at after

/-- What tells of no traffic counts none. -/
theorem of_silent {acts : List Act} (journal : t.journal = s.journal ++ acts)
    (unsent : posted acts = []) (unheard : inboundsOf acts = []) (same : SameTraffic s t) :
    Books bytes s t := by
  refine ⟨acts, journal, ?_⟩
  intro sent received garbled before
  rw [unsent, unheard, List.append_nil, List.map_nil, List.append_nil]
  exact before.congr same

theorem of_eq (journal : t.journal = s.journal) (same : SameTraffic s t) : Books bytes s t :=
  of_silent (journal.trans (List.append_nil _).symm) rfl rfl same

theorem of_note {act : Act} (journal : t.journal = s.journal ++ [act]) (unsent : act.posted? = none)
    (unheard : act.inbound? = none) (same : SameTraffic s t) : Books bytes s t :=
  of_silent journal (by simp [posted, unsent]) (by simp [inboundsOf, unheard]) same

theorem of_map {α : Type} {act : α → Act} (unsent : ∀ a, (act a).posted? = none)
    (unheard : ∀ a, (act a).inbound? = none) {as : List α}
    (journal : t.journal = s.journal ++ as.map act) (same : SameTraffic s t) : Books bytes s t := by
  refine of_silent journal ?_ ?_ same
  · apply List.filterMap_eq_nil_iff.mpr
    intro other mem
    obtain ⟨a, -, rfl⟩ := List.mem_map.mp mem
    exact unsent a
  · apply List.filterMap_eq_nil_iff.mpr
    intro other mem
    obtain ⟨a, -, rfl⟩ := List.mem_map.mp mem
    exact unheard a

end Books

theorem books_enter (bytes : Bytes) (s : Session) (state : SessionState) (error : Option Error)
    (wall : UInt64) : Books bytes s (s.enter state error wall) :=
  .of_note rfl rfl rfl (.of_eq rfl)

theorem books_failRequests (bytes : Bytes) (s : Session) : Books bytes s s.failRequests := by
  rw [failRequests_eq]
  exact .of_map (fun _ => rfl) (fun _ => rfl) rfl (.of_eq rfl)

theorem books_discardQueue (bytes : Bytes) (s : Session) : Books bytes s s.discardQueue := by
  unfold discardQueue
  split
  · exact .refl _ _
  · exact .of_note rfl rfl rfl (.of_eq rfl)

theorem books_recordDelivery (bytes : Bytes) (s : Session) (id : ConnectionId) (packet : Packet)
    (wall : UInt64) : Books bytes s (s.recordDelivery id packet wall) := by
  refine ⟨[.delivered id packet], rfl, ?_⟩
  intro sent received garbled before
  have after := before.recordDelivery id packet wall
  rw [← List.append_nil received] at after
  exact after

/-- Every change that a call may make to a session counts what it tells of, if the bytes that the
call brings are a frame. -/
theorem Edit.books (h : Edit cause s t) (readable : ∀ other, cause.Brings other →
    other = bytes ∧ ∃ frame, Frame.decode other = .ok frame) : Books bytes s t := by
  cases h with
  | quiet => exact .of_eq rfl (.of_eq rfl)
  | latency sample => exact .of_eq rfl ⟨rfl, rfl, rfl, rfl, rfl⟩
  | enter => exact books_enter _ _ _ _ _
  | reconnected => exact .of_note rfl rfl rfl ⟨rfl, rfl, rfl, rfl, rfl⟩
  | connected => exact .of_note rfl rfl rfl (.of_eq rfl)
  | fail => exact books_enter _ _ _ _ _
  | giveUp =>
    exact ((books_discardQueue _ _).trans (books_failRequests _ _)).trans (books_enter _ _ _ _ _)
  | reject => exact (books_discardQueue _ _).trans (books_enter _ _ _ _ _)
  | announce => exact (books_enter _ _ _ _ _).trans (books_recordDelivery _ _ _ _ _)
  | tearDown =>
    have dropped := (books_discardQueue bytes s).trans (books_failRequests _ _)
    exact dropped.trans (.of_note rfl rfl rfl (.of_eq rfl))
  | advance => exact .of_eq rfl (.of_eq rfl)
  | probe => exact .of_eq rfl (.of_eq rfl)
  | settleAll => exact books_failRequests _ _
  | expire now =>
    rw [expireRequests_eq_foldl]
    exact .of_map (fun _ => rfl) (fun _ => rfl) rfl (.of_eq rfl)
  | answer => exact .of_note rfl rfl rfl (.of_eq rfl)
  | hold packet =>
    rw [enqueue_eq]
    refine .of_map (fun _ => rfl) (fun _ => rfl) rfl ?_
    have same := sameTraffic_recordDropped
      (toll s.config.maxQueuedFrames.toNat s.queue packet).length s
    exact ⟨same.framesSent, same.bytesSent, same.framesRecv, same.bytesRecv, same.decodeErrors⟩
  | accept => exact .of_note rfl rfl rfl (.of_eq rfl)
  | hand => exact books_recordDelivery _ _ _ _ _
  | flush => exact (books_recordDelivery _ _ _ _ _).trans (.of_eq rfl (.of_eq rfl))
  | unplug =>
    rw [unplug_eq]
    cases s.transport with
    | none => exact .of_eq (List.append_nil _) (.of_eq rfl)
    | some id => exact .of_note rfl rfl rfl (.of_eq rfl)
  | dial => exact .of_note rfl rfl rfl (.of_eq rfl)
  | refuse => exact .of_note rfl rfl rfl (.of_eq rfl)
  | @hear arrived frame wall brings =>
    obtain ⟨now, brings⟩ := brings
    obtain ⟨rfl, -⟩ := readable arrived ⟨_, now, brings⟩
    refine ⟨[_], rfl, ?_⟩
    intro sent received garbled before
    have after := before.recordArrival arrived wall
    rw [← List.append_nil sent] at after
    exact after.congr (.of_eq rfl)
  | misread wall brings garbled =>
    obtain ⟨-, frame, decodes⟩ := readable _ brings
    exact absurd decodes (garbled frame)

theorem Edits.books (h : Edits cause s t) (readable : ∀ other, cause.Brings other →
    other = bytes ∧ ∃ frame, Frame.decode other = .ok frame) : Books bytes s t := by
  induction h with
  | refl => exact .refl _ _
  | tail _ edit ih => exact ih.trans (Edit.books edit readable)

end Session

section Counters

variable {σ : Type} [Environment σ]

/-! ## Calls -/

namespace Moment

/-- The bytes that arrive with a call over the open connection. -/
def arrival? (m : Moment σ) : Option Bytes :=
  match m.call with
  | .handleEvent id (.frame bytes) _ =>
    if id = m.before.session.connectionId ∧ m.before.session.state.isLive = true then some bytes
    else none
  | _ => none

/-- The bytes that arrive with a call and are no frame. -/
def garbled? (m : Moment σ) : Option Bytes :=
  m.arrival?.filter fun bytes => !(Frame.decode bytes).isOk

variable {m : Moment σ} {sent received garbled : List Bytes}

/-- What a call adds to the traffic that is counted. -/
structure Traffic (m : Moment σ) : Prop where
  counts : ∀ sent received garbled, m.before.session.Counts sent received garbled →
    m.after.session.Counts (sent ++ posted m.acts) (received ++ m.arrival?.toList)
      (garbled ++ m.garbled?.toList)
  /-- What arrives is heard unless it is no frame. -/
  heard : m.arrival?.toList.length = m.garbled?.toList.length + (inboundsOf m.acts).length

theorem traffic_of_readable (bytes : Bytes) (readable : ∀ other, m.call.Brings other →
      other = bytes ∧ ∃ frame, Frame.decode other = .ok frame)
    (arrives : m.arrival?.toList = (inboundsOf m.acts).map fun _ => bytes)
    (clear : m.garbled? = none) : m.Traffic := by
  obtain ⟨s, edits, journal, after⟩ := m.edits
  obtain ⟨acts, told, counts⟩ := edits.books readable
  have same : acts = m.acts := List.append_cancel_left (told.symm.trans journal)
  subst same
  refine ⟨?_, ?_⟩
  · intro sent received garbled before
    have counted := counts sent received garbled before
    rw [arrives, clear, after, Option.toList_none, List.append_nil]
    apply counted.congr
    unfold Session.entering
    split <;> exact .of_eq rfl
  · rw [arrives, clear, List.length_map]
    exact (Nat.zero_add _).symm

/-- A call that finds the session deaf, or brings nothing, adds what it sends. -/
theorem traffic_of_still (still : m.after = m.before) (nothing : m.arrival? = none) :
    m.Traffic := by
  have silent : m.acts = [] := acts_eq (by rw [still, List.append_nil])
  have clear : m.garbled? = none := by
    unfold garbled?
    rw [nothing]
    rfl
  refine ⟨?_, ?_⟩
  · intro sent received garbled before
    rw [still, silent, nothing, clear]
    simpa [posted] using before
  · rw [silent, nothing, clear]
    rfl

theorem traffic_handleEvent (c : Station σ) (id : ConnectionId) (bytes : Bytes) (now : Instant) :
    Traffic ⟨c, .handleEvent id (.frame bytes) now⟩ := by
  by_cases heard : id = c.session.connectionId ∧ c.session.state.isLive = true
  · have arrives : arrival? (mk c (.handleEvent id (.frame bytes) now)) = some bytes := if_pos heard
    have hears : inboundsOf (mk c (.handleEvent id (.frame bytes) now)).acts =
        c.session.hearing id bytes := heard_eq c id bytes now
    unfold Session.hearing at hears
    rw [if_pos heard] at hears
    cases decodes : Frame.decode bytes with
    | ok frame =>
      rw [decodes] at hears
      apply traffic_of_readable bytes
      · rintro other ⟨_, _, brings⟩
        cases brings
        exact ⟨rfl, frame, decodes⟩
      · rw [arrives, hears]
        rfl
      · unfold garbled?
        rw [arrives]
        simp [decodes, Except.isOk, Except.toBool]
    | error e =>
      rw [decodes] at hears
      obtain ⟨rfl, live⟩ := heard
      have after : (mk c (.handleEvent c.session.connectionId (.frame bytes) now)).after = _ :=
        Station.handleEvent_garbled live decodes now
      have silent : (mk c (.handleEvent c.session.connectionId (.frame bytes) now)).acts = [] :=
        acts_eq (by rw [after, List.append_nil]; rfl)
      have lost : garbled? (mk c (.handleEvent c.session.connectionId (.frame bytes) now)) =
          some bytes := by
        unfold garbled?
        rw [arrives]
        simp [decodes, Except.isOk, Except.toBool]
      refine ⟨?_, ?_⟩
      · intro sent received garbled before
        rw [after, silent, arrives, lost]
        simp only [posted, List.filterMap_nil, List.append_nil]
        exact (before.recordArrival bytes _).recordDecodeError bytes
      · rw [arrives, lost, hears]
        rfl
  · exact traffic_of_still (Station.handleEvent_unheard heard now) (if_neg heard)

theorem traffic (m : Moment σ) : m.Traffic := by
  by_cases brings : ∃ bytes, m.call.Brings bytes
  · obtain ⟨bytes, id, now, call⟩ := brings
    obtain ⟨c, _⟩ := m
    cases call
    exact traffic_handleEvent c id bytes now
  · have other (bytes : Bytes) : ¬ m.call.Brings bytes := fun mem => brings ⟨bytes, mem⟩
    have nothing : m.arrival? = none := by
      unfold arrival?
      split
      · next id bytes now call => exact absurd ⟨id, now, call⟩ (other bytes)
      · rfl
    apply traffic_of_readable []
    · intro bytes mem
      exact absurd mem (other bytes)
    · rw [nothing, m.deaf other]
      rfl
    · unfold garbled?
      rw [nothing]
      rfl

end Moment

/-! ## Runs -/

namespace Run

variable {key : String} {target : Target} {config : SessionConfig} {generation serial : Nat}
  {mark : String}
  {ms : List (Moment σ)} {c : Station σ}

/-- The bytes that arrived over open connections, in order. -/
def arrivals (ms : List (Moment σ)) : List Bytes := ms.flatMap fun m => m.arrival?.toList

/-- Those of them that are no frames. -/
def garbled (ms : List (Moment σ)) : List Bytes := ms.flatMap fun m => m.garbled?.toList

/-- The frames that were heard. -/
def heard (ms : List (Moment σ)) : List Inbound := ms.flatMap fun m => inboundsOf m.acts

theorem counts (h : Run (.create key target config generation serial mark) ms c) :
    c.session.Counts (posted (ms.flatMap Moment.acts)) (arrivals ms) (garbled ms) := by
  induction h with
  | begin world => exact ⟨rfl, rfl, rfl, rfl, rfl⟩
  | @call ms c _ call ih =>
    have after := (Moment.traffic ⟨c, call⟩).counts _ _ _ ih
    rw [← posted_append] at after
    rw [arrivals, garbled, List.flatMap_append, List.flatMap_append, List.flatMap_append,
      List.flatMap_singleton, List.flatMap_singleton, List.flatMap_singleton]
    exact after
  | drain _ ih => exact ih.congr (.of_eq rfl)
  | world _ _ ih => exact ih

theorem length_arrivals (ms : List (Moment σ)) :
    (arrivals ms).length = (garbled ms).length + (heard ms).length := by
  induction ms with
  | nil => rfl
  | cons m ms ih =>
    have first := m.traffic.heard
    unfold arrivals garbled heard at *
    simp only [List.flatMap_cons, List.length_append]
    omega

end Run

/-- A transcript tells of all that a run did. -/
theorem Transcript.actsOf_eq {ms : List (Moment σ)} {lines : List Line} (h : Transcript ms lines) :
    actsOf lines = ms.flatMap Moment.acts := by
  induction h with
  | nil => rfl
  | @call ms lines more _ m _ told ih =>
    rw [actsOf_append, ih, told.told, List.flatMap_append, List.flatMap_singleton]

/-- The frames that the world took, as a transcript tells. -/
def takenOf (lines : List Line) : List Bytes := (signalsOf lines).filterMap Signal.taken?

theorem takenOf_eq (lines : List Line) : takenOf lines = posted (actsOf lines) := by
  unfold takenOf signalsOf posted actsOf
  rw [List.filterMap_filterMap, List.filterMap_filterMap]
  refine List.filterMap_congr fun line _ => ?_
  cases line.entry with
  | told act => cases act <;> rfl
  | refused => rfl
  | opened => rfl

/-- The ledger that the counters of a session keep: of the frames that were handed over, those that
the world took, and of the bytes that arrived, all. -/
structure Ledger (ms : List (Moment σ)) (lines : List Line) (c : Station σ) : Prop where
  framesSent : Reads c.session.stats.framesSent (takenOf lines).length
  bytesSent : Reads c.session.stats.bytesSent (octets (takenOf lines))
  framesRecv : Reads c.session.stats.framesRecv (Run.arrivals ms).length
  bytesRecv : Reads c.session.stats.bytesRecv (octets (Run.arrivals ms))
  decodeErrors : Reads c.session.stats.decodeErrors (Run.garbled ms).length
  /-- What arrives is returned as a frame, or it is no frame. -/
  returned : (Run.arrivals ms).length = (Run.garbled ms).length + (Run.heard ms).length
  /-- Below the end of the word the counters are exact. -/
  exact : (takenOf lines).length < UInt64.size → octets (takenOf lines) < UInt64.size →
    (Run.arrivals ms).length < UInt64.size → octets (Run.arrivals ms) < UInt64.size →
      c.session.stats.framesSent = (takenOf lines).length ∧
        c.session.stats.bytesSent = octets (takenOf lines) ∧
        c.session.stats.framesRecv = (Run.arrivals ms).length ∧
        c.session.stats.bytesRecv = octets (Run.arrivals ms) ∧
        c.session.stats.framesRecv = c.session.stats.decodeErrors + (Run.heard ms).length
  /-- Bytes that are no frame change three counters and the time of the last activity. -/
  garbled : c.session.state.isLive = true → ∀ bytes e now, Frame.decode bytes = .error e →
    c.handleEvent c.session.connectionId (.frame bytes) now = c.modify fun s =>
      { s with
        stats := { s.stats with
          framesRecv := saturatingAdd maxCount64 s.stats.framesRecv 1
          bytesRecv := saturatingAdd maxCount64 s.stats.bytesRecv bytes.length
          decodeErrors := saturatingAdd maxCount64 s.stats.decodeErrors 1 }
        lastActivity := some (Environment.wallClock c.world) }

/-- In every run, over every world, the counters are a ledger of what passed between the session and
the world. There is a transcript of that, and every transcript says the same of it. -/
theorem run_ledger {key : String} {target : Target} {config : SessionConfig}
    {generation serial : Nat} {mark : String} {ms : List (Moment σ)} {c : Station σ}
    (h : Run (.create key target config generation serial mark) ms c) :
    (∃ lines, Transcript ms lines) ∧ ∀ lines, Transcript ms lines → Ledger ms lines c := by
  refine ⟨h.transcript.imp fun lines told => told.1, ?_⟩
  intro lines transcript
  have counts := h.counts
  rw [← transcript.actsOf_eq, ← takenOf_eq] at counts
  have returned := Run.length_arrivals ms
  refine ⟨counts.framesSent, counts.bytesSent, counts.framesRecv, counts.bytesRecv,
    counts.decodeErrors, returned, ?_, ?_⟩
  · intro sent sentBytes received receivedBytes
    have frames := counts.framesRecv.exact received
    have errors : c.session.stats.decodeErrors = (Run.garbled ms).length := by
      apply counts.decodeErrors.exact
      omega
    refine ⟨counts.framesSent.exact sent, counts.bytesSent.exact sentBytes, frames,
      counts.bytesRecv.exact receivedBytes, ?_⟩
    rw [frames, errors, returned]
  · intro live bytes e now garbled
    exact Station.handleEvent_garbled live garbled now

/-- A frame of a caller and the answer to a probe of the peer leave, and bytes that are no frame
arrive. Then the transport takes nothing more: a second frame and the farewell are not counted. -/
theorem run_ledger_refused :
    ∃ (ms : List (Moment ScriptedNetwork)) (c : Station ScriptedNetwork),
      Run (.create "k" default {} 0 1 "s0000001") ms c ∧
        (c.session.stats.framesSent, c.session.stats.framesRecv,
          c.session.stats.decodeErrors) = (2, 2, 1) ∧ (Run.heard ms).length = 1 ∧
        (∃ lines, Transcript ms lines) ∧ ∀ lines, Transcript ms lines → Ledger ms lines c :=
  have begun : Run (.create "k" default {} 0 1 "s0000001") [] ⟨_, ({} : ScriptedNetwork)⟩ :=
    .begin _
  have opened := (begun.call (.connect ⟨0⟩)).call (.handleEvent ⟨"k", 1⟩ .opened ⟨0⟩)
  have probed := (opened.call (.send 0x10 (.ok (.obj [])) none)).call (.handleEvent ⟨"k", 1⟩
    (.frame (((Message.ping ⟨none, "q", none⟩).encode none).toOption.getD [])) ⟨0⟩)
  have garbled := probed.call (.handleEvent ⟨"k", 1⟩ (.frame [1, 2, 3]) ⟨0⟩)
  have run := ((garbled.world { refuseFrames := true }).call
    (.send 0x10 (.ok (.obj [])) none)).call .disconnect
  ⟨_, _, run, by decide +kernel, by decide +kernel, run_ledger run⟩

end Counters

end Switchboard
