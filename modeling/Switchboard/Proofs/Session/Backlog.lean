import Switchboard.Proofs.Session.Refusals
/-!
# A backlog on an open connection

Frames that a transport did not take are held back while the connection stays open, and the next
frame of a caller sets all of them going again. That frame joins the queue first: if the frames held
back fill it, the oldest one has to make room, although the transport might take every one of them.
So a backlog leaves without loss exactly as long as there is room for one more frame
(`run_flushes`).
-/

namespace Switchboard

open Session (InPhase Live)

/-- A frame that could be written bears the bytes that were. -/
theorem eq_ok_of_packet {bytes : Except Error Bytes} {purpose : Purpose} {packet : Packet}
    (h : bytes.toOption.map (Packet.mk purpose) = some packet) :
    bytes = .ok packet.bytes ∧ packet.purpose = purpose := by
  cases bytes with
  | error e => cases h
  | ok written =>
    cases h
    exact ⟨rfl, rfl⟩

theorem Moment.written_of_submission {σ : Type} {m : Moment σ} {packet : Packet}
    (h : m.submission? = some packet) : m.written? = some (.ok packet.bytes) := by
  obtain ⟨c, call⟩ := m
  cases call with
  | send | sendMessage | request => exact congrArg some (eq_ok_of_packet h).1
  | _ => cases h

variable {σ : Type} [Environment σ]

/-- A transport takes frames one after the other, and the world goes from the first one to the
last. -/
inductive Takes (id : ConnectionId) : σ → List Bytes → σ → Prop where
  | done (world : σ) : Takes id world [] world
  | next {world later last : σ} {bytes : Bytes} {rest : List Bytes}
      (answer : Environment.deliver world id bytes = (.ok (), later))
      (h : Takes id later rest last) : Takes id world (bytes :: rest) last

namespace Session

/-- The frames held back fill the queue. -/
def isFull (s : Session) : Bool := s.queue.length = s.config.maxQueuedFrames.toNat

/-- What a frame that arrives pushes out of the queue. -/
def pushedOut (s : Session) : List Packet := if s.isFull then s.queue.take 1 else []

/-- What a frame that arrives leaves in the queue. -/
def carried (s : Session) : List Packet := if s.isFull then s.queue.drop 1 else s.queue

variable {s : Session}

theorem pushedOut_append_carried (s : Session) : s.pushedOut ++ s.carried = s.queue := by
  unfold pushedOut carried
  split
  · exact List.take_append_drop 1 s.queue
  · rfl

theorem pushedOut_eq_nil_iff (h : Orderly s) : s.pushedOut = [] ↔
    s.queue = [] ∨ s.queue.length < s.config.maxQueuedFrames.toNat := by
  have bounded := h.bounded
  unfold pushedOut isFull
  cases held : s.queue with
  | nil => simp
  | cons packet rest =>
    rw [held] at bounded
    simp only [decide_eq_true_eq, List.take_succ_cons, List.take_zero, ite_eq_right_iff,
      reduceCtorEq, imp_false, false_or]
    omega

/-- Where something is held back there is room for one frame at least, so an arrival costs no more
than the oldest one. -/
theorem enqueue_of_backlog (h : Orderly s) (backlog : s.queue ≠ []) (packet : Packet) :
    s.enqueue packet = { s with
      queue := s.carried ++ [packet]
      stats := Stats.recordDropped^[s.pushedOut.length] s.stats
      journal := s.journal ++ s.pushedOut.map Act.dropped } := by
  have bounded := h.bounded
  have some := List.length_pos_of_ne_nil backlog
  have room : s.config.maxQueuedFrames.toNat ≠ 0 := by omega
  have toll : toll s.config.maxQueuedFrames.toNat s.queue packet = s.pushedOut := by
    unfold Session.toll pushedOut overflow isFull
    rw [if_neg room]
    by_cases full : s.queue.length = s.config.maxQueuedFrames.toNat
    · simp [full]
    · have none : s.queue.length + 1 - s.config.maxQueuedFrames.toNat = 0 := by omega
      simp [full, none]
  have after :
      queueAfter s.config.maxQueuedFrames.toNat s.queue packet = s.carried ++ [packet] := by
    have whole := toll_append_queueAfter h packet
    rw [toll] at whole
    have same : s.pushedOut ++ queueAfter s.config.maxQueuedFrames.toNat s.queue packet =
        s.pushedOut ++ (s.carried ++ [packet]) := by
      rw [whole, ← List.append_assoc, pushedOut_append_carried]
    exact List.append_cancel_left same
  rw [enqueue_eq, toll, after]

/-- What is done about a frame that arrives when everything may go. -/
def flushing (s : Session) (packet : Packet) : List Act :=
  s.pushedOut.map .dropped ++
    ((s.carried ++ [packet]).map (.delivered s.connectionId) ++ [.accepted packet])

/-- A frame arrived and everything has gone, in order, but for the frame that it pushed out. -/
structure Flush (s : Session) (packet : Packet) (t : Session) : Prop where
  journal : t.journal = s.journal ++ s.flushing packet
  queue : t.queue = []
  dropped : t.stats.droppedFrames =
    (Stats.recordDropped^[s.pushedOut.length] s.stats).droppedFrames

end Session

namespace Station

variable {c : Station σ} {id : ConnectionId} {last : σ}

theorem sendDirect_of_answer {packet : Packet} {later : σ} (held : c.session.transport = some id)
    (answer : Environment.deliver c.world id packet.bytes = (.ok (), later)) :
    c.sendDirect packet =
      (.ok (), ⟨c.session.recordDelivery id packet (Environment.wallClock later), later⟩) := by
  simp only [sendDirect, held, answer]

/-- Frames that the transport takes all go, by induction on the frames. -/
theorem sendAll_of_takes (packets : List Packet) {c : Station σ}
    (held : c.session.transport = some id)
    (takes : Takes id c.world (packets.map Packet.bytes) last) :
    (sendAll packets c).1 = [] ∧ (sendAll packets c).2.world = last ∧
      (sendAll packets c).2.session.journal = c.session.journal ++ packets.map (Act.delivered id) ∧
      (sendAll packets c).2.session.stats.droppedFrames = c.session.stats.droppedFrames := by
  induction packets generalizing c with
  | nil =>
    cases takes
    exact ⟨rfl, rfl, (List.append_nil _).symm, rfl⟩
  | cons first rest ih =>
    cases takes with | @next _ later _ _ _ answer takes => ?_
    let sent : Station σ :=
      ⟨c.session.recordDelivery id first (Environment.wallClock later), later⟩
    have step : sendAll (first :: rest) c = sendAll rest sent := by
      rw [sendAll, sendDirect_of_answer held answer]
    obtain ⟨none, world, journal, dropped⟩ := ih (c := sent) held takes
    rw [step]
    refine ⟨none, world, journal.trans ?_, dropped⟩
    exact List.append_assoc c.session.journal [Act.delivered id first] _

variable {packet : Packet}

/-- On an open connection a frame goes and all that was held back before it, in order. -/
theorem submit_of_takes (orderly : Orderly c.session) (live : Live c.session)
    (connected : c.session.state = .connected)
    (takes : Takes c.session.connectionId c.world
      ((c.session.carried ++ [packet]).map Packet.bytes) last) :
    (c.submit packet).1 = .ok () ∧ (c.submit packet).2.world = last ∧
      Session.Flush c.session packet (c.submit packet).2.session := by
  unfold submit
  rw [connected]
  dsimp only
  by_cases empty : c.session.queue = []
  · have nothing : c.session.pushedOut = [] ∧ c.session.carried = [] := by
      simpa [empty] using c.session.pushedOut_append_carried
    rw [nothing.2] at takes
    obtain _ | ⟨answer, ⟨⟩⟩ := takes
    rw [if_pos (List.isEmpty_iff.mpr empty), sendDirect_of_answer live.transport answer]
    refine ⟨rfl, rfl, ?_, empty, ?_⟩
    · rw [Session.flushing, nothing.1, nothing.2]
      exact List.append_assoc c.session.journal [Act.delivered c.session.connectionId packet] _
    · rw [nothing.1]
      rfl
  · rw [if_neg (by simpa using empty)]
    let held := c.modify fun s => s.enqueue packet
    have joined : held.session = { c.session with
        queue := c.session.carried ++ [packet]
        stats := Stats.recordDropped^[c.session.pushedOut.length] c.session.stats
        journal := c.session.journal ++ c.session.pushedOut.map Act.dropped } :=
      Session.enqueue_of_backlog orderly empty packet
    have transport : held.session.transport = some c.session.connectionId := by
      rw [joined]
      exact live.transport
    have queue : held.session.queue = c.session.carried ++ [packet] := by rw [joined]
    obtain ⟨none, world, journal, dropped⟩ :=
      sendAll_of_takes (c.session.carried ++ [packet]) (c := held) transport takes
    rw [← queue] at none world journal dropped
    refine ⟨rfl, world, ?_, none, ?_⟩
    · refine (congrArg (· ++ [Act.accepted packet]) journal).trans ?_
      rw [joined, Session.flushing]
      simp only [List.append_assoc]
    · refine dropped.trans ?_
      rw [joined]

end Station

namespace Moment

/-- The frames that a call found held back and its own one go, and the world is the one that they
led to. -/
structure Flushes (m : Moment σ) (packet : Packet) (last : σ) : Prop where
  answer : ∃ name, m.answer = .ok name
  acts : m.acts = m.before.session.flushing packet
  world : m.after.world = last
  queue : m.after.session.queue = []
  dropped : m.after.session.stats.droppedFrames =
    (Stats.recordDropped^[m.before.session.pushedOut.length] m.before.session.stats).droppedFrames
  /-- Those that go and those that are pushed out are all that was held back. -/
  whole : m.before.session.pushedOut ++ m.before.session.carried = m.before.session.queue
  /-- Nothing is lost as long as there is room for one more frame, or none is held back. -/
  lossless : m.before.session.pushedOut = [] ↔ m.before.session.queue = [] ∨
    m.before.session.queue.length < m.before.session.config.maxQueuedFrames.toNat

variable {m : Moment σ} {packet : Packet} {last : σ}

theorem flushes (orderly : Orderly m.before.session) (phase : InPhase m.before.session)
    (connected : m.before.session.state = .connected) (submission : m.submission? = some packet)
    (takes : Takes m.before.session.connectionId m.before.world
      ((m.before.session.carried ++ [packet]).map Packet.bytes) last) :
    m.Flushes packet last := by
  obtain ⟨purpose, hands⟩ := handsIn_of_written (written_of_submission submission)
  obtain ⟨-, rfl⟩ := eq_ok_of_packet (hands.submission.symm.trans submission)
  -- What a request uses up beforehand has no part in this.
  obtain ⟨r, spent⟩ := m.call.spend_eq m.before.session
  have live : Live m.before.session := phase.live_of (by rw [connected]; rfl)
  obtain ⟨taken, world, flush⟩ := Station.submit_of_takes
    (c := ⟨{ m.before.session with requests := r }, m.before.world⟩)
    ⟨orderly.submitted, orderly.bounded⟩ (live.with_requests r) connected takes
  have found : (m.before.modify m.call.spend).submitBytes packet.purpose (.ok packet.bytes) =
      Station.submit ⟨{ m.before.session with requests := r }, m.before.world⟩ packet := by
    rw [← spent]
    rfl
  obtain ⟨name, answer⟩ := hands.answer
  have alike := hands.alike
  rw [found] at answer alike
  refine ⟨⟨name (), by rw [answer, taken]; rfl⟩, acts_eq (alike.journal.trans flush.journal),
    ?_, alike.queue.trans flush.queue, ?_, m.before.session.pushedOut_append_carried,
    Session.pushedOut_eq_nil_iff orderly⟩
  · rw [hands.world, found, world]
  · rw [alike.stats]
    exact flush.dropped

end Moment

/-- Whatever was called before and whatever the transports answered: if the connection is open and
the transport takes what is sent, a frame goes and so does all that was held back, in order, but for
the oldest one if the queue was full. -/
theorem run_flushes {key : String} {target : Target} {config : SessionConfig}
    {generation serial : Nat} {mark : String} {ms : List (Moment σ)} {c : Station σ}
    (h : Run (.create key target config generation serial mark) ms c) {call : Call} {packet : Packet}
    {last : σ} (connected : c.session.state = .connected)
    (submission : (⟨c, call⟩ : Moment σ).submission? = some packet)
    (takes : Takes c.session.connectionId c.world
      ((c.session.carried ++ [packet]).map Packet.bytes) last) :
    (⟨c, call⟩ : Moment σ).Flushes packet last :=
  Moment.flushes h.kept.orderly h.inPhase connected submission takes

/-- One frame is held back where two fit. The next one sets it going, and both arrive. -/
theorem run_flushes_roomy :
    ∃ (ms : List (Moment ScriptedNetwork)) (c : Station ScriptedNetwork) (held packet : Packet)
      (last : ScriptedNetwork),
      Run (.create "k" default { maxQueuedFrames := 2 } 0 1 "s0000001") ms c ∧
        c.session.queue = [held] ∧ c.session.pushedOut = [] ∧
        last.frames = [(⟨"k", 1⟩, held.bytes), (⟨"k", 1⟩, packet.bytes)] ∧
        (⟨c, .send 16 (.ok (.obj [])) (some [2])⟩ : Moment ScriptedNetwork).Flushes packet last :=
  have begun : Run (.create "k" default { maxQueuedFrames := 2 } 0 1 "s0000001") []
      ⟨_, ({ refuseFrames := true } : ScriptedNetwork)⟩ := .begin _
  have held := (begun.call (.connect ⟨0⟩)).call (.send 16 (.ok (.obj [])) (some [1]))
  have run := (held.call (.handleEvent ⟨"k", 1⟩ .opened ⟨0⟩)).world {}
  ⟨_, _, _, _, _, run, rfl, rfl, rfl, run_flushes run rfl rfl (.next rfl (.next rfl (.done _)))⟩

/-- One frame is held back where one fits. The transport takes everything again, and yet only the
next one arrives: the one held back has to make room for it first. -/
theorem run_flushes_full :
    ∃ (ms : List (Moment ScriptedNetwork)) (m : Moment ScriptedNetwork) (held packet : Packet),
      Run (.create "k" ⟨"h", 22, some "u"⟩ { maxQueuedFrames := 1 } 0 1 "s0000001") ms m.before ∧
        m.call = .send 16 (.ok (.obj [("sessionId", .str "r")])) (some [2]) ∧
        m.before.session.state = .connected ∧ m.before.session.queue = [held] ∧
        m.before.session.stats.droppedFrames = 0 ∧ m.before.world = {} ∧
        m.submission? = some packet ∧ held.bytes ≠ packet.bytes ∧
        m.after.world.frames = [(⟨"k", 1⟩, packet.bytes)] ∧ m.after.session.queue = [] ∧
        m.after.session.stats.droppedFrames = 1 :=
  have begun : Run (.create "k" ⟨"h", 22, some "u"⟩ { maxQueuedFrames := 1 } 0 1 "s0000001") []
      ⟨_, ({ refuseFrames := true } : ScriptedNetwork)⟩ := .begin _
  have held := (begun.call (.connect ⟨0⟩)).call
    (.send 16 (.ok (.obj [("sessionId", .str "r")])) (some [1]))
  have run := (held.call (.handleEvent ⟨"k", 1⟩ .opened ⟨0⟩)).world {}
  ⟨_, ⟨_, _⟩, _, _, run, rfl, rfl, rfl, rfl, rfl, rfl, by decide, rfl, rfl, rfl⟩

end Switchboard
