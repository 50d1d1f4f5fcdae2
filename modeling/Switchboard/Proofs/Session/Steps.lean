import Switchboard.Proofs.KeyMap
import Switchboard.Session.Operations
import Mathlib.Logic.Function.Iterate
/-!
# What the steps of a session change

The steps of `Switchboard.Session.Basic` that loop or branch, each as one update of the fields it
touches: which requests are left, which frames are still held back, and which acts stand at the end
of the journal. Later proofs read a step off its equation here and never unfold its loop.
-/

namespace Switchboard

namespace Requests

variable {r : Requests}

theorem contains_iff {id : String} : r.contains id = true ↔ id ∈ r.ids :=
  KeyMap.contains_iff

/-- Erasing ids one after the other leaves the requests with other ids. -/
theorem foldl_erase_eq (ids : List String) (r : Requests) :
    ids.foldl (fun r id => r.erase id) r =
      { r with pending := r.pending.filter fun entry => !ids.contains entry.1 } := by
  induction ids generalizing r with
  | nil => simp
  | cons id ids ih =>
    rw [List.foldl_cons, ih]
    simp only [erase, KeyMap.erase, List.filter_filter, Requests.mk.injEq, true_and]
    congr 1
    funext entry
    by_cases h : entry.1 = id <;> simp [h]

theorem foldl_erase_ids (r : Requests) : r.ids.foldl (fun r id => r.erase id) r = r.clear := by
  rw [foldl_erase_eq]
  simp only [clear, Requests.mk.injEq, true_and, List.filter_eq_nil_iff, Bool.not_eq_true',
    Bool.not_eq_false, ids]
  intro entry mem
  exact List.contains_iff_mem.mpr (List.mem_map_of_mem mem)

/-- Each key is bound once, so erasing the ids of the old requests erases no young one. -/
theorem foldl_erase_expired (h : KeyMap.Sorted r.pending) (now : Instant) (timeout : Duration) :
    (r.expired now timeout).foldl (fun r id => r.erase id) r = r.expire now timeout := by
  rw [foldl_erase_eq]
  simp only [expire, Requests.mk.injEq, true_and]
  refine List.filter_congr fun entry mem => ?_
  congr 1
  have found : KeyMap.find? entry.1 r.pending = some entry.2 := (KeyMap.find?_eq_some_iff h).mpr mem
  rw [Bool.eq_iff_iff, List.contains_iff_mem]
  simp only [expired, KeyMap.keys, List.mem_map, List.mem_filter]
  refine ⟨?_, fun old => ⟨entry, ⟨mem, old⟩, rfl⟩⟩
  rintro ⟨other, ⟨otherMem, old⟩, same⟩
  have otherFound := (KeyMap.find?_eq_some_iff h).mpr otherMem
  rw [same, found, Option.some.injEq] at otherFound
  rwa [otherFound]

end Requests

namespace Session

variable (s : Session)

/-- The act of letting a transport go, if there is one. -/
def partings (transport : Option ConnectionId) : List Act := (transport.map Act.hungUp).toList

theorem unplug_eq : s.unplug =
    { s with
      timers := { s.timers with heartbeat := none, connect := none }
      heartbeat := s.heartbeat.stop
      generation := s.generation + 1
      transport := none
      journal := s.journal ++ partings s.transport } := by
  unfold unplug
  cases h : s.transport with
  | none => simp [partings]
  | some id => simp [partings, note]

theorem foldl_settle_eq (result : String → Except Error Frame) (ids : List String) :
    ids.foldl (fun s id => s.settle id (result id)) s =
      { s with
        requests := ids.foldl (fun r id => r.erase id) s.requests
        journal := s.journal ++ ids.map fun id => Act.settled ⟨id, result id⟩ } := by
  induction ids generalizing s with
  | nil => simp
  | cons id ids ih => rw [List.foldl_cons, ih]; simp [settle, note]

theorem failRequests_eq : s.failRequests =
    { s with
      requests := s.requests.clear
      journal := s.journal ++
        s.requests.ids.map fun id => Act.settled ⟨id, .error .connectionClosed⟩ } := by
  unfold failRequests
  rw [foldl_settle_eq, Requests.foldl_erase_ids]

/-- Expiry settles requests and does nothing else. -/
theorem expireRequests_eq_foldl (now : Instant) : s.expireRequests now =
    { s with
      requests := (s.requests.expired now s.config.requestTimeout).foldl
        (fun r id => r.erase id) s.requests
      journal := s.journal ++ (s.requests.expired now s.config.requestTimeout).map
        fun id => Act.settled ⟨id, .error (.requestTimeout id)⟩ } :=
  foldl_settle_eq s (fun id => .error (.requestTimeout id)) _

theorem expireRequests_eq (h : KeyMap.Sorted s.requests.pending) (now : Instant) :
    s.expireRequests now =
      { s with
        requests := s.requests.expire now s.config.requestTimeout
        journal := s.journal ++ (s.requests.expired now s.config.requestTimeout).map
          fun id => Act.settled ⟨id, .error (.requestTimeout id)⟩ } := by
  rw [expireRequests_eq_foldl, Requests.foldl_erase_expired h]

/-- The act of giving up frames, if there are any. -/
def losses : List Packet → List Act
  | [] => []
  | packets => [.discarded packets]

theorem discardQueue_eq :
    s.discardQueue = { s with queue := [], journal := s.journal ++ losses s.queue } := by
  unfold discardQueue
  cases h : s.queue with
  | nil => simp [losses, ← h]
  | cons packet rest => simp [losses, note]

/-! ## Room in the queue -/

/-- To count frames that are lost changes no other number. -/
theorem iterate_recordDropped (n : Nat) (stats : Stats) :
    Stats.recordDropped^[n] stats =
      { stats with droppedFrames := (Stats.recordDropped^[n] stats).droppedFrames } := by
  induction n generalizing stats with
  | zero => rfl
  | succ n ih => exact ih stats.recordDropped

/-- How many of the oldest frames are given up for a new one. -/
def overflow (room held : Nat) : Nat := held + 1 - room

theorem makeRoom_eq {room : Nat} (h : 0 < room) (packets : List Packet) :
    makeRoom room packets s =
      { s with
        queue := packets.drop (overflow room packets.length)
        stats := Stats.recordDropped^[overflow room packets.length] s.stats
        journal :=
          s.journal ++ (packets.take (overflow room packets.length)).map Act.dropped } := by
  induction packets generalizing s with
  | nil =>
    have none : overflow room 0 = 0 := by unfold overflow; omega
    simp [makeRoom, none]
  | cons packet rest ih =>
    by_cases fits : (packet :: rest).length < room
    · have none : overflow room (packet :: rest).length = 0 := by
        unfold overflow; omega
      rw [makeRoom, if_pos fits, none]
      simp
    · have more : overflow room (packet :: rest).length = overflow room rest.length + 1 := by
        simp only [List.length_cons] at fits ⊢
        unfold overflow
        omega
      rw [makeRoom, if_neg fits, ih, more]
      simp [drop, note]

/-- The frames that an arrival at a queue of a given length costs: the oldest ones, or the arrival
itself if there is no queue. -/
def toll (room : Nat) (queue : List Packet) (packet : Packet) : List Packet :=
  if room = 0 then [packet] else queue.take (overflow room queue.length)

/-- What a queue holds after an arrival. -/
def queueAfter (room : Nat) (queue : List Packet) (packet : Packet) : List Packet :=
  if room = 0 then queue else queue.drop (overflow room queue.length) ++ [packet]

theorem enqueue_eq (packet : Packet) : s.enqueue packet =
    { s with
      queue := queueAfter s.config.maxQueuedFrames.toNat s.queue packet
      stats := Stats.recordDropped^[
        (toll s.config.maxQueuedFrames.toNat s.queue packet).length] s.stats
      journal := s.journal ++
        (toll s.config.maxQueuedFrames.toNat s.queue packet).map Act.dropped } := by
  unfold enqueue queueAfter toll
  by_cases h : s.config.maxQueuedFrames.toNat = 0
  · simp [h, drop, note]
  · have costs : overflow s.config.maxQueuedFrames.toNat s.queue.length ≤ s.queue.length := by
      unfold overflow
      omega
    simp only [h, ↓reduceIte, makeRoom_eq s (Nat.pos_of_ne_zero h), List.length_take,
      Nat.min_eq_left costs]

/-- What is held back after a frame was added was held back before, or it is that frame. -/
theorem mem_queue_of_enqueue {s : Session} {packet other : Packet}
    (mem : other ∈ (s.enqueue packet).queue) : other = packet ∨ other ∈ s.queue := by
  rw [enqueue_eq] at mem
  unfold queueAfter at mem
  dsimp only at mem
  split at mem
  · exact .inr mem
  · rcases List.mem_append.mp mem with mem | mem
    · exact .inr (List.mem_of_mem_drop mem)
    · exact .inl (List.mem_singleton.mp mem)

/-- An id is used up. -/
def advanced : Session := { s with requests := s.requests.advance }

/-- The slot of the connect timer was asked for what is due. -/
def connectTaken (now : Instant) : Session :=
  { s with timers := { s.timers with connect := s.timers.connect.afterTake now } }

/-- The slot of the next tick was asked for what is due. -/
def tickTaken (now : Instant) : Session :=
  { s with timers := { s.timers with heartbeat := s.timers.heartbeat.afterTake now } }

/-- The slot of the retry was asked for what is due. -/
def retryTaken (now : Instant) : Session :=
  { s with timers := { s.timers with retry := s.timers.retry.afterTake now } }

/-- A request is outstanding from now on. -/
def awaiting (id : String) (code : UInt8) (now : Instant) : Session :=
  { s with requests := s.requests.insert id code now }

/-- A probe is under way from now on, under an id of its own. -/
def probing (wall : UInt64) (now : Instant) : Session :=
  { s.advanced with
    heartbeat := { s.heartbeat with probe := some ⟨s.requests.nextId, wall, now⟩ } }

/-- The bytes of the next probe. -/
def probeBytes (wall : UInt64) : Except Error Bytes :=
  Frame.encodeHeader MessageKind.ping.code
    (KeyMap.ofList (PingHeader.members ⟨s.remoteId, s.requests.nextId, some wall⟩)) none

end Session

namespace Station

variable {σ : Type} [Environment σ] (c : Station σ)

/-- The bytes of a request: the caller's header with the id written into it. -/
def requestBytes (id : String) (code : UInt8) (header : Header) (payload : Option Bytes) :
    Except Error Bytes :=
  Frame.encodeHeader code (KeyMap.insert Frame.requestIdField (.str id) header) payload

/-- What a caller's request hands to `submitBytes`, after its id is used up. -/
def requestSubmission (code : UInt8) (header : Header) (payload : Option Bytes) :
    Except Error Unit × Station σ :=
  (c.modify Session.advanced).submitBytes (.request c.session.requests.nextId)
    (requestBytes c.session.requests.nextId code header payload)

theorem request_of_error {code : UInt8} {header : Header} {payload : Option Bytes} {e : Error}
    (h : (c.requestSubmission code header payload).1 = .error e) (now : Instant) :
    c.request code header payload now =
      (.error e, (c.requestSubmission code header payload).2) := by
  rcases hr : c.requestSubmission code header payload with ⟨result, c'⟩
  rw [hr] at h
  cases h
  unfold request
  unfold requestSubmission requestBytes Session.advanced at hr
  simp only [hr]

theorem request_of_ok {code : UInt8} {header : Header} {payload : Option Bytes}
    (h : (c.requestSubmission code header payload).1 = .ok ()) (now : Instant) :
    c.request code header payload now =
      (.ok c.session.requests.nextId, (c.requestSubmission code header payload).2.modify
        fun s => s.awaiting c.session.requests.nextId code now) := by
  rcases hr : c.requestSubmission code header payload with ⟨result, c'⟩
  rw [hr] at h
  cases h
  unfold request
  unfold requestSubmission requestBytes Session.advanced at hr
  simp only [hr]
  rfl

theorem pollConnect_eq (now : Instant) : c.pollConnect now =
    if (c.session.timers.connect.due? now c.session.generation).isSome ∧
        c.session.state.isAttempting then
      failAttempt (c.modify fun s => s.connectTaken now)
        (.connect s!"timed out after {c.session.config.connectTimeout.millis} ms") now
    else c.modify fun s => s.connectTaken now :=
  rfl

theorem pollHeartbeat_eq (now : Instant) : c.pollHeartbeat now =
    if (c.session.timers.heartbeat.due? now c.session.generation).isSome then
      heartbeatTick (c.modify fun s => s.tickTaken now) now
    else c.modify fun s => s.tickTaken now :=
  rfl

theorem pollRetry_eq (now : Instant) : c.pollRetry now =
    if (c.session.timers.retry.due? now c.session.generation).isSome ∧
        c.session.state = .error then
      beginAttempt (c.modify fun s => s.retryTaken now)
        (if c.session.hasConnected then .reconnecting else .connecting) now
    else c.modify fun s => s.retryTaken now :=
  rfl

/-- A tick that finds the last probe without an answer gives the connection up. -/
theorem heartbeatTick_of_silence (live : c.session.state.isLive = true) {stale : Probe}
    (h : c.session.heartbeat.probe = some stale) (now : Instant) :
    c.heartbeatTick now =
      (c.modify fun s => { (s.expireRequests now).advanced with
        heartbeat := s.heartbeat.stop }).failAttempt .heartbeatTimeout now := by
  unfold heartbeatTick
  rw [if_pos live]
  simp only [modify, Session.expireRequests_eq_foldl, Heartbeat.tick, h]
  rfl

/-- A tick that finds no probe under way sends the next one and schedules the tick after it. -/
theorem heartbeatTick_of_answer (live : c.session.state.isLive = true)
    (h : c.session.heartbeat.probe = none) (now : Instant) :
    c.heartbeatTick now =
      (sendAnyway
        (c.modify fun s => (s.expireRequests now).probing (Environment.wallClock c.world) now)
        .ping ((c.session.expireRequests now).probeBytes (Environment.wallClock c.world))).modify
        fun s => s.scheduleTick now := by
  unfold heartbeatTick
  rw [if_pos live]
  simp only [modify, Session.expireRequests_eq_foldl, Heartbeat.tick, h]
  rfl

/-! ## What a frame asks for -/

/-- What the kind of a frame comes to. -/
inductive Attended (frame : Frame) (now : Instant) : Station σ → Prop
  | ignored (silent : ∀ id, frame.kind? = some .pong → frame.requestId? ≠ some id) :
      Attended frame now c
  /-- The peer's probe is answered. -/
  | answered (other : frame.kind? ≠ some .pong) (header : Header) : Attended frame now
      (c.sendAnyway .pong (Frame.encodeHeader MessageKind.pong.code header none))
  | ponged {id : String} (kind : frame.kind? = some .pong) (named : frame.requestId? = some id) :
      Attended frame now (c.modify fun s => s.recordPong id now)
  /-- The gateway has assigned an id. -/
  | assigned (other : frame.kind? ≠ some .pong) (id : String) :
      Attended frame now (c.modify fun s => { s with remoteId := some id })

theorem attend_step (frame : Frame) (now : Instant) :
    c.Attended frame now (c.attend frame now) := by
  unfold attend
  split
  · next kind =>
    have other : frame.kind? ≠ some .pong := by rw [kind]; nofun
    unfold answerPing
    split
    · exact .ignored fun _ pong => absurd pong other
    · exact .answered other _
  · next kind =>
    split
    · next id named => exact .ponged kind named
    · next named => exact .ignored fun id _ same => nomatch named.symm.trans same
  · next kind =>
    have other : frame.kind? ≠ some .pong := by rw [kind]; nofun
    split
    · exact .assigned other _
    · exact .ignored fun _ pong => absurd pong other
  · next kind =>
    have other : frame.kind? ≠ some .pong := by rw [kind]; nofun
    split
    · exact .assigned other _
    · exact .ignored fun _ pong => absurd pong other
  · next other _ _ => exact .ignored fun _ pong => absurd pong other

/-- What a step of the exchange of credentials comes to. -/
inductive Negotiated : AuthPhase → Station σ → Prop
  /-- It is out of turn. -/
  | ignored {phase : AuthPhase}
      (early : ∀ words, phase = .failure words → c.session.state ≠ .authenticating) :
      Negotiated phase c
  /-- Credentials are asked for, and none are configured, -/
  | parked {methods : List String} (state : c.session.state = .connected) :
      Negotiated (.required methods) (c.enter .needAuth none)
  /-- or those that are go out. -/
  | given {methods : List String} (state : c.session.state = .connected) (credentials : Json) :
      Negotiated (.required methods)
        ((c.enter .authenticating none).sendCredentials credentials)
  | accepted (state : c.session.state = .authenticating) :
      Negotiated .success (c.enter .connected none).flushQueue
  | rejected {reason : Option String} (state : c.session.state = .authenticating) :
      Negotiated (.failure reason) (c.failAuth (reason.getD "credentials rejected"))

theorem negotiate_step (phase : AuthPhase) : c.Negotiated phase (c.negotiate phase) := by
  cases phase with
  | required methods =>
    unfold negotiate
    dsimp only
    split
    · next connected =>
      split
      · exact .given connected _
      · exact .parked connected
    · exact .ignored nofun
  | success =>
    unfold negotiate
    dsimp only
    split
    · next waiting => exact .accepted waiting
    · exact .ignored nofun
  | failure reason =>
    unfold negotiate
    dsimp only
    split
    · next waiting => exact .rejected waiting
    · next early => exact .ignored fun _ _ => early
  | credentials _ => exact .ignored nofun

end Station

end Switchboard
