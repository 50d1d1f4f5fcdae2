import Switchboard.Proofs.Session.Courses
import Switchboard.Proofs.Session.Stragglers
/-!
# Requests and the connections they wait on

A request whose frame was handed to a transport waits on that transport. By
`run_requestsOnConnection` it never waits for one that is gone: while it is outstanding, the session
is live and holds that very transport, so its generation is still the one under which the frame
left. Whatever makes a session leave a connection settles every request transmitted on it, and an
answer to such a request comes over the connection that its frame left on.

A request whose frame is still held back waits on no connection. It may outlive attempts, and it may
even be settled before its frame leaves; then the frame was held back at that time.
-/

namespace Switchboard

open Session (Adds InPhase Stays)

/-- The transport that took the frame of a request, and the request. -/
def Act.transmission? : Act → Option (ConnectionId × String)
  | delivered id packet => packet.requestId?.map (id, ·)
  | _ => none

/-- The requests whose frames were handed over, each with the transport that took it. -/
def transmissionsOf (acts : List Act) : List (ConnectionId × String) :=
  acts.filterMap Act.transmission?

section Transmissions

variable {σ : Type} [Environment σ]

namespace Act

variable {act : Act} {id : ConnectionId} {request : String}

theorem transmission?_eq_some : act.transmission? = some (id, request) ↔
    ∃ packet, act = .delivered id packet ∧ packet.requestId? = some request := by
  cases act with
  | delivered other packet =>
    simp only [transmission?, Option.map_eq_some_iff, Prod.mk.injEq, delivered.injEq]
    constructor
    · rintro ⟨_, named, rfl, rfl⟩
      exact ⟨packet, ⟨rfl, rfl⟩, named⟩
    · rintro ⟨_, ⟨rfl, rfl⟩, named⟩
      exact ⟨request, named, rfl, rfl⟩
  | _ => simp [transmission?]

theorem held_of_transmission {held : Option ConnectionId} (keeps : act.KeepsTo held)
    (sent : act.transmission? = some (id, request)) : held = some id := by
  obtain ⟨packet, rfl, -⟩ := transmission?_eq_some.mp sent
  exact keeps

/-- No frame of a request is handed over in leaving. -/
theorem transmission?_of_partsBy {fault : Option Error} (parts : act.PartsBy fault) :
    act.transmission? = none := by
  cases act with
  | delivered other packet =>
    have farewell : packet.purpose = .farewell := parts
    simp [transmission?, Packet.requestId?, farewell]
  | _ => rfl

/-- The frame of a request is a caller's frame. -/
theorem request_of_transmission (act : Act) :
    act.transmission?.map Prod.snd = act.handed?.bind Packet.requestId? := by
  cases act with
  | delivered id packet =>
    dsimp only [transmission?, handed?]
    cases named : packet.requestId? with
    | none => split <;> simp [named]
    | some request =>
      have submitted : packet.purpose.isSubmitted = true := by
        unfold Packet.requestId? at named
        split at named
        · next purpose => rw [purpose]; rfl
        · cases named
      rw [if_pos submitted]
      exact named.symm
  | _ => rfl

theorem handed_of_transmission (sent : act.transmission? = some (id, request)) :
    ∃ packet, act.handed? = some packet ∧ packet.requestId? = some request := by
  have same := act.request_of_transmission
  rw [sent] at same
  exact Option.bind_eq_some_iff.mp same.symm

end Act

/-! ## Calls -/

/-- A session goes on with the transport that it found, or it ends up without an open connection and
hands over no request. Then none is left if there was a connection. -/
inductive StaysOrEnds (s t : Session) (acts : List Act) : Prop
  | stays (h : Stays s t)
  | ends (dead : t.state.isLive = false)
      (settled : s.state.isLive = true → t.requests.pending = [])
      (silent : transmissionsOf acts = [])

/-- The transport that an open connection holds is the one of its generation. -/
theorem Session.InPhase.connectionId_of_held {s : Session} (h : InPhase s)
    (live : s.state.isLive = true) {id : ConnectionId} (held : s.transport = some id) :
    s.connectionId = id :=
  Option.some.inj ((h.live_of live).transport.symm.trans held)

/-- A timer brings no request. -/
theorem Station.pending_fire {c : Station σ} (sorted : KeyMap.Sorted c.session.requests.pending)
    (empty : c.session.requests.pending = []) (kind : TimerKind) (now : Instant) :
    (c.fire now kind).session.requests.pending = [] := by
  obtain ⟨t, answer, edits, -, after⟩ := Stride.edits ⟨c, .timer kind now⟩
  obtain ⟨acts, settling⟩ := edits.effects.settling sorted
  have none : t.requests.ids = [] := by
    have balance := settling.balance
    rw [show c.session.requests.ids = [] by rw [Requests.ids, empty]; rfl] at balance
    exact (List.append_eq_nil_iff.mp balance.eq_nil).1
  have same : (c.fire now kind).session = t := after
  rw [same]
  exact List.map_eq_nil_iff.mp none

theorem Stride.silent_of_parting {s : Stride σ} {fault : Option Error}
    (adds : Adds (Act.PartsBy fault) s.before.session s.after.session) :
    transmissionsOf s.acts = [] := by
  apply List.filterMap_eq_nil_iff.mpr
  intro act mem
  exact Act.transmission?_of_partsBy (adds.mem s.journal act mem)

theorem Stride.staysOrEnds {s : Stride σ} (single : s.leg.IsSingle) (h : InPhase s.before.session) :
    StaysOrEnds s.before.session s.after.session s.acts := by
  rcases Stride.stays_leaves_or_away single h with
    stays | ⟨-, fault, leaves⟩ | ⟨found, fault, away⟩
  · exact .stays stays
  · exact .ends leaves.dead (fun _ => leaves.settled) (silent_of_parting leaves.adds)
  · refine .ends away.dead ?_ (silent_of_parting away.adds)
    intro live
    rw [live] at found
    cases found

/-- A timer opens no connection. -/
theorem Station.dead_fire {c : Station σ} (h : InPhase c.session)
    (found : c.session.state.isLive = false) (kind : TimerKind) (now : Instant) :
    (c.fire now kind).session.state.isLive = false := by
  have absurd_of_live {P : Prop} (live : c.session.state.isLive = true) : P := by
    rw [live] at found
    cases found
  cases Stride.course (s := ⟨c, .timer kind now⟩) trivial h with
  | steady live => exact absurd_of_live live
  | answered _ pongs => exact absurd_of_live pongs.live
  | pings pings => exact absurd_of_live pings.live
  | silent _ _ live => exact absurd_of_live live
  | leaves live => exact absurd_of_live live
  | away _ _ h => exact h.dead
  | opens _ opened => cases opened

namespace Moment

/-- A poll hands over no frame of a caller. -/
theorem transmissionsOf_poll (c : Station σ) (now : Instant) :
    transmissionsOf (mk c (.pollTimers now)).acts = [] := by
  apply List.filterMap_eq_nil_iff.mpr
  intro act mem
  cases sent : act.transmission? with
  | none => rfl
  | some pair =>
    obtain ⟨packet, handed, -⟩ := Act.handed_of_transmission sent
    have flushes := ((mk c (.pollTimers now)).allowed act mem).flushes packet handed
    exact absurd flushes (Station.apart_of_tick rfl)

theorem staysOrEnds_pollTimers {c : Station σ} (h : InPhase c.session)
    (sorted : KeyMap.Sorted c.session.requests.pending) (now : Instant) :
    StaysOrEnds c.session (c.pollTimers now).session (mk c (.pollTimers now)).acts := by
  have first : InPhase (c.pollConnect now).session := Station.inPhase_pollConnect h now
  have second : InPhase ((c.pollConnect now).pollHeartbeat now).session :=
    Station.inPhase_pollHeartbeat first now
  by_cases live : c.session.state.isLive = true
  · have unarmed : c.pollConnect now = c := by
      apply Station.pollConnect_early
      rw [(h.live_of live).connect]
      rfl
    rw [unarmed] at second
    have ends : c.pollTimers now = (c.pollHeartbeat now).pollRetry now := by
      unfold Station.pollTimers
      rw [unarmed]
    rcases Stride.staysOrEnds (s := ⟨c, .timer .heartbeat now⟩) trivial h with
      stays | ⟨dead, settled, -⟩
    · have still : (c.pollHeartbeat now).pollRetry now = c.pollHeartbeat now := by
        apply Station.pollRetry_early
        rw [(second.live_of stays.live).retry]
        rfl
      rw [ends, still]
      exact .stays stays
    · refine .ends ?_ ?_ (transmissionsOf_poll c now)
      · rw [ends]
        exact Station.dead_fire second dead .retry now
      · intro _
        rw [ends]
        have sortedToo := Stride.sorted_after (s := ⟨c, .timer .heartbeat now⟩) sorted
        exact Station.pending_fire sortedToo (settled live) .retry now
  · have found := Bool.not_eq_true _ ▸ live
    refine .ends ?_ (fun found => absurd found live) (transmissionsOf_poll c now)
    have dead := Station.dead_fire h found .connectTimeout now
    exact Station.dead_fire second (Station.dead_fire first dead .heartbeat now) .retry now

theorem staysOrEnds (m : Moment σ) (h : InPhase m.before.session)
    (sorted : KeyMap.Sorted m.before.session.requests.pending) :
    StaysOrEnds m.before.session m.after.session m.acts := by
  obtain ⟨c, call⟩ := m
  cases call with
  | pollTimers now => exact staysOrEnds_pollTimers h sorted now
  | _ => exact Stride.staysOrEnds (s := ⟨c, .whole _⟩) trivial h

end Moment

/-! ## Runs -/

namespace Run

variable {key : String} {target : Target} {config : SessionConfig} {generation serial : Nat}
  {mark : String}
  {ms early late : List (Moment σ)} {m : Moment σ} {c : Station σ} {id : ConnectionId}
  {request : String}

/-- The requests transmitted in a run, in order. -/
def transmissions (ms : List (Moment σ)) : List (ConnectionId × String) :=
  ms.flatMap fun m => transmissionsOf m.acts

theorem transmissions_concat (ms : List (Moment σ)) (m : Moment σ) :
    transmissions (ms ++ [m]) = transmissions ms ++ transmissionsOf m.acts := by
  simp [transmissions]

/-- The requests transmitted are those whose frames were handed over. -/
theorem requests_of_transmissions (ms : List (Moment σ)) :
    (transmissions ms).map Prod.snd = (handed ms).filterMap Packet.requestId? := by
  unfold transmissions handed
  rw [List.map_flatMap, List.filterMap_flatMap]
  refine List.flatMap_congr fun m _ => ?_
  unfold transmissionsOf Switchboard.handed
  rw [List.map_filterMap, List.filterMap_filterMap]
  exact List.filterMap_congr fun act _ => act.request_of_transmission

/-- What is transmitted is the frame of a request, handed over for its caller. -/
theorem mem_handed_of_transmission (sent : (id, request) ∈ transmissions ms) :
    ∃ packet ∈ handed ms, packet.requestId? = some request := by
  obtain ⟨m, mem, sent⟩ := List.mem_flatMap.mp sent
  obtain ⟨act, told, sent⟩ := List.mem_filterMap.mp sent
  obtain ⟨packet, hands, named⟩ := Act.handed_of_transmission sent
  exact ⟨packet, List.mem_flatMap.mpr ⟨m, mem, List.mem_filterMap.mpr ⟨act, told, hands⟩⟩, named⟩

theorem issued_of_transmission (h : Run (.create key target config generation serial mark) ms c)
    (sent : (id, request) ∈ transmissions ms) : request ∈ issued ms := by
  obtain ⟨packet, hands, named⟩ := mem_handed_of_transmission sent
  rw [← requestIds_accepted, h.kept.order]
  rw [handed_eq_departures] at hands
  apply List.mem_filterMap.mpr
  exact ⟨packet, List.mem_append_left _ ((List.filter_sublist.map _).subset hands), named⟩

/-- What was transmitted and is outstanding after a call was outstanding before it. -/
theorem pending_before (h : Run (.create key target config generation serial mark) ms m.before)
    (sent : (id, request) ∈ transmissions ms) (left : request ∈ m.after.session.requests.ids) :
    request ∈ m.before.session.requests.ids := by
  have balance := m.balance h.booked.sorted h.booked.next_not_pending
  have before := balance.subset (List.mem_append_left _ left)
  refine (List.mem_append.mp before).resolve_left ?_
  -- The call cannot give out an id that was given out before.
  intro new
  have fresh := Moment.issued_eq (Option.mem_toList.mp new)
  apply h.booked.next_fresh
  rw [← fresh]
  exact h.issued_of_transmission sent

/-- A request that was transmitted and is outstanding waits on the transport that is held. -/
theorem held_of_pending (h : Run (.create key target config generation serial mark) ms c)
    (sent : (id, request) ∈ transmissions ms) (left : request ∈ c.session.requests.ids) :
    c.session.state.isLive = true ∧ c.session.transport = some id := by
  induction h with
  | begin world => simp [transmissions] at sent
  | @call ms c h call ih =>
    rw [transmissions_concat] at sent
    have earlier (sent : (id, request) ∈ transmissions ms) :
        c.session.state.isLive = true ∧ c.session.transport = some id :=
      ih sent (pending_before (m := ⟨c, call⟩) h sent left)
    cases Moment.staysOrEnds ⟨c, call⟩ h.inPhase h.booked.sorted with
    | stays stays =>
      have held : c.session.transport = some id := by
        rcases List.mem_append.mp sent with sent | sent
        · exact (earlier sent).2
        · obtain ⟨act, told, sent⟩ := List.mem_filterMap.mp sent
          have keeps := stays.adds.mem (Moment.journal ⟨c, call⟩) act told
          exact Act.held_of_transmission keeps sent
      exact ⟨stays.live, stays.transport.trans held⟩
    | ends dead settled silent =>
      rw [silent, List.append_nil] at sent
      have none := settled (earlier sent).1
      rw [Requests.ids, show (c.perform call).2.session.requests.pending = [] from none] at left
      cases left
  | drain _ ih => exact ih sent left
  | world _ _ ih => exact ih sent left

end Run

/-- How the requests of a run stand to the connections that their frames left on. -/
structure RequestsOnConnection (ms : List (Moment σ)) (c : Station σ) : Prop where
  /-- The frame of a request is transmitted once at most, so on one connection. -/
  once : ((Run.transmissions ms).map Prod.snd).Nodup
  /-- A request whose frame was transmitted and that is still outstanding waits on the connection
  that is open now. -/
  waiting : ∀ id request, (id, request) ∈ Run.transmissions ms →
    request ∈ c.session.requests.ids →
      c.session.state.isLive = true ∧ c.session.generation = id.generation ∧
        c.session.transport = some id
  /-- A call that leaves an open connection, by whichever path, leaves no request outstanding. -/
  leaving : ∀ m ∈ ms, m.before.session.state.isLive = true →
    ¬ (m.after.session.state.isLive = true ∧
      m.after.session.transport = m.before.session.transport) →
    m.after.session.requests.ids = []
  /-- So the requests transmitted on a connection are all settled when it is not held any more. -/
  settled : ∀ early m late, ms = early ++ m :: late → ∀ id request,
    (id, request) ∈ Run.transmissions (early ++ [m]) → m.after.session.transport ≠ some id →
      request ∈ (Run.outcomes (early ++ [m])).map Outcome.requestId
  /-- The answer to a request that was transmitted arrives on the connection on which it was. -/
  answered : ∀ early m late, ms = early ++ m :: late → ∀ request frame,
    ⟨request, .ok frame⟩ ∈ m.outcomes → ∀ id, (id, request) ∈ Run.transmissions (early ++ [m]) →
      m.before.session.state.isLive = true ∧ m.before.session.transport = some id ∧
        ∃ bytes now, m.call = .handleEvent id (.frame bytes) now ∧
          Frame.decode bytes = .ok frame ∧ frame.requestId? = some request
  /-- A request that is transmitted only after it was settled was held back at that time. -/
  premature : ∀ early m late, ms = early ++ m :: late → ∀ outcome ∈ m.outcomes,
    ∀ id, (id, outcome.requestId) ∈ Run.transmissions late →
      ∃ packet ∈ m.after.session.queue, packet.requestId? = some outcome.requestId
  /-- A request that stays outstanding from one connection to another was not transmitted on the
  way. -/
  across : ∀ early m late, ms = early ++ m :: late → ∀ request,
    request ∈ m.after.session.requests.ids → request ∈ c.session.requests.ids →
      m.after.session.connectionId ≠ c.session.connectionId →
        ∀ id, (id, request) ∉ Run.transmissions (early ++ [m])

/-- In every run, over every world, no request waits on a connection that is gone. -/
theorem run_requestsOnConnection {key : String} {target : Target} {config : SessionConfig}
    {generation serial : Nat} {mark : String} {ms : List (Moment σ)} {c : Station σ}
    (h : Run (.create key target config generation serial mark) ms c) :
    RequestsOnConnection ms c where
  once := by
    rw [Run.requests_of_transmissions]
    have distinct := h.requestIds_nodup
    rw [List.filterMap_append] at distinct
    exact (List.nodup_append.mp distinct).1
  waiting id request sent left := by
    obtain ⟨live, held⟩ := h.held_of_pending sent left
    have own := h.inPhase.connectionId_of_held live held
    exact ⟨live, congrArg ConnectionId.generation own, held⟩
  leaving m mem live gone := by
    obtain ⟨earlier, before⟩ := h.until_mem mem
    cases m.staysOrEnds before.inPhase before.booked.sorted with
    | stays stays => exact absurd ⟨stays.live, stays.transport⟩ gone
    | ends _ settled _ =>
      rw [Requests.ids, settled live]
      rfl
  settled early m late split id request sent gone := by
    have run := h.through split
    have issued := run.issued_of_transmission sent
    have balance := run.booked.balance.subset issued
    refine (List.mem_append.mp balance).resolve_left ?_
    intro left
    exact gone (run.held_of_pending sent left).2
  answered early m late split request frame outcome id sent := by
    have before := h.before split
    obtain ⟨⟨bytes, now, brought, decodes, live⟩, -, named⟩ :=
      Moment.hears_of_settled before.booked.sorted outcome
    have pending := Moment.pending_of_settled before.booked.sorted outcome
    have held : m.before.session.transport = some id := by
      rw [Run.transmissions_concat] at sent
      rcases List.mem_append.mp sent with sent | sent
      · exact (before.held_of_pending sent pending).2
      · cases m.staysOrEnds before.inPhase before.booked.sorted with
        | stays stays =>
          obtain ⟨act, told, sent⟩ := List.mem_filterMap.mp sent
          exact Act.held_of_transmission (stays.adds.mem m.journal act told) sent
        | ends _ _ silent =>
          rw [silent] at sent
          cases sent
    rw [before.inPhase.connectionId_of_held live held] at brought
    exact ⟨live, held, bytes, now, brought, decodes, named⟩
  premature early m late split outcome mem id sent := by
    obtain ⟨packet, hands, named⟩ := Run.mem_handed_of_transmission sent
    exact ⟨packet, h.mem_queue_of_handed split mem named hands, named⟩
  across early m late split request left stillLeft moved id sent := by
    have there := (h.through split).held_of_pending sent left
    have cut : ms = (early ++ [m]) ++ late := by rw [split]; simp
    have sentToo : (id, request) ∈ Run.transmissions ms := by
      rw [cut, Run.transmissions, List.flatMap_append]
      exact List.mem_append_left _ sent
    have here := h.held_of_pending sentToo stillLeft
    have own := (h.through split).inPhase.connectionId_of_held there.1 there.2
    have ownToo := h.inPhase.connectionId_of_held here.1 here.2
    exact moved (own.trans ownToo.symm)

/-- A request is transmitted, and fails when the connection is lost. The one that is made while the
next connection opens leaves on that connection and waits on it. -/
theorem run_requestsOnConnection_again :
    ∃ (ms : List (Moment ScriptedNetwork)) (c : Station ScriptedNetwork),
      Run (.create "k" default {} 0 1 "s0000001") ms c ∧
        Run.transmissions ms = [(⟨"k", 1⟩, "s0000001-1"), (⟨"k", 3⟩, "s0000001-2")] ∧
        c.session.requests.ids = ["s0000001-2"] ∧
        (Run.outcomes ms).map Outcome.requestId = ["s0000001-1"] ∧ RequestsOnConnection ms c :=
  have begun : Run (.create "k" default {} 0 1 "s0000001") [] ⟨_, ({} : ScriptedNetwork)⟩ :=
    .begin _
  have opened := (begun.call (.connect ⟨0⟩)).call (.handleEvent ⟨"k", 1⟩ .opened ⟨0⟩)
  have lost := (opened.call (.request 0x12 [] none ⟨0⟩)).call
    (.handleEvent ⟨"k", 1⟩ .closed ⟨1000000000⟩)
  have again := (lost.call (.pollTimers ⟨2000000000⟩)).call (.request 0x12 [] none ⟨2000000000⟩)
  have run := again.call (.handleEvent ⟨"k", 3⟩ .opened ⟨2100000000⟩)
  ⟨_, _, run, by decide +kernel, by decide +kernel, by decide +kernel, run_requestsOnConnection run⟩

end Transmissions

end Switchboard
