import Mathlib.Data.List.Perm.Basic
import Switchboard.Proofs.Frame.RoundTrip
import Switchboard.Proofs.Message.Shapes
import Switchboard.Proofs.Session.Probes
import Switchboard.Proofs.Session.Vigil
import Switchboard.Scripted.Frames
import Switchboard.Scripted.Network
/-!
# The ids of requests and PINGs

A session numbers its requests and its PINGs from one counter, and no number is used twice
(`Stride.issuedIds_cases`, `March.issuedOnce`). So no request shares its id with another or with a
PING, whatever the mark of the ids, and ids with another mark are none of them.

What comes back is told apart by its id alone. A frame with the id of a PING answers no request, and
one with the id of a request answers no PING: it measures no round trip, and the PING under way
stays under way.
-/

namespace Switchboard

open Session (InPhase Adds)

/-! ## What sessions number -/

namespace Session

variable {s : Session}

/-- Without a connection no probe is under way. -/
theorem InPhase.idle_of_dead (h : InPhase s) (dead : s.state.isLive = false) :
    s.heartbeat.probe = none := by
  cases h with
  | resting h => exact h.heartbeat.2
  | waiting h => exact h.heartbeat.2
  | attempting h => exact h.heartbeat.2
  | live h =>
    rw [h.state] at dead
    cases dead

theorem next_entering (s : Session) (call : Call) (answer : Except Error (Option String)) :
    (s.entering call answer).requests.next = s.requests.next := by
  unfold entering
  split <;> rfl

/-- A probe uses one number up, whatever expires before it. -/
theorem next_asking (s : Session) (wall : UInt64) (now : Instant) :
    (s.asking wall now).requests.next = s.requests.next + 1 := by
  unfold asking probing advanced
  rw [expireRequests_eq_foldl, Requests.foldl_erase_eq]
  rfl

/-- The frame of a probe can be read back, and it has the id of the probe. -/
theorem requestId_of_probeBytes {wall : UInt64} {bytes : Bytes}
    (written : s.probeBytes wall = .ok bytes) :
    ∃ frame, Frame.decode bytes = .ok frame ∧ frame.requestId? = some s.requests.nextId := by
  obtain ⟨ping, names⟩ : ∃ ping : PingHeader, ping = ⟨s.remoteId, s.requests.nextId, some wall⟩ :=
    ⟨_, rfl⟩
  have fits : (Frame.headerBytes (KeyMap.ofList ping.members)).length < UInt32.size := by
    unfold probeBytes Frame.encodeHeader at written
    rw [← names] at written
    dsimp only at written
    split at written
    · assumption
    · cases written
  have flat : ∀ entry ∈ KeyMap.ofList ping.members, Json.FitsIn [] entry.2 := fun entry mem =>
    (ping.plain entry (KeyMap.mem_of_mem_ofList mem)).fitsIn []
  have integers : (Json.obj (KeyMap.ofList ping.members)).IntegersOnly :=
    Json.integersOnly_of_fitsIn (KeyMap.sorted_ofList _) flat ⟨.nil, trivial⟩
  have shallow : (Json.obj (KeyMap.ofList ping.members)).depth ≤ 127 :=
    Nat.le_trans (Json.depth_le_of_fitsIn flat) (by decide)
  have named : KeyMap.find? Frame.requestIdField (KeyMap.ofList ping.members) =
      some (.str ping.requestId) := by
    simp [PingHeader.members, Frame.requestIdField, KeyMap.find?_ofList, KeyMap.find?_append,
      KeyMap.find?]
  obtain ⟨other, writes, -, reads⟩ :=
    Frame.decode_encodeValue MessageKind.ping.code none integers fits
  have same : bytes = other := by
    unfold probeBytes at written
    rw [← names] at written
    exact Except.ok.inj (written.symm.trans writes)
  refine ⟨_, same ▸ reads.trans (if_pos shallow), ?_⟩
  unfold Frame.requestId? Frame.stringField?
  rw [named, names]
  rfl

end Session

/-- The act hands over no PING of the session's own but the one with these bytes. -/
def Act.ProbesBy (bytes : Except Error Bytes) (act : Act) : Prop :=
  ∀ id written, act = .delivered id ⟨.ping, written⟩ → bytes = .ok written

section IssuedIds

variable {σ : Type} [Environment σ]

theorem Station.probesBy_sendAnyway (c : Station σ) (bytes : Except Error Bytes) :
    Adds (Act.ProbesBy bytes) c.session (c.sendAnyway .ping bytes).session := by
  cases bytes with
  | error e => exact .of_eq rfl
  | ok written =>
    refine adds_sendDirect c _ fun _ _ => ?_
    rintro _ _ ⟨⟩
    rfl

/-! ## One leg -/

namespace Stride

variable {s : Stride σ} {p : Probe}

/-- The id that the leg gave out with a request. -/
def issued? (s : Stride σ) : Option String :=
  match s.leg with
  | .whole call => (Moment.mk s.before call).issued?
  | .timer .. => none

/-- The probe that the leg put under way. -/
def probed? (s : Stride σ) : Option Probe :=
  match s.before.session.heartbeat.probe with
  | some _ => none
  | none => s.after.session.heartbeat.probe

/-- The ids that the leg gave to a request or to a PING. -/
def issuedIds (s : Stride σ) : List String :=
  s.issued?.toList ++ (s.probed?.map Probe.requestId).toList

/-- A probe that is under way was so before, or the leg sent its PING. -/
theorem probe_after (single : s.leg.IsSingle) (phase : InPhase s.before.session)
    (under : s.after.session.heartbeat.probe = some p) :
    s.before.session.heartbeat.probe = some p ∨ s.Pings p := by
  have none {P : Prop} (dead : s.after.session.state.isLive = false) : P := by
    rw [(s.inPhase phase).idle_of_dead dead] at under
    cases under
  cases course single phase with
  | steady _ h =>
    have same : s.after.session.heartbeat = s.before.session.heartbeat :=
      congrArg Prod.fst h.watch
    rw [same] at under
    exact .inl under
  | answered _ _ _ watch =>
    have idle : s.after.session.heartbeat.probe = Option.none := congrArg (·.1.probe) watch
    rw [idle] at under
    cases under
  | pings pings =>
    rw [pings.issued] at under
    cases under
    exact .inr pings
  | silent _ _ _ _ _ h => exact none h.dead
  | leaves _ _ _ h => exact none h.dead
  | away _ _ h => exact none h.dead
  | opens _ _ _ watch =>
    have idle : s.after.session.heartbeat.probe = Option.none := congrArg (·.1.probe) watch
    rw [idle] at under
    cases under

theorem probed?_eq_some_iff (single : s.leg.IsSingle) (phase : InPhase s.before.session) :
    s.probed? = some p ↔ s.Pings p := by
  constructor
  · intro probed
    unfold probed? at probed
    split at probed
    · cases probed
    · next idle =>
      refine (probe_after single phase probed).resolve_left ?_
      rw [idle]
      nofun
  · intro pings
    unfold probed?
    rw [pings.idle]
    exact pings.issued

/-- A leg that sends a PING comes to a session that asks, and to the frame that it sends. -/
theorem Pings.asks (phase : InPhase s.before.session) (pings : s.Pings p) :
    ∃ b d : Station σ, s.after = d.modify (fun t => t.scheduleTick p.sentAt) ∧
      d = b.sendAnyway .ping (s.before.session.probeBytes p.sentWall) ∧
      b.session = s.before.session.asking p.sentWall p.sentAt := by
  obtain ⟨c, leg⟩ := s
  cases (show leg = .timer .heartbeat p.sentAt from pings.ticks)
  obtain ⟨live, after⟩ := Station.ticks_of_due phase pings.due
  obtain ⟨b, d, ends, sends, session, -⟩ := Station.asks_of_tick live pings.idle after
  rw [pings.clock]
  exact ⟨b, d, ends, sends, session⟩

theorem Pings.next_after (phase : InPhase s.before.session) (pings : s.Pings p) :
    s.after.session.requests.next = s.before.session.requests.next + 1 := by
  obtain ⟨b, d, ends, sends, session⟩ := pings.asks phase
  have core : d.session.core = b.session.core := sends ▸ Station.core_sendAnyway b .ping _
  have sent : d.session.requests.next = b.session.requests.next :=
    (congrArg (fun t => t.requests.next) core :)
  rw [session, Session.next_asking] at sent
  rw [ends]
  exact sent

/-- Of the session's own PINGs only the one that is due is handed over. -/
theorem Pings.written (phase : InPhase s.before.session) (pings : s.Pings p) {id : ConnectionId}
    {bytes : Bytes} (told : .delivered id ⟨.ping, bytes⟩ ∈ s.acts) :
    s.before.session.probeBytes p.sentWall = .ok bytes := by
  obtain ⟨b, d, ends, sends, session⟩ := pings.asks phase
  have asked : Adds (Act.ProbesBy (s.before.session.probeBytes p.sentWall)) s.before.session
      b.session := by
    rw [session]
    refine (s.before.session.addsPlain_asking p.sentWall p.sentAt).mono ?_
    rintro _ plain id bytes rfl
    cases plain
  have sent := b.probesBy_sendAnyway (s.before.session.probeBytes p.sentWall)
  rw [← sends] at sent
  have whole : Adds (Act.ProbesBy (s.before.session.probeBytes p.sentWall)) s.before.session
      s.after.session := (asked.trans sent).congr rfl (by rw [ends]; rfl)
  exact whole.mem s.journal _ told id bytes rfl

theorem next_le (s : Stride σ) :
    s.before.session.requests.next ≤ s.after.session.requests.next := by
  obtain ⟨t, answer, edits, -, after⟩ := s.edits
  rw [after, Session.next_entering]
  exact edits.effects.next_le

/-- A leg gives out no id, or the next one and uses its number up. -/
theorem issuedIds_cases (single : s.leg.IsSingle) (phase : InPhase s.before.session) :
    s.issuedIds = [] ∧ s.before.session.requests.next ≤ s.after.session.requests.next ∨
      s.issuedIds = [s.before.session.requests.nextId] ∧
        s.before.session.requests.next < s.after.session.requests.next := by
  unfold issuedIds
  cases probed : s.probed? with
  | some p =>
    have pings := (probed?_eq_some_iff single phase).mp probed
    have none : s.issued? = Option.none := by
      unfold issued?
      rw [pings.ticks]
    rw [none, ← pings.fresh, pings.next_after phase]
    exact .inr ⟨rfl, Nat.lt_succ_self _⟩
  | none =>
    cases issued : s.issued? with
    | none => exact .inl ⟨rfl, s.next_le⟩
    | some id =>
      obtain ⟨c, leg⟩ := s
      cases leg with
      | timer => cases issued
      | whole call =>
        have grown := Moment.next_after ⟨c, call⟩
        rw [show Moment.issued? ⟨c, call⟩ = some id from issued] at grown
        rw [Moment.issued_eq issued]
        exact .inr ⟨rfl, grown⟩

end Stride

/-! ## Leg after leg -/

/-- The ids that were given out in a march: each has a number below the next, and none was given out
twice. -/
structure IssuedOnce (mark : String) (strides : List (Stride σ)) (c : Station σ) : Prop where
  marked : c.session.requests.mark = mark
  numbered : ∀ id ∈ strides.flatMap Stride.issuedIds,
    ∃ n < c.session.requests.next, id = Requests.idAt mark n
  distinct : (strides.flatMap Stride.issuedIds).Nodup

theorem IssuedOnce.go {mark : String} {strides : List (Stride σ)} {s : Stride σ}
    (h : IssuedOnce mark strides s.before) (single : s.leg.IsSingle)
    (phase : InPhase s.before.session) : IssuedOnce mark (strides ++ [s]) s.after := by
  have kept : s.after.session.requests.mark = mark := s.sameIdentity.mark.trans h.marked
  rcases Stride.issuedIds_cases single phase with ⟨nothing, grown⟩ | ⟨one, grown⟩
  · have same : (strides ++ [s]).flatMap Stride.issuedIds = strides.flatMap Stride.issuedIds := by
      rw [List.flatMap_append, List.flatMap_singleton, nothing, List.append_nil]
    refine ⟨kept, ?_, same ▸ h.distinct⟩
    rw [same]
    intro id mem
    obtain ⟨n, lt, names⟩ := h.numbered id mem
    exact ⟨n, Nat.lt_of_lt_of_le lt grown, names⟩
  · have more : (strides ++ [s]).flatMap Stride.issuedIds =
        strides.flatMap Stride.issuedIds ++ [s.before.session.requests.nextId] := by
      rw [List.flatMap_append, List.flatMap_singleton, one]
    have next : s.before.session.requests.nextId =
        Requests.idAt mark s.before.session.requests.next := by
      rw [Requests.nextId, h.marked]
    refine ⟨kept, ?_, ?_⟩
    · rw [more]
      intro id mem
      rcases List.mem_append.mp mem with mem | mem
      · obtain ⟨n, lt, names⟩ := h.numbered id mem
        exact ⟨n, Nat.lt_trans lt grown, names⟩
      · exact ⟨_, grown, (List.mem_singleton.mp mem).trans next⟩
    · rw [more]
      refine List.nodup_append.mpr ⟨h.distinct, List.pairwise_singleton _ _, ?_⟩
      intro old mem new last same
      -- What was given out before has a smaller number.
      obtain ⟨n, lt, names⟩ := h.numbered old mem
      rw [same, List.mem_singleton.mp last, next] at names
      rw [(Requests.idAt_inj.mp names).2] at lt
      exact Nat.lt_irrefl _ lt

namespace March

variable {start : Session} {strides : List (Stride σ)} {c : Station σ}

theorem issuedOnce (h : March start strides c) (phase : InPhase start) :
    IssuedOnce start.requests.mark strides c := by
  induction h with
  | begin world => exact ⟨rfl, nofun, .nil⟩
  | go h single ih => exact ih.go single (h.inPhase_of_start phase)
  | drain _ ih => exact ⟨ih.marked, ih.numbered, ih.distinct⟩
  | world _ _ ih => exact ⟨ih.marked, ih.numbered, ih.distinct⟩

/-- A probe that is under way was sent in the march. -/
theorem pinged (h : March start strides c) (phase : InPhase start) {p : Probe}
    (under : c.session.heartbeat.probe = some p) (idle : start.heartbeat.probe = none) :
    ∃ s ∈ strides, s.Pings p := by
  induction h with
  | begin world =>
    rw [idle] at under
    cases under
  | @go strides c h leg single ih =>
    rcases Stride.probe_after (s := ⟨c, leg⟩) single (h.inPhase_of_start phase) under with
      before | pings
    · obtain ⟨s, mem, pings⟩ := ih before
      exact ⟨s, List.mem_append_left _ mem, pings⟩
    · exact ⟨⟨c, leg⟩, List.mem_append_right _ (List.mem_singleton_self _), pings⟩
  | drain _ ih => exact ih under
  | world _ _ ih => exact ih under

end March

/-! ## Runs -/

namespace Run

variable {start : Session} {ms : List (Moment σ)} {c d : Station σ}

/-- The ids of the PINGs of a run, in order. -/
def probed (ms : List (Moment σ)) : List String :=
  (strides ms).filterMap fun s => s.probed?.map Probe.requestId

/-- The stations that the calls of a run found, and where it has got to. -/
def stations (ms : List (Moment σ)) (c : Station σ) : List (Station σ) :=
  ms.map Moment.before ++ [c]

theorem issued_eq_strides (ms : List (Moment σ)) :
    issued ms = (strides ms).flatMap fun s => s.issued?.toList := by
  rw [issued, List.filterMap_eq_flatMap_toList, strides, List.flatMap_assoc]
  congr 1
  funext m
  obtain ⟨c, call⟩ := m
  cases call <;> exact (List.append_nil _).symm

theorem probed_eq_strides (ms : List (Moment σ)) :
    probed ms = (strides ms).flatMap fun s => (s.probed?.map Probe.requestId).toList :=
  List.filterMap_eq_flatMap_toList _ _

/-- The ids of requests and of PINGs are what the legs of a run gave out. -/
theorem issuedIds_perm (ms : List (Moment σ)) :
    (issued ms ++ probed ms).Perm ((strides ms).flatMap Stride.issuedIds) := by
  rw [issued_eq_strides, probed_eq_strides]
  exact List.flatMap_append_perm _ _ _

omit [Environment σ] in
theorem before_mem_stations {m : Moment σ} (mem : m ∈ ms) (c : Station σ) :
    m.before ∈ stations ms c :=
  List.mem_append_left _ (List.mem_map_of_mem mem)

/-- A station of a run is where the first calls of it lead. -/
theorem reaches (h : Run start ms c) (mem : d ∈ stations ms c) :
    ∃ early late, ms = early ++ late ∧ Run start early d := by
  rcases List.mem_append.mp mem with mem | mem
  · obtain ⟨m, found, rfl⟩ := List.mem_map.mp mem
    obtain ⟨early, late, split⟩ := List.append_of_mem found
    exact ⟨early, m :: late, split, h.before split⟩
  · rw [List.mem_singleton.mp mem]
    exact ⟨ms, [], (List.append_nil _).symm, h⟩

end Run

/-- The ids of requests and those of PINGs are kept apart, and so are the frames that have them. -/
structure Unmixed (mark : String) (ms : List (Moment σ)) (c : Station σ) : Prop where
  /-- No id is given to two requests, to two PINGs, or to a request and a PING. -/
  distinct : (Run.issued ms ++ Run.probed ms).Nodup
  /-- No tracker with another mark gives out any of them. -/
  apart : ∀ other : Requests, other.mark ≠ mark → other.nextId ∉ Run.issued ms ++ Run.probed ms
  /-- The PINGs counted are those that ticks send, -/
  counted : ∀ s ∈ Run.strides ms, ∀ p, s.probed? = some p ↔ s.Pings p
  /-- and a PING that is handed over has the id that it is counted with. -/
  named : ∀ s ∈ Run.strides ms, ∀ id bytes, .delivered id ⟨.ping, bytes⟩ ∈ s.acts →
    ∃ p frame, s.Pings p ∧ Frame.decode bytes = .ok frame ∧ frame.requestId? = some p.requestId
  under : ∀ d ∈ Run.stations ms c, ∀ p, d.session.heartbeat.probe = some p →
    p.requestId ∈ Run.probed ms
  /-- A request is outstanding under an id of its own, which is that of no PING. -/
  pending : ∀ d ∈ Run.stations ms c, ∀ id ∈ d.session.requests.ids,
    id ∈ Run.issued ms ∧ id ∉ Run.probed ms
  /-- A frame with the id of a PING ends no request well. -/
  unanswered : ∀ m ∈ ms, ∀ bytes frame, m.call.Brings bytes → Frame.decode bytes = .ok frame →
    ∀ id ∈ Run.probed ms, frame.requestId? = some id →
      ∀ outcome ∈ m.outcomes, ∀ answer, outcome.result ≠ .ok answer
  /-- A frame with the id of a request measures no round trip, and as long as the connection goes on
  the PING under way stays under way and the next tick is due when it was. -/
  unwatched : ∀ m ∈ ms, ∀ bytes frame, m.call.Brings bytes → Frame.decode bytes = .ok frame →
    ∀ id ∈ Run.issued ms, frame.requestId? = some id →
      m.after.session.estimates = m.before.session.estimates ∧
        (m.after.session.state.isLive = true → m.after.session.watch = m.before.session.watch)

section Unmixed

variable {start : Session} {ms : List (Moment σ)} {c d : Station σ}

/-- A request that ends well was answered by the frame that the call brought. -/
theorem Moment.named_of_settled {m : Moment σ}
    (sorted : KeyMap.Sorted m.before.session.requests.pending) {bytes : Bytes} {frame : Frame}
    (brings : m.call.Brings bytes) (decodes : Frame.decode bytes = .ok frame) {id : String}
    {answer : Frame} (mem : ⟨id, .ok answer⟩ ∈ m.outcomes) : frame.requestId? = some id := by
  obtain ⟨⟨_, _, call, decoded, -⟩, -, named⟩ := hears_of_settled sorted mem
  obtain ⟨_, _, brought⟩ := brings
  rw [call] at brought
  cases brought
  rw [decodes] at decoded
  cases decoded
  exact named

/-- A frame that does not answer the probe under way leaves the watch as it is, unless the
connection ends with it. -/
theorem Moment.unwatched_of_other {m : Moment σ} {bytes : Bytes} {frame : Frame}
    (brings : m.call.Brings bytes) (decodes : Frame.decode bytes = .ok frame)
    (other : ∀ probe, m.before.session.heartbeat.probe = some probe → ¬ probe.AnsweredBy frame) :
    m.after.session.estimates = m.before.session.estimates ∧
      (m.after.session.state.isLive = true → m.after.session.watch = m.before.session.watch) := by
  obtain ⟨tag, now, call⟩ := brings
  by_cases heard : tag = m.before.session.connectionId ∧ m.before.session.state.isLive = true
  · obtain ⟨rfl, live⟩ := heard
    obtain ⟨b, arrives⟩ : ∃ b : Station σ, b = m.before.modify fun s =>
      s.recordArrival bytes (Environment.wallClock m.before.world) := ⟨_, rfl⟩
    have after : m.after = b.hear frame now := by
      unfold Moment.after
      rw [call, arrives]
      exact Station.handleEvent_heard live decodes now
    have found : b.session.state.isLive = true := arrives ▸ live
    have others : ∀ probe, b.session.heartbeat.probe = some probe → ¬ probe.AnsweredBy frame :=
      arrives ▸ other
    have estimates : b.session.estimates = m.before.session.estimates := arrives ▸ rfl
    have watch : b.session.watch = m.before.session.watch := arrives ▸ rfl
    rw [after, ← estimates, ← watch]
    cases Station.hearing_hear found frame now with
    | steady h => exact ⟨h.estimates, fun _ => h.watch⟩
    | answered under answer => exact absurd answer (others _ under)
    | rejected _ h measured =>
      refine ⟨measured, fun alive => ?_⟩
      rw [h.dead] at alive
      cases alive
  · have still : m.after = m.before := by
      unfold Moment.after
      rw [call]
      exact Station.handleEvent_unheard heard now
    rw [still]
    exact ⟨rfl, fun _ => rfl⟩

namespace Run

theorem issued_append (early late : List (Moment σ)) :
    issued (early ++ late) = issued early ++ issued late := List.filterMap_append

theorem probed_append (early late : List (Moment σ)) :
    probed (early ++ late) = probed early ++ probed late := by
  unfold probed strides
  rw [List.flatMap_append, List.filterMap_append]

theorem mem_probed_of_pings {s : Stride σ} {p : Probe} (single : s.leg.IsSingle)
    (phase : InPhase s.before.session) (mem : s ∈ strides ms) (pings : s.Pings p) :
    p.requestId ∈ probed ms := by
  refine List.mem_filterMap.mpr ⟨s, mem, ?_⟩
  rw [(Stride.probed?_eq_some_iff single phase).mpr pings]
  rfl

/-- A leg of a run is one timer or one call, and it finds the session in a phase. -/
theorem leg_of_mem (h : Run start ms c) (phase : InPhase start) {s : Stride σ}
    (mem : s ∈ strides ms) : s.leg.IsSingle ∧ InPhase s.before.session := by
  obtain ⟨early, late, split⟩ := List.append_of_mem mem
  obtain ⟨before, single⟩ := h.march.before split
  exact ⟨single, before.inPhase_of_start phase⟩

theorem mem_probed_of_under (h : Run start ms c) (phase : InPhase start)
    (idle : start.heartbeat.probe = none) (mem : d ∈ stations ms c) {p : Probe}
    (under : d.session.heartbeat.probe = some p) : p.requestId ∈ probed ms := by
  obtain ⟨early, late, rfl, run⟩ := h.reaches mem
  obtain ⟨s, there, pings⟩ := run.march.pinged phase under idle
  obtain ⟨single, found⟩ := run.leg_of_mem phase there
  rw [probed_append]
  exact List.mem_append_left _ (mem_probed_of_pings single found there pings)

theorem mem_issued_of_pending (h : Run start ms c) (clear : start.requests.pending = [])
    (mem : d ∈ stations ms c) {id : String} (pending : id ∈ d.session.requests.ids) :
    id ∈ issued ms := by
  obtain ⟨early, late, rfl, run⟩ := h.reaches mem
  rw [issued_append]
  refine List.mem_append_left _ ?_
  exact (run.booked_of_clear clear).balance.symm.subset (List.mem_append_left _ pending)

theorem distinct (h : Run start ms c) (phase : InPhase start) :
    (issued ms ++ probed ms).Nodup :=
  (issuedIds_perm ms).nodup_iff.mpr (h.march.issuedOnce phase).distinct

theorem not_probed_of_issued (h : Run start ms c) (phase : InPhase start) {id : String}
    (issued : id ∈ issued ms) : id ∉ probed ms := fun probed =>
  (List.nodup_append.mp (h.distinct phase)).2.2 id issued id probed rfl

theorem unmixed {key : String} {target : Target} {config : SessionConfig}
    {generation serial : Nat} {mark : String}
    (h : Run (.create key target config generation serial mark) ms c) :
    Unmixed mark ms c where
  distinct := h.distinct (Session.inPhase_create ..)
  apart other differs mem := by
    have once := h.march.issuedOnce (Session.inPhase_create ..)
    obtain ⟨n, -, names⟩ := once.numbered _ ((issuedIds_perm ms).subset mem)
    exact differs (Requests.idAt_inj.mp names).1
  counted s mem p := by
    obtain ⟨single, phase⟩ := h.leg_of_mem (Session.inPhase_create ..) mem
    exact Stride.probed?_eq_some_iff single phase
  named s mem id bytes told := by
    obtain ⟨early, late, split⟩ := List.append_of_mem mem
    obtain ⟨before, single⟩ := h.march.before split
    have phase := before.inPhase_of_start (Session.inPhase_create ..)
    have held := before.submitted_of_start (List.forall_mem_nil _)
    obtain ⟨p, pings⟩ := Stride.pings_of_probe single phase held told rfl
    obtain ⟨frame, decodes, named⟩ := Session.requestId_of_probeBytes (pings.written phase told)
    exact ⟨p, frame, pings, decodes, pings.fresh ▸ named⟩
  under d mem p under := h.mem_probed_of_under (Session.inPhase_create ..) rfl mem under
  pending d mem id pending := by
    have issued := h.mem_issued_of_pending rfl mem pending
    exact ⟨issued, h.not_probed_of_issued (Session.inPhase_create ..) issued⟩
  unanswered := by
    rintro m mem bytes frame brings decodes id probed named ⟨other, result⟩ ended answer rfl
    obtain ⟨_, run⟩ := h.until_mem mem
    have sorted := (run.booked_of_clear rfl).sorted
    -- The request that ended was outstanding, so its id is that of no PING.
    have pending := Moment.pending_of_settled sorted ended
    have issued := h.mem_issued_of_pending rfl (before_mem_stations mem c) pending
    rw [Moment.named_of_settled sorted brings decodes ended] at named
    cases named
    exact h.not_probed_of_issued (Session.inPhase_create ..) issued probed
  unwatched m mem bytes frame brings decodes id issued named := by
    refine Moment.unwatched_of_other brings decodes ?_
    intro probe under answer
    have probed := h.mem_probed_of_under (Session.inPhase_create ..) rfl
      (before_mem_stations mem c) under
    have same : probe.requestId = id := Option.some.inj (answer.2.symm.trans named)
    exact h.not_probed_of_issued (Session.inPhase_create ..) issued (same ▸ probed)

end Run

end Unmixed

/-- In every run of every session, with any mark, requests and PINGs are told apart by their ids.
Trackers never give out one id unless they have one mark and count the same number. -/
theorem run_unmixed {key : String} {target : Target} {config : SessionConfig}
    {generation serial : Nat} {mark : String} {ms : List (Moment σ)} {c : Station σ}
    (h : Run (.create key target config generation serial mark) ms c) :
    Unmixed mark ms c ∧
      ∀ r other : Requests, r.nextId = other.nextId ↔ r.mark = other.mark ∧ r.next = other.next :=
  ⟨h.unmixed, fun _ _ => Requests.idAt_inj⟩

end IssuedIds

/-- Under a mark with hyphens and digits a request gets the first id and a PING the second. A PONG
with the first id answers the request and leaves the PING under way, and a frame with the second id
answers no request. -/
theorem run_unmixed_hyphens :
    ∃ (ms : List (Moment ScriptedNetwork)) (c : Station ScriptedNetwork),
      Run (.create "k" default { heartbeatInterval := .clamp 10 } 0 1 "a-1") ms c ∧
        Run.issued ms = ["a-1-1", "a-1-3"] ∧ Run.probed ms = ["a-1-2"] ∧
        (Run.outcomes ms).map Outcome.requestId = ["a-1-1"] ∧
        c.session.requests.ids = ["a-1-3"] ∧
        c.session.heartbeat.probe.map Probe.requestId = some "a-1-2" ∧
        Unmixed "a-1" ms c ∧ (Requests.ofMark "a").nextId ∉ Run.issued ms ++ Run.probed ms :=
  have begun : Run (.create "k" default { heartbeatInterval := .clamp 10 } 0 1 "a-1") []
      ⟨_, ({} : ScriptedNetwork)⟩ := .begin _
  have opened := (begun.call (.connect ⟨0⟩)).call (.handleEvent ⟨"k", 1⟩ .opened ⟨0⟩)
  have asked := ((opened.call (.request 99 [] none ⟨1⟩)).call (.pollTimers ⟨10⟩)).call
    (.request 99 [] none ⟨11⟩)
  have answered := asked.call (.handleEvent ⟨"k", 1⟩ (.frame (GatewayFrame.pongFor [] "a-1-1"))
    ⟨12⟩)
  have run := answered.call (.handleEvent ⟨"k", 1⟩
    (.frame (GatewayFrame.responseTo "a-1-2" 99 [])) ⟨13⟩)
  have unmixed := (run_unmixed run).1
  ⟨_, _, run, by decide +kernel, by decide +kernel, by decide +kernel, by decide +kernel,
    by decide +kernel, unmixed, unmixed.apart _ (by decide)⟩

end Switchboard
