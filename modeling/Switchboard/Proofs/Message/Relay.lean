import Switchboard.Message.Basic
import Switchboard.Proofs.Frame.RoundTrip
import Switchboard.Proofs.Message.Shapes
/-!
# Relayed messages

A header that narrows to a message may be widened again and sent on: whoever narrows what arrives
has the same message (`Message.relayed`). Kinds fall into three sorts. A kind with a shape of its
own writes that shape, a kind of the bands for file operations writes the header that it was read
from but for a null session id, and any other kind keeps the header as it is.
-/

namespace Switchboard

namespace MessageKind

/-- The kinds that declare a shape of their own. -/
def shaped : List MessageKind :=
  [.ping, .pong, .authenticate, .error, .status, .latency, .sshData, .sshResize, .sshCommand,
    .sshDataAck]

end MessageKind

namespace Message

variable {kind : MessageKind} {h : Header} {m : Message}

/-- A kind without a shape of its own is read by its band. -/
theorem read_of_not_shaped (plain : kind ∉ MessageKind.shaped) (h : Header) :
    read kind h =
      if kind.band = .subProtocol ∨ kind.band = .response then sftp kind <$> SftpHeader.read h
      else .ok (control kind h) := by
  cases kind <;> first | rfl | simp [MessageKind.shaped] at plain

theorem band_of_shaped (shaped : kind ∈ MessageKind.shaped) :
    ¬ (kind.band = .subProtocol ∨ kind.band = .response) := by
  revert shaped
  cases kind <;> decide

/-- What a message keeps of the header that it was narrowed from. -/
structure Kept (kind : MessageKind) (h : Header) (m : Message) : Prop where
  kind_eq : m.kind = kind
  reread : read kind m.toHeader = .ok m
  sorted : KeyMap.Sorted m.toHeader
  /-- Every value that is written is a scalar or stands for a value that was read. -/
  fit : ∀ entry ∈ m.toHeader, Json.FitsIn h entry.2
  whole : kind ∉ MessageKind.shaped →
    m.toHeader =
      if kind.band = .subProtocol ∨ kind.band = .response then withoutNull "sessionId" h else h

/-- A shape is kept if it is read back from its members. -/
theorem Kept.of_members {written : List (String × Json)} (shaped : kind ∈ MessageKind.shaped)
    (same : m.kind = kind) (text : m.toHeader = KeyMap.ofList written)
    (reread : read kind (KeyMap.ofList written) = .ok m)
    (fit : ∀ entry ∈ written, Json.FitsIn h entry.2) : Kept kind h m where
  kind_eq := same
  reread := by rw [text, reread]
  sorted := by
    rw [text]
    exact KeyMap.sorted_ofList written
  fit := by
    rw [text]
    intro entry mem
    exact fit entry (KeyMap.mem_of_mem_ofList mem)
  whole := fun plain => absurd shaped plain

theorem map_eq_ok {α : Type} {x : Except Json.Mismatch α} {f : α → Message}
    (mapped : f <$> x = .ok m) : ∃ a, x = .ok a ∧ m = f a := by
  cases x with
  | error e => cases mapped
  | ok a =>
    cases mapped
    exact ⟨a, rfl, rfl⟩

/-- A shape of strings and integers has nothing else to keep. -/
theorem Kept.of_shape {α : Type} {form : α → Message} {reader : Header → Except Json.Mismatch α}
    {members : α → List (String × Json)} (shaped : kind ∈ MessageKind.shaped)
    (reads : ∀ h, read kind h = form <$> reader h) (same : ∀ a, (form a).kind = kind)
    (text : ∀ a, (form a).toHeader = KeyMap.ofList (members a))
    (reread : ∀ a, reader (KeyMap.ofList (members a)) = .ok a)
    (plain : ∀ a, ∀ entry ∈ members a, entry.2.IsPlain) (narrowed : read kind h = .ok m) :
    Kept kind h m := by
  rw [reads] at narrowed
  obtain ⟨a, -, rfl⟩ := map_eq_ok narrowed
  refine .of_members shaped (same a) (text a) ?_ fun entry mem => (plain a entry mem).fitsIn h
  rw [reads, reread]
  rfl

theorem kept_of_shaped (shaped : kind ∈ MessageKind.shaped) (narrowed : read kind h = .ok m) :
    Kept kind h m := by
  cases kind with
  | ping =>
    exact .of_shape shaped (fun _ => rfl) (fun _ => rfl) (fun _ => rfl) PingHeader.read_members
      PingHeader.plain narrowed
  | pong =>
    exact .of_shape shaped (fun _ => rfl) (fun _ => rfl) (fun _ => rfl) PongHeader.read_members
      PongHeader.plain narrowed
  | authenticate =>
    obtain ⟨a, reads, rfl⟩ := map_eq_ok narrowed
    exact .of_members shaped rfl rfl (congrArg (authenticate <$> ·) a.read_members)
      (AuthHeader.fitsIn_of_read reads)
  | error =>
    exact .of_shape shaped (fun _ => rfl) (fun _ => rfl) (fun _ => rfl) ErrorHeader.read_members
      ErrorHeader.plain narrowed
  | status =>
    exact .of_shape shaped (fun _ => rfl) (fun _ => rfl) (fun _ => rfl) StatusHeader.read_members
      StatusHeader.plain narrowed
  | latency =>
    exact .of_shape shaped (fun _ => rfl) (fun _ => rfl) (fun _ => rfl) LatencyHeader.read_members
      LatencyHeader.plain narrowed
  | sshData =>
    exact .of_shape shaped (fun _ => rfl) (fun _ => rfl) (fun _ => rfl) DataHeader.read_members
      DataHeader.plain narrowed
  | sshResize =>
    exact .of_shape shaped (fun _ => rfl) (fun _ => rfl) (fun _ => rfl) ResizeHeader.read_members
      ResizeHeader.plain narrowed
  | sshCommand =>
    exact .of_shape shaped (fun _ => rfl) (fun _ => rfl) (fun _ => rfl) CommandHeader.read_members
      CommandHeader.plain narrowed
  | sshDataAck =>
    exact .of_shape shaped (fun _ => rfl) (fun _ => rfl) (fun _ => rfl) DataAckHeader.read_members
      DataAckHeader.plain narrowed
  | _ => simp [MessageKind.shaped] at shaped

theorem kept_of_not_shaped (plain : kind ∉ MessageKind.shaped) (sorted : KeyMap.Sorted h)
    (narrowed : read kind h = .ok m) : Kept kind h m := by
  rw [read_of_not_shaped plain] at narrowed
  by_cases files : kind.band = .subProtocol ∨ kind.band = .response
  · rw [if_pos files] at narrowed
    obtain ⟨s, reads, rfl⟩ := map_eq_ok narrowed
    have parts := SftpHeader.parts_of_read reads
    have text : toHeader (sftp kind s) = withoutNull "sessionId" h := parts.ofList_members sorted
    refine ⟨rfl, ?_, ?_, ?_, fun _ => by rw [if_pos files, text]⟩
    · rw [read_of_not_shaped plain, if_pos files, text, parts.read_withoutNull]
      rfl
    · rw [text]
      exact sorted_withoutNull _ sorted
    · rw [text]
      intro entry mem
      exact Json.fitsIn_of_mem (mem_of_mem_withoutNull mem)
  · rw [if_neg files] at narrowed
    cases narrowed
    refine ⟨rfl, ?_, sorted, fun entry mem => Json.fitsIn_of_mem mem, fun _ => by
      rw [if_neg files, toHeader]⟩
    rw [read_of_not_shaped plain, if_neg files, toHeader]

theorem kept (sorted : KeyMap.Sorted h) (narrowed : read kind h = .ok m) : Kept kind h m := by
  by_cases shaped : kind ∈ MessageKind.shaped
  · exact kept_of_shaped shaped narrowed
  · exact kept_of_not_shaped shaped sorted narrowed

theorem ofHeader_eq_ok_iff : ofHeader kind h = .ok m ↔ read kind h = .ok m := by
  unfold ofHeader
  cases read kind h <;> simp [Except.mapError]

/-- What becomes of a message that was narrowed from a header and is sent on. -/
structure Relayed (kind : MessageKind) (h : Header) (m : Message) : Prop where
  kind_eq : m.kind = kind
  /-- Widening and narrowing again loses nothing. -/
  narrowed : ofHeader kind m.toHeader = .ok m
  /-- A file operation and its response keep every field, and lose a session id that is null. -/
  files : kind.band = .subProtocol ∨ kind.band = .response →
    m.toHeader = withoutNull "sessionId" h
  /-- A control message without a shape keeps the object. -/
  control : kind.band = .control → kind ∉ MessageKind.shaped → m.toHeader = h
  depth_le : (Json.obj m.toHeader).depth ≤ (Json.obj h).depth
  integersOnly : (Json.obj h).IntegersOnly → (Json.obj m.toHeader).IntegersOnly
  /-- A message is encoded unless its header text is longer than a frame can tell. -/
  encodes : ∀ payload,
    (∃ bytes, m.encode payload = .ok bytes) ↔ (Frame.headerBytes m.toHeader).length < UInt32.size
  /-- Who decodes the frame has the message and the payload, if it has any bytes. -/
  arrives : ∀ payload bytes, (Json.obj m.toHeader).depth ≤ 127 →
    (Json.obj m.toHeader).IntegersOnly → m.encode payload = .ok bytes →
      ∃ frame, Frame.decode bytes = .ok frame ∧ ofFrame frame = .ok (some m) ∧
        frame.payload = payload.filter fun bytes => !bytes.isEmpty

theorem encode_eq_ok_iff {payload : Option Bytes} {bytes : Bytes} :
    m.encode payload = .ok bytes ↔
      (Frame.headerBytes m.toHeader).length < UInt32.size ∧
        Frame.assemble m.kind.code (Frame.headerBytes m.toHeader) (payload.getD []) = bytes := by
  unfold encode Frame.encodeHeader
  by_cases fits : (Frame.headerBytes m.toHeader).length < UInt32.size <;> simp [fits]

theorem ofFrame_of_code {frame : Frame} (code : frame.code = kind.code) :
    ofFrame frame = some <$> ofHeader kind frame.header := by
  rw [ofFrame, Frame.kind?, code, MessageKind.ofCode?_code]

/-- Narrowing, widening and narrowing again is lossless, and so is the way through a frame. -/
theorem relayed (sorted : KeyMap.Sorted h) (narrowed : ofHeader kind h = .ok m) :
    Relayed kind h m := by
  have keeps : Kept kind h m := kept sorted (ofHeader_eq_ok_iff.mp narrowed)
  have again : ofHeader kind m.toHeader = .ok m := ofHeader_eq_ok_iff.mpr keeps.reread
  refine ⟨keeps.kind_eq, again, fun files => ?_, fun band plain => ?_,
    Json.depth_le_of_fitsIn keeps.fit, Json.integersOnly_of_fitsIn keeps.sorted keeps.fit,
    fun payload => ?_, fun payload bytes shallow integers encoded => ?_⟩
  · have plain : kind ∉ MessageKind.shaped := fun shaped => band_of_shaped shaped files
    rw [keeps.whole plain, if_pos files]
  · rw [keeps.whole plain, if_neg (by rw [band]; decide)]
  · simp [encode_eq_ok_iff]
  · obtain ⟨fits, -⟩ := encode_eq_ok_iff.mp encoded
    obtain ⟨written, wrote, -, decoded⟩ :=
      Frame.decode_encodeValue m.kind.code payload integers fits
    have same : written = bytes := by
      have both : Except.ok written = m.encode payload := wrote.symm
      rw [encoded] at both
      exact Except.ok.inj both
    subst same
    rw [if_pos shallow] at decoded
    refine ⟨_, decoded, ?_, rfl⟩
    have code : m.kind.code = kind.code := by rw [keeps.kind_eq]
    rw [ofFrame_of_code code, again]
    rfl

/-- Credentials in a phase that is named by its position, beside a null session id and a member
that no shape knows. -/
def offeredHeader : Header :=
  [("credentials", .obj [("keys", .arr [.null, .obj []])]), ("phase", .int 1),
    ("sessionId", .null), ("z", .bool true)]

/-- The phase is sent on under its name, and what the shape does not know is not sent on. -/
theorem relayed_offeredHeader :
    ∃ m, ofHeader .authenticate offeredHeader = .ok m ∧ Relayed .authenticate offeredHeader m ∧
      m.toHeader =
        [("credentials", .obj [("keys", .arr [.null, .obj []])]), ("phase", .str "credentials")] := by
  have sorted : KeyMap.Sorted offeredHeader := by
    unfold KeyMap.Sorted offeredHeader
    decide
  refine ⟨authenticate ⟨none, .credentials (.obj [("keys", .arr [.null, .obj []])])⟩, rfl,
    relayed sorted rfl, ?_⟩
  rfl

end Message

end Switchboard
