import Switchboard.Frame
import Switchboard.Proofs.Json.RoundTrip
import Switchboard.Proofs.Text.Utf8
/-!
# Frames survive their bytes

The preamble has a fixed length and announces that of the header, so a decoder cuts a frame where
the encoder put it together, whatever the header and the payload are. The one loss is a payload
without bytes, which reads back as no payload. The header then stands or falls with its JSON text:
an encoder writes any nesting, and a decoder enters no more than 127 containers.
-/

namespace Switchboard

namespace Frame

theorem wordOf_wordBytes (word : UInt32) :
    wordOf (word >>> 24).toUInt8 (word >>> 16).toUInt8 (word >>> 8).toUInt8 word.toUInt8 =
      word := by
  rw [← UInt32.toBitVec_inj]
  apply BitVec.eq_of_getLsbD_eq
  intro i inside
  simp only [wordOf, UInt32.toBitVec_or, UInt32.toBitVec_shiftLeft, UInt8.toBitVec_toUInt32,
    UInt32.toBitVec_toUInt8, UInt32.toBitVec_shiftRight, UInt32.toBitVec_ofNat,
    BitVec.ofNat_eq_ofNat, BitVec.reduceMod, BitVec.ushiftRight_eq', BitVec.shiftLeft_eq',
    BitVec.toNat_ofNat, Nat.reducePow, Nat.reduceMod, BitVec.getLsbD_or, BitVec.getLsbD_shiftLeft,
    BitVec.getLsbD_setWidth, BitVec.getLsbD_ushiftRight]
  -- Bit `i` lies in one of the four bytes, and the other three have no bit there.
  obtain low | ⟨low, high⟩ | ⟨low, high⟩ | high :
    i < 8 ∨ 8 ≤ i ∧ i < 16 ∨ 16 ≤ i ∧ i < 24 ∨ 24 ≤ i := by omega
  all_goals grind

theorem wordBytes_wordOf (a b c d : UInt8) : wordBytes (wordOf a b c d) = [a, b, c, d] := by
  simp only [wordBytes, List.cons.injEq, and_true]
  refine ⟨?_, ?_, ?_, ?_⟩
  all_goals
    rw [← UInt8.toBitVec_inj]
    apply BitVec.eq_of_getLsbD_eq
    intro i inside
    simp only [wordOf, UInt32.toBitVec_or, UInt32.toBitVec_shiftLeft, UInt8.toBitVec_toUInt32,
      UInt32.toBitVec_toUInt8, UInt32.toBitVec_shiftRight, UInt32.toBitVec_ofNat,
      BitVec.ofNat_eq_ofNat, BitVec.reduceMod, BitVec.ushiftRight_eq', BitVec.shiftLeft_eq',
      BitVec.toNat_ofNat, Nat.reducePow, Nat.reduceMod, BitVec.getLsbD_or,
      BitVec.getLsbD_shiftLeft, BitVec.getLsbD_setWidth, BitVec.getLsbD_ushiftRight]
    -- A bit of one byte is out of the range of the other three.
    grind

@[simp] theorem length_wordBytes (word : UInt32) : (wordBytes word).length = 4 := rfl

theorem length_assemble (code : UInt8) (header payload : Bytes) :
    (assemble code header payload).length = 10 + header.length + payload.length := by
  simp only [assemble, List.length_append, List.length_cons, length_wordBytes]

/-- A decoder finds in an assembled frame the header text and the payload that it was assembled of. -/
theorem decode_assemble (code : UInt8) {text : Bytes} (fits : text.length < UInt32.size)
    (payload : Bytes) :
    decode (assemble code text payload) =
      (parseHeader text).map fun header =>
        ⟨currentVersion, code, header, if payload.isEmpty then none else some payload⟩ := by
  have declared : text.length.toUInt32.toNat = text.length := UInt32.toNat_ofNat_of_lt' fits
  have enough : ¬ (text ++ payload).length < text.length := by simp
  simp only [assemble, wordBytes, List.cons_append, List.nil_append, decode, wordOf_wordBytes,
     declared, ne_eq, not_true_eq_false, ↓reduceIte, if_neg enough,
    List.take_left, List.drop_left]
  cases parseHeader text with
  | error e => rfl
  | ok header => rfl

theorem parseHeader_headerBytes {header : Header} (integers : (Json.obj header).IntegersOnly) :
    parseHeader (headerBytes header) =
      if (Json.obj header).depth ≤ 127 then .ok header
      else .error (.headerParse Json.Fault.tooDeep.message) := by
  rw [parseHeader, headerBytes, Utf8.decode_encode]
  simp only [Json.parse_render integers]
  by_cases shallow : (Json.obj header).depth ≤ 127
  · rw [if_pos shallow, if_pos shallow]
  · rw [if_neg shallow, if_neg shallow]

/-- Encoding an object of integers succeeds whatever it nests, with the preamble, the header text
and the payload as its length; decoding gives all parts back if the object nests at most 127
containers, and reports the header otherwise. -/
theorem decode_encodeValue (code : UInt8) {header : Header} (payload : Option Bytes)
    (integers : (Json.obj header).IntegersOnly)
    (fits : (headerBytes header).length < UInt32.size) :
    ∃ bytes, encodeValue code (.obj header) payload = .ok bytes ∧
      bytes.length = 10 + (headerBytes header).length + (payload.getD []).length ∧
      decode bytes =
        if (Json.obj header).depth ≤ 127 then
          .ok ⟨1, code, header, payload.filter fun bytes => !bytes.isEmpty⟩
        else .error (.headerParse Json.Fault.tooDeep.message) := by
  refine ⟨assemble code (headerBytes header) (payload.getD []), ?_, length_assemble .., ?_⟩
  · rw [encodeValue, encodeHeader]
    exact if_pos fits
  have kept : (if (payload.getD []).isEmpty then none else some (payload.getD [])) =
      payload.filter fun bytes => !bytes.isEmpty := by
    rcases payload with _ | _ | ⟨b, bytes⟩ <;> rfl
  rw [decode_assemble code fits, parseHeader_headerBytes integers]
  by_cases shallow : (Json.obj header).depth ≤ 127
  · rw [if_pos shallow, if_pos shallow, Except.map, kept]
    rfl
  · rw [if_neg shallow, if_neg shallow]
    rfl

/-- A header of controls, quotes, the ends of both integer ranges and nested containers. -/
def spreadHeader : Header :=
  [("a\"\n", .arr [.obj [("", .null), ("é\x01", .int (-9223372036854775808))], .arr []]),
   ("b", .int 18446744073709551615)]

/-- Arrays around an empty array, `count` of them in all. -/
def nestedArrays : (count : Nat) → Json
  | 0 => .arr []
  | count + 1 => .arr [nestedArrays count]

theorem depth_nestedArrays (count : Nat) : (nestedArrays count).depth = count + 1 := by
  induction count with
  | zero => rfl
  | succ count ih => simp [nestedArrays, Json.depth, Json.depthItems, ih]

/-- With the object 127 containers in a row come back, and 128 do not. -/
theorem decode_encodeValue_spread :
    (∃ bytes, encodeValue 99 (.obj spreadHeader) (some []) = .ok bytes ∧
      decode bytes = .ok ⟨1, 99, spreadHeader, none⟩) ∧
    (∃ bytes, encodeValue 1 (.obj [("k", nestedArrays 125)]) (some [7]) = .ok bytes ∧
      decode bytes = .ok ⟨1, 1, [("k", nestedArrays 125)], some [7]⟩) ∧
    ∃ bytes, encodeValue 1 (.obj [("k", nestedArrays 126)]) none = .ok bytes ∧
      decode bytes = .error (.headerParse "recursion limit exceeded") := by
  have nested (n : Nat) : (nestedArrays n).IntegersOnly := by
    induction n with
    | zero => trivial
    | succ n ih => exact ⟨ih, trivial⟩
  have member (n : Nat) : (Json.obj [("k", nestedArrays n)]).IntegersOnly :=
    ⟨List.pairwise_singleton _ _, nested n, trivial⟩
  have spread : (Json.obj spreadHeader).IntegersOnly := by
    simp only [spreadHeader, Json.IntegersOnly, Json.integersOnlyItems, Json.integersOnlyMembers,
      KeyMap.Sorted, and_true, true_and]
    decide
  have depth (n : Nat) : (Json.obj [("k", nestedArrays n)]).depth = n + 2 := by
    simp [Json.depth, Json.depthMembers, depth_nestedArrays]
  obtain ⟨b₁, e₁, -, d₁⟩ := decode_encodeValue 99 (some []) spread (by decide +kernel)
  obtain ⟨b₂, e₂, -, d₂⟩ := decode_encodeValue 1 (some [7]) (member 125) (by decide +kernel)
  obtain ⟨b₃, e₃, -, d₃⟩ := decode_encodeValue 1 none (member 126) (by decide +kernel)
  refine ⟨⟨b₁, e₁, ?_⟩, ⟨b₂, e₂, ?_⟩, ⟨b₃, e₃, ?_⟩⟩
  · rw [d₁]
    rfl
  · rw [d₂, depth]
    rfl
  · rw [d₃, depth]
    rfl

end Frame

end Switchboard
