import Switchboard.Proofs.Frame.RoundTrip
import Switchboard.Proofs.Json.Spending
import Mathlib
/-!
# Decoding normalises

A frame that was decoded may have been spelt in many ways: with blanks, escapes, any order of keys
and keys that are bound again. To encode it once more gives the one frame with compact text in key
order (`encode_of_decode`): it is no longer than any other spelling, it decodes to the same frame,
and the spelling at hand was this one exactly if its header text was canonical already.
-/

namespace Switchboard

namespace Frame

/-- The header text that the preamble of a frame announces. -/
def headerText : Bytes → Bytes
  | _ :: _ :: _ :: _ :: _ :: _ :: l₀ :: l₁ :: l₂ :: l₃ :: rest =>
    rest.take (wordOf l₀ l₁ l₂ l₃).toNat
  | _ => []

/-- The compact text of an object of integers in key order. -/
def IsCanonical (text : Bytes) : Prop :=
  ∃ header : Header, (Json.obj header).IntegersOnly ∧ text = headerBytes header

/-- Decode a frame and encode it again. -/
def normalise (bytes : Bytes) : Except Error Bytes := (decode bytes).bind encode

/-! ## How a frame was put together -/

theorem headerText_assemble (code : UInt8) {text : Bytes} (fits : text.length < UInt32.size)
    (payload : Bytes) : headerText (assemble code text payload) = text := by
  have declared : text.length.toUInt32.toNat = text.length := UInt32.toNat_ofNat_of_lt' fits
  simp only [assemble, wordBytes, List.cons_append, List.nil_append, headerText, wordOf_wordBytes,
    declared, List.take_left]

/-- The payload that a decoder makes of the bytes after the header. -/
def payloadOf (bytes : Bytes) : Option Bytes := if bytes.isEmpty then none else some bytes

theorem getD_payloadOf (bytes : Bytes) : (payloadOf bytes).getD [] = bytes := by
  cases bytes <;> rfl

/-- A header and a payload that were cut apart make up a frame with the preamble that announced
them. -/
theorem assemble_cut {m₀ m₁ m₂ m₃ l₀ l₁ l₂ l₃ : UInt8} {rest : Bytes} (code : UInt8)
    (opens : wordOf m₀ m₁ m₂ m₃ = magic) (enough : (wordOf l₀ l₁ l₂ l₃).toNat ≤ rest.length) :
    assemble code (rest.take (wordOf l₀ l₁ l₂ l₃).toNat) (rest.drop (wordOf l₀ l₁ l₂ l₃).toNat) =
      m₀ :: m₁ :: m₂ :: m₃ :: currentVersion :: code :: l₀ :: l₁ :: l₂ :: l₃ :: rest := by
  have declared : (wordOf l₀ l₁ l₂ l₃).toNat.toUInt32 = wordOf l₀ l₁ l₂ l₃ := UInt32.ofNat_toNat
  rw [assemble, List.length_take_of_le enough, declared, ← opens, wordBytes_wordOf,
    wordBytes_wordOf, List.append_assoc, List.take_append_drop]
  rfl

/-- The parts that a decoded frame was put together of. -/
structure Assembled (bytes : Bytes) (frame : Frame) (text payload : Bytes) : Prop where
  bytes_eq : bytes = assemble frame.code text payload
  fits : text.length < UInt32.size
  header : parseHeader text = .ok frame.header
  version : frame.version = currentVersion
  payload : frame.payload = payloadOf payload

theorem assembled_of_decode {bytes : Bytes} {frame : Frame} (decoded : decode bytes = .ok frame) :
    ∃ text payload, Assembled bytes frame text payload := by
  unfold decode at decoded
  split at decoded
  · next m₀ m₁ m₂ m₃ version code l₀ l₁ l₂ l₃ rest =>
    dsimp only at decoded
    split at decoded
    · cases decoded
    next opens =>
    split at decoded
    · cases decoded
    next current =>
    split at decoded
    · cases decoded
    next enough =>
    split at decoded
    · cases decoded
    next header read =>
    cases decoded
    have enough := Nat.le_of_not_lt enough
    obtain rfl := Decidable.not_not.mp current
    refine ⟨_, _, (assemble_cut code (Decidable.not_not.mp opens) enough).symm, ?_, read, rfl, rfl⟩
    rw [List.length_take_of_le enough]
    exact UInt32.toNat_lt_size _
  · cases decoded

/-! ## Reading and writing a header -/

/-- What a decoder reads as a header without doubles is written in integers and key order, nests no
deeper than a decoder goes, and takes no more bytes than it did. -/
theorem headerBytes_of_parseHeader {text : Bytes} {header : Header}
    (read : parseHeader text = .ok header) (free : (Json.obj header).FloatFree) :
    (Json.obj header).IntegersOnly ∧ (Json.obj header).depth ≤ 127 ∧
      (headerBytes header).length ≤ text.length := by
  unfold parseHeader at read
  split at read
  · cases read
  next chars decoded =>
  split at read
  next members parsed =>
    cases read
    obtain ⟨proper, lighter⟩ := Json.parse_spends parsed
    refine ⟨Json.integersOnly_of_every _ proper.ordered free, proper.depth, ?_⟩
    calc
      (headerBytes header).length = Utf8.size (Json.obj header).render := Utf8.length_encode _
      _ = (Json.obj header).weight := Json.size_render _ free
      _ ≤ Utf8.size chars := lighter
      _ ≤ text.length := Utf8.size_le_of_decode decoded
  · cases read
  · cases read

/-! ## The canonical frame -/

namespace Assembled

variable {bytes text payload : Bytes} {frame : Frame}

theorem encode_eq (parts : Assembled bytes frame text payload)
    (fits : (headerBytes frame.header).length < UInt32.size) :
    encode frame = .ok (assemble frame.code (headerBytes frame.header) payload) := by
  have kept : frame.payload.getD [] = payload := by
    rw [parts.payload, getD_payloadOf]
  rw [encode, encodeHeader, kept]
  exact if_pos fits

theorem decode_eq (parts : Assembled bytes frame text payload)
    (integers : (Json.obj frame.header).IntegersOnly)
    (shallow : (Json.obj frame.header).depth ≤ 127)
    (fits : (headerBytes frame.header).length < UInt32.size) :
    decode (assemble frame.code (headerBytes frame.header) payload) = .ok frame := by
  obtain ⟨version, code, header, payload'⟩ := frame
  obtain rfl := parts.version
  obtain rfl := parts.payload
  rw [decode_assemble _ fits, parseHeader_headerBytes integers, if_pos shallow]
  rfl

/-- The bytes are those of the compact text in key order exactly if they hold such a text. -/
theorem eq_iff (parts : Assembled bytes frame text payload)
    (integers : (Json.obj frame.header).IntegersOnly)
    (fits : (headerBytes frame.header).length < UInt32.size) :
    assemble frame.code (headerBytes frame.header) payload = bytes ↔
      IsCanonical (headerText bytes) := by
  have announced : headerText bytes = text := by
    rw [parts.bytes_eq, headerText_assemble _ parts.fits]
  rw [announced]
  constructor
  · intro same
    refine ⟨frame.header, integers, ?_⟩
    rw [← announced, ← same, headerText_assemble _ fits]
  · rintro ⟨header, integers', rfl⟩
    -- A canonical text is that of one header only, which the decoder has found.
    have read := parts.header
    rw [parseHeader_headerBytes integers'] at read
    split at read
    · cases read
      exact parts.bytes_eq.symm
    · cases read

end Assembled

/-- What becomes of some bytes that decode to a frame. -/
structure Normalised (bytes : Bytes) (frame : Frame) (canonical : Bytes) : Prop where
  encodes : encode frame = .ok canonical
  length_le : canonical.length ≤ bytes.length
  decodes : decode canonical = .ok frame
  once : normalise bytes = .ok canonical
  twice : normalise canonical = .ok canonical
  eq_iff : canonical = bytes ↔ IsCanonical (headerText bytes)

/-- Whatever bytes decode to a frame without doubles, the frame has one canonical encoding. -/
theorem encode_of_decode {bytes : Bytes} {frame : Frame} (decoded : decode bytes = .ok frame)
    (free : (Json.obj frame.header).FloatFree) :
    ∃ canonical, Normalised bytes frame canonical := by
  obtain ⟨text, payload, parts⟩ := assembled_of_decode decoded
  obtain ⟨integers, shallow, shorter⟩ := headerBytes_of_parseHeader parts.header free
  have fits := Nat.lt_of_le_of_lt shorter parts.fits
  have encodes := parts.encode_eq fits
  have decodes := parts.decode_eq integers shallow fits
  refine ⟨_, encodes, ?_, decodes, ?_, ?_, parts.eq_iff integers fits⟩
  · rw [parts.bytes_eq, length_assemble, length_assemble]
    omega
  · rw [normalise, decoded]
    exact encodes
  · rw [normalise, decodes]
    exact encodes

/-- A header text with blanks, escapes, keys out of order and a key bound twice. -/
def looseText : Bytes :=
  Utf8.encode ("\x7b \"b\":[ ], \"\\u0061\" : \"\\ud83d\\ude00é\",\n" ++
    "\"b\":\x7b\"k\": [1 , -20]\x7d\x7d").toList

/-- The header of the loose text. -/
def looseHeader : Header := [("a", .str "😀é"), ("b", .obj [("k", .arr [.int 1, .int (-20)])])]

/-- The compact text of that header in key order. -/
def tightText : Bytes := Utf8.encode "\x7b\"a\":\"😀é\",\"b\":\x7b\"k\":[1,-20]\x7d\x7d".toList

set_option maxRecDepth 1000 in
theorem parseHeader_looseText : parseHeader looseText = .ok looseHeader := by
  rw [parseHeader, looseText, Utf8.decode_encode]
  cbv

/-- The loose spelling, which is not canonical, comes back as the tight one. -/
theorem encode_of_decode_loose :
    (decode (assemble 0x30 looseText [7]) = .ok ⟨1, 0x30, looseHeader, some [7]⟩ ∧
      (Json.obj looseHeader).FloatFree) ∧
    Normalised (assemble 0x30 looseText [7]) ⟨1, 0x30, looseHeader, some [7]⟩
      (assemble 0x30 tightText [7]) ∧
    ¬ IsCanonical (headerText (assemble 0x30 looseText [7])) := by
  have decoded : decode (assemble 0x30 looseText [7]) = .ok ⟨1, 0x30, looseHeader, some [7]⟩ := by
    rw [decode_assemble _ (by decide +kernel), parseHeader_looseText]
    rfl
  have free : (Json.obj looseHeader).FloatFree := by
    simp [looseHeader, Json.FloatFree, Json.Every, Json.everyMember, Json.everyItem, Json.NotFloat]
  obtain ⟨canonical, normal⟩ := encode_of_decode decoded free
  have tight : headerBytes looseHeader = tightText := by decide +kernel
  have encodes : encode ⟨1, 0x30, looseHeader, some [7]⟩ = .ok (assemble 0x30 tightText [7]) := by
    rw [encode, encodeHeader, tight]
    exact if_pos (by decide +kernel)
  cases encodes.symm.trans normal.encodes
  exact ⟨⟨decoded, free⟩, normal, fun same => absurd (normal.eq_iff.mpr same) (by decide +kernel)⟩

end Frame

end Switchboard
