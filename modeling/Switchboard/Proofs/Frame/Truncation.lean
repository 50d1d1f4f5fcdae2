import Switchboard.Proofs.Frame.RoundTrip
/-!
# Frames that are cut short

Bytes may be wrong in several ways at once, and a decoder reports one of them. `faults` lists all
that is wrong, each check made without regard to the others, in the order in which it counts: the
report is the first of them (`decode_eq_error_iff`).

A frame of which the end is missing is therefore never read as another one. Cut within the preamble
it is too short, cut within the header it has a header that reaches beyond the end, and cut within
the payload it is the frame with so much less of it (`decode_truncated`).
-/

namespace Switchboard

namespace Frame

/-! ## All that is wrong -/

/-- The byte at a position, zero beyond the end. -/
def byteAt (bytes : Bytes) (i : Nat) : UInt8 := bytes[i]?.getD 0

/-- The word that starts at a position. -/
def wordAt (bytes : Bytes) (i : Nat) : UInt32 :=
  wordOf (byteAt bytes i) (byteAt bytes (i + 1)) (byteAt bytes (i + 2)) (byteAt bytes (i + 3))

/-- The length that the preamble gives to the header. -/
def declared (bytes : Bytes) : Nat := (wordAt bytes 6).toNat

/-- What follows the preamble. -/
def body (bytes : Bytes) : Bytes := bytes.drop preambleLength

/-- All that is wrong with bytes as a frame, what counts first before the rest. -/
def faults (bytes : Bytes) : List Error :=
  [if bytes.length < preambleLength then some (.frameTooShort bytes.length preambleLength)
    else none,
   if wordAt bytes 0 ≠ magic then some (.invalidMagic (wordAt bytes 0)) else none,
   if byteAt bytes 4 ≠ currentVersion then some (.unsupportedVersion (byteAt bytes 4)) else none,
   if (body bytes).length < declared bytes then
      some (.headerLengthMismatch (declared bytes) (body bytes).length)
    else none,
   match parseHeader ((body bytes).take (declared bytes)) with
    | .error (.headerParse reason) => some (.headerParse reason)
    | _ => none].filterMap id

/-- A text is refused as a header for no other reason. -/
theorem headerParse_of_parseHeader {text : Bytes} {fault : Error}
    (garbled : parseHeader text = .error fault) : ∃ reason, fault = .headerParse reason := by
  unfold parseHeader at garbled
  split at garbled
  · exact ⟨_, (Except.error.inj garbled).symm⟩
  · split at garbled
    · cases garbled
    · exact ⟨_, (Except.error.inj garbled).symm⟩
    · exact ⟨_, (Except.error.inj garbled).symm⟩

/-- Whatever is wrong concerns the frame alone. -/
theorem isCodec_of_mem_faults {bytes : Bytes} {fault : Error} (mem : fault ∈ faults bytes) :
    fault.isCodec = true := by
  simp only [faults, List.mem_filterMap, List.mem_cons, List.not_mem_nil, or_false, id_eq,
    exists_eq_right, Option.ite_none_right_eq_some, Option.some.injEq, eq_comm (a := some fault)]
    at mem
  rcases mem with ⟨-, rfl⟩ | ⟨-, rfl⟩ | ⟨-, rfl⟩ | ⟨-, rfl⟩ | told
  · rfl
  · rfl
  · rfl
  · rfl
  · split at told
    · cases told
      rfl
    · cases told

theorem decode_of_short {bytes : Bytes} (short : bytes.length < preambleLength) :
    decode bytes = .error (.frameTooShort bytes.length preambleLength) := by
  unfold decode
  split
  · simp only [List.length_cons, preambleLength] at short
    omega
  · rfl

/-- Ten bytes or more begin with a preamble. -/
theorem exists_preamble {bytes : Bytes} (long : preambleLength ≤ bytes.length) :
    ∃ m₀ m₁ m₂ m₃ version code l₀ l₁ l₂ l₃ rest,
      bytes = m₀ :: m₁ :: m₂ :: m₃ :: version :: code :: l₀ :: l₁ :: l₂ :: l₃ :: rest := by
  rcases bytes with _ | ⟨m₀, _ | ⟨m₁, _ | ⟨m₂, _ | ⟨m₃, _ | ⟨version, _ | ⟨code, _ | ⟨l₀,
    _ | ⟨l₁, _ | ⟨l₂, _ | ⟨l₃, rest⟩⟩⟩⟩⟩⟩⟩⟩⟩⟩
  on_goal 11 => exact ⟨_, _, _, _, _, _, _, _, _, _, _, rfl⟩
  all_goals simp [preambleLength] at long

/-- Of all that is wrong with some bytes a decoder reports what counts first. -/
theorem decode_eq_error_iff {bytes : Bytes} {fault : Error} :
    decode bytes = .error fault ↔ (faults bytes).head? = some fault := by
  by_cases short : bytes.length < preambleLength
  · rw [decode_of_short short, faults, if_pos short]
    simp
  · rw [faults, if_neg short]
    obtain ⟨m₀, m₁, m₂, m₃, version, code, l₀, l₁, l₂, l₃, rest, rfl⟩ :=
      exists_preamble (Nat.le_of_not_lt short)
    -- Both words get names, so that the checks speak of them and not of their bytes.
    obtain ⟨found, found_eq⟩ : ∃ found, wordOf m₀ m₁ m₂ m₃ = found := ⟨_, rfl⟩
    obtain ⟨length, length_eq⟩ : ∃ length, (wordOf l₀ l₁ l₂ l₃).toNat = length := ⟨_, rfl⟩
    simp only [decode, wordAt, byteAt, declared, body, preambleLength, List.getElem?_cons_zero,
      List.getElem?_cons_succ, Option.getD_some, List.drop_succ_cons, List.drop_zero, found_eq,
      length_eq, Nat.reduceAdd]
    by_cases opens : found = magic
    · by_cases current : version = currentVersion
      · by_cases cut : rest.length < length
        · simp [opens, current, cut]
        · cases read : parseHeader (rest.take length) with
          | ok header => simp [opens, current, cut]
          | error fault =>
            obtain ⟨reason, rfl⟩ := headerParse_of_parseHeader read
            simp [opens, current, cut]
      · simp [opens, current]
    · simp [opens]

/-! ## Frames without their end -/

/-- A preamble that announces a longer header than there is left. -/
theorem decode_of_cut (code : UInt8) {length : UInt32} {rest : Bytes}
    (cut : rest.length < length.toNat) :
    decode (wordBytes magic ++ currentVersion :: code :: wordBytes length ++ rest) =
      .error (.headerLengthMismatch length.toNat rest.length) := by
  simp only [wordBytes, List.cons_append, List.nil_append, decode, wordOf_wordBytes, ne_eq,
    not_true_eq_false, ↓reduceIte, if_pos cut]

theorem take_assemble_header (code : UInt8) {text : Bytes} (payload : Bytes) {n : Nat}
    (within : n ≤ text.length) :
    (assemble code text payload).take (10 + n) =
      wordBytes magic ++ currentVersion :: code :: wordBytes text.length.toUInt32 ++
        text.take n := by
  have length : (wordBytes magic ++ currentVersion :: code ::
      wordBytes text.length.toUInt32).length = 10 := rfl
  rw [assemble, List.append_assoc, ← length, List.take_length_add_append,
    List.take_append_of_le_length within]

theorem take_assemble_payload (code : UInt8) (text payload : Bytes) (n : Nat) :
    (assemble code text payload).take (10 + text.length + n) =
      assemble code text (payload.take n) := by
  have length : (wordBytes magic ++ currentVersion :: code :: wordBytes text.length.toUInt32 ++
      text).length = 10 + text.length := by
    simp only [List.length_append, List.length_cons, length_wordBytes]
  rw [assemble, assemble, ← length, List.take_length_add_append]

/-- The first bytes of a frame, however many, are reported as cut short or are the frame with so
much less of its payload. -/
theorem decode_take_assemble (code : UInt8) {text : Bytes} (fits : text.length < UInt32.size)
    (payload : Bytes) (k : Nat) :
    decode ((assemble code text payload).take k) =
      if k < 10 then .error (.frameTooShort k 10)
      else if k < 10 + text.length then .error (.headerLengthMismatch text.length (k - 10))
      else (parseHeader text).map fun header => ⟨currentVersion, code, header,
        if (payload.take (k - 10 - text.length)).isEmpty then none
        else some (payload.take (k - 10 - text.length))⟩ := by
  by_cases preamble : k < 10
  · have length : ((assemble code text payload).take k).length = k := by
      rw [List.length_take, length_assemble]
      omega
    rw [if_pos preamble, decode_of_short (Nat.lt_of_le_of_lt (Nat.le_of_eq length) preamble),
      length]
    rfl
  · rw [if_neg preamble]
    obtain ⟨n, rfl⟩ := Nat.exists_eq_add_of_le (Nat.le_of_not_lt preamble)
    rw [Nat.add_sub_cancel_left]
    by_cases inside : n < text.length
    · have declared : text.length.toUInt32.toNat = text.length := UInt32.toNat_ofNat_of_lt' fits
      have length : (text.take n).length = n := List.length_take_of_le (Nat.le_of_lt inside)
      rw [if_pos (Nat.add_lt_add_left inside 10),
        take_assemble_header code payload (Nat.le_of_lt inside), decode_of_cut, declared, length]
      rw [declared, length]
      exact inside
    · obtain ⟨left, rfl⟩ := Nat.exists_eq_add_of_le (Nat.le_of_not_lt inside)
      rw [if_neg (by omega), ← Nat.add_assoc, take_assemble_payload, decode_assemble code fits,
        Nat.add_sub_cancel_left]

/-- Decoding the first bytes of a frame gives an error for every cut in front of its payload, and
otherwise the same code and header with that part of the payload that is left. In general, of all
that is wrong with some bytes what counts first is reported, and nothing of it concerns more than
the frame. -/
theorem decode_truncated :
    (∀ (code : UInt8) (header : Header) (payload : Option Bytes),
      (Json.obj header).IntegersOnly → (Json.obj header).depth ≤ 127 →
        (headerBytes header).length < UInt32.size →
          ∃ bytes, encodeValue code (.obj header) payload = .ok bytes ∧ ∀ k,
            decode (bytes.take k) =
              if k < 10 then .error (.frameTooShort k 10)
              else if k < 10 + (headerBytes header).length then
                .error (.headerLengthMismatch (headerBytes header).length (k - 10))
              else .ok ⟨1, code, header,
                (payload.map (List.take (k - 10 - (headerBytes header).length))).filter
                  fun left => !left.isEmpty⟩) ∧
    ∀ (bytes : Bytes) (fault : Error),
      (decode bytes = .error fault ↔ (faults bytes).head? = some fault) ∧
        (decode bytes = .error fault → fault.isCodec = true) := by
  constructor
  · intro code header payload integers shallow fits
    refine ⟨assemble code (headerBytes header) (payload.getD []), if_pos fits, fun k => ?_⟩
    rw [decode_take_assemble code fits, parseHeader_headerBytes integers, if_pos shallow]
    have kept (n : Nat) : (if ((payload.getD []).take n).isEmpty then none
        else some ((payload.getD []).take n)) =
        (payload.map (List.take n)).filter fun left => !left.isEmpty := by
      cases payload with
      | none => rw [Option.getD_none, List.take_nil]; rfl
      | some bytes =>
        rw [Option.getD_some, Option.map_some]
        cases bytes.take n <;> rfl
    rw [Except.map, kept]
    rfl
  · intro bytes fault
    refine ⟨decode_eq_error_iff, fun refused => ?_⟩
    exact isCodec_of_mem_faults (List.mem_of_head? (decode_eq_error_iff.mp refused))

/-- A frame with seven bytes of header and two of payload, cut around each boundary, and twelve
bytes that are wrong in three ways. -/
theorem decode_truncated_around :
    (∃ bytes, encodeValue 16 (.obj [("a", .int 1)]) (some [7, 8]) = .ok bytes ∧
      decode (bytes.take 9) = .error (.frameTooShort 9 10) ∧
      decode (bytes.take 10) = .error (.headerLengthMismatch 7 0) ∧
      decode (bytes.take 16) = .error (.headerLengthMismatch 7 6) ∧
      decode (bytes.take 17) = .ok ⟨1, 16, [("a", .int 1)], none⟩ ∧
      decode (bytes.take 18) = .ok ⟨1, 16, [("a", .int 1)], some [7]⟩) ∧
    decode [0x54, 0x57, 0x53, 0x46, 9, 1, 0, 0, 0, 9, 91, 93] = .error (.unsupportedVersion 9) ∧
      (Error.unsupportedVersion 9).isCodec = true := by
  obtain ⟨cut, wrong⟩ := decode_truncated
  have integers : (Json.obj [("a", .int 1)]).IntegersOnly := by
    simp only [Json.IntegersOnly, Json.integersOnlyMembers, KeyMap.Sorted, and_true]
    decide
  obtain ⟨bytes, written, read⟩ :=
    cut 16 [("a", .int 1)] (some [7, 8]) integers (by decide) (by decide +kernel)
  have length : (headerBytes [("a", .int 1)]).length = 7 := by decide +kernel
  refine ⟨⟨bytes, written, ?_, ?_, ?_, ?_, ?_⟩, ?_⟩
  · exact read 9
  · rw [read 10, length]; rfl
  · rw [read 16, length]; rfl
  · rw [read 17, length]; rfl
  · rw [read 18, length]; rfl
  · have told := (wrong [0x54, 0x57, 0x53, 0x46, 9, 1, 0, 0, 0, 9, 91, 93]
      (.unsupportedVersion 9)).1.mpr (by decide +kernel)
    exact ⟨told, (wrong _ _).2 told⟩

end Frame

end Switchboard
