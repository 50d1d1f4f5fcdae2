import Switchboard.Message.Header
import Switchboard.Proofs.Json.Weight
import Switchboard.Proofs.KeyMap
/-!
# Shapes survive being written

A header shape that is written as an object is read back from it: required fields are always
written, and an optional field that is not written reads back as absent (`read_members` of each
shape). The object may have come to be in any order, so all that a reader is told of it are its
lookups.

Where a shape was read from an object, that object bounds what is written for it: nothing is written
but scalars, the names of methods, and values that were members before.
-/

namespace Switchboard

open Json (Mismatch Decoder field? require)

/-! ## Readers of fields -/

theorem Json.bind_eq_ok {α β : Type} {x : Except Mismatch α} {f : α → Except Mismatch β} {b : β}
    (h : x >>= f = .ok b) : ∃ a, x = .ok a ∧ f a = .ok b := by
  cases x with
  | error e => cases h
  | ok a => exact ⟨a, rfl, h⟩

section Fields

variable {α : Type} {item : Decoder α} {write : α → Json} {name : String} {h : Header}

/-- A field that was written is read back by a reader of what was written. -/
theorem field?_of_written (reads : ∀ a, item (write a) = .ok a) {a : α}
    (found : KeyMap.find? name h = some (write a)) : field? h name item = .ok (some a) := by
  simp [field?, found, reads, Except.map]

/-- Only null stands for an absent value. -/
theorem optional_of_written (reads : ∀ a, item (write a) = .ok a) (present : ∀ a, write a ≠ .null)
    (a : α) : Decoder.optional item (write a) = .ok (some a) := by
  unfold Decoder.optional
  split
  · next null => exact absurd null (present a)
  · rw [reads]
    rfl

theorem field?_optional_of_written (reads : ∀ a, item (write a) = .ok a)
    (present : ∀ a, write a ≠ .null) {value : Option α}
    (found : KeyMap.find? name h = value.map write) :
    field? h name (Decoder.optional item) = .ok (value.map some) := by
  cases value with
  | none => simp [field?, found]
  | some a => simp [field?, found, optional_of_written reads present, Except.map]

theorem join_map_some (value : Option α) : (value.map some).join = value := by
  cases value <;> rfl

/-- What a field was read from is a member. -/
theorem mem_of_field? {a : α} (read : field? h name item = .ok (some a)) :
    ∃ v, (name, v) ∈ h ∧ item v = .ok a := by
  unfold field? at read
  split at read
  · cases read
  · next v found =>
    refine ⟨v, KeyMap.mem_of_find? found, ?_⟩
    cases taken : item v with
    | error e =>
      rw [taken] at read
      cases read
    | ok b =>
      rw [taken] at read
      cases read
      rfl

end Fields

theorem str_ne_null (s : String) : Json.str s ≠ .null := by
  intro same
  cases same

theorem int_ne_null (n : Int) : Json.int n ≠ .null := by
  intro same
  cases same

theorem string_str (s : String) : Decoder.string (.str s) = .ok s := rfl

theorem unsigned_int {bound n : Nat} (lt : n < bound) (name : String) :
    Decoder.unsigned bound name (.int n) = .ok n := by
  have range : (0 : Int) ≤ n ∧ (n : Int) < bound := by omega
  simp [Decoder.unsigned, range]

theorem word64_int (w : UInt64) : Decoder.word64 (.int w.toNat) = .ok w := by
  rw [Decoder.word64, unsigned_int w.toNat_lt_size]
  simp [Except.map]

theorem word16_int (w : UInt16) : Decoder.word16 (.int w.toNat) = .ok w := by
  rw [Decoder.word16, unsigned_int w.toNat_lt_size]
  simp [Except.map]

theorem mapM_string (texts : List String) :
    (texts.map Json.str).mapM Decoder.string = (.ok texts : Except Mismatch (List String)) := by
  induction texts with
  | nil => rfl
  | cons text texts ih =>
    rw [List.map_cons, List.mapM_cons, ih]
    rfl

theorem listOf_string (texts : List String) :
    Decoder.listOf Decoder.string (.arr (texts.map .str)) = .ok texts := mapM_string texts

/-! ## Members that are written only if they are there -/

@[simp] theorem reverse_optionalMember (name : String) (value : Option Json) :
    (optionalMember name value).reverse = optionalMember name value := by
  cases value <;> rfl

@[simp] theorem find?_optionalMember (key name : String) (value : Option Json) :
    KeyMap.find? key (optionalMember name value) = if name = key then value else none := by
  cases value <;> simp [optionalMember, KeyMap.find?]

theorem forall_mem_optionalMember {p : String × Json → Prop} {name : String} {value : Option Json} :
    (∀ entry ∈ optionalMember name value, p entry) ↔ ∀ v, value = some v → p (name, v) := by
  cases value <;> simp [optionalMember]

/-! ## Shapes -/

theorem PingHeader.read_members (p : PingHeader) : read (KeyMap.ofList p.members) = .ok p := by
  have requestId : KeyMap.find? "requestId" (KeyMap.ofList p.members) = some (.str p.requestId) := by
    simp [members, KeyMap.find?_ofList, KeyMap.find?_append, KeyMap.find?]
  have sessionId : KeyMap.find? "sessionId" (KeyMap.ofList p.members) = p.sessionId.map .str := by
    simp [members, KeyMap.find?_ofList, KeyMap.find?_append, KeyMap.find?]
  have timestamp : KeyMap.find? "timestamp" (KeyMap.ofList p.members) =
      p.timestamp.map fun t => .int t.toNat := by
    simp [members, KeyMap.find?_ofList, KeyMap.find?_append, KeyMap.find?]
  rw [read, field?_of_written string_str requestId,
    field?_optional_of_written string_str str_ne_null sessionId,
    field?_optional_of_written word64_int (fun _ => int_ne_null _) timestamp]
  simp [bind, Except.bind, pure, Except.pure, require, join_map_some]

theorem PongHeader.read_members (p : PongHeader) : read (KeyMap.ofList p.members) = .ok p := by
  have requestId : KeyMap.find? "requestId" (KeyMap.ofList p.members) = some (.str p.requestId) := by
    simp [members, KeyMap.find?_ofList, KeyMap.find?_append, KeyMap.find?]
  have serverTime : KeyMap.find? "serverTime" (KeyMap.ofList p.members) =
      p.serverTime.map fun t => .int t.toNat := by
    simp [members, KeyMap.find?_ofList, KeyMap.find?_append, KeyMap.find?]
  have sessionId : KeyMap.find? "sessionId" (KeyMap.ofList p.members) = p.sessionId.map .str := by
    simp [members, KeyMap.find?_ofList, KeyMap.find?_append, KeyMap.find?]
  have timestamp : KeyMap.find? "timestamp" (KeyMap.ofList p.members) =
      p.timestamp.map fun t => .int t.toNat := by
    simp [members, KeyMap.find?_ofList, KeyMap.find?_append, KeyMap.find?]
  rw [read, field?_of_written string_str requestId,
    field?_optional_of_written word64_int (fun _ => int_ne_null _) serverTime,
    field?_optional_of_written string_str str_ne_null sessionId,
    field?_optional_of_written word64_int (fun _ => int_ne_null _) timestamp]
  simp [bind, Except.bind, pure, Except.pure, require, join_map_some]

theorem ErrorHeader.read_members (e : ErrorHeader) : read (KeyMap.ofList e.members) = .ok e := by
  have code : KeyMap.find? "code" (KeyMap.ofList e.members) = e.code.map .str := by
    simp [members, KeyMap.find?_ofList, KeyMap.find?_append, KeyMap.find?]
  have message : KeyMap.find? "message" (KeyMap.ofList e.members) = some (.str e.message) := by
    simp [members, KeyMap.find?_ofList, KeyMap.find?_append, KeyMap.find?]
  have requestId : KeyMap.find? "requestId" (KeyMap.ofList e.members) = e.requestId.map .str := by
    simp [members, KeyMap.find?_ofList, KeyMap.find?_append, KeyMap.find?]
  rw [read, field?_optional_of_written string_str str_ne_null code,
    field?_of_written string_str message,
    field?_optional_of_written string_str str_ne_null requestId]
  simp [bind, Except.bind, pure, Except.pure, require, join_map_some]

theorem StatusHeader.read_members (s : StatusHeader) : read (KeyMap.ofList s.members) = .ok s := by
  have message : KeyMap.find? "message" (KeyMap.ofList s.members) = s.message.map .str := by
    simp [members, KeyMap.find?_ofList, KeyMap.find?_append, KeyMap.find?]
  have state : KeyMap.find? "state" (KeyMap.ofList s.members) = some (.str s.state) := by
    simp [members, KeyMap.find?_ofList, KeyMap.find?_append, KeyMap.find?]
  rw [read, field?_optional_of_written string_str str_ne_null message,
    field?_of_written string_str state]
  simp [bind, Except.bind, pure, Except.pure, require, join_map_some]

theorem LatencyHeader.read_members (l : LatencyHeader) :
    read (KeyMap.ofList l.members) = .ok l := by
  have latency : KeyMap.find? "latencyMs" (KeyMap.ofList l.members) =
      some (.int l.latencyMs.toNat) := by
    simp [members, KeyMap.find?_ofList, KeyMap.find?]
  rw [read, field?_of_written word64_int latency]
  rfl

theorem DataHeader.read_members (d : DataHeader) : read (KeyMap.ofList d.members) = .ok d := by
  have sessionId : KeyMap.find? "sessionId" (KeyMap.ofList d.members) = some (.str d.sessionId) := by
    simp [members, KeyMap.find?_ofList, KeyMap.find?]
  rw [read, field?_of_written string_str sessionId]
  rfl

theorem ResizeHeader.read_members (r : ResizeHeader) : read (KeyMap.ofList r.members) = .ok r := by
  have cols : KeyMap.find? "cols" (KeyMap.ofList r.members) = some (.int r.cols.toNat) := by
    simp [members, KeyMap.find?_ofList, KeyMap.find?]
  have rows : KeyMap.find? "rows" (KeyMap.ofList r.members) = some (.int r.rows.toNat) := by
    simp [members, KeyMap.find?_ofList, KeyMap.find?]
  have sessionId : KeyMap.find? "sessionId" (KeyMap.ofList r.members) = some (.str r.sessionId) := by
    simp [members, KeyMap.find?_ofList, KeyMap.find?]
  rw [read, field?_of_written word16_int cols, field?_of_written word16_int rows,
    field?_of_written string_str sessionId]
  rfl

theorem CommandHeader.read_members (c : CommandHeader) :
    read (KeyMap.ofList c.members) = .ok c := by
  have command : KeyMap.find? "command" (KeyMap.ofList c.members) = some (.str c.command) := by
    simp [members, KeyMap.find?_ofList, KeyMap.find?]
  have sessionId : KeyMap.find? "sessionId" (KeyMap.ofList c.members) = some (.str c.sessionId) := by
    simp [members, KeyMap.find?_ofList, KeyMap.find?]
  rw [read, field?_of_written string_str command, field?_of_written string_str sessionId]
  rfl

theorem DataAckHeader.read_members (d : DataAckHeader) :
    read (KeyMap.ofList d.members) = .ok d := by
  have bytes : KeyMap.find? "bytes" (KeyMap.ofList d.members) = some (.int d.bytes.toNat) := by
    simp [members, KeyMap.find?_ofList, KeyMap.find?]
  have sessionId : KeyMap.find? "sessionId" (KeyMap.ofList d.members) = some (.str d.sessionId) := by
    simp [members, KeyMap.find?_ofList, KeyMap.find?]
  rw [read, field?_of_written word64_int bytes, field?_of_written string_str sessionId]
  rfl

/-! ## The exchange of credentials -/

namespace AuthPhase

/-- The name that a phase is written under. -/
def name : AuthPhase → String
  | required _ => "required"
  | credentials _ => "credentials"
  | success => "success"
  | failure _ => "failure"

theorem field?_phase {h : Header} {name : String} {i : Nat}
    (found : KeyMap.find? "phase" h = some (.str name)) (named : index (.str name) = .ok i) :
    field? h "phase" index = .ok (some i) := by
  simp [field?, found, named, Except.map]

end AuthPhase

namespace AuthHeader

theorem find?_sessionId (a : AuthHeader) :
    KeyMap.find? "sessionId" (KeyMap.ofList a.members) = a.sessionId.map .str := by
  obtain ⟨sessionId, phase⟩ := a
  cases phase with
  | required methods =>
    cases methods <;> simp [members, AuthPhase.members, KeyMap.find?_ofList, KeyMap.find?]
  | failure reason =>
    simp [members, AuthPhase.members, KeyMap.find?_ofList, KeyMap.find?_append, KeyMap.find?]
  | _ => simp [members, AuthPhase.members, KeyMap.find?_ofList, KeyMap.find?]

/-- A phase is written under its name, whether it was read from a name or from a position. -/
theorem find?_phase (a : AuthHeader) :
    KeyMap.find? "phase" (KeyMap.ofList a.members) = some (.str a.phase.name) := by
  obtain ⟨sessionId, phase⟩ := a
  cases phase with
  | required methods =>
    cases methods <;>
      simp [members, AuthPhase.members, AuthPhase.name, KeyMap.find?_ofList, KeyMap.find?]
  | failure reason =>
    simp [members, AuthPhase.members, AuthPhase.name, KeyMap.find?_ofList, KeyMap.find?_append,
      KeyMap.find?]
  | _ => simp [members, AuthPhase.members, AuthPhase.name, KeyMap.find?_ofList, KeyMap.find?]

/-- No methods are not written, and what is not written reads as no methods. -/
theorem read_required (sessionId : Option String) (methods : List String) :
    AuthPhase.read (KeyMap.ofList (members ⟨sessionId, .required methods⟩)) =
      .ok (.required methods) := by
  have listed : field? (KeyMap.ofList (members ⟨sessionId, .required methods⟩)) "methods"
      (Decoder.listOf Decoder.string) = .ok (if methods.isEmpty then none else some methods) := by
    cases methods with
    | nil => simp [members, AuthPhase.members, field?, KeyMap.find?_ofList, KeyMap.find?]
    | cons method methods =>
      refine field?_of_written listOf_string ?_
      simp [members, AuthPhase.members, KeyMap.find?_ofList, KeyMap.find?]
  rw [AuthPhase.read, AuthPhase.field?_phase (find?_phase _) rfl]
  simp only [require, bind, Except.bind, listed]
  cases methods <;> rfl

theorem read_credentials (sessionId : Option String) (value : Json) :
    AuthPhase.read (KeyMap.ofList (members ⟨sessionId, .credentials value⟩)) =
      .ok (.credentials value) := by
  have given : field? (KeyMap.ofList (members ⟨sessionId, .credentials value⟩)) "credentials"
      Decoder.any = .ok (some value) := by
    simp [members, AuthPhase.members, field?, KeyMap.find?_ofList, KeyMap.find?, Decoder.any,
      Except.map]
  rw [AuthPhase.read, AuthPhase.field?_phase (find?_phase _) rfl]
  simp only [require, bind, Except.bind, given]
  rfl

theorem read_failure (sessionId reason : Option String) :
    AuthPhase.read (KeyMap.ofList (members ⟨sessionId, .failure reason⟩)) =
      .ok (.failure reason) := by
  have given : KeyMap.find? "reason" (KeyMap.ofList (members ⟨sessionId, .failure reason⟩)) =
      reason.map .str := by
    simp [members, AuthPhase.members, KeyMap.find?_ofList, KeyMap.find?_append, KeyMap.find?]
  rw [AuthPhase.read, AuthPhase.field?_phase (find?_phase _) rfl]
  simp only [require, bind, Except.bind, field?_optional_of_written string_str str_ne_null given,
    join_map_some]
  rfl

theorem read_phase (a : AuthHeader) : AuthPhase.read (KeyMap.ofList a.members) = .ok a.phase := by
  obtain ⟨sessionId, phase⟩ := a
  cases phase with
  | required methods => exact read_required sessionId methods
  | credentials value => exact read_credentials sessionId value
  | success =>
    rw [AuthPhase.read, AuthPhase.field?_phase (find?_phase _) rfl]
    rfl
  | failure reason => exact read_failure sessionId reason

theorem read_members (a : AuthHeader) : read (KeyMap.ofList a.members) = .ok a := by
  rw [read, field?_optional_of_written string_str str_ne_null a.find?_sessionId]
  simp [bind, Except.bind, pure, Except.pure, a.read_phase, join_map_some]

end AuthHeader

/-! ## File operations -/

/-- An object without a member that is null. -/
def withoutNull (name : String) (h : Header) : Header :=
  match KeyMap.find? name h with
  | some .null => KeyMap.erase name h
  | _ => h

section WithoutNull

variable {name key : String} {h : Header}

theorem sorted_withoutNull (name : String) (sorted : KeyMap.Sorted h) :
    KeyMap.Sorted (withoutNull name h) := by
  unfold withoutNull
  split
  · exact KeyMap.sorted_erase name sorted
  · exact sorted

theorem find?_withoutNull_of_ne (ne : key ≠ name) (h : Header) :
    KeyMap.find? key (withoutNull name h) = KeyMap.find? key h := by
  unfold withoutNull
  split
  · exact KeyMap.find?_erase_of_ne ne h
  · rfl

theorem erase_withoutNull (name : String) (h : Header) :
    KeyMap.erase name (withoutNull name h) = KeyMap.erase name h := by
  unfold withoutNull
  split
  · simp [KeyMap.erase]
  · rfl

theorem mem_of_mem_withoutNull {entry : String × Json} (mem : entry ∈ withoutNull name h) :
    entry ∈ h := by
  unfold withoutNull at mem
  split at mem
  · exact List.mem_of_mem_filter mem
  · exact mem

end WithoutNull

namespace SftpHeader

/-- What a file operation was read from: an id, a session id that may be absent or null, and the
rest as it is. -/
structure Parts (h : Header) (s : SftpHeader) : Prop where
  requestId : KeyMap.find? "requestId" h = some (.str s.requestId)
  sessionId : KeyMap.find? "sessionId" (withoutNull "sessionId" h) = s.sessionId.map .str
  fields : s.fields = KeyMap.erase "sessionId" (KeyMap.erase "requestId" h)

theorem find?_of_field?_string {h : Header} {name s : String}
    (read : field? h name Decoder.string = .ok (some s)) : KeyMap.find? name h = some (.str s) := by
  unfold field? at read
  split at read
  · cases read
  · next v found =>
    cases v <;> cases read
    exact found

theorem find?_of_field?_optional {h : Header} {name : String} {value : Option (Option String)}
    (read : field? h name (Decoder.optional Decoder.string) = .ok value) :
    KeyMap.find? name (withoutNull name h) = value.join.map .str := by
  unfold field? at read
  unfold withoutNull
  cases found : KeyMap.find? name h with
  | none =>
    rw [found] at read
    cases read
    exact found
  | some v =>
    rw [found] at read
    cases v <;> cases read
    · exact KeyMap.find?_erase_self name h
    · exact found

theorem parts_of_read {h : Header} {s : SftpHeader} (reads : read h = .ok s) : Parts h s := by
  obtain ⟨requestId, identified, reads⟩ := Json.bind_eq_ok reads
  obtain ⟨sessionId, named, reads⟩ := Json.bind_eq_ok reads
  cases requestId with
  | none => cases reads
  | some id =>
    cases reads
    exact ⟨find?_of_field?_string identified, find?_of_field?_optional named, rfl⟩

variable {h : Header} {s : SftpHeader}

/-- A file operation is written as the object that it was read from, less a session id that is
null. -/
theorem Parts.ofList_members (parts : Parts h s) (sorted : KeyMap.Sorted h) :
    KeyMap.ofList s.members = withoutNull "sessionId" h := by
  have rest : KeyMap.Sorted s.fields := by
    rw [parts.fields]
    exact KeyMap.sorted_erase _ (KeyMap.sorted_erase _ sorted)
  apply KeyMap.ext_find? (KeyMap.sorted_ofList _) (sorted_withoutNull _ sorted)
  intro key
  have fields : KeyMap.find? key s.fields.reverse = KeyMap.find? key s.fields := by
    rw [← KeyMap.find?_ofList, KeyMap.ofList_eq_self rest]
  simp only [members, KeyMap.find?_ofList, List.reverse_append, List.reverse_cons,
    reverse_optionalMember, KeyMap.find?_append, find?_optionalMember, KeyMap.find?, fields]
  by_cases own : key = "requestId"
  · subst own
    simp [parts.fields, find?_withoutNull_of_ne, KeyMap.find?_erase_of_ne, parts.requestId]
  · by_cases session : key = "sessionId"
    · subst session
      simp [parts.fields, parts.sessionId]
    · simp [parts.fields, own, session, Ne.symm own, Ne.symm session, find?_withoutNull_of_ne,
        KeyMap.find?_erase_of_ne]

theorem Parts.read_withoutNull (parts : Parts h s) :
    read (withoutNull "sessionId" h) = .ok s := by
  have requestId : KeyMap.find? "requestId" (withoutNull "sessionId" h) =
      some (.str s.requestId) := by
    rw [find?_withoutNull_of_ne (by decide), parts.requestId]
  have fields : KeyMap.erase "sessionId"
      (KeyMap.erase "requestId" (withoutNull "sessionId" h)) = s.fields := by
    have swap (h : Header) : KeyMap.erase "sessionId" (KeyMap.erase "requestId" h) =
        KeyMap.erase "requestId" (KeyMap.erase "sessionId" h) := by
      simp [KeyMap.erase, List.filter_filter, Bool.and_comm]
    rw [swap, erase_withoutNull, ← swap, parts.fields]
  rw [read, field?_of_written string_str requestId,
    field?_optional_of_written string_str str_ne_null parts.sessionId]
  simp [bind, Except.bind, pure, Except.pure, require, join_map_some, fields]

end SftpHeader

/-! ## What is written for a shape -/

namespace Json

/-- A string or an integer. -/
def IsPlain : Json → Prop
  | str _ => True
  | int n => InRange n
  | _ => False

theorem inRange_toNat {n : Nat} (h : n < UInt64.size) : InRange n := by
  unfold InRange minInteger maxInteger
  have : n < 18446744073709551616 := h
  omega

theorem isPlain_of_map_str {value : Option String} :
    ∀ v, value.map str = some v → v.IsPlain := by
  cases value <;> simp [IsPlain]

theorem isPlain_of_map_int {value : Option UInt64} :
    ∀ v, value.map (fun w => int w.toNat) = some v → v.IsPlain := by
  cases value with
  | none => simp
  | some w => simp [IsPlain, inRange_toNat w.toNat_lt_size]

/-- A value that an object may hold and nest no deeper for it, and that is of integers if the
object is. -/
structure FitsIn (h : Header) (v : Json) : Prop where
  depth : v.depth ≤ depthMembers h
  integers : integersOnlyMembers h → v.IntegersOnly

variable {h : Header}

theorem IsPlain.fitsIn {v : Json} (plain : v.IsPlain) (h : Header) : FitsIn h v := by
  cases v with
  | str s => exact ⟨Nat.zero_le _, fun _ => trivial⟩
  | int n => exact ⟨Nat.zero_le _, fun _ => plain⟩
  | _ => cases plain

theorem integersOnlyMembers_iff {members : List (String × Json)} :
    integersOnlyMembers members ↔ ∀ m ∈ members, m.2.IntegersOnly := by
  induction members with
  | nil => simp [integersOnlyMembers]
  | cons m members ih => rw [integersOnlyMembers, ih, List.forall_mem_cons]

theorem integersOnlyItems_map_str (texts : List String) :
    integersOnlyItems (texts.map str) := by
  induction texts with
  | nil => trivial
  | cons text texts ih => exact ⟨trivial, ih⟩

theorem depthItems_map_str (texts : List String) : depthItems (texts.map str) = 0 := by
  induction texts with
  | nil => rfl
  | cons text texts ih =>
    have flat : (str text).depth = 0 := rfl
    rw [List.map_cons, depthItems, ih, flat, Nat.max_self]

theorem fitsIn_of_mem {entry : String × Json} (mem : entry ∈ h) : FitsIn h entry.2 :=
  ⟨depthMembers_le_iff.mp (Nat.le_refl _) entry mem,
    fun integers => integersOnlyMembers_iff.mp integers entry mem⟩

/-- A list of texts nests no deeper than the list that it was read from. -/
theorem fitsIn_texts {name : String} {items : List Json} (mem : (name, .arr items) ∈ h)
    (texts : List String) : FitsIn h (.arr (texts.map .str)) := by
  refine ⟨?_, fun _ => integersOnlyItems_map_str texts⟩
  have deep : (arr items).depth ≤ depthMembers h := (fitsIn_of_mem mem).depth
  rw [depth] at deep
  rw [depth, depthItems_map_str]
  omega

/-- An object of values that fit in another nests no deeper than it. -/
theorem depth_le_of_fitsIn {written : Header} (fit : ∀ entry ∈ written, FitsIn h entry.2) :
    (obj written).depth ≤ (obj h).depth := by
  have members : depthMembers written ≤ depthMembers h :=
    depthMembers_le_iff.mpr fun entry mem => (fit entry mem).depth
  rw [depth, depth]
  omega

theorem integersOnly_of_fitsIn {written : Header} (sorted : KeyMap.Sorted written)
    (fit : ∀ entry ∈ written, FitsIn h entry.2) (integers : (obj h).IntegersOnly) :
    (obj written).IntegersOnly :=
  ⟨sorted, integersOnlyMembers_iff.mpr fun entry mem => (fit entry mem).integers integers.2⟩

end Json

open Json (IsPlain isPlain_of_map_str isPlain_of_map_int)

theorem isPlain_word64 (w : UInt64) : IsPlain (.int w.toNat) := Json.inRange_toNat w.toNat_lt_size

theorem isPlain_word16 (w : UInt16) : IsPlain (.int w.toNat) :=
  Json.inRange_toNat (Nat.lt_trans w.toNat_lt_size (by decide))

theorem PingHeader.plain (p : PingHeader) : ∀ entry ∈ p.members, entry.2.IsPlain := by
  simp only [members, List.forall_mem_append, List.forall_mem_cons, forall_mem_optionalMember]
  exact ⟨isPlain_of_map_str, trivial, isPlain_of_map_int⟩

theorem PongHeader.plain (p : PongHeader) : ∀ entry ∈ p.members, entry.2.IsPlain := by
  simp only [members, List.forall_mem_append, List.forall_mem_cons, forall_mem_optionalMember]
  exact ⟨⟨isPlain_of_map_str, trivial, isPlain_of_map_int⟩, isPlain_of_map_int⟩

theorem ErrorHeader.plain (e : ErrorHeader) : ∀ entry ∈ e.members, entry.2.IsPlain := by
  simp only [members, List.forall_mem_append, List.forall_mem_cons, forall_mem_optionalMember]
  exact ⟨isPlain_of_map_str, trivial, isPlain_of_map_str⟩

theorem StatusHeader.plain (s : StatusHeader) : ∀ entry ∈ s.members, entry.2.IsPlain := by
  simp only [members, List.forall_mem_cons, forall_mem_optionalMember]
  exact ⟨trivial, isPlain_of_map_str⟩

theorem LatencyHeader.plain (l : LatencyHeader) : ∀ entry ∈ l.members, entry.2.IsPlain := by
  simp only [members, List.forall_mem_singleton]
  exact isPlain_word64 l.latencyMs

theorem DataHeader.plain (d : DataHeader) : ∀ entry ∈ d.members, entry.2.IsPlain := by
  simp only [members, List.forall_mem_singleton]
  trivial

theorem ResizeHeader.plain (r : ResizeHeader) : ∀ entry ∈ r.members, entry.2.IsPlain := by
  simp only [members, List.forall_mem_cons]
  exact ⟨trivial, isPlain_word16 r.cols, isPlain_word16 r.rows, List.forall_mem_nil _⟩

theorem CommandHeader.plain (c : CommandHeader) : ∀ entry ∈ c.members, entry.2.IsPlain := by
  simp only [members, List.forall_mem_cons]
  exact ⟨trivial, trivial, List.forall_mem_nil _⟩

theorem DataAckHeader.plain (d : DataAckHeader) : ∀ entry ∈ d.members, entry.2.IsPlain := by
  simp only [members, List.forall_mem_cons]
  exact ⟨trivial, isPlain_word64 d.bytes, List.forall_mem_nil _⟩

/-- Credentials were a member of the object, and so was the list that methods were read from. -/
theorem AuthPhase.fitsIn_of_read {h : Header} {phase : AuthPhase} (reads : read h = .ok phase) :
    ∀ entry ∈ phase.members, Json.FitsIn h entry.2 := by
  have plain (s : String) : Json.FitsIn h (.str s) := IsPlain.fitsIn (v := .str s) trivial h
  obtain ⟨i, -, reads⟩ := Json.bind_eq_ok reads
  obtain ⟨i, -, reads⟩ := Json.bind_eq_ok reads
  match i with
  | 0 =>
    obtain ⟨methods, listed, reads⟩ := Json.bind_eq_ok reads
    cases reads
    simp only [members, List.forall_mem_cons]
    refine ⟨plain _, ?_⟩
    cases methods with
    | none => exact List.forall_mem_nil _
    | some methods =>
      obtain ⟨v, mem, listed⟩ := mem_of_field? listed
      cases v with
      | arr items =>
        by_cases none : methods.isEmpty
        · simp [none]
        · simpa [none] using Json.fitsIn_texts mem methods
      | _ => cases listed
  | 1 =>
    obtain ⟨value, given, reads⟩ := Json.bind_eq_ok reads
    cases value with
    | none => cases reads
    | some value =>
      cases reads
      obtain ⟨v, mem, taken⟩ := mem_of_field? given
      cases taken
      simp only [members, List.forall_mem_cons]
      exact ⟨plain _, Json.fitsIn_of_mem mem, List.forall_mem_nil _⟩
  | 2 =>
    cases reads
    simp only [members, List.forall_mem_singleton]
    exact plain _
  | i + 3 =>
    obtain ⟨reason, -, reads⟩ := Json.bind_eq_ok reads
    cases reads
    simp only [members, List.forall_mem_cons, forall_mem_optionalMember]
    exact ⟨plain _, fun v written => (isPlain_of_map_str v written).fitsIn h⟩

theorem AuthHeader.fitsIn_of_read {h : Header} {a : AuthHeader} (reads : read h = .ok a) :
    ∀ entry ∈ a.members, Json.FitsIn h entry.2 := by
  obtain ⟨sessionId, -, reads⟩ := Json.bind_eq_ok reads
  obtain ⟨phase, readPhase, reads⟩ := Json.bind_eq_ok reads
  cases reads
  simp only [members, List.forall_mem_append, forall_mem_optionalMember]
  exact ⟨fun v written => (isPlain_of_map_str v written).fitsIn h,
    AuthPhase.fitsIn_of_read readPhase⟩

end Switchboard
