import Switchboard.Proofs.Message.Shapes
import Switchboard.Session.Config
/-!
# Configurations are read back

A configuration whose durations are whole milliseconds is read back from what it is written as, and
from any object with some of the members it is written with come the settings of these and the
defaults of the others (`ofJson_of_sample`). The same holds of the reconnection settings inside, so
both records are read by one argument: a field that is there is read as what was written, and a
field that is not there is left to its default (`field?_of_sample`).

Null credentials are the one value that does not come back (`withoutNull_eq_self_iff`). They are
written as null, and null reads as no credentials.
-/

namespace Switchboard

open Json (Mismatch Decoder field?)

/-! ## Values of settings -/

/-- A whole number of milliseconds that fits a word. -/
def Duration.IsMillis (d : Duration) : Prop := 1000000 ∣ d.nanos ∧ d.millis < UInt64.size

instance (d : Duration) : Decidable d.IsMillis := by unfold Duration.IsMillis; infer_instance

theorem Duration.ofMillis_millisWord {d : Duration} (whole : d.IsMillis) :
    ofMillis d.millisWord = d := by
  obtain ⟨divides, fits⟩ := whole
  have word : d.millisWord.toNat = d.millis := by
    rw [millisWord, Nat.toUInt64_eq]
    exact UInt64.toNat_ofNat_of_lt' fits
  have same : d.millis * 1000000 = d.nanos := Nat.div_mul_cancel divides
  ext
  rw [ofMillis, nanos_clamp, word, same]
  exact Nat.min_eq_left d.nanos_le_maxNanos

theorem Duration.ofJson_toJson {d : Duration} (whole : d.IsMillis) :
    Duration.ofJson d.toJson = .ok d := by
  rw [Duration.ofJson, Duration.toJson, word64_int]
  exact congrArg Except.ok (ofMillis_millisWord whole)

theorem Backoff.ofJson_name (strategy : Backoff) :
    Backoff.ofJson (.str strategy.name) = .ok strategy := by
  cases strategy <;> rfl

theorem word32_int (w : UInt32) : Decoder.word32 (.int w.toNat) = .ok w := by
  rw [Decoder.word32, unsigned_int w.toNat_lt_size]
  simp [Except.map]

theorem size_int (w : UInt64) : Decoder.size (.int w.toNat) = .ok w := by
  rw [Decoder.size, unsigned_int w.toNat_lt_size]
  simp [Except.map]

/-! ## Objects with some of the members -/

/-- What the object has under these names are members of the list. It may lack some, and it may have
others under other names. -/
def Json.Samples (names : List String) (h : Header) (members : List (String × Json)) : Prop :=
  ∀ entry ∈ h, entry.1 ∈ names → entry ∈ members

/-- The value of a setting if an object has its member, and else the default. -/
def Json.given {α : Type} (h : Header) (name : String) (value standard : α) : α :=
  if KeyMap.contains name h then value else standard

section Samples

variable {α : Type} {names : List String} {name : String} {h : Header}
  {members : List (String × Json)} {item : Decoder α} {v : Json} {a : α}

/-- A member that was written is read, and one that was left out is not missed. -/
theorem field?_of_sample (name : String) (sample : Json.Samples names h members)
    (known : name ∈ names) (only : ∀ w, (name, w) ∈ members → w = v) (reads : item v = .ok a) :
    field? h name item = .ok (if KeyMap.contains name h then some a else none) := by
  unfold field? KeyMap.contains
  cases found : KeyMap.find? name h with
  | none => rfl
  | some w =>
    have written : w = v := only w (sample _ (KeyMap.mem_of_find? found) known)
    simp [written, reads, Except.map]

theorem getD_given (value standard : α) :
    (if KeyMap.contains name h then some value else none).getD standard =
      Json.given h name value standard := by
  unfold Json.given
  split <;> rfl

theorem given_of_contains {h : Header} (has : KeyMap.contains name h = true) (value standard : α) :
    Json.given h name value standard = value := if_pos has

theorem contains_ofList {pairs : List (String × Json)} (mem : name ∈ pairs.map Prod.fst) :
    KeyMap.contains name (KeyMap.ofList pairs) = true := by
  have bound : KeyMap.contains name pairs.reverse = true := by
    rw [KeyMap.contains_iff, KeyMap.keys, List.map_reverse]
    exact List.mem_reverse.mpr mem
  rwa [KeyMap.contains, KeyMap.find?_ofList]

theorem samples_self (names : List String) (members : List (String × Json)) :
    Json.Samples names members members := fun _ mem _ => mem

/-- An object in key order has nothing else than the members that it was made of. -/
theorem samples_ofList (names : List String) (members : List (String × Json)) :
    Json.Samples names (KeyMap.ofList members) members :=
  fun _ mem _ => KeyMap.mem_of_mem_ofList mem

end Samples

/-! ## Reconnection settings -/

namespace ReconnectConfig

/-- The members that the settings are written with. -/
def members (c : ReconnectConfig) : List (String × Json) :=
  [("baseDelay", c.baseDelay.toJson), ("maxDelay", c.maxDelay.toJson),
    ("maxAttempts", .int c.maxAttempts.toNat), ("strategy", .str c.strategy.name)]

theorem toJson_eq (c : ReconnectConfig) : c.toJson = .obj c.members := rfl

def names : List String := ["baseDelay", "maxDelay", "maxAttempts", "strategy"]

/-- The settings as a value, which keeps its members in key order. -/
def toValue (c : ReconnectConfig) : Json := .object c.members

/-- The settings whose members an object has, and defaults for the rest. -/
def sampled (c : ReconnectConfig) (h : Header) : ReconnectConfig where
  baseDelay := Json.given h "baseDelay" c.baseDelay standard.baseDelay
  maxDelay := Json.given h "maxDelay" c.maxDelay standard.maxDelay
  maxAttempts := Json.given h "maxAttempts" c.maxAttempts standard.maxAttempts
  strategy := Json.given h "strategy" c.strategy standard.strategy

/-- Both delays can be written without loss. -/
structure InMillis (c : ReconnectConfig) : Prop where
  baseDelay : c.baseDelay.IsMillis
  maxDelay : c.maxDelay.IsMillis

theorem ofJson_of_sample {c : ReconnectConfig} (whole : c.InMillis) {h : Header}
    (sample : Json.Samples names h c.members) :
    ReconnectConfig.ofJson (.obj h) = .ok (c.sampled h) := by
  have baseDelay := field?_of_sample "baseDelay" sample (by decide)
    (by simp [members]) (Duration.ofJson_toJson whole.baseDelay)
  have maxDelay := field?_of_sample "maxDelay" sample (by decide)
    (by simp [members]) (Duration.ofJson_toJson whole.maxDelay)
  have maxAttempts := field?_of_sample "maxAttempts" sample (by decide)
    (by simp [members]) (word32_int c.maxAttempts)
  have strategy := field?_of_sample "strategy" sample (by decide)
    (by simp [members]) c.strategy.ofJson_name
  unfold ReconnectConfig.ofJson
  dsimp only
  rw [baseDelay, maxAttempts, maxDelay, strategy]
  simp [bind, Except.bind, pure, Except.pure, ofFields, getD_given, sampled]

/-- With all its members there, nothing is left to a default. -/
theorem sampled_of_all (c : ReconnectConfig) {h : Header}
    (all : ∀ name ∈ names, KeyMap.contains name h = true) : c.sampled h = c := by
  have each (name : String) (known : name ∈ names) := all name known
  unfold sampled
  rw [given_of_contains (each _ (by decide)), given_of_contains (each _ (by decide)),
    given_of_contains (each _ (by decide)), given_of_contains (each _ (by decide))]

end ReconnectConfig

/-! ## Session settings -/

/-- A value that is there and not null. -/
def Json.unlessNull : Option Json → Option Json
  | some .null => none
  | value => value

/-- Absent and null values are read alike. -/
theorem optional_any (value : Option Json) :
    Decoder.optional Decoder.any (value.getD .null) = .ok (Json.unlessNull value) := by
  cases value with
  | none => rfl
  | some v => cases v <;> rfl

namespace SessionConfig

/-- The members that the settings are written with, given the one for the reconnection settings.
Credentials are written if there are any. -/
def membersWith (c : SessionConfig) (reconnect : Json) : List (String × Json) :=
  [("heartbeatInterval", c.heartbeatInterval.toJson), ("connectTimeout", c.connectTimeout.toJson),
    ("requestTimeout", c.requestTimeout.toJson), ("reconnect", reconnect),
    ("maxQueuedFrames", .int c.maxQueuedFrames.toNat)] ++
      (c.credentials.map ("credentials", ·)).toList

theorem toJson_eq (c : SessionConfig) : c.toJson = .obj (c.membersWith c.reconnect.toJson) := rfl

def names : List String :=
  ["heartbeatInterval", "connectTimeout", "requestTimeout", "reconnect", "maxQueuedFrames",
    "credentials"]

/-- The settings as a value, which keeps the members of its objects in key order. -/
def toValue (c : SessionConfig) : Json := .object (c.membersWith c.reconnect.toValue)

/-- The settings whose members an object and the object of reconnection settings inside it have, and
defaults for the rest. -/
def sampled (c : SessionConfig) (h inner : Header) : SessionConfig where
  heartbeatInterval :=
    Json.given h "heartbeatInterval" c.heartbeatInterval standard.heartbeatInterval
  connectTimeout := Json.given h "connectTimeout" c.connectTimeout standard.connectTimeout
  requestTimeout := Json.given h "requestTimeout" c.requestTimeout standard.requestTimeout
  reconnect := Json.given h "reconnect" (c.reconnect.sampled inner) standard.reconnect
  maxQueuedFrames := Json.given h "maxQueuedFrames" c.maxQueuedFrames standard.maxQueuedFrames
  credentials := Json.given h "credentials" (Json.unlessNull c.credentials) standard.credentials

/-- All durations can be written without loss. -/
structure InMillis (c : SessionConfig) : Prop where
  heartbeatInterval : c.heartbeatInterval.IsMillis
  connectTimeout : c.connectTimeout.IsMillis
  requestTimeout : c.requestTimeout.IsMillis
  reconnect : c.reconnect.InMillis

variable {c : SessionConfig}

theorem credentials_only {reconnect w : Json}
    (mem : ("credentials", w) ∈ c.membersWith reconnect) : w = c.credentials.getD .null := by
  have present : c.credentials = some w := by simpa [membersWith] using mem
  rw [present]
  rfl

/-- Absent credentials are none, and so are null ones. -/
theorem join_given (h : Header) (value : Option Json) :
    (if KeyMap.contains "credentials" h then some value else none).join =
      Json.given h "credentials" value standard.credentials := by
  unfold Json.given
  split <;> rfl

theorem ofJson_of_sample (whole : c.InMillis) {h inner : Header}
    (inside : Json.Samples ReconnectConfig.names inner c.reconnect.members)
    (sample : Json.Samples names h (c.membersWith (.obj inner))) :
    SessionConfig.ofJson (.obj h) = .ok (c.sampled h inner) := by
  have connectTimeout := field?_of_sample "connectTimeout" sample (by decide)
    (by simp [membersWith]) (Duration.ofJson_toJson whole.connectTimeout)
  have credentials := field?_of_sample "credentials" sample (by decide)
    (fun _ => credentials_only) (optional_any c.credentials)
  have heartbeatInterval := field?_of_sample "heartbeatInterval" sample (by decide)
    (by simp [membersWith]) (Duration.ofJson_toJson whole.heartbeatInterval)
  have maxQueuedFrames := field?_of_sample "maxQueuedFrames" sample (by decide)
    (by simp [membersWith]) (size_int c.maxQueuedFrames)
  have reconnect := field?_of_sample "reconnect" sample (by decide)
    (by simp [membersWith]) (ReconnectConfig.ofJson_of_sample whole.reconnect inside)
  have requestTimeout := field?_of_sample "requestTimeout" sample (by decide)
    (by simp [membersWith]) (Duration.ofJson_toJson whole.requestTimeout)
  unfold SessionConfig.ofJson
  dsimp only
  rw [connectTimeout, credentials, heartbeatInterval, maxQueuedFrames, reconnect, requestTimeout]
  simp [bind, Except.bind, pure, Except.pure, ofFields, getD_given, join_given, sampled]

/-- What comes back of the settings: all but credentials that are null. -/
def withoutNull (c : SessionConfig) : SessionConfig :=
  { c with credentials := Json.unlessNull c.credentials }

theorem withoutNull_eq_self_iff (c : SessionConfig) :
    c.withoutNull = c ↔ c.credentials ≠ some .null := by
  obtain ⟨_, _, _, _, _, credentials⟩ := c
  simp only [withoutNull, mk.injEq, true_and]
  cases credentials with
  | none => simp [Json.unlessNull]
  | some v => cases v <;> simp [Json.unlessNull]

/-- The members that are written whether or not there are credentials. -/
def alwaysWritten : List String :=
  ["heartbeatInterval", "connectTimeout", "requestTimeout", "reconnect", "maxQueuedFrames"]

theorem alwaysWritten_subset {name : String} (known : name ∈ alwaysWritten) (reconnect : Json) :
    name ∈ (c.membersWith reconnect).map Prod.fst := by
  unfold membersWith
  rw [List.map_append]
  exact List.mem_append_left _ known

/-- With all its members there, nothing is left to a default. -/
theorem sampled_of_all (c : SessionConfig) {h inner : Header}
    (all : ∀ name ∈ alwaysWritten, KeyMap.contains name h = true)
    (credentials : c.credentials.isSome = true → KeyMap.contains "credentials" h = true)
    (inside : ∀ name ∈ ReconnectConfig.names, KeyMap.contains name inner = true) :
    c.sampled h inner = c.withoutNull := by
  have each (name : String) (known : name ∈ alwaysWritten) := all name known
  have kept : Json.given h "credentials" (Json.unlessNull c.credentials) standard.credentials =
      Json.unlessNull c.credentials := by
    cases present : c.credentials with
    | none => exact ite_self _
    | some v =>
      rw [present] at credentials
      exact given_of_contains (credentials rfl) _ _
  unfold sampled withoutNull
  rw [given_of_contains (each _ (by decide)), given_of_contains (each _ (by decide)),
    given_of_contains (each _ (by decide)), given_of_contains (each _ (by decide)),
    given_of_contains (each _ (by decide)), c.reconnect.sampled_of_all inside, kept]

theorem credentials_written (present : c.credentials.isSome = true) (reconnect : Json) :
    "credentials" ∈ (c.membersWith reconnect).map Prod.fst := by
  obtain ⟨v, present⟩ := Option.isSome_iff_exists.mp present
  simp [membersWith, present]

theorem ofJson_toValue (whole : c.InMillis) :
    SessionConfig.ofJson c.toValue = .ok c.withoutNull := by
  have read := ofJson_of_sample whole (samples_ofList _ _) (samples_ofList _ _)
  rw [sampled_of_all c] at read
  · exact read
  · exact fun name known => contains_ofList (alwaysWritten_subset known _)
  · exact fun present => contains_ofList (credentials_written present _)
  · exact fun name known => contains_ofList known

theorem ofJson_toJson (whole : c.InMillis) :
    SessionConfig.ofJson c.toJson = .ok c.withoutNull := by
  have read := ofJson_of_sample whole (samples_self _ _) (samples_self _ _)
  rw [sampled_of_all c] at read
  · exact read
  · exact fun name known => KeyMap.contains_iff.mpr (alwaysWritten_subset known _)
  · exact fun present => KeyMap.contains_iff.mpr (credentials_written present _)
  · exact fun name known => KeyMap.contains_iff.mpr known

/-- What is read of what was written. -/
structure ReadBack (c : SessionConfig) : Prop where
  /-- All comes back of a value, whose members are in key order, -/
  value : SessionConfig.ofJson c.toValue = .ok c.withoutNull
  /-- and of what is written in the order of the settings, -/
  written : SessionConfig.ofJson c.toJson = .ok c.withoutNull
  /-- unless there are credentials and they are null. -/
  whole : c.withoutNull = c ↔ c.credentials ≠ some .null
  /-- Of an object with some of the members come their settings and the defaults of the others, and
  the same of the reconnection settings inside it. -/
  sample : ∀ h inner : Header, Json.Samples ReconnectConfig.names inner c.reconnect.members →
    Json.Samples names h (c.membersWith (.obj inner)) →
      SessionConfig.ofJson (.obj h) = .ok (c.sampled h inner)

/-- Any settings whose durations are whole milliseconds, with any credentials. -/
theorem reads_back (whole : c.InMillis) : c.ReadBack where
  value := ofJson_toValue whole
  written := ofJson_toJson whole
  whole := c.withoutNull_eq_self_iff
  sample := fun _ _ => ofJson_of_sample whole

/-- The longest interval that can be written, no room in the queue and structured credentials: all
of it comes back, and of the interval and the strategy alone come these two. -/
theorem reads_back_longest :
    ∃ c : SessionConfig, c.InMillis ∧ c.heartbeatInterval.millis = 0xFFFFFFFFFFFFFFFF ∧
      c.withoutNull = c ∧ c.ReadBack ∧
      SessionConfig.ofJson (.obj [("heartbeatInterval", .int 0xFFFFFFFFFFFFFFFF),
          ("reconnect", .obj [("strategy", .str "exponential")])]) =
        .ok { heartbeatInterval := c.heartbeatInterval, reconnect.strategy := .exponential } :=
  have whole : InMillis {
      heartbeatInterval := .ofMillis 0xFFFFFFFFFFFFFFFF
      reconnect.strategy := .exponential
      maxQueuedFrames := 0
      credentials := some (.obj [("token", .arr [.int (-1), .null])]) } :=
    ⟨by decide, by decide, by decide, by decide, by decide⟩
  have read := reads_back whole
  ⟨_, whole, by decide, rfl, read, rfl⟩

/-- Credentials that are null do not come back. -/
theorem reads_back_not_null :
    ∃ c : SessionConfig, c.InMillis ∧ c.credentials = some .null ∧
      (∃ read, SessionConfig.ofJson c.toValue = .ok read ∧ read.credentials = none) ∧
      SessionConfig.ofJson c.toValue ≠ .ok c := by
  have whole : InMillis { credentials := some .null } :=
    ⟨by decide, by decide, by decide, by decide, by decide⟩
  have read := ofJson_toValue whole
  refine ⟨_, whole, rfl, ⟨_, read, rfl⟩, ?_⟩
  intro same
  have kept := Except.ok.inj (read.symm.trans same)
  exact (withoutNull_eq_self_iff _).mp kept rfl

end SessionConfig

end Switchboard
