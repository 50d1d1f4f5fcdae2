/-!
# Durations and instants

A `Duration` is a whole number of nanoseconds up to 2⁶⁴ - 1 seconds and the nanoseconds short of
one more; arithmetic that would leave the range stops at its end. An `Instant` counts nanoseconds
on a monotonic clock without an end.
-/

namespace Switchboard

@[ext] structure Duration where
  nanos : Nat
  inRange : nanos < UInt64.size * 1000000000
  deriving DecidableEq

namespace Duration

/-- The longest duration, in nanoseconds. -/
def maxNanos : Nat := UInt64.size * 1000000000 - 1

/-- That many nanoseconds, or the longest duration. -/
def clamp (nanos : Nat) : Duration := ⟨min nanos maxNanos, by unfold maxNanos UInt64.size; omega⟩

@[simp] theorem nanos_clamp (n : Nat) : (clamp n).nanos = min n maxNanos := rfl

theorem nanos_le_maxNanos (d : Duration) : d.nanos ≤ maxNanos := by
  have := d.inRange
  unfold maxNanos
  omega

instance : Repr Duration := ⟨fun d _ => repr d.nanos⟩

instance : Inhabited Duration := ⟨clamp 0⟩

instance : LE Duration := ⟨fun a b => a.nanos ≤ b.nanos⟩

instance : LT Duration := ⟨fun a b => a.nanos < b.nanos⟩

instance (a b : Duration) : Decidable (a ≤ b) := Nat.decLe a.nanos b.nanos

instance (a b : Duration) : Decidable (a < b) := Nat.decLt a.nanos b.nanos

def ofNanos (n : UInt64) : Duration := clamp n.toNat

def ofMillis (n : UInt64) : Duration := clamp (n.toNat * 1000000)

def ofSeconds (n : UInt64) : Duration := clamp (n.toNat * 1000000000)

def millis (d : Duration) : Nat := d.nanos / 1000000

def millisWord (d : Duration) : UInt64 := d.millis.toUInt64

def nanosWord (d : Duration) : UInt64 := d.nanos.toUInt64

/-- `factor` times as long, at most the longest duration. -/
def saturatingMul (d : Duration) (factor : UInt32) : Duration := clamp (d.nanos * factor.toNat)

def min (a b : Duration) : Duration := if a ≤ b then a else b

end Duration

/-- A moment on a monotonic clock, in nanoseconds since its zero. -/
@[ext] structure Instant where
  nanos : Nat
  deriving DecidableEq, Repr, Inhabited

namespace Instant

instance : LE Instant := ⟨fun a b => a.nanos ≤ b.nanos⟩

instance : LT Instant := ⟨fun a b => a.nanos < b.nanos⟩

instance (a b : Instant) : Decidable (a ≤ b) := Nat.decLe a.nanos b.nanos

instance (a b : Instant) : Decidable (a < b) := Nat.decLt a.nanos b.nanos

instance : HAdd Instant Duration Instant := ⟨fun t d => ⟨t.nanos + d.nanos⟩⟩

@[simp] theorem nanos_add (t : Instant) (d : Duration) : (t + d).nanos = t.nanos + d.nanos := rfl

/-- The time from `earlier` to `t`, zero if `t` comes first. -/
def since (t earlier : Instant) : Duration := Duration.clamp (t.nanos - earlier.nanos)

def min (a b : Instant) : Instant := if a ≤ b then a else b

def earliest : List (Option Instant) → Option Instant
  | [] => none
  | none :: rest => earliest rest
  | some t :: rest =>
    match earliest rest with
    | none => some t
    | some u => some (t.min u)

end Instant

end Switchboard
