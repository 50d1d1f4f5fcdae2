import Switchboard.Session.RetryPolicy
import Mathlib.Algebra.Order.Group.Nat
import Mathlib.Algebra.Order.Ring.Nat
/-!
# Delays before retries

The delay before a retry is the base delay times a factor, cut at the longest delay. Three ends of a
word could show in it: that of the shift, that of the factor and that of the product. Only the
factor's does (`nanos_delayFor`), because a product beyond the longest duration is beyond the
longest delay as well. So delays never shrink, and they are those of unbounded arithmetic exactly if
the factor fits its word, the longest delay is reached with the greatest factor, or there is no base
delay to multiply (`delay_eq_iff`).
-/

namespace Switchboard

/-- How many times the base delay comes before the retry after failure number `k`, in numbers
without an end. -/
def Backoff.factor : Backoff → Nat → Nat
  | linear, k => k
  | exponential, k => 2 ^ (k - 1)

theorem Backoff.factor_mono (strategy : Backoff) {k l : Nat} (le : k ≤ l) :
    strategy.factor k ≤ strategy.factor l := by
  cases strategy with
  | linear => exact le
  | exponential => exact Nat.pow_le_pow_right Nat.two_pos (Nat.sub_le_sub_right le 1)

namespace Duration

theorem nanos_min (a b : Duration) : (a.min b).nanos = Min.min a.nanos b.nanos := by
  unfold Duration.min
  split
  · next le => exact (Nat.min_eq_left le).symm
  · next lt => exact (Nat.min_eq_right (Nat.le_of_not_le lt)).symm

/-- A product that leaves the range is cut anyway. -/
theorem nanos_saturatingMul_min (d longest : Duration) (factor : UInt32) :
    ((d.saturatingMul factor).min longest).nanos =
      Min.min (d.nanos * factor.toNat) longest.nanos := by
  have within := longest.nanos_le_maxNanos
  rw [nanos_min, saturatingMul, nanos_clamp]
  omega

end Duration

namespace RetryPolicy

/-- The number of a failure, counted from one. -/
def ordinal (attempt : UInt32) : Nat := max attempt.toNat 1

theorem toNat_counted (attempt : UInt32) :
    (if attempt = 0 then 1 else attempt).toNat = ordinal attempt := by
  unfold ordinal
  split
  · next zero => rw [zero]; rfl
  · next some =>
    have pos : attempt.toNat ≠ 0 := fun zero => some (UInt32.toNat_inj.mp zero)
    omega

/-- The power of two that a word has room for, or the greatest word. -/
theorem toNat_doublings {attempt : UInt32} (counted : 1 ≤ attempt.toNat) :
    (doublings attempt).toNat = min (2 ^ (attempt.toNat - 1)) (UInt32.size - 1) := by
  have shift : (attempt - 1).toNat = attempt.toNat - 1 :=
    UInt32.toNat_sub_of_le _ _ (UInt32.le_iff_toNat_le.mpr counted)
  unfold doublings
  split
  · next small =>
    have bits : attempt.toNat - 1 < 32 := shift ▸ UInt32.lt_iff_toNat_lt.mp small
    have power : 2 ^ (attempt.toNat - 1) < 2 ^ 32 := Nat.pow_lt_pow_right (by omega) bits
    rw [UInt32.toNat_shiftLeft, shift, Nat.mod_eq_of_lt bits, show (1 : UInt32).toNat = 1 from rfl,
      Nat.one_shiftLeft, Nat.mod_eq_of_lt power]
    unfold UInt32.size
    omega
  · next large =>
    have bits : 32 ≤ attempt.toNat - 1 := by
      have := mt UInt32.lt_iff_toNat_lt.mpr large
      rw [shift] at this
      exact Nat.le_of_not_lt this
    have power : 2 ^ 32 ≤ 2 ^ (attempt.toNat - 1) := Nat.pow_le_pow_right Nat.two_pos bits
    unfold maxWord UInt32.size
    simp only [UInt32.reduceToNat]
    omega

variable (policy : RetryPolicy)

/-- The factor stops at the end of its word, and nothing else does. -/
theorem nanos_delayFor (attempt : UInt32) :
    (policy.delayFor attempt).nanos =
      min (policy.config.baseDelay.nanos *
        min (policy.config.strategy.factor (ordinal attempt)) (UInt32.size - 1))
          policy.config.maxDelay.nanos := by
  have counted := toNat_counted attempt
  unfold delayFor
  dsimp only
  rw [Duration.nanos_saturatingMul_min]
  congr 2
  cases policy.config.strategy with
  | linear =>
    have word := (if attempt = 0 then 1 else attempt).toNat_lt_size
    dsimp only [Backoff.factor]
    omega
  | exponential =>
    dsimp only [Backoff.factor]
    rw [← counted]
    refine toNat_doublings ?_
    rw [counted]
    exact Nat.le_max_right _ _

theorem delayFor_le_maxDelay (attempt : UInt32) :
    policy.delayFor attempt ≤ policy.config.maxDelay := by
  show (policy.delayFor attempt).nanos ≤ policy.config.maxDelay.nanos
  rw [nanos_delayFor]
  exact Nat.min_le_right _ _

theorem ordinal_mono {a b : UInt32} (le : a ≤ b) : ordinal a ≤ ordinal b := by
  have values : a.toNat ≤ b.toNat := UInt32.le_iff_toNat_le.mp le
  unfold ordinal
  omega

theorem delayFor_mono {a b : UInt32} (le : a ≤ b) : policy.delayFor a ≤ policy.delayFor b := by
  have factors := policy.config.strategy.factor_mono (ordinal_mono le)
  show (policy.delayFor a).nanos ≤ (policy.delayFor b).nanos
  rw [nanos_delayFor, nanos_delayFor]
  have products : policy.config.baseDelay.nanos *
        min (policy.config.strategy.factor (ordinal a)) (UInt32.size - 1) ≤
      policy.config.baseDelay.nanos *
        min (policy.config.strategy.factor (ordinal b)) (UInt32.size - 1) := by
    apply Nat.mul_le_mul_left
    omega
  omega

/-- A retry waits if the base delay and the longest delay are not zero. -/
theorem delayFor_pos {policy : RetryPolicy} (base : 0 < policy.config.baseDelay.nanos)
    (longest : 0 < policy.config.maxDelay.nanos) (attempt : UInt32) :
    0 < (policy.delayFor attempt).nanos := by
  have counted : 1 ≤ ordinal attempt := Nat.le_max_right _ _
  have factor : 0 < min (policy.config.strategy.factor (ordinal attempt)) (UInt32.size - 1) := by
    have first := policy.config.strategy.factor_mono counted
    have one : policy.config.strategy.factor 1 = 1 := by cases policy.config.strategy <;> rfl
    unfold UInt32.size
    omega
  rw [nanos_delayFor]
  exact Nat.lt_min.mpr ⟨Nat.mul_pos base factor, longest⟩

/-- Where the factor, the longest delay or the base delay allows it, the delay is that of unbounded
arithmetic, and nowhere else. -/
theorem delay_eq_iff (attempt : UInt32) :
    (policy.delayFor attempt).nanos =
        min (policy.config.baseDelay.nanos * policy.config.strategy.factor (ordinal attempt))
          policy.config.maxDelay.nanos ↔
      policy.config.strategy.factor (ordinal attempt) ≤ UInt32.size - 1 ∨
        policy.config.maxDelay.nanos ≤ policy.config.baseDelay.nanos * (UInt32.size - 1) ∨
        policy.config.baseDelay.nanos = 0 := by
  obtain ⟨base, hbase⟩ : ∃ base, base = policy.config.baseDelay.nanos := ⟨_, rfl⟩
  obtain ⟨factor, hfactor⟩ :
      ∃ factor, factor = policy.config.strategy.factor (ordinal attempt) := ⟨_, rfl⟩
  rw [nanos_delayFor, ← hbase, ← hfactor]
  by_cases fits : factor ≤ UInt32.size - 1
  · rw [Nat.min_eq_left fits]
    exact iff_of_true rfl (.inl fits)
  · have beyond : UInt32.size - 1 < factor := Nat.lt_of_not_le fits
    rw [Nat.min_eq_right (Nat.le_of_lt beyond), or_iff_right fits]
    rcases Nat.eq_zero_or_pos base with zero | pos
    · simp [zero]
    · -- The exact product is the greater one, so the two agree only where both are cut.
      have less : base * (UInt32.size - 1) < base * factor := Nat.mul_lt_mul_of_pos_left beyond pos
      omega

/-- The factor of a doubled delay fits its word up to the thirty-second failure. -/
theorem factor_exponential_le_iff (attempt : UInt32) :
    Backoff.exponential.factor (ordinal attempt) ≤ UInt32.size - 1 ↔ ordinal attempt ≤ 32 := by
  dsimp only [Backoff.factor]
  constructor
  · intro fits
    by_contra large
    have power : 2 ^ 32 ≤ 2 ^ (ordinal attempt - 1) :=
      Nat.pow_le_pow_right Nat.two_pos (by omega)
    unfold UInt32.size at fits
    omega
  · intro small
    have power : 2 ^ (ordinal attempt - 1) ≤ 2 ^ 31 :=
      Nat.pow_le_pow_right Nat.two_pos (by omega)
    unfold UInt32.size
    omega

/-- The factor of a multiplied delay always does. -/
theorem factor_linear_le (attempt : UInt32) :
    Backoff.linear.factor (ordinal attempt) ≤ UInt32.size - 1 := by
  have word := attempt.toNat_lt_size
  unfold ordinal UInt32.size at *
  dsimp only [Backoff.factor]
  omega

/-- The delay after a failure, in numbers without an end. -/
structure Exact (attempt : UInt32) : Prop where
  /-- No step overflows: all that stops at the end of its word is the factor. -/
  whole : (policy.delayFor attempt).nanos =
    min (policy.config.baseDelay.nanos *
        min (policy.config.strategy.factor (ordinal attempt)) (UInt32.size - 1))
      policy.config.maxDelay.nanos
  linear : policy.config.strategy = .linear →
    (policy.delayFor attempt).nanos =
      min (policy.config.baseDelay.nanos * ordinal attempt) policy.config.maxDelay.nanos
  exponential : policy.config.strategy = .exponential →
    ((policy.delayFor attempt).nanos =
        min (policy.config.baseDelay.nanos * 2 ^ (ordinal attempt - 1))
          policy.config.maxDelay.nanos ↔
      ordinal attempt ≤ 32 ∨
        policy.config.maxDelay.nanos ≤ policy.config.baseDelay.nanos * (UInt32.size - 1) ∨
        policy.config.baseDelay.nanos = 0)

theorem delay_exact (attempt : UInt32) : policy.Exact attempt where
  whole := policy.nanos_delayFor attempt
  linear := by
    intro linear
    have agrees := policy.delay_eq_iff attempt
    rw [linear] at agrees
    exact agrees.mpr (.inl (factor_linear_le attempt))
  exponential := by
    intro exponential
    have agrees := policy.delay_eq_iff attempt
    rw [exponential, factor_exponential_le_iff] at agrees
    exact agrees

/-- Whatever the settings are, delays do not shrink from one failure to the next, stay within the
longest delay, and are the products that they ought to be. -/
theorem delays_ascend {a b : UInt32} (le : a ≤ b) :
    policy.delayFor a ≤ policy.delayFor b ∧ policy.delayFor b ≤ policy.config.maxDelay ∧
      policy.Exact a :=
  ⟨policy.delayFor_mono le, policy.delayFor_le_maxDelay b, policy.delay_exact a⟩

/-- From the last power of two to the greatest word: a base delay of one nanosecond, and a longest
delay that is never reached. -/
theorem delays_ascend_beyond_the_word :
    ∃ policy : RetryPolicy,
      policy.config.strategy = .exponential ∧ (32 : UInt32) ≤ 33 ∧
        (policy.delayFor 32).nanos = 0x80000000 ∧ (policy.delayFor 33).nanos = 0xFFFFFFFF ∧
        policy.delayFor 32 ≤ policy.delayFor 33 ∧ policy.delayFor 33 ≤ policy.config.maxDelay ∧
        policy.Exact 32 :=
  ⟨.ofConfig ⟨.clamp 1, .ofSeconds 5, 50, .exponential⟩, rfl, by decide, by decide, by decide,
    delays_ascend _ (by decide)⟩

end RetryPolicy

end Switchboard
