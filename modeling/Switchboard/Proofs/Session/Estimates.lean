import Switchboard.Session.Stats
import Mathlib.Algebra.Order.Group.Nat
import Mathlib.Data.List.Induction
/-!
# Latency estimates

The smoothed latency is a mean of its last value and the new sample, rounded down, and the jitter is
such a mean of its last value and the distance between the two. Rounding down a mean of two whole
numbers does not leave the range between them, so estimates of samples in a range stay in the range
(`Stats.taken_recordLatency`), and the words that they are computed in do not overflow if eight
times its end fits a word.

`Stats.Taken` says what one sample does, and `Stats.ofSamples_smooth` says it of each sample of any
sequence.
-/

namespace Switchboard

namespace Duration

theorem toNat_nanosWord {d : Duration} (small : d.nanos < UInt64.size) :
    d.nanosWord.toNat = d.nanos := by
  unfold nanosWord
  rw [Nat.toUInt64_eq, UInt64.toNat_ofNat_of_lt' small]

/-- A word of nanoseconds is far from the longest duration. -/
theorem nanos_ofNanos (w : UInt64) : (ofNanos w).nanos = w.toNat := by
  have word := w.toNat_lt_size
  rw [ofNanos, nanos_clamp]
  unfold maxNanos UInt64.size at *
  omega

end Duration

namespace Stats

/-- How far two latencies are apart, in nanoseconds. -/
def gap (a b : Duration) : Nat := (a.nanos - b.nanos) + (b.nanos - a.nanos)

/-- A mean whose sum fits a word is the mean of the numbers, rounded down. -/
theorem nanos_blend {weight parts : UInt64} {old new : Duration} (word : old.nanos < UInt64.size)
    (fits : old.nanos * weight.toNat + new.nanos < UInt64.size) :
    (Duration.ofNanos (blend weight parts old.nanosWord new.nanosWord)).nanos =
      (old.nanos * weight.toNat + new.nanos) / parts.toNat := by
  have oldWord : old.nanosWord.toNat = old.nanos := Duration.toNat_nanosWord word
  have newWord : new.nanosWord.toNat = new.nanos :=
    Duration.toNat_nanosWord (Nat.lt_of_le_of_lt (Nat.le_add_left _ _) fits)
  have product : old.nanos * weight.toNat < UInt64.size :=
    Nat.lt_of_le_of_lt (Nat.le_add_right _ _) fits
  rw [Duration.nanos_ofNanos]
  unfold blend
  rw [UInt64.toNat_div, UInt64.toNat_add, UInt64.toNat_mul, oldWord, newWord]
  rw [Nat.mod_eq_of_lt product, Nat.mod_eq_of_lt fits]

/-- The estimates that there are belong to samples of the range. -/
structure Bounded (lo hi : Nat) (s : Stats) : Prop where
  smoothed : ∀ mean, s.smoothed = some mean → lo ≤ mean.nanos ∧ mean.nanos ≤ hi
  jitter : ∀ jitter, s.jitter = some jitter → jitter.nanos ≤ hi - lo

theorem bounded_empty (lo hi : Nat) : Bounded lo hi {} := ⟨nofun, nofun⟩

/-- What a sample of a range does to the estimates: `mean` and `jitter` are the new ones. -/
structure Taken (lo hi : Nat) (s : Stats) (sample : Duration) (t : Stats)
    (mean jitter : Duration) : Prop where
  latency : t.latency = some sample
  smoothed : t.smoothed = some mean
  jittered : t.jitter = some jitter
  within : lo ≤ mean.nanos ∧ mean.nanos ≤ hi
  spread : jitter.nanos ≤ hi - lo
  /-- The first sample is its own mean. -/
  first : s.smoothed = none → mean = sample
  /-- A later one moves the mean towards itself and not beyond, -/
  between : ∀ old, s.smoothed = some old →
    min old.nanos sample.nanos ≤ mean.nanos ∧ mean.nanos ≤ max old.nanos sample.nanos
  /-- by an eighth of the way, computed in words that do not overflow. -/
  mean_eq : ∀ old, s.smoothed = some old →
    old.nanos * 7 + sample.nanos < UInt64.size ∧ mean.nanos = (old.nanos * 7 + sample.nanos) / 8
  calm : s.jitter = none → jitter.nanos = gap sample mean
  /-- The jitter goes a quarter of the way to the distance, in words that do not overflow either. -/
  jitter_eq : ∀ old, s.jitter = some old →
    old.nanos * 3 + gap sample mean < UInt64.size ∧
      jitter.nanos = (old.nanos * 3 + gap sample mean) / 4

/-- The smoothed latency after a sample. -/
def meanAfter (s : Stats) (sample : Duration) : Duration :=
  match s.smoothed with
  | some old => .ofNanos (blend 7 8 old.nanosWord sample.nanosWord)
  | none => sample

/-- The distance of a sample from the smoothed latency, as a duration. -/
def deviation (sample mean : Duration) : Duration :=
  .ofNanos ((sample.nanos - mean.nanos) + (mean.nanos - sample.nanos)).toUInt64

/-- The jitter after a sample that led to a smoothed latency. -/
def jitterAfter (s : Stats) (sample mean : Duration) : Duration :=
  match s.jitter with
  | some old => .ofNanos (blend 3 4 old.nanosWord (deviation sample mean).nanosWord)
  | none => deviation sample mean

theorem recordLatency_eq (s : Stats) (sample : Duration) :
    s.recordLatency sample =
      { s with
        latency := some sample
        smoothed := some (s.meanAfter sample)
        jitter := some (s.jitterAfter sample (s.meanAfter sample)) } := rfl

section Range

variable {lo hi : Nat} {s t : Stats} {sample mean jitter old : Duration}

/-- The bounds after a sample are those before it. -/
theorem Taken.bounded (h : Taken lo hi s sample t mean jitter) : Bounded lo hi t where
  smoothed := by
    intro other same
    rw [h.smoothed] at same
    cases same
    exact h.within
  jitter := by
    intro other same
    rw [h.jittered] at same
    cases same
    exact h.spread

theorem nanos_deviation (fits : gap sample mean < UInt64.size) :
    (deviation sample mean).nanos = gap sample mean := by
  rw [deviation, Duration.nanos_ofNanos, Nat.toUInt64_eq]
  exact UInt64.toNat_ofNat_of_lt' fits

theorem gap_le (within : lo ≤ sample.nanos ∧ sample.nanos ≤ hi)
    (near : lo ≤ mean.nanos ∧ mean.nanos ≤ hi) : gap sample mean ≤ hi - lo := by
  unfold gap
  omega

theorem meanAfter_of_some (small : 8 * hi < UInt64.size) (bounded : Bounded lo hi s)
    (within : sample.nanos ≤ hi) (found : s.smoothed = some old) :
    old.nanos * 7 + sample.nanos < UInt64.size ∧
      (s.meanAfter sample).nanos = (old.nanos * 7 + sample.nanos) / 8 := by
  obtain ⟨-, most⟩ := bounded.smoothed old found
  have fits : old.nanos * 7 + sample.nanos < UInt64.size := by omega
  refine ⟨fits, ?_⟩
  rw [meanAfter, found]
  exact nanos_blend (by omega) fits

theorem meanAfter_of_none (found : s.smoothed = none) : s.meanAfter sample = sample := by
  rw [meanAfter, found]

/-- A mean of values in the range lies in the range, though it is rounded down. -/
theorem meanAfter_within (small : 8 * hi < UInt64.size) (bounded : Bounded lo hi s)
    (within : lo ≤ sample.nanos ∧ sample.nanos ≤ hi) :
    lo ≤ (s.meanAfter sample).nanos ∧ (s.meanAfter sample).nanos ≤ hi := by
  cases found : s.smoothed with
  | none =>
    rw [meanAfter_of_none found]
    exact within
  | some old =>
    obtain ⟨-, mean⟩ := meanAfter_of_some small bounded within.2 found
    have before := bounded.smoothed old found
    omega

theorem jitterAfter_of_some (small : 8 * hi < UInt64.size) (bounded : Bounded lo hi s)
    (apart : gap sample mean ≤ hi - lo) (found : s.jitter = some old) :
    old.nanos * 3 + gap sample mean < UInt64.size ∧
      (s.jitterAfter sample mean).nanos = (old.nanos * 3 + gap sample mean) / 4 := by
  have before := bounded.jitter old found
  have distance : (deviation sample mean).nanos = gap sample mean := nanos_deviation (by omega)
  have fits : old.nanos * 3 + (deviation sample mean).nanos < UInt64.size := by omega
  rw [← distance]
  refine ⟨fits, ?_⟩
  rw [jitterAfter, found]
  exact nanos_blend (by omega) fits

theorem jitterAfter_of_none (fits : gap sample mean < UInt64.size) (found : s.jitter = none) :
    (s.jitterAfter sample mean).nanos = gap sample mean := by
  rw [jitterAfter, found]
  exact nanos_deviation fits

theorem jitterAfter_le (small : 8 * hi < UInt64.size) (bounded : Bounded lo hi s)
    (apart : gap sample mean ≤ hi - lo) : (s.jitterAfter sample mean).nanos ≤ hi - lo := by
  cases found : s.jitter with
  | none =>
    rw [jitterAfter_of_none (by omega) found]
    exact apart
  | some old =>
    obtain ⟨-, jitter⟩ := jitterAfter_of_some small bounded apart found
    have before := bounded.jitter old found
    omega

/-- A sample of the range keeps the estimates in their bounds, and each is computed exactly. -/
theorem taken_recordLatency (small : 8 * hi < UInt64.size) (bounded : Bounded lo hi s)
    (within : lo ≤ sample.nanos ∧ sample.nanos ≤ hi) :
    Taken lo hi s sample (s.recordLatency sample) (s.meanAfter sample)
      (s.jitterAfter sample (s.meanAfter sample)) := by
  have near := meanAfter_within small bounded within
  have apart := gap_le within near
  have mean (old : Duration) (found : s.smoothed = some old) :=
    meanAfter_of_some small bounded within.2 found
  rw [recordLatency_eq]
  refine
    { latency := rfl, smoothed := rfl, jittered := rfl, within := near
      spread := jitterAfter_le small bounded apart
      first := meanAfter_of_none
      between := ?_
      mean_eq := mean
      calm := jitterAfter_of_none (by omega)
      jitter_eq := fun old => jitterAfter_of_some small bounded apart }
  intro old found
  obtain ⟨-, exact_⟩ := mean old found
  omega

end Range

/-! ## Sequences of samples -/

/-- The statistics of a new session after the samples. -/
def ofSamples (samples : List Duration) : Stats := samples.foldl recordLatency {}

theorem ofSamples_concat (samples : List Duration) (sample : Duration) :
    ofSamples (samples ++ [sample]) = (ofSamples samples).recordLatency sample := by
  simp [ofSamples]

section Samples

variable {lo hi : Nat} {samples : List Duration}

/-- The estimates stay in their bounds, by induction on the samples from the last one. -/
theorem bounded_ofSamples (small : 8 * hi < UInt64.size)
    (within : ∀ sample ∈ samples, lo ≤ sample.nanos ∧ sample.nanos ≤ hi) :
    Bounded lo hi (ofSamples samples) := by
  induction samples using List.reverseRecOn with
  | nil => exact bounded_empty lo hi
  | append_singleton samples sample ih =>
    have before := ih fun other mem => within other (List.mem_append_left _ mem)
    rw [ofSamples_concat]
    exact (taken_recordLatency small before (within sample (by simp))).bounded

/-- Under a constant sample the smoothed latency goes towards it, and not beyond. -/
theorem towards_constant (small : 8 * hi < UInt64.size)
    (within : ∀ sample ∈ samples, lo ≤ sample.nanos ∧ sample.nanos ≤ hi) {sample old : Duration}
    (ranged : lo ≤ sample.nanos ∧ sample.nanos ≤ hi)
    (found : (ofSamples samples).smoothed = some old) (n : Nat) :
    ∃ mean, (ofSamples (samples ++ List.replicate n sample)).smoothed = some mean ∧
      (old.nanos ≤ sample.nanos → old.nanos ≤ mean.nanos ∧ mean.nanos ≤ sample.nanos) ∧
      (sample.nanos ≤ old.nanos → sample.nanos ≤ mean.nanos ∧ mean.nanos ≤ old.nanos) := by
  induction n with
  | zero => exact ⟨old, by simpa using found, by omega, by omega⟩
  | succ n ih =>
    obtain ⟨mean, reached, rises, falls⟩ := ih
    have before : Bounded lo hi (ofSamples (samples ++ List.replicate n sample)) := by
      refine bounded_ofSamples small ?_
      intro other mem
      rcases List.mem_append.mp mem with mem | mem
      · exact within other mem
      · rw [List.eq_of_mem_replicate mem]
        exact ranged
    have taken := taken_recordLatency small before ranged
    have between := taken.between mean reached
    rw [List.replicate_succ', ← List.append_assoc, ofSamples_concat]
    refine ⟨_, taken.smoothed, ?_, ?_⟩ <;> omega

/-- What the estimates of a new session are after the samples, all of them and each first few. -/
structure Smooth (lo hi : Nat) (samples : List Duration) : Prop where
  /-- Each sample does what it should. -/
  each : ∀ earlier sample later, samples = earlier ++ sample :: later →
    ∃ mean jitter, Taken lo hi (ofSamples earlier) sample (ofSamples (earlier ++ [sample]))
      mean jitter
  /-- While the same sample comes again and again, the smoothed latency goes towards it and not
  beyond. -/
  constant : ∀ earlier n sample later, samples = earlier ++ List.replicate n sample ++ later →
    ∀ old, (ofSamples earlier).smoothed = some old →
      ∃ mean, (ofSamples (earlier ++ List.replicate n sample)).smoothed = some mean ∧
        (old.nanos ≤ sample.nanos → old.nanos ≤ mean.nanos ∧ mean.nanos ≤ sample.nanos) ∧
        (sample.nanos ≤ old.nanos → sample.nanos ≤ mean.nanos ∧ mean.nanos ≤ old.nanos)

/-- Whatever samples of a range come, however many. -/
theorem ofSamples_smooth (small : 8 * hi < UInt64.size)
    (within : ∀ sample ∈ samples, lo ≤ sample.nanos ∧ sample.nanos ≤ hi) :
    Smooth lo hi samples where
  each := by
    rintro earlier sample later rfl
    have before : Bounded lo hi (ofSamples earlier) :=
      bounded_ofSamples small fun other mem => within other (List.mem_append_left _ mem)
    rw [ofSamples_concat]
    exact ⟨_, _, taken_recordLatency small before (within sample (by simp))⟩
  constant := by
    rintro earlier n sample later rfl old found
    have before : ∀ other ∈ earlier, lo ≤ other.nanos ∧ other.nanos ≤ hi := by
      intro other mem
      exact within other (by simp [mem])
    cases n with
    | zero => exact ⟨old, by simpa using found, by omega, by omega⟩
    | succ n =>
      have ranged := within sample (by simp)
      exact towards_constant small before ranged found (n + 1)

end Samples

/-- The longest latencies that the bound allows, with none at all between them. -/
theorem ofSamples_smooth_longest :
    ∃ longest : Duration, 8 * longest.nanos < UInt64.size ∧
      (∀ sample ∈ [longest, .clamp 0, longest], 0 ≤ sample.nanos ∧ sample.nanos ≤ longest.nanos) ∧
      (ofSamples [longest, .clamp 0, longest]).smoothed = some (.clamp 0x1C7FFFFFFFFFFFFF) ∧
      (ofSamples [longest, .clamp 0, longest]).jitter = some (.clamp 0x61FFFFFFFFFFFFF) ∧
      Smooth 0 longest.nanos [longest, .clamp 0, longest] :=
  ⟨.clamp 0x1FFFFFFFFFFFFFFF, by decide, by decide, by decide, by decide,
    ofSamples_smooth (by decide) (by decide)⟩

end Stats

end Switchboard
