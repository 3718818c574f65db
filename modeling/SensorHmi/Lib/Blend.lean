import Mathlib

/-!
# Exponential averages

A sample is blended into an average by moving the average a part of the way towards it. An average
that lies between the samples seen stays between them (`between_foldl_first`), whatever the samples.
-/

namespace Blend

variable {K : Type}

/-- The average after a sample, `alpha` being the part of the way it moves. -/
def blend [Add K] [Sub K] [Mul K] (alpha prev sample : K) : K :=
  prev + alpha * (sample - prev)

/-- The value lies between the smallest and the largest of the samples. -/
def Between [LE K] (samples : List K) (x : K) : Prop :=
  (∃ low ∈ samples, low ≤ x) ∧ ∃ high ∈ samples, x ≤ high

section Order

variable [PartialOrder K] {samples : List K} {x y : K}

theorem between_of_mem (h : x ∈ samples) : Between samples x :=
  ⟨⟨x, h, le_rfl⟩, x, h, le_rfl⟩

/-- Between one sample lies only the sample. -/
theorem between_singleton : Between [y] x ↔ x = y := by
  constructor
  · rintro ⟨⟨low, hlow, hle⟩, high, hhigh, hge⟩
    rw [List.mem_singleton.mp hlow] at hle
    rw [List.mem_singleton.mp hhigh] at hge
    exact le_antisymm hge hle
  · rintro rfl
    exact between_of_mem List.mem_cons_self

end Order

section Average

variable [Field K] [LinearOrder K] [IsStrictOrderedRing K] {alpha prev sample : K}
  {seen samples : List K}

/-- A blended average stays between the samples. -/
theorem between_blend (hpos : 0 ≤ alpha) (hone : alpha ≤ 1) (h : Between seen prev) :
    Between (seen ++ [sample]) (blend alpha prev sample) := by
  obtain ⟨⟨low, hlow, hle⟩, high, hhigh, hge⟩ := h
  have hsample : sample ∈ seen ++ [sample] := List.mem_append_right _ List.mem_cons_self
  rcases le_total sample prev with hdown | hup
  · -- the average moves down, and not below the sample
    have hmove : alpha * (prev - sample) ≤ 1 * (prev - sample) :=
      mul_le_mul_of_nonneg_right hone (sub_nonneg.mpr hdown)
    have hmoves : 0 ≤ alpha * (prev - sample) := mul_nonneg hpos (sub_nonneg.mpr hdown)
    have hblend : blend alpha prev sample = prev - alpha * (prev - sample) := by
      rw [blend]
      ring
    refine ⟨⟨sample, hsample, ?_⟩, high, List.mem_append_left _ hhigh, ?_⟩
    · rw [hblend]
      linarith
    · rw [hblend]
      linarith
  · have hmove : alpha * (sample - prev) ≤ 1 * (sample - prev) :=
      mul_le_mul_of_nonneg_right hone (sub_nonneg.mpr hup)
    have hmoves : 0 ≤ alpha * (sample - prev) := mul_nonneg hpos (sub_nonneg.mpr hup)
    refine ⟨⟨low, List.mem_append_left _ hlow, ?_⟩, sample, hsample, ?_⟩
    · rw [blend]
      linarith
    · rw [blend]
      linarith

/-- So does an average over any number of samples. -/
theorem between_foldl (hpos : 0 ≤ alpha) (hone : alpha ≤ 1) (h : Between seen prev) :
    Between (seen ++ samples) (samples.foldl (blend alpha) prev) := by
  induction samples generalizing seen prev with
  | nil => simpa using h
  | cons sample rest ih =>
      have hnext := ih (@between_blend K _ _ _ alpha prev sample seen hpos hone h)
      rwa [List.append_assoc] at hnext

/-- An average that starts at the first sample stays between the samples. -/
theorem between_foldl_first (hpos : 0 ≤ alpha) (hone : alpha ≤ 1) :
    Between (sample :: samples) (samples.foldl (blend alpha) sample) := by
  have hfirst : Between [sample] sample := between_singleton.mpr rfl
  exact between_foldl hpos hone hfirst

/-- A first sample blended into a zero is kept only if it is zero itself. -/
theorem blend_zero_iff (hone : alpha < 1) : blend alpha 0 sample = sample ↔ sample = 0 := by
  have hblend : blend alpha 0 sample = alpha * sample := by
    rw [blend]
    ring
  rw [hblend]
  constructor
  · intro hkept
    have hrest : (1 - alpha) * sample = 0 := by linarith
    rcases mul_eq_zero.mp hrest with hwhole | hzero
    · linarith
    · exact hzero
  · rintro rfl
    exact mul_zero alpha

end Average

end Blend
