import MeshBeacon.SetConf
import Mathlib.Tactic.Common

/-!
# From frequency to time drift

The modems are told the bandwidth over the frequency as a mantissa and an exponent. The quotient is
taken with twenty more bits and rounded down, and doubled until it has twelve bits. The loop ends
only if the quotient is not zero; the mantissa has sixteen bits.

For the frequencies the radios are configured for both are as they should be: the quotient is
large enough to get there in four steps, and from below 2048 a step does not lead beyond 4095.
-/

open Hal

namespace FreqDrift

/-- The loop of `calculate_freq_to_time_drift`: the mantissa and the exponent at its end, if there
are so many turns. -/
def driftLoop : ℕ → UInt64 → UInt8 → Option (UInt64 × UInt8)
  | 0, _, _ => none
  | fuel + 1, mantissa, exponent =>
    if mantissa < 2048 then driftLoop fuel (mantissa <<< 1) (exponent + 1)
    else some (mantissa, exponent)

/-- The mantissa before the loop. -/
def quotient (bwHz : Int32) (freqHz : UInt32) : UInt64 :=
  bwHz.toInt64.toUInt64 * ((2 : UInt64) <<< (20 - 1 : UInt64)) / freqHz.toUInt64

/-- `calculate_freq_to_time_drift`: what is returned, and what is stored. -/
def calculateFreqToTimeDrift (fuel : ℕ) (freqHz : UInt32) (bw : UInt8) :
    Option (ℤ × Option (UInt16 × UInt8)) :=
  let bwHz := SetConf.lgwBwGetval bw
  if bwHz < 0 then some (-1, none)
  else
    (driftLoop fuel (quotient bwHz freqHz) 0).map fun r => (0, some (r.1.toUInt16, r.2))

/-! ## The loop -/

theorem driftLoop_of_le {fuel n : ℕ} {mantissa : UInt64} (exponent : UInt8)
    (h : 2048 ≤ mantissa.toNat) (hfuel : n < fuel) : driftLoop fuel mantissa exponent
      = some (mantissa, exponent + UInt8.ofNat 0) := by
  obtain ⟨fuel, rfl⟩ := Nat.exists_eq_succ_of_ne_zero (Nat.ne_zero_of_lt hfuel)
  have hnot : ¬ mantissa < 2048 := fun hlt => Nat.not_lt.mpr h (UInt64.lt_iff_toNat_lt.mp hlt)
  rw [driftLoop, if_neg hnot, show UInt8.ofNat 0 = 0 from rfl, UInt8.add_zero]

theorem driftLoop_of_lt {fuel : ℕ} {mantissa : UInt64} (exponent : UInt8)
    (h : mantissa.toNat < 2048) : driftLoop (fuel + 1) mantissa exponent
      = driftLoop fuel (mantissa <<< 1) (exponent + 1) := by
  rw [driftLoop, if_pos (UInt64.lt_iff_toNat_lt.mpr h)]

theorem toNat_shiftLeft_one {mantissa : UInt64} (h : mantissa.toNat < 2048) :
    (mantissa <<< 1).toNat = mantissa.toNat * 2 := by
  rw [UInt64.toNat_shiftLeft]
  show mantissa.toNat <<< 1 % 2 ^ 64 = _
  rw [Nat.shiftLeft_eq, pow_one, Nat.mod_eq_of_lt (by omega)]

/-- **The loop doubles the mantissa until it is at least 2048**, with as many turns as
that takes and one more for the end. -/
theorem driftLoop_spec {n : ℕ} {mantissa : UInt64} (exponent : UInt8)
    (hn : 2048 ≤ mantissa.toNat * 2 ^ n) : ∃ k ≤ n, ∃ result : UInt64,
      (∀ fuel, n < fuel → driftLoop fuel mantissa exponent
        = some (result, exponent + UInt8.ofNat k))
      ∧ result.toNat = mantissa.toNat * 2 ^ k ∧ 2048 ≤ result.toNat
      ∧ result.toNat ≤ max 4095 mantissa.toNat := by
  induction n generalizing mantissa exponent with
  | zero =>
    rw [pow_zero, mul_one] at hn
    exact ⟨0, le_rfl, mantissa, fun _ => driftLoop_of_le exponent hn, (mul_one _).symm, hn,
      le_max_right _ _⟩
  | succ n ih =>
    rcases Nat.lt_or_ge mantissa.toNat 2048 with hlt | hge
    · -- below 2048 doubling does not wrap
      have hdouble := toNat_shiftLeft_one hlt
      have hn' : 2048 ≤ (mantissa <<< 1).toNat * 2 ^ n := by
        rw [hdouble, mul_assoc, ← pow_succ']
        exact hn
      obtain ⟨k, hk, result, hloop, hresult, hlow, hhigh⟩ := ih (exponent + 1) hn'
      refine ⟨k + 1, Nat.succ_le_succ hk, result, fun fuel hfuel => ?_, ?_, hlow, ?_⟩
      · obtain ⟨fuel, rfl⟩ := Nat.exists_eq_succ_of_ne_zero (Nat.ne_zero_of_lt hfuel)
        rw [driftLoop_of_lt exponent hlt, hloop fuel (Nat.lt_of_succ_lt_succ hfuel),
          UInt8.ofNat_add, UInt8.add_assoc, UInt8.add_comm (UInt8.ofNat k)]
        rfl
      · rw [hresult, hdouble, mul_assoc, ← pow_succ']
      · rw [hdouble] at hhigh
        omega
    · exact ⟨0, Nat.zero_le _, mantissa, fun _ => driftLoop_of_le exponent hge,
        (mul_one _).symm, hge, le_max_right _ _⟩

/-! ## The quotient -/

theorem bandwidth_cases {bw : UInt8} (h : 0 ≤ SetConf.lgwBwGetval bw) :
    SetConf.lgwBwGetval bw = 125000 ∨ SetConf.lgwBwGetval bw = 250000
      ∨ SetConf.lgwBwGetval bw = 500000 := by
  unfold SetConf.lgwBwGetval at *
  split_ifs at *
  · exact .inr (.inr rfl)
  · exact .inr (.inl rfl)
  · exact .inl rfl
  · exact absurd h (by decide)

theorem toNat_quotient {bw : UInt8} (h : 0 ≤ SetConf.lgwBwGetval bw) (freqHz : UInt32) :
    ∃ bwHz : ℕ, (SetConf.lgwBwGetval bw).toInt = bwHz ∧ 125000 ≤ bwHz ∧ bwHz ≤ 500000
      ∧ (quotient (SetConf.lgwBwGetval bw) freqHz).toNat = bwHz * 2 ^ 20 / freqHz.toNat := by
  unfold quotient
  rcases bandwidth_cases h with hbw | hbw | hbw
  · refine ⟨125000, by rw [hbw]; decide, by decide, by decide, ?_⟩
    rw [hbw, UInt64.toNat_div]
    rfl
  · refine ⟨250000, by rw [hbw]; decide, by decide, by decide, ?_⟩
    rw [hbw, UInt64.toNat_div]
    rfl
  · refine ⟨500000, by rw [hbw]; decide, by decide, by decide, ?_⟩
    rw [hbw, UInt64.toNat_div]
    rfl

/-- **From frequency to time drift.** For a frequency of 100 MHz to 1 GHz and a bandwidth there is,
the mantissa has twelve or thirteen bits, is stored as it is, and is the quotient times a power of
two, whose exponent is stored. -/
theorem calculateFreqToTimeDrift_spec {freqHz : UInt32} {bw : UInt8} (hlow : 100000000 ≤ freqHz)
    (hhigh : freqHz ≤ 1000000000) (hbw : 0 ≤ SetConf.lgwBwGetval bw) :
    ∃ (mantissa : UInt64) (mant : UInt16) (exp : UInt8),
      (∀ fuel, 4 < fuel →
        driftLoop fuel (quotient (SetConf.lgwBwGetval bw) freqHz) 0 = some (mantissa, exp)
          ∧ calculateFreqToTimeDrift fuel freqHz bw = some (0, some (mant, exp)))
      ∧ 2048 ≤ mantissa.toNat ∧ mantissa.toNat ≤ 65535 ∧ mant.toNat = mantissa.toNat
      ∧ (mant.toNat : ℤ)
        = (SetConf.lgwBwGetval bw).toInt * 2 ^ 20 / freqHz.toNat * 2 ^ exp.toNat := by
  obtain ⟨bwHz, hbwHz, hbwlow, hbwhigh, hquotient⟩ := toNat_quotient hbw freqHz
  have hfreqlow : 100000000 ≤ freqHz.toNat := UInt32.le_iff_toNat_le.mp hlow
  have hfreqhigh : freqHz.toNat ≤ 1000000000 := UInt32.le_iff_toNat_le.mp hhigh
  have hpos : 0 < freqHz.toNat := by omega
  -- the quotient is at least 131, so four turns are enough
  have hqlow : 131 ≤ bwHz * 2 ^ 20 / freqHz.toNat :=
    (Nat.le_div_iff_mul_le hpos).mpr (by omega)
  have hqhigh : bwHz * 2 ^ 20 / freqHz.toNat ≤ 5242 := by
    refine Nat.le_of_lt_succ ((Nat.div_lt_iff_lt_mul hpos).mpr ?_)
    omega
  have hturns : 2048 ≤ (quotient (SetConf.lgwBwGetval bw) freqHz).toNat * 2 ^ 4 := by
    rw [hquotient]
    omega
  obtain ⟨k, hk, mantissa, hloop, hmantissa, hmin, hmax⟩ := driftLoop_spec 0 hturns
  -- neither the mantissa nor the exponent is cut when it is stored
  have hfits : mantissa.toNat ≤ 65535 := by
    rw [hquotient] at hmax
    omega
  have hexp : (UInt8.ofNat k).toNat = k := by
    rw [UInt8.toNat_ofNat', Nat.mod_eq_of_lt (by omega)]
  have hmant : mantissa.toUInt16.toNat = mantissa.toNat := by
    rw [UInt64.toNat_toUInt16, Nat.mod_eq_of_lt (by omega)]
  refine ⟨mantissa, mantissa.toUInt16, UInt8.ofNat k, fun fuel hfuel => ?_, hmin, hfits, hmant, ?_⟩
  · have hrun := hloop fuel hfuel
    rw [UInt8.zero_add] at hrun
    refine ⟨hrun, ?_⟩
    have hnot : ¬ SetConf.lgwBwGetval bw < 0 := Int32.not_lt.mpr hbw
    rw [calculateFreqToTimeDrift, if_neg hnot, hrun]
    rfl
  · rw [hmant, hmantissa, hquotient, hexp, hbwHz]
    norm_cast

/-- At 868 MHz and 125 kHz. -/
theorem calculateFreqToTimeDrift_spec_868 :
    ∃ (mantissa : UInt64) (mant : UInt16) (exp : UInt8),
      (∀ fuel, 4 < fuel →
        driftLoop fuel (quotient (SetConf.lgwBwGetval bw125khz) 868000000) 0
          = some (mantissa, exp)
          ∧ calculateFreqToTimeDrift fuel 868000000 bw125khz = some (0, some (mant, exp)))
      ∧ 2048 ≤ mantissa.toNat ∧ mantissa.toNat ≤ 65535 ∧ mant.toNat = mantissa.toNat
      ∧ (mant.toNat : ℤ) = (SetConf.lgwBwGetval bw125khz).toInt * 2 ^ 20
        / (868000000 : UInt32).toNat * 2 ^ exp.toNat :=
  calculateFreqToTimeDrift_spec (by decide) (by decide) (by decide)

end FreqDrift
