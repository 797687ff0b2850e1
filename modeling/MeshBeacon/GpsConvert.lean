import MeshBeacon.GpsSync
import Mathlib.Algebra.Order.Floor.Ring
import Mathlib.Tactic.FieldSimp
import Mathlib.Tactic.Linarith
import Mathlib.Tactic.Ring

/-!
# Converting counter values and times

A value of the counter is a time after that of the reference, and a time is a value of the
counter after that of the reference. Both conversions drop what is less than a
unit: of the time a part of a nanosecond, and of the counter a part of a microsecond.
So the way there and back may lose a count, but no more: a nanosecond is much less.

The counter is taken to have wrapped when it is less than at the reference; a time
before the reference is never meant.
-/

namespace Gps

/-! ## The functions -/

/-- The integer towards zero: what `modf` and the casts keep. -/
def truncate (x : ℚ) : ℤ := if 0 ≤ x then ⌊x⌋ else ⌈x⌉

/-- The reference is refused. -/
def InvalidReference (ref : Tref) : Prop :=
  ref.systime = 0 ∨ ref.xtalErr > plus10ppm ∨ ref.xtalErr < minus10ppm

instance (ref : Tref) : Decidable (InvalidReference ref) :=
  inferInstanceAs (Decidable (_ ∨ _ ∨ _))

/-- The time of a counter value, from the time of the reference. -/
def cntToTime (ref : Tref) (base : Timespec) (countUs : UInt32) : Option Timespec :=
  if InvalidReference ref then none
  else
    let deltaSec := ((countUs - ref.countUs).toNat : ℚ) / (tsCps * ref.xtalErr)
    let intpart := truncate deltaSec
    let fractpart := deltaSec - intpart
    let tmp := base.tvNsec + truncate (fractpart * 1000000000)
    if tmp < 1000000000 then some ⟨base.tvSec + intpart, tmp⟩
    -- a second is carried
    else some ⟨base.tvSec + intpart + 1, tmp - 1000000000⟩

/-- The counter value of a time, from the time of the reference. -/
def timeToCnt (ref : Tref) (base time : Timespec) : Option UInt32 :=
  if InvalidReference ref then none
  else
    let deltaSec := secondsBetween base time
    some (ref.countUs + UInt32.ofInt (truncate (deltaSec * tsCps * ref.xtalErr)))

/-- `lgw_cnt2utc`. -/
def lgwCnt2utc (ref : Tref) (countUs : UInt32) : Option Timespec := cntToTime ref ref.utc countUs

/-- `lgw_utc2cnt`. -/
def lgwUtc2cnt (ref : Tref) (utc : Timespec) : Option UInt32 := timeToCnt ref ref.utc utc

/-- `lgw_cnt2gps`. -/
def lgwCnt2gps (ref : Tref) (countUs : UInt32) : Option Timespec := cntToTime ref ref.gps countUs

/-- `lgw_gps2cnt`. -/
def lgwGps2cnt (ref : Tref) (gpsTime : Timespec) : Option UInt32 := timeToCnt ref ref.gps gpsTime

/-! ## The way there and back -/

/-- The nanoseconds are less than a second. -/
def Timespec.Normal (time : Timespec) : Prop := 0 ≤ time.tvNsec ∧ time.tvNsec < 1000000000

/-- **A valid reference.** -/
structure ValidReference (ref : Tref) : Prop where
  systime : ref.systime ≠ 0
  xtalErr : WithinLimits ref.xtalErr
  utc : ref.utc.Normal
  gps : ref.gps.Normal

/-- **A count is lost at most**: the time of a counter value is normal, and it is converted
to that value or to the one before. -/
def LosesACount (there : UInt32 → Option Timespec) (back : Timespec → Option UInt32)
    (countUs : UInt32) : Prop :=
  ∃ time, there countUs = some time ∧ time.Normal
    ∧ (back time = some countUs ∨ back time = some (countUs - 1))

theorem ValidReference.not_invalid {ref : Tref} (h : ValidReference ref) :
    ¬ InvalidReference ref := by
  rintro (hsystime | hplus | hminus)
  · exact h.systime hsystime
  · exact absurd h.xtalErr.2 (not_le.mpr hplus)
  · exact absurd h.xtalErr.1 (not_le.mpr hminus)

theorem truncate_of_nonneg {x : ℚ} (h : 0 ≤ x) : truncate x = ⌊x⌋ := if_pos h

/-- What is less than a second is kept as nanoseconds. -/
theorem fract_nanos {x : ℚ} (h : 0 ≤ x) :
    0 ≤ (x - truncate x) * 1000000000 ∧ (x - truncate x) * 1000000000 < 1000000000 := by
  have hle := Int.floor_le x
  have hlt := Int.lt_floor_add_one x
  rw [truncate_of_nonneg h]
  constructor <;> linarith

theorem truncate_nanos {x : ℚ} (h : 0 ≤ x) :
    0 ≤ truncate ((x - truncate x) * 1000000000)
      ∧ truncate ((x - truncate x) * 1000000000) < 1000000000 := by
  obtain ⟨hnonneg, hlt⟩ := fract_nanos h
  rw [truncate_of_nonneg hnonneg]
  refine ⟨Int.floor_nonneg.mpr hnonneg, Int.floor_lt.mpr ?_⟩
  push_cast
  exact hlt

/-- **The whole seconds and the nanoseconds of the rest** are the nanoseconds of all of it. -/
theorem truncate_parts {x : ℚ} (h : 0 ≤ x) :
    truncate x * 1000000000 + truncate ((x - truncate x) * 1000000000) = ⌊x * 1000000000⌋ := by
  rw [truncate_of_nonneg (fract_nanos h).1, ← Int.floor_intCast_add]
  congr 1
  push_cast
  ring

/-- The counts since the reference, in seconds. -/
def elapsed (ref : Tref) (countUs : UInt32) : ℚ :=
  ((countUs - ref.countUs).toNat : ℚ) / (tsCps * ref.xtalErr)

section Conversion

variable {ref : Tref} {base : Timespec}

theorem scale_pos (h : ValidReference ref) : 0 < tsCps * ref.xtalErr := by
  have hlow := h.xtalErr.1
  unfold minus10ppm at hlow
  unfold tsCps
  linarith

theorem elapsed_nonneg (h : ValidReference ref) (countUs : UInt32) : 0 ≤ elapsed ref countUs :=
  div_nonneg (Nat.cast_nonneg _) (scale_pos h).le

/-- **The time of a counter value** is normal, and as many nanoseconds after the reference as
the counts are in whole. -/
theorem cntToTime_spec (h : ValidReference ref) (hbase : base.Normal) (countUs : UInt32) :
    ∃ time, cntToTime ref base countUs = some time ∧ time.Normal
      ∧ secondsBetween base time = (⌊elapsed ref countUs * 1000000000⌋ : ℚ) / 1000000000 := by
  have hnonneg := elapsed_nonneg h countUs
  have hparts := truncate_parts hnonneg
  obtain ⟨hlow, hhigh⟩ := truncate_nanos hnonneg
  obtain ⟨hbase0, hbase1⟩ := hbase
  unfold cntToTime
  rw [if_neg h.not_invalid]
  dsimp only
  have helapsed : ((countUs - ref.countUs).toNat : ℚ) / (tsCps * ref.xtalErr)
      = elapsed ref countUs := rfl
  rw [helapsed, ← hparts]
  generalize truncate (elapsed ref countUs) = intpart at *
  generalize truncate ((elapsed ref countUs - intpart) * 1000000000) = nanos at *
  unfold secondsBetween Timespec.Normal
  split_ifs with hcarry
  · refine ⟨_, rfl, ⟨by dsimp only; omega, hcarry⟩, ?_⟩
    push_cast
    ring
  · refine ⟨_, rfl, ⟨by dsimp only; omega, by dsimp only; omega⟩, ?_⟩
    push_cast
    ring

theorem countUs_add (ref : Tref) (countUs : UInt32) :
    ref.countUs + UInt32.ofInt ((countUs - ref.countUs).toNat : ℤ) = countUs := by
  have hlt := (countUs - ref.countUs).toNat_lt
  have hcast : UInt32.ofInt ((countUs - ref.countUs).toNat : ℤ) = countUs - ref.countUs := by
    unfold UInt32.ofInt
    rw [Int.emod_eq_of_lt (Int.natCast_nonneg _) (by exact_mod_cast hlt), Int.toNat_natCast,
      UInt32.ofNat_toNat]
  rw [hcast, UInt32.add_comm, UInt32.sub_add_cancel]

/-- Less than a nanosecond is less than a count. -/
theorem floor_nanos {x scale : ℚ} {counts : ℕ} (hx : 0 ≤ x) (hscale : 0 < scale)
    (hmax : scale < 1000000000) (hcounts : x * scale = counts) :
    0 ≤ (⌊x * 1000000000⌋ : ℚ) / 1000000000 * scale
      ∧ (⌊(⌊x * 1000000000⌋ : ℚ) / 1000000000 * scale⌋ = counts
        ∨ ⌊(⌊x * 1000000000⌋ : ℚ) / 1000000000 * scale⌋ = (counts : ℤ) + -1) := by
  have hle := Int.floor_le (x * 1000000000)
  have hlt := Int.lt_floor_add_one (x * 1000000000)
  have hnanos : (0 : ℚ) ≤ (⌊x * 1000000000⌋ : ℚ) := by
    exact_mod_cast Int.floor_nonneg.mpr (mul_nonneg hx (by norm_num))
  generalize (⌊x * 1000000000⌋ : ℚ) = nanos at *
  have hhigh : nanos / 1000000000 * scale ≤ counts := by
    rw [← hcounts]
    exact mul_le_mul_of_nonneg_right (by linarith) hscale.le
  have hlow : (counts : ℚ) - 1 ≤ nanos / 1000000000 * scale := by
    have hstep : (x - 1 / 1000000000) * scale ≤ nanos / 1000000000 * scale :=
      mul_le_mul_of_nonneg_right (by linarith) hscale.le
    linarith
  have hfloor : ⌊nanos / 1000000000 * scale⌋ ≤ counts := by
    exact_mod_cast (Int.floor_le _).trans hhigh
  have hfloor' : (counts : ℤ) - 1 ≤ ⌊nanos / 1000000000 * scale⌋ := by
    refine Int.le_floor.mpr ?_
    push_cast
    exact hlow
  exact ⟨mul_nonneg (by positivity) hscale.le, by omega⟩

/-- **The counter value of a time** that is less than a nanosecond before the counts. -/
theorem timeToCnt_spec (h : ValidReference ref) (countUs : UInt32) {time : Timespec}
    (htime : secondsBetween base time
      = (⌊elapsed ref countUs * 1000000000⌋ : ℚ) / 1000000000) :
    timeToCnt ref base time = some countUs ∨ timeToCnt ref base time = some (countUs - 1) := by
  have hscale := scale_pos h
  have hmax : tsCps * ref.xtalErr < 1000000000 := by
    have hhigh := h.xtalErr.2
    unfold plus10ppm at hhigh
    unfold tsCps
    linarith
  have hcounts : elapsed ref countUs * (tsCps * ref.xtalErr)
      = ((countUs - ref.countUs).toNat : ℚ) :=
    div_mul_cancel₀ _ hscale.ne'
  obtain ⟨hnonneg, hfloor⟩ := floor_nanos (elapsed_nonneg h countUs) hscale hmax hcounts
  have hadd := countUs_add ref countUs
  unfold timeToCnt
  rw [if_neg h.not_invalid]
  dsimp only
  rw [htime, mul_assoc, truncate_of_nonneg hnonneg]
  obtain hsame | hbefore := hfloor
  · rw [hsame, hadd]
    exact Or.inl rfl
  · rw [hbefore, UInt32.ofInt_add, ← UInt32.add_assoc, hadd, UInt32.ofInt_neg_one,
      ← UInt32.sub_eq_add_neg]
    exact Or.inr rfl

/-- The way there and back, from a time of the reference. -/
theorem losesACount (h : ValidReference ref) (hbase : base.Normal) (countUs : UInt32) :
    LosesACount (cntToTime ref base) (timeToCnt ref base) countUs := by
  obtain ⟨time, hthere, hnormal, hseconds⟩ := cntToTime_spec h hbase countUs
  exact ⟨time, hthere, hnormal, timeToCnt_spec h countUs hseconds⟩

end Conversion

/-- **A count is lost at most**, on the way to GPS time or to UTC and back, for every value of
the counter. -/
theorem lgwCnt_losesACount (ref : Tref) (h : ValidReference ref) (countUs : UInt32) :
    LosesACount (lgwCnt2gps ref) (lgwGps2cnt ref) countUs
      ∧ LosesACount (lgwCnt2utc ref) (lgwUtc2cnt ref) countUs :=
  ⟨losesACount h h.gps countUs, losesACount h h.utc countUs⟩

/-- A reference whose counter is about to wrap, and a value after that. -/
theorem lgwCnt_losesACount_wrapped :
    let ref : Tref := ⟨1, 0xFFFFFFF0, ⟨1000, 999999999⟩, ⟨2000, 0⟩, 100001 / 100000⟩
    LosesACount (lgwCnt2gps ref) (lgwGps2cnt ref) 7
      ∧ LosesACount (lgwCnt2utc ref) (lgwUtc2cnt ref) 7 :=
  lgwCnt_losesACount _ ⟨by decide, ⟨by decide +kernel, by decide +kernel⟩, by
    unfold Timespec.Normal; decide, by unfold Timespec.Normal; decide⟩ 7

end Gps
