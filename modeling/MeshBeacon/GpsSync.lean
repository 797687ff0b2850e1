import MeshBeacon.Run
import Mathlib.Data.List.Induction
import Mathlib.Data.Rat.Floor

/-!
# The time reference

A point of the time reference is a value of the concentrator's counter with the UTC and the
GPS time at which it was read. `lgw_gps_sync` takes a new point if the counter has run
as fast as UTC since the last one, to ten parts in a million. A point that does not
fit is refused; but the third of them in a row is taken, since the reference itself may be
what is wrong.

Arithmetic is exact: what is a `double` in the source is a rational number here.
-/

namespace Gps

/-! ## References -/

/-- `struct timespec`. -/
structure Timespec where
  tvSec : ℤ
  tvNsec : ℤ
deriving DecidableEq

/-- `struct tref`. -/
structure Tref where
  systime : ℤ
  countUs : UInt32
  utc : Timespec
  gps : Timespec
  xtalErr : ℚ
deriving DecidableEq

/-- `TS_CPS`, counts of the counter in a second. -/
def tsCps : ℚ := 1000000

/-- `PLUS_10PPM`. -/
def plus10ppm : ℚ := 100001 / 100000

/-- `MINUS_10PPM`. -/
def minus10ppm : ℚ := 99999 / 100000

def lgwGpsSuccess : ℤ := 0

def lgwGpsError : ℤ := -1

/-- The seconds from one time to another. -/
def secondsBetween (time time' : Timespec) : ℚ :=
  ((time'.tvSec - time.tvSec : ℤ) : ℚ) + ((time'.tvNsec - time.tvNsec : ℤ) : ℚ) / 1000000000

/-! ## Synchronisation -/

/-- The arguments of a call, and the time of the system. -/
structure SyncCall where
  countUs : UInt32
  utc : Timespec
  gpsTime : Timespec
  now : ℤ

/-- `cnt_diff`, not corrected. -/
def cntDiff (ref : Tref) (call : SyncCall) : ℚ := ((call.countUs - ref.countUs).toNat : ℚ) / tsCps

/-- `utc_diff`. -/
def utcDiff (ref : Tref) (call : SyncCall) : ℚ := secondsBetween ref.utc call.utc

/-- `slope`. -/
def slope (ref : Tref) (call : SyncCall) : ℚ := cntDiff ref call / utcDiff ref call

/-- `aber_n0`. -/
def aberN0 (ref : Tref) (call : SyncCall) : Bool :=
  if utcDiff ref call ≠ 0 then slope ref call > plus10ppm || slope ref call < minus10ppm
  else true

/-- The reference, and the static variables: whether the last values were aberrant. -/
structure GpsSync where
  ref : Tref
  aberMin1 : Bool
  aberMin2 : Bool

/-- The reference at a new point. -/
def Tref.ofCall (call : SyncCall) (xtalErr : ℚ) : Tref where
  systime := call.now
  countUs := call.countUs
  utc := call.utc
  gps := call.gpsTime
  xtalErr := xtalErr

/-- `lgw_gps_sync`. -/
def lgwGpsSync (s : GpsSync) (call : SyncCall) : ℤ × GpsSync :=
  let aber := aberN0 s.ref call
  if aber = false then (lgwGpsSuccess, ⟨Tref.ofCall call (slope s.ref call), aber, s.aberMin1⟩)
  else if aber && s.aberMin1 && s.aberMin2 then
    let xtalErr :=
      if s.ref.xtalErr > plus10ppm ∨ s.ref.xtalErr < minus10ppm then 1 else s.ref.xtalErr
    (lgwGpsSuccess, ⟨Tref.ofCall call xtalErr, aber, s.aberMin1⟩)
  else (lgwGpsError, ⟨s.ref, aber, s.aberMin1⟩)

/-! ## Runs -/

/-- The state before any call. -/
def GpsSync.init (ref : Tref) : GpsSync := ⟨ref, false, false⟩

/-- The state after some calls. -/
def syncState (ref : Tref) (calls : List SyncCall) : GpsSync :=
  Run.final (fun s call => (lgwGpsSync s call).2) (GpsSync.init ref) calls

/-- What the next call returns. -/
def syncReturns (ref : Tref) (calls : List SyncCall) (call : SyncCall) : ℤ :=
  (lgwGpsSync (syncState ref calls) call).1

/-- **A point outside the slope limits**: no time of UTC has passed, or the counter has run too
fast or too slowly. -/
def Aberrant (ref : Tref) (call : SyncCall) : Prop :=
  utcDiff ref call = 0 ∨ plus10ppm < slope ref call ∨ slope ref call < minus10ppm

/-- The correction is within its limits. -/
def WithinLimits (xtalErr : ℚ) : Prop := minus10ppm ≤ xtalErr ∧ xtalErr ≤ plus10ppm

/-- **Runs of synchronisation**, from a reference on: what a call that returns an error and one
that returns success do to the reference, how many errors there are in a row, and when
a point outside the limits is taken. -/
structure SyncRuns (ref : Tref) : Prop where
  returns : ∀ calls call, syncReturns ref calls call = lgwGpsSuccess
    ∨ syncReturns ref calls call = lgwGpsError
  keeps : ∀ calls call, syncReturns ref calls call = lgwGpsError →
    (syncState ref (calls ++ [call])).ref = (syncState ref calls).ref
  stores : ∀ calls call, syncReturns ref calls call = lgwGpsSuccess →
    let ref' := (syncState ref (calls ++ [call])).ref
    ref'.countUs = call.countUs ∧ ref'.utc = call.utc ∧ ref'.gps = call.gpsTime
      ∧ WithinLimits ref'.xtalErr
  recovers : ∀ calls a b c, ¬ (syncReturns ref calls a = lgwGpsError
    ∧ syncReturns ref (calls ++ [a]) b = lgwGpsError
    ∧ syncReturns ref (calls ++ [a, b]) c = lgwGpsError)
  replaces : ∀ calls call, syncReturns ref calls call = lgwGpsSuccess →
    Aberrant (syncState ref calls).ref call →
      ∃ earlier a b, calls = earlier ++ [a, b] ∧ Aberrant (syncState ref earlier).ref a
        ∧ Aberrant (syncState ref (earlier ++ [a])).ref b

/-- A point is aberrant when it is outside the limits. -/
theorem aberN0_iff (ref : Tref) (call : SyncCall) : aberN0 ref call ↔ Aberrant ref call := by
  unfold aberN0 Aberrant
  by_cases hdiff : utcDiff ref call = 0
  · rw [if_neg (not_not.mpr hdiff)]
    exact iff_of_true rfl (Or.inl hdiff)
  · rw [if_pos hdiff, Bool.or_eq_true, decide_eq_true_iff, decide_eq_true_iff]
    exact (or_iff_right hdiff).symm

/-- **What a call does**: it takes a point within the limits, or the third outside them, and
keeps the reference otherwise. -/
theorem lgwGpsSync_cases (s : GpsSync) (call : SyncCall) :
    (¬ Aberrant s.ref call ∧ lgwGpsSync s call
        = (lgwGpsSuccess, ⟨Tref.ofCall call (slope s.ref call), false, s.aberMin1⟩))
      ∨ (Aberrant s.ref call ∧ s.aberMin1 ∧ s.aberMin2 ∧ ∃ xtalErr, WithinLimits xtalErr
        ∧ lgwGpsSync s call = (lgwGpsSuccess, ⟨Tref.ofCall call xtalErr, true, s.aberMin1⟩))
      ∨ (Aberrant s.ref call ∧ ¬ (s.aberMin1 ∧ s.aberMin2)
        ∧ lgwGpsSync s call = (lgwGpsError, ⟨s.ref, true, s.aberMin1⟩)) := by
  unfold lgwGpsSync
  dsimp only
  rw [← aberN0_iff]
  cases haber : aberN0 s.ref call with
  | false =>
    rw [if_pos rfl]
    exact Or.inl ⟨Bool.false_ne_true, rfl⟩
  | true =>
    rw [if_neg (by decide), Bool.true_and]
    refine Or.inr ?_
    by_cases hboth : s.aberMin1 && s.aberMin2
    · obtain ⟨hmin1, hmin2⟩ := Bool.and_eq_true_iff.mp hboth
      rw [if_pos hboth]
      refine Or.inl ⟨rfl, hmin1, hmin2, _, ?_, rfl⟩
      split_ifs with hlimits
      · exact ⟨by decide +kernel, by decide +kernel⟩
      · obtain ⟨hplus, hminus⟩ := not_or.mp hlimits
        exact ⟨not_lt.mp hminus, not_lt.mp hplus⟩
    · rw [if_neg hboth]
      exact Or.inr ⟨rfl, fun h => hboth (Bool.and_eq_true_iff.mpr h), rfl⟩

theorem syncState_concat (ref : Tref) (calls : List SyncCall) (call : SyncCall) :
    syncState ref (calls ++ [call]) = (lgwGpsSync (syncState ref calls) call).2 :=
  Run.final_append _ _ _

/-- The static variables remember the last two calls. -/
theorem aberMin_concat (ref : Tref) (calls : List SyncCall) (call : SyncCall) :
    ((syncState ref (calls ++ [call])).aberMin1 ↔ Aberrant (syncState ref calls).ref call)
      ∧ (syncState ref (calls ++ [call])).aberMin2 = (syncState ref calls).aberMin1 := by
  rw [syncState_concat]
  obtain ⟨haber, hcall⟩ | ⟨haber, -, -, _, -, hcall⟩ | ⟨haber, -, hcall⟩ :=
    lgwGpsSync_cases (syncState ref calls) call
  · rw [hcall]
    exact ⟨iff_of_false Bool.false_ne_true haber, rfl⟩
  · rw [hcall]
    exact ⟨iff_of_true rfl haber, rfl⟩
  · rw [hcall]
    exact ⟨iff_of_true rfl haber, rfl⟩

theorem syncReturns_cases (ref : Tref) (calls : List SyncCall) (call : SyncCall) :
    (syncReturns ref calls call = lgwGpsSuccess
        ∧ ∃ xtalErr, WithinLimits xtalErr
          ∧ (syncState ref (calls ++ [call])).ref = Tref.ofCall call xtalErr)
      ∨ (syncReturns ref calls call = lgwGpsError ∧ Aberrant (syncState ref calls).ref call
        ∧ ¬ ((syncState ref calls).aberMin1 ∧ (syncState ref calls).aberMin2)
        ∧ (syncState ref (calls ++ [call])).ref = (syncState ref calls).ref) := by
  unfold syncReturns
  rw [syncState_concat]
  obtain ⟨haber, hcall⟩ | ⟨-, -, -, xtalErr, hlimits, hcall⟩ | ⟨haber, hmin, hcall⟩ :=
    lgwGpsSync_cases (syncState ref calls) call
  · obtain ⟨-, hplus, hminus⟩ := not_or.mp haber |>.imp id not_or.mp
    rw [hcall]
    exact Or.inl ⟨rfl, _, ⟨not_lt.mp hminus, not_lt.mp hplus⟩, rfl⟩
  · rw [hcall]
    exact Or.inl ⟨rfl, xtalErr, hlimits, rfl⟩
  · rw [hcall]
    exact Or.inr ⟨rfl, haber, hmin, rfl⟩

/-- When both static variables are set the last two calls were of aberrant points. -/
theorem aberrant_of_aberMin (ref : Tref) {calls : List SyncCall}
    (h1 : (syncState ref calls).aberMin1) (h2 : (syncState ref calls).aberMin2) :
    ∃ earlier a b, calls = earlier ++ [a, b] ∧ Aberrant (syncState ref earlier).ref a
      ∧ Aberrant (syncState ref (earlier ++ [a])).ref b := by
  obtain rfl | ⟨earlier', b, rfl⟩ := calls.eq_nil_or_concat'
  · exact absurd h1 Bool.false_ne_true
  · obtain ⟨hb, hprevious⟩ := aberMin_concat ref earlier' b
    rw [hprevious] at h2
    obtain rfl | ⟨earlier, a, rfl⟩ := earlier'.eq_nil_or_concat'
    · exact absurd h2 Bool.false_ne_true
    · exact ⟨earlier, a, b, List.append_assoc _ _ _, (aberMin_concat ref earlier a).1.mp h2,
        hb.mp h1⟩

/-- **Every run of synchronisation**, from any reference. -/
theorem lgwGpsSync_runs (ref : Tref) : SyncRuns ref where
  returns calls call := (syncReturns_cases ref calls call).imp And.left And.left
  keeps calls call h := by
    obtain ⟨hsuccess, -⟩ | ⟨-, -, -, href⟩ := syncReturns_cases ref calls call
    · exact absurd (hsuccess.symm.trans h) (by decide)
    · exact href
  stores calls call h := by
    obtain ⟨-, xtalErr, hlimits, href⟩ | ⟨herror, -⟩ := syncReturns_cases ref calls call
    · rw [href]
      exact ⟨rfl, rfl, rfl, hlimits⟩
    · exact absurd (h.symm.trans herror) (by decide)
  recovers calls a b c := by
    rintro ⟨ha, hb, hc⟩
    have haberrant : ∀ {calls call}, syncReturns ref calls call = lgwGpsError →
        Aberrant (syncState ref calls).ref call
          ∧ ¬ ((syncState ref calls).aberMin1 ∧ (syncState ref calls).aberMin2) := by
      intro calls call h
      obtain ⟨hsuccess, -⟩ | ⟨-, haber, hmin, -⟩ := syncReturns_cases ref calls call
      · exact absurd (hsuccess.symm.trans h) (by decide)
      · exact ⟨haber, hmin⟩
    -- after two errors both static variables are set
    obtain ⟨hmin1, -⟩ := aberMin_concat ref calls a
    obtain ⟨hmin1', hmin2'⟩ := aberMin_concat ref (calls ++ [a]) b
    rw [List.append_assoc] at hmin1' hmin2'
    refine (haberrant hc).2 ⟨hmin1'.mpr (haberrant hb).1, ?_⟩
    rw [show [a, b] = [a] ++ [b] from rfl, hmin2']
    exact hmin1.mpr (haberrant ha).1
  replaces calls call h haber := by
    obtain ⟨hnot, -⟩ | ⟨-, hmin1, hmin2, -⟩ | ⟨-, -, hcall⟩ :=
      lgwGpsSync_cases (syncState ref calls) call
    · exact absurd haber hnot
    · exact aberrant_of_aberMin ref hmin1 hmin2
    · have herror : lgwGpsError = lgwGpsSuccess := (congrArg Prod.fst hcall).symm.trans h
      exact absurd herror (by decide)

end Gps
