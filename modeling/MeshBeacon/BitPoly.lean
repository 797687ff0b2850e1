import Mathlib.Algebra.CharP.Two
import Mathlib.Algebra.Field.ZMod
import Mathlib.Algebra.Polynomial.Div
import Mathlib.Data.Nat.Bitwise
import Mathlib.Tactic.LinearCombination

/-!
# Words of bits as polynomials

The bits of a word are the coefficients of a polynomial over the integers modulo two, and the
exclusive or is its sum. A cyclic redundancy check is a remainder of such polynomials. It is
kept in a register of `w` bits, and a step of its computation is right when the generator
divides what the register should hold less what it does; how the step is computed is not
said here, and may be bit by bit or all at once.
-/

namespace BitPoly

open Polynomial

/-- A bit as a number. -/
def bit (b : Bool) : ZMod 2 := if b then 1 else 0

@[simp] theorem bit_xor (a b : Bool) : bit (a ^^ b) = bit a + bit b := by
  cases a <;> cases b <;> decide

theorem bit_injective : Function.Injective bit := by
  intro a b
  cases a <;> cases b <;> decide

theorem two_eq_zero : (2 : (ZMod 2)[X]) = 0 := CharTwo.two_eq_zero

/-! ## Words -/

/-- The polynomial of the lowest bits of a word. -/
noncomputable def ofWord (w x : ℕ) : (ZMod 2)[X] :=
  ∑ i ∈ Finset.range w, C (bit (x.testBit i)) * X ^ i

variable {w x y : ℕ}

theorem coeff_ofWord (w x i : ℕ) :
    (ofWord w x).coeff i = if i < w then bit (x.testBit i) else 0 := by
  rw [ofWord, finsetSum_coeff]
  simp only [coeff_C_mul_X_pow]
  rw [Finset.sum_ite_eq (Finset.range w) i fun j => bit (x.testBit j)]
  simp only [Finset.mem_range]

/-- An empty register is congruent to nothing. -/
theorem dvd_zero_sub_ofWord (g : (ZMod 2)[X]) (w : ℕ) : g ∣ 0 - ofWord w 0 := by
  have hzero : ofWord w 0 = 0 := by
    ext i
    rw [coeff_ofWord, Nat.zero_testBit, coeff_zero]
    exact ite_self _
  rw [hzero, sub_zero]
  exact dvd_zero g

theorem degree_ofWord_lt (w x : ℕ) : (ofWord w x).degree < w := by
  refine (degree_lt_iff_coeff_zero _ _).mpr fun i hi => ?_
  rw [coeff_ofWord, if_neg (Nat.not_lt.mpr hi)]

/-- **The exclusive or is the sum.** -/
theorem ofWord_xor (w x y : ℕ) : ofWord w (x ^^^ y) = ofWord w x + ofWord w y := by
  ext i
  rw [coeff_add, coeff_ofWord, coeff_ofWord, coeff_ofWord, Nat.testBit_xor, bit_xor]
  split_ifs
  · rfl
  · rw [add_zero]

theorem ofWord_mod (w x : ℕ) : ofWord w (x % 2 ^ w) = ofWord w x := by
  ext i
  rw [coeff_ofWord, coeff_ofWord, Nat.testBit_mod_two_pow]
  split_ifs with hi
  · rw [decide_eq_true hi, Bool.true_and]
  · rfl

theorem ofWord_inj (hx : x < 2 ^ w) (hy : y < 2 ^ w) (h : ofWord w x = ofWord w y) : x = y := by
  refine Nat.eq_of_testBit_eq fun i => ?_
  by_cases hi : i < w
  · have hcoeff := congrArg (fun p => p.coeff i) h
    simp only [coeff_ofWord, if_pos hi] at hcoeff
    exact bit_injective hcoeff
  · have hpow : 2 ^ w ≤ 2 ^ i := Nat.pow_le_pow_right Nat.two_pos (Nat.le_of_not_lt hi)
    rw [Nat.testBit_lt_two_pow (hx.trans_le hpow), Nat.testBit_lt_two_pow (hy.trans_le hpow)]

/-- **Doubling the word moves it up**, and the highest bit out of it. -/
theorem X_mul_ofWord (w x : ℕ) : X * ofWord (w + 1) x
    = ofWord (w + 1) (2 * x) + C (bit (x.testBit w)) * X ^ (w + 1) := by
  ext i
  cases i with
  | zero =>
    rw [coeff_X_mul_zero, coeff_add, coeff_ofWord, coeff_C_mul_X_pow, if_pos (Nat.succ_pos w),
      if_neg (Nat.succ_ne_zero w).symm, add_zero, Nat.testBit_zero]
    simp [bit]
  | succ i =>
    rw [coeff_X_mul, coeff_add, coeff_ofWord, coeff_ofWord, coeff_C_mul_X_pow, Nat.testBit_succ,
      Nat.mul_div_cancel_left x Nat.two_pos]
    rcases Nat.lt_trichotomy i w with hlt | rfl | hgt
    · rw [if_pos (by omega), if_pos (by omega), if_neg (by omega), add_zero]
    · rw [if_pos (by omega), if_neg (by omega), if_pos rfl, zero_add]
    · rw [if_neg (by omega), if_neg (by omega), if_neg (by omega), add_zero]

theorem ofWord_cons (w x : ℕ) (b : Bool) :
    ofWord (w + 1) (b.toNat + 2 * x) = C (bit b) + X * ofWord w x := by
  have hlow : (b.toNat + 2 * x).testBit 0 = b := by
    cases b <;> simp [Nat.testBit_zero]
  have hhigh : (b.toNat + 2 * x) / 2 = x := by
    cases b <;> simp only [Bool.toNat_true, Bool.toNat_false] <;> omega
  ext i
  cases i with
  | zero =>
    rw [coeff_add, coeff_X_mul_zero, coeff_C_zero, coeff_ofWord, hlow, if_pos (Nat.succ_pos w),
      add_zero]
  | succ i =>
    rw [coeff_add, coeff_X_mul, coeff_C_succ, coeff_ofWord, coeff_ofWord, Nat.testBit_succ, hhigh,
      zero_add]
    simp only [Nat.add_lt_add_iff_right]

@[simp] theorem ofWord_zero_width (x : ℕ) : ofWord 0 x = 0 := rfl

theorem ofWord_mul_two_pow (w k x : ℕ) : ofWord (w + k) (x * 2 ^ k) = X ^ k * ofWord w x := by
  induction k with
  | zero => rw [pow_zero, pow_zero, mul_one, one_mul, Nat.add_zero]
  | succ k ih =>
    have hcons := ofWord_cons (w + k) (x * 2 ^ k) false
    rw [ih, Bool.toNat_false, Nat.zero_add, show bit false = 0 from rfl, C_0, zero_add] at hcons
    rw [← Nat.add_assoc, show x * 2 ^ (k + 1) = 2 * (x * 2 ^ k) by ring, hcons]
    ring

/-- The polynomial of a message, the first byte highest. -/
noncomputable def ofBytes (bytes : List ℕ) : (ZMod 2)[X] :=
  bytes.foldl (fun p b => X ^ 8 * p + ofWord 8 b) 0

theorem ofBytes_append_singleton (bytes : List ℕ) (b : ℕ) :
    ofBytes (bytes ++ [b]) = X ^ 8 * ofBytes bytes + ofWord 8 b := by
  rw [ofBytes, List.foldl_append]
  rfl

/-- A factor of every byte is one of the message. -/
theorem foldl_mul_ofWord (c p : (ZMod 2)[X]) (bytes : List ℕ) :
    bytes.foldl (fun p b => X ^ 8 * p + c * ofWord 8 b) (c * p)
      = c * bytes.foldl (fun p b => X ^ 8 * p + ofWord 8 b) p := by
  induction bytes generalizing p with
  | nil => rfl
  | cons b bytes ih =>
    rw [List.foldl_cons, List.foldl_cons, ← ih]
    congr 1
    ring

/-! ## Checks -/

/-- The generator with these bits below its highest. -/
noncomputable def generator (w taps : ℕ) : (ZMod 2)[X] := X ^ w + ofWord w taps

theorem monic_generator (w taps : ℕ) : (generator w taps).Monic :=
  monic_X_pow_add (degree_ofWord_lt w taps)

theorem degree_generator (w taps : ℕ) : (generator w taps).degree = w := by
  rw [generator, degree_add_eq_left_of_degree_lt, degree_X_pow]
  rw [degree_X_pow]
  exact degree_ofWord_lt w taps

/-- **A register that is congruent to a polynomial holds its remainder.** -/
theorem ofWord_eq_modByMonic {taps : ℕ} {p : (ZMod 2)[X]} (h : generator w taps ∣ p - ofWord w x) :
    ofWord w x = p %ₘ generator w taps := by
  have hself : ofWord w x %ₘ generator w taps = ofWord w x := by
    rw [modByMonic_eq_self_iff (monic_generator w taps), degree_generator]
    exact degree_ofWord_lt w x
  rw [← hself]
  exact (modByMonic_eq_of_dvd_sub (monic_generator w taps) h).symm

/-- One bit is moved out of the register: when it is set the generator is subtracted. -/
def shift (w taps x : ℕ) : ℕ :=
  if x.testBit (w - 1) then (2 * x % 2 ^ w) ^^^ taps else 2 * x % 2 ^ w

/-- **Moving out a bit multiplies by `X`.** -/
theorem dvd_shift (w taps x : ℕ) : generator (w + 1) taps ∣
    X * ofWord (w + 1) x - ofWord (w + 1) (shift (w + 1) taps x) := by
  rw [X_mul_ofWord, shift, Nat.add_sub_cancel]
  split_ifs with hbit
  · refine ⟨1, ?_⟩
    rw [hbit, ofWord_xor, ofWord_mod, generator, show bit true = 1 from rfl, C_1]
    linear_combination -ofWord (w + 1) taps * two_eq_zero
  · refine ⟨0, ?_⟩
    rw [Bool.eq_false_iff.mpr hbit, ofWord_mod, show bit false = 0 from rfl, C_0]
    ring

theorem dvd_iterate_shift (w taps n x : ℕ) : generator (w + 1) taps ∣
    X ^ n * ofWord (w + 1) x - ofWord (w + 1) ((shift (w + 1) taps)^[n] x) := by
  induction n generalizing x with
  | zero => simp
  | succ n ih =>
    have hstep := (dvd_shift w taps x).mul_left (X ^ n)
    rw [Function.iterate_succ_apply]
    have hsum : X ^ (n + 1) * ofWord (w + 1) x
        - ofWord (w + 1) ((shift (w + 1) taps)^[n] (shift (w + 1) taps x))
        = X ^ n * (X * ofWord (w + 1) x - ofWord (w + 1) (shift (w + 1) taps x))
          + (X ^ n * ofWord (w + 1) (shift (w + 1) taps x)
            - ofWord (w + 1) ((shift (w + 1) taps)^[n] (shift (w + 1) taps x))) := by ring
    rw [hsum]
    exact dvd_add hstep (ih _)

/-- **The fold rule.** Where each step is right the register is congruent, at the end, to the
polynomial of all that was put in. -/
theorem dvd_foldl {σ β : Type*} {g : (ZMod 2)[X]} {word : σ → (ZMod 2)[X]}
    {digit : β → (ZMod 2)[X]} {next : σ → β → σ}
    (hstep : ∀ r b, g ∣ X ^ 8 * word r + digit b - word (next r b)) (bs : List β)
    {p : (ZMod 2)[X]} {r : σ} (hr : g ∣ p - word r) :
    g ∣ bs.foldl (fun p b => X ^ 8 * p + digit b) p - word (bs.foldl next r) := by
  induction bs generalizing p r with
  | nil => exact hr
  | cons b bs ih =>
    refine ih ?_
    have hsum : X ^ 8 * p + digit b - word (next r b)
        = X ^ 8 * (p - word r) + (X ^ 8 * word r + digit b - word (next r b)) := by ring
    rw [hsum]
    exact dvd_add (hr.mul_left _) (hstep r b)

end BitPoly
