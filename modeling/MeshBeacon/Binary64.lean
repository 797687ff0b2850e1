import Mathlib.Data.Nat.Log
import Mathlib.Tactic.Common
import Mathlib.Tactic.Linarith
import Mathlib.Tactic.Ring

/-!
# Quotients in double precision

A quotient of two natural numbers, computed in IEEE 754 double precision, is
the multiple of a power of two with a 53-bit significand that is nearest to
the exact quotient, ties going to the even significand. `Binary64.div` gives
it as a significand and the number of places the point is shifted, so the
double is `mant / 2 ^ shift` and the arithmetic is all on natural numbers.

The quotients meant here are positive and below `2 ^ 53`: nothing overflows,
nothing is subnormal. What a program reads off such a number afterwards is
usually its whole part, and what one needs to know about it is that it exceeds
the exact one by next to nothing (`Binary64.div_le`).
-/

/-- A double: a significand and the number of binary places behind the
point. -/
structure Binary64 where
  /-- The significand. -/
  mant : ℕ
  /-- The number of binary places. -/
  shift : ℕ
deriving DecidableEq

namespace Binary64

/-- The whole number nearest to `a / b`, the even one of two. -/
def nearest (a b : ℕ) : ℕ :=
  if 2 * (a % b) < b then a / b
  else if b < 2 * (a % b) then a / b + 1
  else if (a / b) % 2 = 0 then a / b
  else a / b + 1

/-- The places that bring `a / b` between `2 ^ 52` and `2 ^ 53`. -/
def places (a b : ℕ) : ℕ :=
  let s := 52 + Nat.log2 b - Nat.log2 a
  if a * 2 ^ s < 2 ^ 52 * b then s + 1 else s

/-- The quotient `a / b` in double precision. -/
def div (a b : ℕ) : Binary64 where
  mant := nearest (a * 2 ^ places a b) b
  shift := places a b

/-- A double times a small whole number, in double precision. -/
def mul (x : Binary64) (k : ℕ) : Binary64 := div (k * x.mant) (2 ^ x.shift)

/-- The whole part, as a conversion to an integer type takes it. -/
def trunc (x : Binary64) : ℕ := x.mant / 2 ^ x.shift

theorem nearest_mul_le (a : ℕ) {b : ℕ} (hb : 0 < b) : nearest a b * b ≤ a + b := by
  have hdiv : a / b * b ≤ a := Nat.div_mul_le_self a b
  unfold nearest
  split_ifs
  · omega
  · rw [Nat.add_mul]; omega
  · omega
  · rw [Nat.add_mul]; omega

/-- The quotient shifted has its 53 bits, unless it was too large to begin
with. -/
theorem le_mul_places {a : ℕ} (ha : a ≠ 0) (b : ℕ) :
    2 ^ 52 * b ≤ a * 2 ^ places a b := by
  unfold places
  dsimp only
  have halog : 2 ^ Nat.log2 a ≤ a := Nat.log2_self_le ha
  have hblog : b < 2 ^ (Nat.log2 b + 1) := Nat.lt_log2_self
  split_ifs with h
  · -- the first estimate is short by at most one place
    have hpow : 2 ^ (52 + Nat.log2 b) ≤ 2 ^ Nat.log2 a * 2 ^ (52 + Nat.log2 b - Nat.log2 a) := by
      rw [← pow_add]
      exact Nat.pow_le_pow_right (by decide) (by omega)
    calc 2 ^ 52 * b ≤ 2 ^ 52 * 2 ^ (Nat.log2 b + 1) := Nat.mul_le_mul_left _ hblog.le
      _ = 2 ^ (52 + Nat.log2 b) * 2 := by rw [← pow_add, ← pow_succ]; ring_nf
      _ ≤ 2 ^ Nat.log2 a * 2 ^ (52 + Nat.log2 b - Nat.log2 a) * 2 := Nat.mul_le_mul_right _ hpow
      _ ≤ a * 2 ^ (52 + Nat.log2 b - Nat.log2 a) * 2 :=
        Nat.mul_le_mul_right _ (Nat.mul_le_mul_right _ halog)
      _ = a * 2 ^ (52 + Nat.log2 b - Nat.log2 a + 1) := by rw [pow_succ, mul_assoc]
  · exact Nat.le_of_not_lt h

/-- **A rounded quotient exceeds the exact one by next to nothing**: here, by
at most a ten thousandth of it. -/
theorem div_le (a : ℕ) {b : ℕ} (hb : 0 < b) :
    10000 * ((div a b).mant * b) ≤ 10001 * (a * 2 ^ (div a b).shift) := by
  show 10000 * (nearest (a * 2 ^ places a b) b * b) ≤ 10001 * (a * 2 ^ places a b)
  rcases Nat.eq_zero_or_pos a with rfl | ha
  · have hzero : nearest (0 * 2 ^ places 0 b) b = 0 := by
      rw [Nat.zero_mul, nearest, Nat.zero_mod, if_pos (by omega), Nat.zero_div]
    rw [hzero, Nat.zero_mul]
    exact Nat.zero_le _
  · have hplaces := le_mul_places ha.ne' b
    have hround := nearest_mul_le (a * 2 ^ places a b) hb
    omega

/-- The whole part of a rounded multiple of a rounded quotient, against the
exact multiple: the two roundings add up. -/
theorem trunc_mul_div_le (a k : ℕ) {b : ℕ} (hb : 0 < b) :
    100000000 * (((div a b).mul k).trunc * b) ≤ 100020001 * (k * a) := by
  have hx := div_le a hb
  have hy := div_le (k * (div a b).mant) (Nat.two_pow_pos (div a b).shift)
  have htrunc := Nat.div_mul_le_self ((div a b).mul k).mant (2 ^ ((div a b).mul k).shift)
  change 10000 * (((div a b).mul k).mant * 2 ^ (div a b).shift)
    ≤ 10001 * (k * (div a b).mant * 2 ^ ((div a b).mul k).shift) at hy
  change ((div a b).mul k).trunc * 2 ^ ((div a b).mul k).shift ≤ _ at htrunc
  generalize ((div a b).mul k).trunc = t at htrunc ⊢
  generalize ((div a b).mul k).mant = m' at htrunc hy
  generalize (div a b).mant = m at hx hy
  have hs := Nat.two_pow_pos (div a b).shift
  have hs' := Nat.two_pow_pos ((div a b).mul k).shift
  generalize 2 ^ (div a b).shift = s at hx hy hs
  generalize 2 ^ ((div a b).mul k).shift = s' at hy htrunc hs'
  -- both powers of two cancel once the three estimates are multiplied out
  refine Nat.le_of_mul_le_mul_right (c := s' * s) ?_ (Nat.mul_pos hs' hs)
  calc 100000000 * (t * b) * (s' * s)
      = 100000000 * b * s * (t * s') := by ring
    _ ≤ 100000000 * b * s * m' := Nat.mul_le_mul_left _ htrunc
    _ = 10000 * b * (10000 * (m' * s)) := by ring
    _ ≤ 10000 * b * (10001 * (k * m * s')) := Nat.mul_le_mul_left _ hy
    _ = 10001 * k * s' * (10000 * (m * b)) := by ring
    _ ≤ 10001 * k * s' * (10001 * (a * s)) := Nat.mul_le_mul_left _ hx
    _ = 100020001 * (k * a) * (s' * s) := by ring

end Binary64
