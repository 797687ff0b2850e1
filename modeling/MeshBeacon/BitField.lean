import Mathlib.Algebra.GroupWithZero.Nat
import Mathlib.Data.Nat.Bitwise
import Mathlib.Tactic.Common

/-!
# Fields of bits in a word

A word of `w` bits is shared by several fields, each of so many bits from an offset on. To
write one of them the word is read, the bits of the field are replaced, and the word is
written: `insert` is the middle part.

Two facts say what it does, and both are about bits. In the field are then the low bits of
what was inserted, whatever its other bits are; and a field that has no bit in common with
it is what it was.
-/

namespace BitField

variable {w : ℕ}

/-- The bits of a field. -/
def mask (offs leng : ℕ) : BitVec w := BitVec.ofNat w (((1 <<< leng) - 1) <<< offs)

/-- The word with other bits in a field. -/
def insert (offs leng : ℕ) (old data : BitVec w) : BitVec w :=
  (~~~mask offs leng &&& old) ||| (mask offs leng &&& data <<< offs)

/-- The number in a field. -/
def get (offs leng : ℕ) (b : BitVec w) : ℕ := (b.toNat >>> offs) % 2 ^ leng

/-- **Two fields have no bit in common.** -/
def Apart (offs leng offs' leng' : ℕ) : Prop := offs + leng ≤ offs' ∨ offs' + leng' ≤ offs

instance (offs leng offs' leng' : ℕ) : Decidable (Apart offs leng offs' leng') :=
  inferInstanceAs (Decidable (_ ∨ _))

theorem Apart.symm {offs leng offs' leng' : ℕ} (h : Apart offs leng offs' leng') :
    Apart offs' leng' offs leng :=
  Or.symm h

variable {offs leng : ℕ}

/-- The bits of a number that is all ones, shifted. -/
theorem getLsbD_mask (i : ℕ) : (mask offs leng : BitVec w).getLsbD i
    = (decide (i < w) && (decide (offs ≤ i) && decide (i - offs < leng))) := by
  rw [mask, BitVec.getLsbD_ofNat, Nat.testBit_shiftLeft, Nat.one_shiftLeft,
    Nat.testBit_two_pow_sub_one]

/-- A bit of the field is one of what is inserted, another bit is the old one. -/
theorem getLsbD_insert (old data : BitVec w) {i : ℕ} (hi : i < w) :
    (insert offs leng old data).getLsbD i
      = if offs ≤ i ∧ i - offs < leng then data.getLsbD (i - offs) else old.getLsbD i := by
  rw [insert, BitVec.getLsbD_or, BitVec.getLsbD_and, BitVec.getLsbD_and, BitVec.getLsbD_not,
    BitVec.getLsbD_shiftLeft, getLsbD_mask]
  by_cases hoffs : offs ≤ i
  · by_cases hleng : i - offs < leng
    · simp [hi, hoffs, hleng]
    · simp [hi, hoffs, hleng]
  · simp [hi, hoffs]

theorem testBit_get (b : BitVec w) (i : ℕ) :
    (get offs leng b).testBit i = (decide (i < leng) && b.getLsbD (offs + i)) := by
  rw [get, Nat.testBit_mod_two_pow, Nat.testBit_shiftRight]
  rfl

/-- **The field holds the low bits of what was inserted.** -/
theorem get_insert_self (hfits : offs + leng ≤ w) (old data : BitVec w) :
    get offs leng (insert offs leng old data) = data.toNat % 2 ^ leng := by
  refine Nat.eq_of_testBit_eq fun i => ?_
  rw [testBit_get, Nat.testBit_mod_two_pow]
  by_cases hi : i < leng
  · have hfield : offs ≤ offs + i ∧ offs + i - offs < leng := by omega
    rw [getLsbD_insert _ _ (by omega), if_pos hfield, Nat.add_sub_cancel_left]
    rfl
  · simp only [hi, decide_false, Bool.false_and]

/-- **The other fields are what they were.** -/
theorem get_insert_of_apart {offs' leng' : ℕ} (h : Apart offs leng offs' leng')
    (old data : BitVec w) : get offs' leng' (insert offs leng old data) = get offs' leng' old := by
  refine Nat.eq_of_testBit_eq fun i => ?_
  rw [testBit_get, testBit_get]
  by_cases hi : i < leng'
  · by_cases hw : offs' + i < w
    · have hother : ¬ (offs ≤ offs' + i ∧ offs' + i - offs < leng) := by
        unfold Apart at h
        omega
      rw [getLsbD_insert _ _ hw, if_neg hother]
    · rw [BitVec.getLsbD_of_ge _ _ (by omega), BitVec.getLsbD_of_ge _ _ (by omega)]
  · simp only [hi, decide_false, Bool.false_and]

@[simp] theorem get_zero (offs leng : ℕ) : get offs leng (0 : BitVec w) = 0 := by
  simp [get]

/-- The word that is one field is what is inserted. -/
theorem insert_whole (old data : BitVec w) : insert 0 w old data = data := by
  refine BitVec.eq_of_getLsbD_eq fun i hi => ?_
  rw [getLsbD_insert _ _ hi, if_pos ⟨Nat.zero_le _, hi⟩, Nat.sub_zero]

end BitField
