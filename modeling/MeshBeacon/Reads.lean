import Mathlib.Data.List.Range
import Mathlib.Tactic.Common

/-!
# Reading a list at offsets

A parser in C never sees a list, only bytes at offsets from a pointer, and what lies
behind the bytes it was given is there to be read as well. `Reads` says of such a memory
that it begins with the bytes of a list. It splits over a concatenation, so that a layout is
taken apart piece by piece.
-/

/-- The bytes at the first offsets are those of the list. -/
def Reads (rd : ℕ → UInt8) (l : List UInt8) : Prop := ∀ i b, l[i]? = some b → rd i = b

/-- The memory that begins with a list. -/
def memoryOf (l : List UInt8) (past : ℕ → UInt8) (i : ℕ) : UInt8 := l[i]?.getD (past i)

theorem reads_memoryOf (l : List UInt8) (past : ℕ → UInt8) : Reads (memoryOf l past) l := by
  intro i b hb
  unfold memoryOf
  rw [hb, Option.getD_some]

theorem reads_memoryOf_of_eq {l l' : List UInt8} (h : l = l') (past : ℕ → UInt8) :
    Reads (memoryOf l past) l' := by
  subst h
  exact reads_memoryOf l past

namespace Reads

variable {rd : ℕ → UInt8} {l l' : List UInt8}

theorem left (h : Reads rd (l ++ l')) : Reads rd l := by
  intro i b hb
  refine h i b ?_
  obtain ⟨hi, -⟩ := List.getElem?_eq_some_iff.mp hb
  rw [List.getElem?_append_left hi, hb]

theorem right (h : Reads rd (l ++ l')) : Reads (fun i => rd (l.length + i)) l' := by
  intro i b hb
  refine h (l.length + i) b ?_
  rw [List.getElem?_append_right (Nat.le_add_right _ _), Nat.add_sub_cancel_left, hb]

theorem congr {rd' : ℕ → UInt8} (h : Reads rd l) (heq : ∀ i, rd i = rd' i) : Reads rd' l :=
  fun i b hb => (heq i).symm.trans (h i b hb)

theorem map_range (h : Reads rd l) : (List.range l.length).map rd = l := by
  refine List.ext_getElem? (fun i => ?_)
  rw [List.getElem?_map]
  by_cases hi : i < l.length
  · rw [List.getElem?_range hi, Option.map_some, List.getElem?_eq_getElem hi]
    exact congrArg some (h i _ (List.getElem?_eq_getElem hi))
  · rw [List.getElem?_eq_none (by rw [List.length_range]; omega), List.getElem?_eq_none (by omega)]
    rfl

/-- Collecting an image of the bytes gives the image of the list. -/
theorem map_range_comp {α : Type*} (h : Reads rd l) (f : UInt8 → α) :
    (List.range l.length).map (fun i => f (rd i)) = l.map f := by
  rw [← h.map_range, List.map_map, List.length_map, List.length_range]
  rfl

end Reads
