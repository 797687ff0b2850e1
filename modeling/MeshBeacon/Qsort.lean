import Mathlib.Data.List.Sort
import Mathlib.Tactic.Common

/-!
# Sorting routines and swap removal

A C sorting routine is handed a comparator and an array. What it promises is
narrow: the array is permuted, and it comes out ascending *when the comparator
orders it*, that is when the comparator is a total preorder on the elements of
that array. A comparator that is not one – a difference of wrapping counters,
say – leaves an array in some order, and nothing more can be said about it.

`Qsort` is a routine together with those two promises. Every development over
it is therefore about every such routine; `Qsort.insertion` shows there is
one. Where no two elements compare as equal the place of an element in the
result is the number of those below it. The last part of the module is about
the other way arrays are reordered here: an element is removed by copying the
last one over it.
-/

variable {α : Type*}

/-- **The comparator orders the array**: on its elements, the sign of
`cmp a b` is that of `-cmp b a`, and "not above" is transitive. Totality is
not a clause: the sign of an integer decides one side. -/
structure TotalPreorderOn (cmp : α → α → ℤ) (l : List α) : Prop where
  /-- Exchanging the operands exchanges the answer. -/
  swap : ∀ a ∈ l, ∀ b ∈ l, cmp a b ≤ 0 ↔ 0 ≤ cmp b a
  /-- Not being above is transitive. -/
  trans : ∀ a ∈ l, ∀ b ∈ l, ∀ c ∈ l, cmp a b ≤ 0 → cmp b c ≤ 0 → cmp a c ≤ 0

/-- The comparator orders the smaller arrays too. -/
theorem TotalPreorderOn.subset {cmp : α → α → ℤ} {l l' : List α} (h : TotalPreorderOn cmp l)
    (hl : l' ⊆ l) : TotalPreorderOn cmp l' where
  swap a ha b hb := h.swap a (hl ha) b (hl hb)
  trans a ha b hb c hc := h.trans a (hl ha) b (hl hb) c (hl hc)

/-- **A sorting routine**, with what it promises of its result. -/
structure Qsort (α : Type*) where
  /-- The routine: a comparator and an array give the rearranged array. -/
  sort : (α → α → ℤ) → List α → List α
  /-- No element is lost, duplicated or altered. -/
  perm : ∀ cmp l, (sort cmp l).Perm l
  /-- The result is ascending when the comparator orders the array. -/
  sorted : ∀ cmp l, TotalPreorderOn cmp l → (sort cmp l).Pairwise (fun a b => cmp a b ≤ 0)

namespace Qsort

@[simp] theorem length_sort (qs : Qsort α) (cmp : α → α → ℤ) (l : List α) :
    (qs.sort cmp l).length = l.length :=
  (qs.perm cmp l).length_eq

@[simp] theorem mem_sort (qs : Qsort α) (cmp : α → α → ℤ) (l : List α) (a : α) :
    a ∈ qs.sort cmp l ↔ a ∈ l :=
  (qs.perm cmp l).mem_iff

/-- Insertion sort is such a routine. The sort runs on the elements paired
with their membership, where a comparator that orders the array is total and
transitive outright. -/
def insertion (α : Type*) : Qsort α where
  sort cmp l := (l.attach.insertionSort (fun a b => cmp a.1 b.1 ≤ 0)).map Subtype.val
  perm cmp l := by
    have h := (List.perm_insertionSort
      (fun a b : {x // x ∈ l} => cmp a.1 b.1 ≤ 0) l.attach).map Subtype.val
    rwa [List.attach_map_subtype_val] at h
  sorted cmp l h := by
    have total : Std.Total (fun a b : {x // x ∈ l} => cmp a.1 b.1 ≤ 0) :=
      ⟨fun a b => by
        rcases le_total (cmp a.1 b.1) 0 with hab | hab
        · exact Or.inl hab
        · exact Or.inr ((h.swap b.1 b.2 a.1 a.2).mpr hab)⟩
    have trans : IsTrans {x // x ∈ l} (fun a b => cmp a.1 b.1 ≤ 0) :=
      ⟨fun a b c => h.trans a.1 a.2 b.1 b.2 c.1 c.2⟩
    exact List.pairwise_map.mpr (List.pairwise_insertionSort _ l.attach)

end Qsort

/-! ## The place of an element -/

theorem TotalPreorderOn.irrefl {cmp : α → α → ℤ} {l : List α} (h : TotalPreorderOn cmp l) {a : α}
    (ha : a ∈ l) : ¬ cmp a a < 0 := by
  intro hlt
  have hge := (h.swap a ha a ha).mp (le_of_lt hlt)
  exact absurd hlt (not_lt_of_ge hge)

/-- Of an element and one above it, the second is not below the first. -/
theorem TotalPreorderOn.asymm {cmp : α → α → ℤ} {l : List α} (h : TotalPreorderOn cmp l) {a b : α}
    (ha : a ∈ l) (hb : b ∈ l) (hlt : cmp a b < 0) : ¬ cmp b a < 0 :=
  not_lt_of_ge ((h.swap a ha b hb).mp (le_of_lt hlt))

/-- **The place of an element of a strictly ascending array** is the number of
elements below it. -/
theorem TotalPreorderOn.getElem?_eq_some_iff {cmp : α → α → ℤ} {l : List α}
    (h : TotalPreorderOn cmp l) (hl : l.Pairwise (fun a b => cmp a b < 0)) {x : α} (hx : x ∈ l)
    (i : ℕ) : l[i]? = some x ↔ l.countP (fun a => cmp a x < 0) = i := by
  induction l generalizing i with
  | nil => exact absurd hx List.not_mem_nil
  | cons a l ih =>
    obtain ⟨hfirst, hrest⟩ := List.pairwise_cons.mp hl
    have ha : a ∈ a :: l := List.mem_cons_self
    rw [List.countP_cons]
    by_cases hax : x = a
    · subst hax
      have hnone : l.countP (fun b => cmp b x < 0) = 0 := by
        refine List.countP_eq_zero.mpr fun b hb => ?_
        rw [decide_eq_true_iff]
        exact h.asymm ha (List.mem_cons_of_mem x hb) (hfirst b hb)
      rw [hnone, if_neg (by simpa using h.irrefl ha)]
      cases i with
      | zero => simp
      | succ i =>
        refine iff_of_false (fun hi => ?_) (by simp)
        exact h.irrefl ha (hfirst x (List.mem_of_getElem? hi))
    · have hmem : x ∈ l := (List.mem_cons.mp hx).resolve_left hax
      rw [if_pos (by simpa using hfirst x hmem)]
      cases i with
      | zero => simpa using fun hi => hax hi.symm
      | succ i =>
        rw [List.getElem?_cons_succ, Nat.add_right_cancel_iff]
        exact ih (h.subset (List.subset_cons_self a l)) hrest hmem i

namespace List

/-! ## Removal by moving the last element -/

/-- Writing at the end of a prefix extends the prefix by what is written. -/
theorem take_succ_set {l : List α} {n : ℕ} (h : n < l.length) (a : α) :
    (l.set n a).take (n + 1) = l.take n ++ [a] := by
  rw [take_add_one, take_set_of_le le_rfl, getElem?_set_self h]
  rfl

/-- **Moving the last element over the removed one is a removal**, up to the
order of what stays. -/
theorem set_dropLast_perm_eraseIdx {l : List α} {i n : ℕ} (hn : l.length = n + 1)
    (hi : i ≤ n) {a : α} (ha : l[n]? = some a) :
    ((l.set i a).take n).Perm (l.eraseIdx i) := by
  have hl : l = l.take n ++ [a] := by
    conv_lhs => rw [← take_length (l := l), hn, take_add_one, ha]
    rfl
  have hlen : (l.take n).length = n := by rw [length_take, hn]; omega
  generalize l.take n = m at hl hlen
  subst hl
  rcases Nat.lt_or_ge i n with hlt | hge
  · rw [set_append_left _ _ (by omega), take_left' (by rw [length_set, hlen]),
      eraseIdx_append_of_lt_length (by omega), set_eq_take_append_cons_drop,
      if_pos (by omega), eraseIdx_eq_take_drop_succ, append_assoc]
    refine Perm.append_left _ ?_
    exact (perm_append_singleton a (m.drop (i + 1))).symm
  · obtain rfl : i = m.length := by omega
    rw [eraseIdx_append_of_length_le le_rfl, Nat.sub_self, set_append_right _ _ le_rfl,
      Nat.sub_self, take_left' hlen]
    simp

end List
