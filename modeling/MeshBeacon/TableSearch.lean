import Mathlib.Data.List.Range
import Mathlib.Order.Lattice
import Mathlib.Tactic.Common

/-!
# Searches of a table for a value not above another

Two searches of the first entries of a table are compared here. One goes through all of
them and keeps the greatest that is not above a bound, the first of them if there are
several. The other walks down from the last entry, and stops at the first that is not
above the bound, or at the bottom.

Only the first depends on nothing but the values: what the second gives depends on
their order, and `value_lastBelow_iff` says how.
-/

namespace TableSearch

variable {α : Type*} [LinearOrder α]

/-! ## The greatest that is not above -/

/-- One turn: the better of the best so far and another entry. -/
def closerBelow (p : ℕ → α) (bound : α) (best : Option ℕ) (i : ℕ) : Option ℕ :=
  if bound < p i then best
  else match best with
    | none => some i
    | some k => if p k < p i then some i else some k

/-- The index of the greatest of the first entries that is not above the bound. -/
def closestBelow (p : ℕ → α) (bound : α) (n : ℕ) : Option ℕ :=
  (List.range n).foldl (closerBelow p bound) none

/-- **The entry is a greatest one not above the bound.** -/
structure IsClosest (p : ℕ → α) (bound : α) (n k : ℕ) : Prop where
  lt : k < n
  le : p k ≤ bound
  greatest : ∀ i < n, p i ≤ bound → p i ≤ p k

variable {p : ℕ → α} {bound : α} {n k : ℕ}

theorem closestBelow_succ (p : ℕ → α) (bound : α) (n : ℕ) :
    closestBelow p bound (n + 1) = closerBelow p bound (closestBelow p bound n) n := by
  rw [closestBelow, List.range_succ, List.foldl_append]
  rfl

/-- A closest entry stays one, when the next entry is above the bound or no closer. -/
theorem IsClosest.succ (h : IsClosest p bound n k) (hnext : p n ≤ bound → p n ≤ p k) :
    IsClosest p bound (n + 1) k where
  lt := h.lt.trans n.lt_succ_self
  le := h.le
  greatest i hi hle := by
    obtain hi | rfl := Nat.lt_succ_iff_lt_or_eq.mp hi
    · exact h.greatest i hi hle
    · exact hnext hle

/-- The next entry is a closest one, when none before it is closer. -/
theorem isClosest_next (hle : p n ≤ bound) (hbefore : ∀ i < n, p i ≤ bound → p i ≤ p n) :
    IsClosest p bound (n + 1) n where
  lt := n.lt_succ_self
  le := hle
  greatest i hi hle := by
    obtain hi | rfl := Nat.lt_succ_iff_lt_or_eq.mp hi
    · exact hbefore i hi hle
    · exact le_rfl

/-- **What is found**: a greatest entry that is not above the bound, and nothing only where
all are above. -/
theorem closestBelow_spec (p : ℕ → α) (bound : α) (n : ℕ) :
    match closestBelow p bound n with
    | none => ∀ i < n, bound < p i
    | some k => IsClosest p bound n k := by
  induction n with
  | zero => exact fun i hi => absurd hi (Nat.not_lt_zero i)
  | succ n ih =>
    rw [closestBelow_succ]
    unfold closerBelow
    by_cases habove : bound < p n
    · rw [if_pos habove]
      split at ih
      · exact fun i hi => (Nat.lt_succ_iff_lt_or_eq.mp hi).elim (ih i) fun heq => heq ▸ habove
      · exact ih.succ fun hle => absurd hle (not_le_of_gt habove)
    · rw [if_neg habove]
      split at ih
      · exact isClosest_next (not_lt.mp habove) fun i hi hle =>
          absurd hle (not_le_of_gt (ih i hi))
      · rename_i k _
        by_cases hcloser : p k < p n
        · rw [if_pos hcloser]
          exact isClosest_next (not_lt.mp habove) fun i hi hle =>
            (ih.greatest i hi hle).trans hcloser.le
        · rw [if_neg hcloser]
          exact ih.succ fun _ => not_lt.mp hcloser

/-! ## The last that is not above -/

/-- The index of the last entry that is not above the bound, from one downwards; the
bottom is not compared. -/
def lastBelow (p : ℕ → α) (bound : α) : ℕ → ℕ
  | 0 => 0
  | i + 1 => if p (i + 1) ≤ bound then i + 1 else lastBelow p bound i

theorem lastBelow_le (p : ℕ → α) (bound : α) (n : ℕ) : lastBelow p bound n ≤ n := by
  induction n with
  | zero => exact le_rfl
  | succ n ih =>
    unfold lastBelow
    split_ifs
    · exact le_rfl
    · exact ih.trans n.le_succ

/-- The entries that were passed are above the bound. -/
theorem above_of_lastBelow_lt {j : ℕ} (hlt : lastBelow p bound n < j) (hj : j ≤ n) :
    bound < p j := by
  induction n with
  | zero => exact absurd hj (Nat.not_le_of_lt ((Nat.zero_le _).trans_lt hlt))
  | succ n ih =>
    unfold lastBelow at hlt
    split_ifs at hlt with hle
    · exact absurd hj (Nat.not_le_of_lt hlt)
    · obtain rfl | hj := Nat.eq_or_lt_of_le hj
      · exact not_le.mp hle
      · exact ih hlt (Nat.le_of_lt_succ hj)

/-- The entry is not above the bound, unless it is the bottom. -/
theorem lastBelow_le_bound (h : lastBelow p bound n ≠ 0) : p (lastBelow p bound n) ≤ bound := by
  induction n with
  | zero => exact absurd rfl h
  | succ n ih =>
    unfold lastBelow at h ⊢
    split_ifs at h ⊢ with hle
    · exact hle
    · exact ih h

/-- An entry that is not above the bound is not passed. -/
theorem le_lastBelow (hk : k ≤ n) (hle : p k ≤ bound) : k ≤ lastBelow p bound n := by
  by_contra hlt
  exact not_le_of_gt (above_of_lastBelow_lt (not_le.mp hlt) hk) hle

/-- **When the walk ends at the bound**: when all behind some entry of that value are above it. -/
theorem value_lastBelow_iff :
    p (lastBelow p bound n) = bound ↔ ∃ k ≤ n, p k = bound ∧ ∀ j ≤ n, k < j → bound < p j := by
  constructor
  · intro heq
    exact ⟨_, lastBelow_le p bound n, heq, fun j hj hlt => above_of_lastBelow_lt hlt hj⟩
  · rintro ⟨k, hk, rfl, habove⟩
    have hlast : k ≤ lastBelow p (p k) n := le_lastBelow hk le_rfl
    obtain hlt | heq := hlast.lt_or_eq
    · -- the walk ended before, at an entry that is not above the bound
      have hle : p (lastBelow p (p k) n) ≤ p k :=
        lastBelow_le_bound (Nat.ne_of_gt ((Nat.zero_le k).trans_lt hlt))
      exact absurd hle (not_le_of_gt (habove _ (lastBelow_le _ _ n) hlt))
    · exact congrArg p heq.symm

/-- **In an ascending table** the walk ends at the bound, if the bound is a value of the table. -/
theorem value_lastBelow_of_monotone (hp : ∀ i j, i ≤ j → j ≤ n → p i ≤ p j) (hk : k ≤ n) :
    p (lastBelow p (p k) n) = p k := by
  have hlast : k ≤ lastBelow p (p k) n := le_lastBelow hk le_rfl
  obtain h0 | hne := eq_or_ne (lastBelow p (p k) n) 0
  · have hk0 : k = 0 := by omega
    rw [h0, hk0]
  · exact le_antisymm (lastBelow_le_bound hne) (hp _ _ hlast (lastBelow_le _ _ n))

end TableSearch
