import Mathlib.Data.Finset.Card
import Mathlib.Data.List.Nodup
import Mathlib.Logic.Function.Iterate
import Mathlib.Order.Interval.Finset.Nat
import Mathlib.Tactic.Common

/-!
# Probing for a free place

A place is looked for, and when it is taken the next one is, until one is free. Whether the
search ends depends on where it can go: from each place on there have to be more different
ones than are taken.

Several searches, each one taking the place it finds, then find different places.
-/

namespace Probing

variable {α : Type*} [DecidableEq α]

/-- The search from a place on. It runs out after so many places. -/
def probe (next : α → α) (taken : List α) : ℕ → α → Option α
  | 0, _ => none
  | fuel + 1, a => if a ∈ taken then probe next taken fuel (next a) else some a

/-- A search from each of several places, behind those that found something before. -/
def fill (next : α → α) (fuel : ℕ) (starts taken : List α) : Option (List α) :=
  starts.foldlM (fun taken a => (probe next taken fuel a).map fun r => taken ++ [r]) taken

/-- **From each place on there are `n` different ones.** -/
structure Spread (next : α → α) (P : α → Prop) (n : ℕ) : Prop where
  closed : ∀ a, P a → P (next a)
  injOn : ∀ a, P a → Set.InjOn (fun k => next^[k] a) (Set.Iio n)

variable {next : α → α} {P : α → Prop} {n fuel : ℕ} {taken starts : List α} {a r : α}

/-- What is found is free, and some moves on. -/
theorem exists_iterate_of_probe (h : probe next taken fuel a = some r) :
    r ∉ taken ∧ ∃ k, next^[k] a = r := by
  induction fuel generalizing a with
  | zero => exact absurd h.symm (Option.some_ne_none r)
  | succ fuel ih =>
    rw [probe] at h
    split_ifs at h with ha
    · obtain ⟨hfree, k, hk⟩ := ih h
      exact ⟨hfree, k + 1, hk⟩
    · obtain rfl := Option.some_inj.mp h
      exact ⟨ha, 0, rfl⟩

theorem Spread.place_of_probe (hnext : Spread next P n) (ha : P a)
    (h : probe next taken fuel a = some r) : P r := by
  obtain ⟨-, k, rfl⟩ := exists_iterate_of_probe h
  exact Function.Iterate.rec P ha hnext.closed k

theorem probe_mono {fuel' : ℕ} (hle : fuel ≤ fuel') (h : probe next taken fuel a = some r) :
    probe next taken fuel' a = some r := by
  induction fuel generalizing a fuel' with
  | zero => exact absurd h.symm (Option.some_ne_none r)
  | succ fuel ih =>
    obtain ⟨fuel', rfl⟩ := Nat.exists_eq_add_of_lt hle
    rw [probe] at h ⊢
    split_ifs at h ⊢
    · exact ih (Nat.le_add_right fuel fuel') h
    · exact h

/-- A search that runs out has seen taken places only. -/
theorem mem_of_probe_eq_none (h : probe next taken fuel a = none) :
    ∀ k < fuel, next^[k] a ∈ taken := by
  induction fuel generalizing a with
  | zero => exact fun k hk => absurd hk (Nat.not_lt_zero k)
  | succ fuel ih =>
    rw [probe] at h
    split_ifs at h with ha
    intro k hk
    cases k with
    | zero => exact ha
    | succ k => exact ih h k (Nat.lt_of_succ_lt_succ hk)

/-- **The search ends** when fewer places are taken than there are. -/
theorem Spread.exists_probe (hnext : Spread next P n) (ha : P a) (htaken : taken.length < n) :
    ∃ r, probe next taken n a = some r := by
  cases h : probe next taken n a with
  | some r => exact ⟨r, rfl⟩
  | none =>
    have hmaps : ∀ k ∈ Finset.range n, next^[k] a ∈ taken.toFinset := fun k hk =>
      List.mem_toFinset.mpr (mem_of_probe_eq_none h k (Finset.mem_range.mp hk))
    have hinj : Set.InjOn (fun k => next^[k] a) (Finset.range n) := by
      intro k hk l hl
      exact hnext.injOn a ha (Finset.mem_range.mp hk) (Finset.mem_range.mp hl)
    have hcard := Finset.card_le_card_of_injOn _ hmaps hinj
    rw [Finset.card_range] at hcard
    exact absurd (hcard.trans taken.toFinset_card_le) (Nat.not_le.mpr htaken)

/-- **Several searches end, and find different places**, when there are no more of them than
places. -/
theorem Spread.fill_spec (hnext : Spread next P n) (hstarts : ∀ a ∈ starts, P a)
    (htaken : ∀ a ∈ taken, P a) (hnodup : taken.Nodup) (hlen : taken.length + starts.length ≤ n) :
    ∃ found, (∀ fuel, n ≤ fuel → fill next fuel starts taken = some found)
      ∧ found.length = taken.length + starts.length ∧ found.Nodup ∧ ∀ r ∈ found, P r := by
  induction starts generalizing taken with
  | nil => exact ⟨taken, fun _ _ => rfl, rfl, hnodup, htaken⟩
  | cons a starts ih =>
    rw [List.length_cons] at hlen
    have ha := hstarts a List.mem_cons_self
    obtain ⟨r, hr⟩ := hnext.exists_probe ha (show taken.length < n by omega)
    have hplaces : ∀ b ∈ taken ++ [r], P b := by
      intro b hb
      rcases List.mem_append.mp hb with hb | hb
      · exact htaken b hb
      · exact List.mem_singleton.mp hb ▸ hnext.place_of_probe ha hr
    have hdiff : (taken ++ [r]).Nodup :=
      hnodup.append (List.nodup_singleton r)
        (List.disjoint_singleton.mpr (exists_iterate_of_probe hr).1)
    obtain ⟨found, hfill, hlength, hfound⟩ :=
      ih (fun b hb => hstarts b (List.mem_cons_of_mem a hb)) hplaces hdiff
        (by rw [List.length_append, List.length_singleton]; omega)
    refine ⟨found, fun fuel hfuel => ?_, ?_, hfound⟩
    · rw [fill, List.foldlM_cons, probe_mono hfuel hr]
      exact hfill fuel hfuel
    · rw [hlength, List.length_append, List.length_singleton, List.length_cons]
      omega

end Probing
