import Mathlib.Data.List.TakeWhile
import Mathlib.Tactic.Common

/-!
# Entries stored as they are found valid

A loop goes through the entries of what it is given and stores each one in its place, until
it comes to one that is not valid. What it leaves then is the entries before that one.

So whether it leaves anything is not decided by what it returns. It does not
exactly when each of those entries was stored before the loop began.
-/

namespace StoreLoop

variable {σ ι α : Type*}

/-- The loop, over the indices that are left: whether all were valid, and what is stored. -/
def storeValid (valid : ι → Prop) [DecidablePred valid] (store : σ → ι → σ) :
    List ι → σ → Bool × σ
  | [], s => (true, s)
  | i :: is, s => if valid i then storeValid valid store is (store s i) else (false, s)

section Loop

variable (valid : ι → Prop) [DecidablePred valid] (store : σ → ι → σ)

theorem fst_storeValid (is : List ι) (s : σ) :
    (storeValid valid store is s).1 = true ↔ ∀ i ∈ is, valid i := by
  induction is generalizing s with
  | nil => exact iff_of_true rfl (List.forall_mem_nil _)
  | cons i is ih =>
    rw [storeValid, List.forall_mem_cons]
    split_ifs with hi
    · rw [ih, and_iff_right hi]
    · exact iff_of_false not_false fun hall => hi hall.1

theorem snd_storeValid (is : List ι) (s : σ) :
    (storeValid valid store is s).2
      = (is.takeWhile fun i => decide (valid i)).foldl store s := by
  induction is generalizing s with
  | nil => rfl
  | cons i is ih =>
    rw [storeValid]
    split_ifs with hi
    · simp only [ih, List.takeWhile_cons, hi, decide_true, if_true, List.foldl_cons]
    · simp only [List.takeWhile_cons, hi, decide_false, Bool.false_eq_true, if_false,
        List.foldl_nil]

theorem mem_takeWhile_range' {start n i : ℕ} (valid : ℕ → Prop) [DecidablePred valid] :
    i ∈ (List.range' start n).takeWhile (fun i => decide (valid i))
      ↔ start ≤ i ∧ i < start + n ∧ ∀ j, start ≤ j → j ≤ i → valid j := by
  induction n generalizing start with
  | zero =>
    refine iff_of_false List.not_mem_nil fun h => ?_
    omega
  | succ n ih =>
    rw [List.range'_succ]
    by_cases hstart : valid start
    · simp only [List.takeWhile_cons, hstart, decide_true, if_true, List.mem_cons, ih]
      constructor
      · rintro (rfl | ⟨hle, hlt, hall⟩)
        · refine ⟨le_rfl, by omega, fun j hj hji => ?_⟩
          obtain rfl : j = i := Nat.le_antisymm hji hj
          exact hstart
        · refine ⟨by omega, by omega, fun j hj hji => ?_⟩
          rcases Nat.eq_or_lt_of_le hj with rfl | hj
          · exact hstart
          · exact hall j hj hji
      · rintro ⟨hle, hlt, hall⟩
        rcases Nat.eq_or_lt_of_le hle with rfl | hle
        · exact .inl rfl
        · exact .inr ⟨hle, by omega, fun j hj hji => hall j (by omega) hji⟩
    · simp only [List.takeWhile_cons, hstart, decide_false, Bool.false_eq_true, if_false]
      refine iff_of_false List.not_mem_nil fun h => ?_
      exact hstart (h.2.2 start le_rfl h.1)

theorem mem_takeWhile_range {n i : ℕ} (valid : ℕ → Prop) [DecidablePred valid] :
    i ∈ (List.range n).takeWhile (fun i => decide (valid i))
      ↔ i < n ∧ ∀ j ≤ i, valid j := by
  rw [List.range_eq_range', mem_takeWhile_range', Nat.zero_add]
  exact ⟨fun ⟨_, hi, hall⟩ => ⟨hi, fun j hj => hall j (Nat.zero_le j) hj⟩,
    fun ⟨hi, hall⟩ => ⟨Nat.zero_le i, hi, fun j _ hj => hall j hj⟩⟩

end Loop

/-- **A store writes one entry**, of those there are places for, and writing what is there
already changes nothing. -/
structure Stores [DecidableEq ι] (place : ι → Prop) (get : σ → ι → α) (new : ι → α)
    (store : σ → ι → σ) : Prop where
  get_store : ∀ s i j, place i → get (store s i) j = if i = j then new i else get s j
  store_eq : ∀ s i, get s i = new i → store s i = s

namespace Stores

variable [DecidableEq ι] {place : ι → Prop} {get : σ → ι → α} {new : ι → α} {store : σ → ι → σ}

theorem get_foldl (h : Stores place get new store) {is : List ι} (his : ∀ i ∈ is, place i)
    (s : σ) (j : ι) : get (is.foldl store s) j = if j ∈ is then new j else get s j := by
  induction is generalizing s with
  | nil => rw [if_neg List.not_mem_nil, List.foldl_nil]
  | cons i is ih =>
    rw [List.foldl_cons, ih (fun i hi => his i (List.mem_cons_of_mem _ hi)),
      h.get_store s i j (his i List.mem_cons_self)]
    by_cases hj : j ∈ is
    · rw [if_pos hj, if_pos (List.mem_cons_of_mem _ hj)]
    · by_cases hij : i = j
      · subst hij
        rw [if_neg hj, if_pos rfl, if_pos List.mem_cons_self]
      · have hnot : j ∉ i :: is := fun hmem =>
          (List.mem_cons.mp hmem).elim (fun heq => hij heq.symm) hj
        rw [if_neg hj, if_neg hij, if_neg hnot]

/-- **Several stores change nothing** exactly when all of it was there. -/
theorem foldl_eq_iff (h : Stores place get new store) {is : List ι} (his : ∀ i ∈ is, place i)
    (s : σ) : is.foldl store s = s ↔ ∀ i ∈ is, get s i = new i := by
  constructor
  · intro heq i hi
    have hget := h.get_foldl his s i
    rwa [heq, if_pos hi] at hget
  · intro hall
    clear his
    induction is with
    | nil => rfl
    | cons i is ih =>
      rw [List.foldl_cons, h.store_eq s i (hall i List.mem_cons_self)]
      exact ih fun i hi => hall i (List.mem_cons_of_mem _ hi)

/-- **Nor do they after something else was written**, exactly when that was there as well: what
tells apart the states with the same entries is not touched by a store. -/
theorem foldl_eq_iff_of_head (h : Stores place get new store) {β : Type*} (head : σ → β)
    (hkeep : ∀ s i, head (store s i) = head s) {is : List ι} (his : ∀ i ∈ is, place i) {s s' : σ}
    (hs : head s = head s' → s' = s) :
    is.foldl store s' = s ↔ head s = head s' ∧ ∀ i ∈ is, get s i = new i := by
  have hhead : ∀ t, head (is.foldl store t) = head t := by
    clear his
    induction is with
    | nil => exact fun _ => rfl
    | cons i is ih => exact fun t => (ih (store t i)).trans (hkeep t i)
  constructor
  · intro heq
    have hsame : head s = head s' := heq ▸ hhead s'
    rw [hs hsame] at heq ⊢
    exact ⟨rfl, (h.foldl_eq_iff his s).mp heq⟩
  · rintro ⟨hsame, hall⟩
    rw [hs hsame]
    exact (h.foldl_eq_iff his s).mpr hall

/-- **What a loop leaves that fails is what was there**, exactly when it does not fail, or what
was written before it and the entries before the first that is not valid were there as well. -/
theorem kept_iff {place : ℕ → Prop} {get : σ → ℕ → α} {new : ℕ → α} {store : σ → ℕ → σ}
    (h : Stores place get new store) {β : Type*} (head : σ → β)
    (hkeep : ∀ s i, head (store s i) = head s) (valid : ℕ → Prop) [DecidablePred valid] {n : ℕ}
    (hplace : ∀ i < n, place i) {s s' : σ} (hs : head s = head s' → s' = s) :
    ((storeValid valid store (List.range n) s').1 = false →
        (storeValid valid store (List.range n) s').2 = s)
      ↔ (∀ i < n, valid i)
        ∨ head s = head s' ∧ ∀ i < n, (∀ j ≤ i, valid j) → get s i = new i := by
  have hfst : (storeValid valid store (List.range n) s').1 = true ↔ ∀ i < n, valid i := by
    rw [fst_storeValid]
    simp only [List.mem_range]
  by_cases hall : ∀ i < n, valid i
  · refine iff_of_true (fun hfail => ?_) (.inl hall)
    exact absurd (hfail.symm.trans (hfst.mpr hall)) Bool.false_ne_true
  · have hfail : (storeValid valid store (List.range n) s').1 = false :=
      Bool.eq_false_iff.mpr fun hok => hall (hfst.mp hok)
    have hplaces : ∀ i ∈ (List.range n).takeWhile (fun i => decide (valid i)), place i :=
      fun i hi => hplace i ((mem_takeWhile_range valid).mp hi).1
    rw [forall_prop_of_true hfail, or_iff_right hall, snd_storeValid,
      h.foldl_eq_iff_of_head head hkeep hplaces hs]
    refine and_congr_right fun _ => forall_congr' fun i => ?_
    rw [mem_takeWhile_range, and_imp]

end Stores

end StoreLoop
