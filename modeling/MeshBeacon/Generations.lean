import MeshBeacon.Run
import Mathlib.Data.Set.Insert

/-!
# Sets in two generations

A set that must not grow forever is kept in two generations. Elements are added
to the young one; when it has taken as many as it may it becomes the old one and
what was old is forgotten. Nothing is forgotten at once: an element survives as
many additions as a generation takes, less one.
-/

/-- A young and an old generation, and the number of additions to the young. -/
structure Generations (α : Type*) where
  young : Set α
  old : Set α
  count : ℕ

namespace Generations

variable {α : Type*} {capacity k : ℕ} {s : Generations α} {x : α}

/-- Adding an element to generations that take so many additions. -/
def add (capacity : ℕ) (s : Generations α) (x : α) : Generations α :=
  if capacity ≤ s.count + 1 then ⟨∅, insert x s.young, 0⟩
  else ⟨insert x s.young, s.old, s.count + 1⟩

instance : Membership α (Generations α) := ⟨fun s x => x ∈ s.young ∨ x ∈ s.old⟩

/-- **So many more additions do not forget the element**: in the young generation
it survives as many as a generation takes, less one, in the old one only those
before the young one is full. -/
def KeptFor (capacity k : ℕ) (s : Generations α) (x : α) : Prop :=
  (x ∈ s.young ∧ k < capacity) ∨ (x ∈ s.old ∧ s.count + k < capacity)

theorem KeptFor.mem (h : KeptFor capacity k s x) : x ∈ s := h.imp And.left And.left

/-- An element is kept for less than a generation when it is added. -/
theorem keptFor_add (hk : k < capacity) (s : Generations α) (x : α) :
    KeptFor capacity k (s.add capacity x) x := by
  unfold add
  split_ifs
  · exact Or.inr ⟨Set.mem_insert x _, (Nat.zero_add k).symm ▸ hk⟩
  · exact Or.inl ⟨Set.mem_insert x _, hk⟩

/-- An addition is one of those the element is kept for. -/
theorem KeptFor.step (h : KeptFor capacity (k + 1) s x) (y : α) :
    KeptFor capacity k (s.add capacity y) x := by
  unfold add
  split_ifs with hfull
  · rcases h with ⟨hyoung, hk⟩ | ⟨-, hk⟩
    · exact Or.inr ⟨Set.mem_insert_of_mem y hyoung, (Nat.zero_add k).symm ▸ Nat.lt_of_succ_lt hk⟩
    · exact absurd hfull (by omega)
  · rcases h with ⟨hyoung, hk⟩ | ⟨hold, hk⟩
    · exact Or.inl ⟨Set.mem_insert_of_mem y hyoung, Nat.lt_of_succ_lt hk⟩
    · exact Or.inr ⟨hold, by show s.count + 1 + k < capacity; omega⟩

/-- **Elements are kept as long as they are kept for.** -/
theorem KeptFor.final {later : List α} (h : KeptFor capacity (k + later.length) s x) :
    KeptFor capacity k (Run.final (add capacity) s later) x := by
  induction later generalizing s with
  | nil => exact h
  | cons y later ih => exact ih (KeptFor.step (k := k + later.length) h y)

/-- **What has been added is still there** after less than a generation more. -/
theorem mem_final_add {later : List α} (hlater : later.length < capacity) (s : Generations α)
    (x : α) : x ∈ Run.final (add capacity) (s.add capacity x) later :=
  KeptFor.mem (KeptFor.final (k := 0) (keptFor_add ((Nat.zero_add _).symm ▸ hlater) s x))

end Generations
