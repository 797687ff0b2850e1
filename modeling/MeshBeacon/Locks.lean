import MeshBeacon.Run
import Mathlib.Data.Set.Basic
import Mathlib.Logic.Function.Basic

/-!
# Threads that take locks

A thread is what it still has to do, a list of locks to take and to give back; what
it does in between is left out. Threads run in any order, and one that wants a lock
another has stays where it is.

Which locks a thread has can be read off what it still has to do: those it gives
back before it takes them again (`Owes`). For threads that give back every lock they
take, in whatever order, that is an invariant (`LockState.Consistent`), and with it a
deadlock is a matter of the lists alone. If on every list the locks owed rank below
the lock taken, there is none: of the locks waited for in a deadlock, none ranks
highest (`LockState.not_deadlock_of_rank`).
-/

/-- One step of a thread: to take a lock, or to give it back. -/
inductive LockStep (ℓ : Type*)
  | lock (l : ℓ)
  | unlock (l : ℓ)
deriving DecidableEq

namespace LockStep

variable {ℓ : Type*}

/-- The first thing the list does with `l` is to give it back. -/
def Owes (l : ℓ) : List (LockStep ℓ) → Prop
  | [] => False
  | lock l' :: rest => l' ≠ l ∧ Owes l rest
  | unlock l' :: rest => l' = l ∨ Owes l rest

/-- Every lock taken is given back before it is taken again, and none is given back
twice. -/
def Disciplined : List (LockStep ℓ) → Prop
  | [] => True
  | lock l :: rest => Owes l rest ∧ Disciplined rest
  | unlock l :: rest => ¬ Owes l rest ∧ Disciplined rest

/-- Wherever the list takes a lock, the locks it has then are in relation `R` to that
one. -/
def Nests (R : ℓ → ℓ → Prop) : List (LockStep ℓ) → Prop
  | [] => True
  | lock l :: rest => (∀ l', Owes l' (lock l :: rest) → R l' l) ∧ Nests R rest
  | unlock _ :: rest => Nests R rest

instance decidableOwes [DecidableEq ℓ] (l : ℓ) :
    (todo : List (LockStep ℓ)) → Decidable (Owes l todo)
  | [] => inferInstanceAs (Decidable False)
  | lock l' :: rest =>
    have : Decidable (Owes l rest) := decidableOwes l rest
    inferInstanceAs (Decidable (l' ≠ l ∧ Owes l rest))
  | unlock l' :: rest =>
    have : Decidable (Owes l rest) := decidableOwes l rest
    inferInstanceAs (Decidable (l' = l ∨ Owes l rest))

theorem disciplined_tail (a : LockStep ℓ) (rest : List (LockStep ℓ))
    (h : Disciplined (a :: rest)) : Disciplined rest := by
  cases a with
  | lock l => exact h.2
  | unlock l => exact h.2

theorem nests_tail {R : ℓ → ℓ → Prop} (a : LockStep ℓ) (rest : List (LockStep ℓ))
    (h : Nests R (a :: rest)) : Nests R rest := by
  cases a with
  | lock l => exact h.2
  | unlock l => exact h

end LockStep

open LockStep

/-- Who has each lock, and what each thread still has to do. -/
structure LockState (τ ℓ : Type*) where
  owner : ℓ → Option τ
  todo : τ → List (LockStep ℓ)

namespace LockState

variable {τ ℓ : Type*}

/-- All locks are free. -/
def start (todo : τ → List (LockStep ℓ)) : LockState τ ℓ := ⟨fun _ => none, todo⟩

/-- The thread is about to take `l`. -/
def Wants (s : LockState τ ℓ) (t : τ) (l : ℓ) : Prop := ∃ rest, s.todo t = lock l :: rest

/-- **A deadlock**: some threads each wait for a lock that another of them has. -/
def Deadlock (s : LockState τ ℓ) : Prop :=
  ∃ D : Set τ, D.Nonempty ∧ ∀ t ∈ D, ∃ l, s.Wants t l ∧ ∃ t' ∈ D, t' ≠ t ∧ s.owner l = some t'

/-- Every thread gives back what it takes, and has the locks it owes. -/
structure Consistent (s : LockState τ ℓ) : Prop where
  disciplined : ∀ t, Disciplined (s.todo t)
  owner_iff : ∀ l t, s.owner l = some t ↔ Owes l (s.todo t)

theorem consistent_start {todo : τ → List (LockStep ℓ)} (hdisciplined : ∀ t, Disciplined (todo t))
    (howes : ∀ t l, ¬ Owes l (todo t)) : (start todo).Consistent where
  disciplined := hdisciplined
  owner_iff := fun l t => iff_of_false (Option.some_ne_none t).symm (howes t l)

variable [DecidableEq τ] [DecidableEq ℓ]

/-- Thread `t` takes one step, if it can. -/
def step (s : LockState τ ℓ) (t : τ) : LockState τ ℓ :=
  match s.todo t with
  | [] => s
  | lock l :: rest =>
    if s.owner l = none then
      ⟨Function.update s.owner l (some t), Function.update s.todo t rest⟩
    else s
  | unlock l :: rest => ⟨Function.update s.owner l none, Function.update s.todo t rest⟩

/-! ## One step -/

variable {s : LockState τ ℓ} {t : τ} {l : ℓ} {rest : List (LockStep ℓ)}

theorem step_of_nil (h : s.todo t = []) : s.step t = s := by
  unfold step
  rw [h]

theorem step_of_lock (h : s.todo t = lock l :: rest) (hfree : s.owner l = none) :
    s.step t = ⟨Function.update s.owner l (some t), Function.update s.todo t rest⟩ := by
  unfold step
  rw [h]
  exact if_pos hfree

theorem step_of_taken (h : s.todo t = lock l :: rest) (htaken : s.owner l ≠ none) :
    s.step t = s := by
  unfold step
  rw [h]
  exact if_neg htaken

theorem step_of_unlock (h : s.todo t = unlock l :: rest) :
    s.step t = ⟨Function.update s.owner l none, Function.update s.todo t rest⟩ := by
  unfold step
  rw [h]

/-- **What a step does to the lists**: the thread stays where it is, or it has one step
less to do. -/
theorem todo_step (s : LockState τ ℓ) (t : τ) :
    s.step t = s ∨ (s.step t).todo = Function.update s.todo t (s.todo t).tail := by
  cases htodo : s.todo t with
  | nil => exact .inl (step_of_nil htodo)
  | cons a rest =>
    cases a with
    | lock l =>
      by_cases hfree : s.owner l = none
      · rw [step_of_lock htodo hfree]
        exact .inr rfl
      · exact .inl (step_of_taken htodo hfree)
    | unlock l =>
      rw [step_of_unlock htodo]
      exact .inr rfl

/-- A property of lists that their tails inherit is kept by every step, for each thread. -/
theorem todo_step_of_tail {P : List (LockStep ℓ) → Prop}
    (htail : ∀ a rest, P (a :: rest) → P rest) {t' : τ} (h : P (s.todo t')) (t : τ) :
    P ((s.step t).todo t') := by
  obtain hstep | hstep := s.todo_step t
  · rwa [hstep]
  · rw [hstep]
    by_cases ht : t' = t
    · subst ht
      rw [Function.update_self]
      cases htodo : s.todo t' with
      | nil =>
        rw [htodo] at h
        exact h
      | cons a rest =>
        rw [htodo] at h
        exact htail a rest h
    · rwa [Function.update_of_ne ht]

theorem forall_todo_step {P : List (LockStep ℓ) → Prop} (htail : ∀ a rest, P (a :: rest) → P rest)
    (h : ∀ t, P (s.todo t)) (t : τ) : ∀ t', P ((s.step t).todo t') :=
  fun t' => todo_step_of_tail htail (h t') t

/-! ## Who has which lock -/

theorem Consistent.step (h : s.Consistent) (t : τ) : (s.step t).Consistent where
  disciplined := forall_todo_step disciplined_tail h.disciplined t
  owner_iff := by
    intro l t'
    cases htodo : s.todo t with
    | nil =>
      rw [step_of_nil htodo]
      exact h.owner_iff l t'
    | cons a rest =>
      have hdisciplined := h.disciplined t
      rw [htodo] at hdisciplined
      cases a with
      | lock k =>
        by_cases hfree : s.owner k = none
        · rw [step_of_lock htodo hfree]
          show Function.update s.owner k (some t) l = some t'
            ↔ Owes l (Function.update s.todo t rest t')
          -- the thread that takes `k` owes it from now on; of the others none had it
          by_cases ht : t' = t
          · subst ht
            rw [Function.update_self]
            by_cases hl : l = k
            · subst hl
              rw [Function.update_self]
              exact iff_of_true rfl hdisciplined.1
            · rw [Function.update_of_ne hl, h.owner_iff, htodo]
              exact and_iff_right (Ne.symm hl)
          · rw [Function.update_of_ne ht, ← h.owner_iff]
            by_cases hl : l = k
            · subst hl
              rw [Function.update_self, hfree]
              exact iff_of_false (fun heq => ht (Option.some.inj heq).symm)
                (Option.some_ne_none t').symm
            · rw [Function.update_of_ne hl]
        · rw [step_of_taken htodo hfree]
          exact h.owner_iff l t'
      | unlock k =>
        -- what a thread frees next, it has
        have howner : s.owner k = some t := (h.owner_iff k t).mpr (htodo ▸ .inl rfl)
        rw [step_of_unlock htodo]
        show Function.update s.owner k none l = some t'
          ↔ Owes l (Function.update s.todo t rest t')
        by_cases ht : t' = t
        · subst ht
          rw [Function.update_self]
          by_cases hl : l = k
          · subst hl
            rw [Function.update_self]
            exact iff_of_false (Option.some_ne_none t').symm hdisciplined.1
          · rw [Function.update_of_ne hl, h.owner_iff, htodo]
            exact or_iff_right (Ne.symm hl)
        · rw [Function.update_of_ne ht, ← h.owner_iff]
          by_cases hl : l = k
          · subst hl
            rw [Function.update_self, howner]
            exact iff_of_false (Option.some_ne_none t').symm
              (fun heq => ht (Option.some.inj heq).symm)
          · rw [Function.update_of_ne hl]

/-! ## Deadlocks -/

omit [DecidableEq τ] [DecidableEq ℓ] in
/-- **In a deadlock, a thread waits for a lock, and the thread that has it waits for
another one**, to which the first is in relation. -/
theorem Consistent.deadlock_step (h : s.Consistent) {R : ℓ → ℓ → Prop}
    (hnests : ∀ t, Nests R (s.todo t)) {D : Set τ}
    (hD : ∀ t ∈ D, ∃ l, s.Wants t l ∧ ∃ t' ∈ D, t' ≠ t ∧ s.owner l = some t') (ht : t ∈ D)
    (hl : s.Wants t l) : ∃ t' ∈ D, ∃ l', s.Wants t' l' ∧ Owes l (s.todo t') ∧ R l l' := by
  obtain ⟨k, ⟨rest, hk⟩, t', ht', -, howner⟩ := hD t ht
  obtain ⟨rest', hl⟩ := hl
  have hkl : k = l := by
    rw [hl] at hk
    exact (LockStep.lock.inj (List.cons_eq_cons.mp hk).1).symm
  obtain ⟨l', ⟨rest'', hl'⟩, -⟩ := hD t' ht'
  have howes := (h.owner_iff l t').mp (hkl ▸ howner)
  refine ⟨t', ht', l', ⟨rest'', hl'⟩, howes, ?_⟩
  have hnest := hnests t'
  rw [hl'] at hnest howes
  exact hnest.1 l howes

omit [DecidableEq τ] [DecidableEq ℓ] in
/-- **Locks taken in rising order do not deadlock**: of the locks waited for in a
deadlock, none ranks highest. -/
theorem Consistent.not_deadlock_of_rank (h : s.Consistent) {rank : ℓ → ℕ} {bound : ℕ}
    (hbound : ∀ l, rank l < bound) (hnests : ∀ t, Nests (fun l' l => rank l' < rank l) (s.todo t)) :
    ¬ s.Deadlock := by
  rintro ⟨D, ⟨t₀, ht₀⟩, hD⟩
  -- there are locks of any rank that are waited for
  have hclimb : ∀ k : ℕ, ∃ t ∈ D, ∃ l, s.Wants t l ∧ k ≤ rank l := by
    intro k
    induction k with
    | zero =>
      obtain ⟨l, hl, -⟩ := hD t₀ ht₀
      exact ⟨t₀, ht₀, l, hl, Nat.zero_le _⟩
    | succ k ih =>
      obtain ⟨t, ht, l, hl, hk⟩ := ih
      obtain ⟨t', ht', l', hl', -, hrank⟩ := h.deadlock_step hnests hD ht hl
      exact ⟨t', ht', l', hl', Nat.succ_le_of_lt (hk.trans_lt hrank)⟩
  obtain ⟨t, -, l, -, hle⟩ := hclimb bound
  exact absurd (hbound l) (Nat.not_lt.mpr hle)

/-- **Threads that take their locks in rising order never deadlock.** -/
theorem not_deadlock_final_of_rank {todo : τ → List (LockStep ℓ)}
    (hdisciplined : ∀ t, Disciplined (todo t)) (howes : ∀ t l, ¬ Owes l (todo t))
    {rank : ℓ → ℕ} {bound : ℕ} (hbound : ∀ l, rank l < bound)
    (hnests : ∀ t, Nests (fun l' l => rank l' < rank l) (todo t)) (schedule : List τ) :
    ¬ (Run.final step (start todo) schedule).Deadlock := by
  have hconsistent := Run.invariant (P := Consistent) (fun _ t h => h.step t) schedule
    (consistent_start hdisciplined howes)
  have hnests' := Run.invariant
    (P := fun s : LockState τ ℓ => ∀ t, Nests (fun l' l => rank l' < rank l) (s.todo t))
    (fun _ t h => forall_todo_step nests_tail h t) schedule (s := start todo) hnests
  exact hconsistent.not_deadlock_of_rank hbound hnests'

end LockState
