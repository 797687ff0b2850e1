import MeshBeacon.Locks
import Mathlib.Algebra.BigOperators.Group.Finset.Basic
import Mathlib.Algebra.Order.BigOperators.Group.Finset
import Mathlib.Data.Fintype.Basic

/-!
# Locks taken for a scope

Most code does not take and give back its locks one by one, but takes a lock for a scope: what is
done before the lock is given back is inside it, and so are the locks taken there. The list of
steps of such a program gives back every lock it takes, so all that is left to say is which lock
is taken inside which. With a rank for every lock it is enough to look at each scope:
the locks taken in it have to be of a higher rank (`LockScopes.Rising`).

Threads that are not in a deadlock are not only not stuck: one of them can take a step, and since
every step taken is a step less, all of them can be brought to their ends
(`LockState.Consistent.exists_completes`).
-/

open LockStep

/-- A program that takes its locks for scopes. -/
inductive LockScopes (ℓ : Type*)
  | done
  /-- The lock is taken for the scope; then it goes on with the rest. -/
  | guard (l : ℓ) (scope rest : LockScopes ℓ)

namespace LockScopes

variable {ℓ : Type*}

/-- The steps of the program. -/
def steps : LockScopes ℓ → List (LockStep ℓ)
  | done => []
  | guard l scope rest => lock l :: (scope.steps ++ unlock l :: rest.steps)

/-- A lock taken for a scope, and nothing else. -/
def held (l : ℓ) (scope : LockScopes ℓ) : LockScopes ℓ := guard l scope done

/-- One program after the other. -/
def append : LockScopes ℓ → LockScopes ℓ → LockScopes ℓ
  | done, q => q
  | guard l scope rest, q => guard l scope (rest.append q)

instance : Append (LockScopes ℓ) := ⟨append⟩

/-- Programs one after the other. -/
def seq (ps : List (LockScopes ℓ)) : LockScopes ℓ := ps.foldr append done

/-- A program as often as given. -/
def times (n : ℕ) (p : LockScopes ℓ) : LockScopes ℓ := seq (List.replicate n p)

/-- A program if a condition holds. -/
def onlyIf (b : Bool) (p : LockScopes ℓ) : LockScopes ℓ := if b then p else done

/-- **Locks are taken in rising order**: all of rank `n` at least, and in a scope those of a
higher rank than its lock. -/
def Rising (rank : ℓ → ℕ) : ℕ → LockScopes ℓ → Prop
  | _, done => True
  | n, guard l scope rest => n ≤ rank l ∧ scope.Rising rank (rank l + 1) ∧ rest.Rising rank n

variable {rank : ℓ → ℕ} {n : ℕ}

/-! ## Programs put together -/

@[simp] theorem rising_done : (done : LockScopes ℓ).Rising rank n := trivial

theorem rising_held {l : ℓ} {scope : LockScopes ℓ} :
    (held l scope).Rising rank n ↔ n ≤ rank l ∧ scope.Rising rank (rank l + 1) :=
  ⟨fun h => ⟨h.1, h.2.1⟩, fun h => ⟨h.1, h.2, trivial⟩⟩

theorem Rising.append {p q : LockScopes ℓ} (hp : p.Rising rank n) (hq : q.Rising rank n) :
    (p ++ q).Rising rank n := by
  induction p with
  | done => exact hq
  | guard l scope rest _ ih => exact ⟨hp.1, hp.2.1, ih hp.2.2⟩

theorem Rising.seq {ps : List (LockScopes ℓ)} (h : ∀ p ∈ ps, p.Rising rank n) :
    (LockScopes.seq ps).Rising rank n := by
  induction ps with
  | nil => trivial
  | cons p ps ih =>
    obtain ⟨hp, hps⟩ := List.forall_mem_cons.mp h
    exact hp.append (ih hps)

theorem Rising.times {p : LockScopes ℓ} (h : p.Rising rank n) (k : ℕ) :
    (LockScopes.times k p).Rising rank n :=
  Rising.seq fun _ hq => (List.eq_of_mem_replicate hq).symm ▸ h

theorem Rising.onlyIf {p : LockScopes ℓ} (b : Bool) (h : b → p.Rising rank n) :
    (LockScopes.onlyIf b p).Rising rank n := by
  cases b with
  | false => trivial
  | true => exact h rfl

/-! ## The steps of a program -/

/-- **The steps of a program that rises** owe nothing by themselves, give back what they take, and
take every lock with only locks of a lower rank in hand. -/
theorem Rising.steps {p : LockScopes ℓ} (h : p.Rising rank n) {rest : List (LockStep ℓ)}
    (howes : ∀ l, Owes l rest → rank l < n) (hdisciplined : Disciplined rest)
    (hnests : Nests (fun l' l => rank l' < rank l) rest) :
    (∀ l, Owes l (p.steps ++ rest) ↔ Owes l rest) ∧ Disciplined (p.steps ++ rest)
      ∧ Nests (fun l' l => rank l' < rank l) (p.steps ++ rest) := by
  induction p generalizing n rest with
  | done => exact ⟨fun _ => Iff.rfl, hdisciplined, hnests⟩
  | guard l scope next ihscope ihnext =>
    obtain ⟨hl, hscope, hnext⟩ := h
    obtain ⟨howes', hdisciplined', hnests'⟩ := ihnext hnext howes hdisciplined hnests
    -- what is owed behind has a lower rank, so `l` itself is free there
    have hfree : ¬ Owes l (next.steps ++ rest) := fun hl' =>
      absurd (howes l ((howes' l).mp hl')) (Nat.not_lt.mpr hl)
    have hinner := @ihscope _ hscope (unlock l :: (next.steps ++ rest))
      (fun l' hl' => ?_) ⟨hfree, hdisciplined'⟩ hnests'
    · obtain ⟨howes'', hdisciplined'', hnests''⟩ := hinner
      have hsteps : (guard l scope next).steps ++ rest
          = lock l :: (scope.steps ++ unlock l :: (next.steps ++ rest)) := by
        rw [LockScopes.steps, List.cons_append, List.append_assoc, List.cons_append]
      -- the scope is closed before what comes next
      have howesl : ∀ l', Owes l' ((guard l scope next).steps ++ rest) ↔ Owes l' rest := by
        intro l'
        rw [hsteps]
        constructor
        · rintro ⟨hne, hin⟩
          exact (howes' l').mp (((howes'' l').mp hin).resolve_left hne)
        · intro hin
          refine ⟨?_, (howes'' l').mpr (Or.inr ((howes' l').mpr hin))⟩
          rintro rfl
          exact hfree ((howes' l).mpr hin)
      refine ⟨howesl, ?_, ?_⟩
      · rw [hsteps]
        exact ⟨(howes'' l).mpr (Or.inl rfl), hdisciplined''⟩
      · have hbelow : ∀ l', Owes l' ((guard l scope next).steps ++ rest) → rank l' < rank l :=
          fun l' hl' => (howes l' ((howesl l').mp hl')).trans_le hl
        rw [hsteps] at hbelow ⊢
        exact ⟨hbelow, hnests''⟩
    · rcases hl' with rfl | hl'
      · exact Nat.lt_succ_self _
      · exact (howes l' ((howes' l').mp hl')).trans_le (hl.trans (Nat.le_succ _))

theorem Rising.steps_alone {p : LockScopes ℓ} (h : p.Rising rank n) :
    (∀ l, ¬ Owes l p.steps) ∧ Disciplined p.steps
      ∧ Nests (fun l' l => rank l' < rank l) p.steps := by
  obtain ⟨howes, hrest⟩ := @Rising.steps ℓ rank n p h [] (fun _ hl => hl.elim) trivial trivial
  rw [List.append_nil] at howes hrest
  exact ⟨fun l hl => (howes l).mp hl, hrest⟩

/-! ## A lock taken only inside another -/

/-- `l` is only taken inside `l'`, or where it is said that the program is inside `l'`. -/
def Inside [DecidableEq ℓ] (l' l : ℓ) : Bool → LockScopes ℓ → Prop
  | _, done => True
  | b, guard k scope rest =>
    (k = l → b = true) ∧ scope.Inside l' l (b || k = l') ∧ rest.Inside l' l b

variable [DecidableEq ℓ] {l' l : ℓ} {b : Bool}

theorem inside_held {k : ℓ} {scope : LockScopes ℓ} :
    (held k scope).Inside l' l b ↔ (k = l → b = true) ∧ scope.Inside l' l (b || k = l') :=
  ⟨fun h => ⟨h.1, h.2.1⟩, fun h => ⟨h.1, h.2, trivial⟩⟩

theorem Inside.append {p q : LockScopes ℓ} (hp : p.Inside l' l b) (hq : q.Inside l' l b) :
    (p ++ q).Inside l' l b := by
  induction p with
  | done => exact hq
  | guard k scope rest _ ih => exact ⟨hp.1, hp.2.1, ih hp.2.2⟩

theorem Inside.seq {ps : List (LockScopes ℓ)} (h : ∀ p ∈ ps, p.Inside l' l b) :
    (LockScopes.seq ps).Inside l' l b := by
  induction ps with
  | nil => trivial
  | cons p ps ih =>
    obtain ⟨hp, hps⟩ := List.forall_mem_cons.mp h
    exact hp.append (ih hps)

theorem Inside.times {p : LockScopes ℓ} (h : p.Inside l' l b) (k : ℕ) :
    (LockScopes.times k p).Inside l' l b :=
  Inside.seq fun _ hq => (List.eq_of_mem_replicate hq).symm ▸ h

theorem Inside.onlyIf {p : LockScopes ℓ} (c : Bool) (h : p.Inside l' l b) :
    (LockScopes.onlyIf c p).Inside l' l b := by
  cases c with
  | false => trivial
  | true => exact h

/-- Whenever the list owes `l`, it owes `l'`. -/
def Within (l' l : ℓ) (todo : List (LockStep ℓ)) : Prop :=
  ∀ rest, rest <:+ todo → Owes l rest → Owes l' rest

omit [DecidableEq ℓ] in
theorem within_cons {a : LockStep ℓ} {todo : List (LockStep ℓ)} : Within l' l (a :: todo)
    ↔ (Owes l (a :: todo) → Owes l' (a :: todo)) ∧ Within l' l todo := by
  constructor
  · exact fun h => ⟨h _ List.suffix_rfl, fun rest hrest => h rest (hrest.trans (List.suffix_cons a _))⟩
  · rintro ⟨hself, htail⟩ rest hrest
    rcases List.suffix_cons_iff.mp hrest with rfl | hrest
    · exact hself
    · exact htail rest hrest

/-- The steps of a program that takes `l` only inside `l'` owe it only with `l'`. -/
theorem Rising.within {p : LockScopes ℓ} (h : p.Rising rank n) (hin : p.Inside l' l b)
    {rest : List (LockStep ℓ)} (howes : ∀ k, Owes k rest → rank k < n)
    (hdisciplined : Disciplined rest) (hnests : Nests (fun k' k => rank k' < rank k) rest)
    (hb : b = true → Owes l' rest) (hrest : Within l' l rest) :
    Within l' l (p.steps ++ rest) := by
  induction p generalizing n b rest with
  | done => exact hrest
  | guard k scope next ihscope ihnext =>
    have hall := h.steps howes hdisciplined hnests
    obtain ⟨hk, hscope, hnext⟩ := h
    obtain ⟨hkl, hinscope, hinnext⟩ := hin
    obtain ⟨howes', hdisciplined', hnests'⟩ := hnext.steps howes hdisciplined hnests
    have hbehind := ihnext hnext hinnext howes hdisciplined hnests hb hrest
    have hfree : ¬ Owes k (next.steps ++ rest) := fun hk' =>
      absurd (howes k ((howes' k).mp hk')) (Nat.not_lt.mpr hk)
    -- inside the scope `k` is owed, and so is what was owed outside
    have hscoped : Within l' l (scope.steps ++ unlock k :: (next.steps ++ rest)) := by
      refine ihscope hscope hinscope (fun k' hk' => ?_) ⟨hfree, hdisciplined'⟩ hnests'
        (fun hb' => ?_) (within_cons.mpr ⟨fun howed => ?_, hbehind⟩)
      · rcases hk' with rfl | hk'
        · exact Nat.lt_succ_self _
        · exact (howes k' ((howes' k').mp hk')).trans_le (hk.trans (Nat.le_succ _))
      · rcases (Bool.or_eq_true _ _).mp hb' with hb' | hb'
        · exact Or.inr ((howes' l').mpr (hb hb'))
        · exact Or.inl (of_decide_eq_true hb')
      · rcases howed with rfl | howed
        · exact Or.inr ((howes' l').mpr (hb (hkl rfl)))
        · exact Or.inr (hbehind _ List.suffix_rfl howed)
    have hsteps : (guard k scope next).steps ++ rest
        = lock k :: (scope.steps ++ unlock k :: (next.steps ++ rest)) := by
      rw [LockScopes.steps, List.cons_append, List.append_assoc, List.cons_append]
    have hself : Owes l ((guard k scope next).steps ++ rest)
        → Owes l' ((guard k scope next).steps ++ rest) := fun howed =>
      (hall.1 l').mpr (hrest _ List.suffix_rfl ((hall.1 l).mp howed))
    rw [hsteps] at hself ⊢
    exact within_cons.mpr ⟨hself, hscoped⟩

end LockScopes

namespace LockState

variable {τ ℓ : Type*} [DecidableEq τ] [DecidableEq ℓ] {s : LockState τ ℓ}

/-! ## Bringing threads to their ends -/

/-- **Without a deadlock some thread can take a step**, if there is one that has something to
do. -/
theorem Consistent.exists_step (h : s.Consistent) (hdeadlock : ¬ s.Deadlock)
    (hne : ∃ t, s.todo t ≠ []) :
    ∃ t, ∃ a, s.todo t = a :: (s.step t).todo t ∧ ∀ t' ≠ t, (s.step t).todo t' = s.todo t' := by
  by_contra hstuck
  refine hdeadlock ⟨{t | s.todo t ≠ []}, hne, fun t ht => ?_⟩
  cases htodo : s.todo t with
  | nil => exact absurd htodo ht
  | cons a rest =>
    cases a with
    | unlock l =>
      refine absurd ⟨t, unlock l, ?_, fun t' ht' => ?_⟩ hstuck
      · rw [step_of_unlock htodo, htodo]
        exact congrArg _ (Function.update_self t rest s.todo).symm
      · rw [step_of_unlock htodo]
        exact Function.update_of_ne ht' rest s.todo
    | lock l =>
      cases howner : s.owner l with
      | none =>
        refine absurd ⟨t, lock l, ?_, fun t' ht' => ?_⟩ hstuck
        · rw [step_of_lock htodo howner, htodo]
          exact congrArg _ (Function.update_self t rest s.todo).symm
        · rw [step_of_lock htodo howner]
          exact Function.update_of_ne ht' rest s.todo
      | some t' =>
        -- a thread that cannot go on waits for one that owes the lock, and so has something to do
        have howes := (h.owner_iff l t').mp howner
        refine ⟨l, ⟨rest, htodo⟩, t', fun hnil => ?_, ?_, howner⟩
        · rw [hnil] at howes
          exact howes
        · rintro rfl
          rw [htodo] at howes
          exact howes.1 rfl

/-- **Threads that never deadlock can be brought to their ends.** -/
theorem exists_completes [Fintype τ] {P : LockState τ ℓ → Prop}
    (hstep : ∀ s t, P s → P (s.step t)) (hconsistent : ∀ s, P s → s.Consistent)
    (hdeadlock : ∀ s, P s → ¬ s.Deadlock) (hs : P s) :
    ∃ schedule, ∀ t, (Run.final step s schedule).todo t = [] := by
  induction hn : ∑ t, (s.todo t).length using Nat.strong_induction_on generalizing s with
  | _ n ih =>
    by_cases hne : ∃ t, s.todo t ≠ []
    · obtain ⟨t, a, htodo, hothers⟩ := (hconsistent s hs).exists_step (hdeadlock s hs) hne
      have hless : ∑ t', ((s.step t).todo t').length < n := by
        rw [← hn]
        refine Finset.sum_lt_sum (fun t' _ => ?_) ⟨t, Finset.mem_univ t, ?_⟩
        · rcases eq_or_ne t' t with rfl | hne
          · rw [htodo, List.length_cons]
            exact Nat.le_succ _
          · rw [hothers t' hne]
        · rw [htodo, List.length_cons]
          exact Nat.lt_succ_self _
      obtain ⟨schedule, hdone⟩ := ih _ hless (hstep s t hs) rfl
      exact ⟨t :: schedule, hdone⟩
    · push Not at hne
      exact ⟨[], hne⟩

omit [DecidableEq τ] [DecidableEq ℓ] in
/-- **Of locks taken only inside another, one is had by nobody while a thread is about to take
one.** The thread, and the one that has the other, would both have that lock. -/
theorem Consistent.not_owner_of_within (h : s.Consistent) {l' l k : ℓ} {t t' : τ} (hne : l' ≠ l)
    (hl : LockScopes.Within l' l (s.todo t)) (hk : LockScopes.Within l' k (s.todo t'))
    (hwants : s.Wants t l) (hsame : t' = t → k = l) : s.owner k ≠ some t' := by
  obtain ⟨rest, htodo⟩ := hwants
  have hdisciplined := h.disciplined t
  rw [htodo] at hdisciplined hl
  have howner : s.owner l' = some t := by
    rw [h.owner_iff, htodo]
    exact ⟨hne.symm, (LockScopes.within_cons.mp hl).2 _ List.suffix_rfl hdisciplined.1⟩
  intro howner'
  have howes := (h.owner_iff k t').mp howner'
  have hboth : s.owner l' = some t' := (h.owner_iff l' t').mpr (hk _ List.suffix_rfl howes)
  obtain rfl := Option.some.inj (howner.symm.trans hboth)
  rw [htodo, hsame rfl] at howes
  exact absurd rfl howes.1

end LockState

/-- What is known of threads at every moment. -/
structure LockScopes.Sound {τ ℓ : Type*} (rank : ℓ → ℕ) (s : LockState τ ℓ) : Prop where
  consistent : s.Consistent
  nests : ∀ t, Nests (fun l' l => rank l' < rank l) (s.todo t)

namespace LockScopes

variable {τ ℓ : Type*} [DecidableEq τ] [DecidableEq ℓ] {rank : ℓ → ℕ} {bound : ℕ}

omit [DecidableEq τ] [DecidableEq ℓ] in
theorem sound_start {programs : τ → LockScopes ℓ} (h : ∀ t, (programs t).Rising rank 0) :
    Sound rank (LockState.start fun t => (programs t).steps) := by
  exact ⟨LockState.consistent_start (fun t => (h t).steps_alone.2.1) fun t =>
    (h t).steps_alone.1, fun t => (h t).steps_alone.2.2⟩

theorem Sound.step {s : LockState τ ℓ} (h : Sound rank s) (t : τ) : Sound rank (s.step t) :=
  ⟨h.consistent.step t, LockState.forall_todo_step nests_tail h.nests t⟩

/-- **Threads that take their locks in rising order never deadlock**, and can always be brought to
their ends. -/
theorem completes [Fintype τ] (hbound : ∀ l, rank l < bound) {programs : τ → LockScopes ℓ}
    (h : ∀ t, (programs t).Rising rank 0) (schedule : List τ) :
    ¬ (Run.final LockState.step (LockState.start fun t => (programs t).steps) schedule).Deadlock
      ∧ ∃ more, ∀ t, (Run.final LockState.step (LockState.start fun t => (programs t).steps)
        (schedule ++ more)).todo t = [] := by
  have hsound := Run.invariant (P := Sound rank) (fun _ t h => Sound.step h t) schedule (sound_start h)
  have hnot : ∀ s : LockState τ ℓ, Sound rank s → ¬ s.Deadlock := fun s hs =>
    hs.consistent.not_deadlock_of_rank hbound hs.nests
  refine ⟨hnot _ hsound, ?_⟩
  obtain ⟨more, hmore⟩ := LockState.exists_completes (P := Sound rank) (fun _ t hs => Sound.step hs t)
    (fun _ hs => hs.consistent) hnot hsound
  exact ⟨more, fun t => by rw [Run.final_append]; exact hmore t⟩

/-- **Threads that take locks only inside another**: nobody has one while another is about to take
one. -/
theorem not_owner_of_inside {programs : τ → LockScopes ℓ} (h : ∀ t, (programs t).Rising rank 0)
    {l' l k : ℓ} {t t' : τ} (hne : l' ≠ l) (hl : (programs t).Inside l' l false)
    (hk : (programs t').Inside l' k false) (hsame : t' = t → k = l) (schedule : List τ)
    (hwants : (Run.final LockState.step
      (LockState.start fun t => (programs t).steps) schedule).Wants t l) :
    (Run.final LockState.step (LockState.start fun t => (programs t).steps) schedule).owner k
      ≠ some t' := by
  have hconsistent :=
    (Run.invariant (P := Sound rank) (fun _ t h => Sound.step h t) schedule (sound_start h)).consistent
  have hwithin {i : τ} {m : ℓ} (hin : (programs i).Inside l' m false) : Within l' m
      ((Run.final LockState.step (LockState.start fun t => (programs t).steps) schedule).todo i) := by
    refine Run.invariant (P := fun s : LockState τ ℓ => Within l' m (s.todo i))
      (fun _ t h => LockState.todo_step_of_tail (fun _ _ h => (within_cons.mp h).2) h t) schedule ?_
    have hstart := @Rising.within ℓ rank 0 _ l' m false _ (h i) hin [] (fun _ hl => hl.elim)
      trivial trivial (fun h => absurd h Bool.false_ne_true) fun rest hrest howes => by
        rw [List.suffix_nil.mp hrest] at howes
        exact howes.elim
    rw [List.append_nil] at hstart
    exact hstart
  exact hconsistent.not_owner_of_within hne (hwithin hl) (hwithin hk) hwants hsame

end LockScopes
