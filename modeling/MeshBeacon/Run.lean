import Mathlib.Data.List.Basic
import Mathlib.Tactic.Common

/-!
# Runs of a deterministic machine

A machine is a function taking a state and an event to the next state. A run
is the fold of that function over a list of events, so whatever the components
of a system do in whatever order is one list. Nothing here knows what the
states or the events are.

Two shapes of argument recur. An **invariant** holds in the first state, is
preserved by every step, and so holds after every run. A **guarded** run only
takes steps that meet a condition in the state they are taken in; the
condition is part of the run and not of the state, because it may mention the
event. `Guarded.invariant` is the induction both reduce to. The states of a machine
that may stop are options; what is invariant is then so of the states there are.
-/

namespace Run

variable {σ ι : Type*} {step : σ → ι → σ}

/-- The state a run ends in. -/
def final (step : σ → ι → σ) (s : σ) (es : List ι) : σ := es.foldl step s

@[simp] theorem final_cons (s : σ) (e : ι) (es : List ι) :
    final step s (e :: es) = final step (step s e) es := rfl

/-- Running one list and then another is running their concatenation. -/
theorem final_append (s : σ) (es fs : List ι) :
    final step s (es ++ fs) = final step (final step s es) fs :=
  List.foldl_append

/-- **Every step of the run meets `ok`** in the state it is taken in. -/
def Guarded (step : σ → ι → σ) (ok : σ → ι → Prop) : σ → List ι → Prop
  | _, [] => True
  | s, e :: es => ok s e ∧ Guarded step ok (step s e) es

instance {ok : σ → ι → Prop} [∀ s e, Decidable (ok s e)] :
    (s : σ) → (es : List ι) → Decidable (Guarded step ok s es)
  | _, [] => inferInstanceAs (Decidable True)
  | s, e :: es =>
    have : Decidable (Guarded step ok (step s e) es) := instDecidableGuarded (step s e) es
    inferInstanceAs (Decidable (ok s e ∧ Guarded step ok (step s e) es))

theorem guarded_append {ok : σ → ι → Prop} {s : σ} {es fs : List ι} :
    Guarded step ok s (es ++ fs) ↔ Guarded step ok s es ∧ Guarded step ok (final step s es) fs := by
  induction es generalizing s with
  | nil => exact ⟨fun h => ⟨trivial, h⟩, fun h => h.2⟩
  | cons e es ih =>
    rw [List.cons_append, Guarded, Guarded, ih, and_assoc]
    rfl

theorem Guarded.mono {ok ok' : σ → ι → Prop} (h : ∀ s e, ok s e → ok' s e) {s : σ}
    {es : List ι} (hes : Guarded step ok s es) : Guarded step ok' s es := by
  induction es generalizing s with
  | nil => trivial
  | cons e es ih => exact ⟨h s e hes.1, ih hes.2⟩

/-- Two guards are met together when each is. -/
theorem Guarded.and {ok ok' : σ → ι → Prop} {s : σ} {es : List ι} (h : Guarded step ok s es)
    (h' : Guarded step ok' s es) : Guarded step (fun s e => ok s e ∧ ok' s e) s es := by
  induction es generalizing s with
  | nil => trivial
  | cons e es ih => exact ⟨⟨h.1, h'.1⟩, ih h.2 h'.2⟩

/-- **The invariant rule.** What holds at the start and is preserved by every
step that meets the guard holds at the end of every guarded run. -/
theorem Guarded.invariant {ok : σ → ι → Prop} {P : σ → Prop}
    (hstep : ∀ s e, ok s e → P s → P (step s e)) {s : σ} {es : List ι}
    (hes : Guarded step ok s es) (hs : P s) : P (final step s es) := by
  induction es generalizing s with
  | nil => exact hs
  | cons e es ih => exact ih hes.2 (hstep s e hes.1 hs)

/-- **The invariant rule of machines that may stop**: the invariant holds at the end of
every guarded run that does not. -/
theorem Guarded.invariant_some {step : Option σ → ι → Option σ} {ok : Option σ → ι → Prop}
    {P : σ → Prop} (hnone : ∀ e, step none e = none)
    (hstep : ∀ s s' e, ok (some s) e → step (some s) e = some s' → P s → P s') {s s' : σ}
    {es : List ι} (hes : Guarded step ok (some s) es) (hs : P s)
    (hend : final step (some s) es = some s') : P s' := by
  have hpartial : ∀ o e, ok o e → (∀ s ∈ o, P s) → ∀ s' ∈ step o e, P s' := by
    intro o e hok ho s' hs'
    cases o with
    | none => exact absurd (hs'.symm.trans (hnone e)) (Option.some_ne_none s')
    | some s => exact hstep s s' e hok hs' (ho s rfl)
  have hstart : ∀ s' ∈ some s, P s' := by
    rintro _ ⟨⟩
    exact hs
  exact hes.invariant (P := fun o => ∀ s ∈ o, P s) hpartial hstart s' hend

/-- The invariant rule of the runs that need no guard. -/
theorem invariant {P : σ → Prop} (hstep : ∀ s e, P s → P (step s e)) {s : σ}
    (es : List ι) (hs : P s) : P (final step s es) := by
  induction es generalizing s with
  | nil => exact hs
  | cons e es ih => exact ih (hstep s e hs)

/-- **The simulation rule.** A relation between the states of two machines that
holds at the start and is preserved when both take a step holds after both have
run over the same events. -/
theorem simulation {τ : Type*} {step' : τ → ι → τ} {R : σ → τ → Prop}
    (hstep : ∀ s t e, R s t → R (step s e) (step' t e)) {s : σ} {t : τ} (es : List ι)
    (hs : R s t) : R (final step s es) (final step' t es) := by
  induction es generalizing s t with
  | nil => exact hs
  | cons e es ih => exact ih (hstep s t e hs)

/-- The simulation rule of the runs over events that have a property. -/
theorem simulation_of_forall {τ : Type*} {step' : τ → ι → τ} {R : σ → τ → Prop} {Q : ι → Prop}
    (hstep : ∀ s t e, Q e → R s t → R (step s e) (step' t e)) {s : σ} {t : τ} {es : List ι}
    (hes : ∀ e ∈ es, Q e) (hs : R s t) : R (final step s es) (final step' t es) := by
  induction es generalizing s t with
  | nil => exact hs
  | cons e es ih =>
    obtain ⟨he, hes⟩ := List.forall_mem_cons.mp hes
    exact ih hes (hstep s t e he hs)

/-- **A run is guarded** when an invariant and a property of the events alone
give the guard, and the invariant survives such events. -/
theorem guarded_of_invariant {ok : σ → ι → Prop} {P : σ → Prop} {Q : ι → Prop}
    (hok : ∀ s e, P s → Q e → ok s e) (hstep : ∀ s e, P s → Q e → P (step s e)) {s : σ}
    {es : List ι} (hs : P s) (hes : ∀ e ∈ es, Q e) : Guarded step ok s es := by
  induction es generalizing s with
  | nil => trivial
  | cons e es ih =>
    have he := hes e List.mem_cons_self
    exact ⟨hok s e hs he, ih (hstep s e hs he) fun f hf => hes f (List.mem_cons_of_mem e hf)⟩

/-- **Another guard for the same runs**: where an invariant holds the two guards are
met by the same events, and these keep the invariant. -/
theorem guarded_congr {ok ok' : σ → ι → Prop} {I : σ → Prop}
    (hok : ∀ s e, I s → (ok s e ↔ ok' s e)) (hI : ∀ s e, I s → ok' s e → I (step s e)) {s : σ}
    {es : List ι} (hs : I s) : Guarded step ok s es ↔ Guarded step ok' s es := by
  induction es generalizing s with
  | nil => exact Iff.rfl
  | cons e es ih =>
    rw [Guarded, Guarded, hok s e hs]
    exact and_congr_right fun he => ih (hI s e hs he)

/-- A run is guarded when each of its events meets the guard where its turn comes. -/
theorem guarded_iff_split {ok : σ → ι → Prop} {s : σ} {es : List ι} : Guarded step ok s es ↔
    ∀ before e after, es = before ++ e :: after → ok (final step s before) e := by
  induction es generalizing s with
  | nil =>
    refine iff_of_true trivial fun before e after heq => ?_
    exact absurd heq (List.append_ne_nil_of_right_ne_nil before (List.cons_ne_nil e after)).symm
  | cons e es ih =>
    rw [Guarded, ih]
    refine ⟨fun ⟨he, hes⟩ before f after heq => ?_, fun h => ⟨h [] e es rfl, ?_⟩⟩
    · cases before with
      | nil =>
        obtain ⟨rfl, -⟩ := List.cons_eq_cons.mp heq
        exact he
      | cons e' before =>
        obtain ⟨rfl, htail⟩ := List.cons_eq_cons.mp heq
        exact hes before f after htail
    · intro before f after heq
      exact h (e :: before) f after (congrArg (e :: ·) heq)

/-- A machine whose states are its histories. -/
theorem final_history (history es : List ι) :
    final (fun history e => history ++ [e]) history es = history ++ es := by
  induction es generalizing history with
  | nil => exact (List.append_nil history).symm
  | cons e es ih => rw [final_cons, ih, List.append_assoc, List.singleton_append]

/-- A guard that looks at the events alone is met by every event. -/
theorem guarded_iff_forall {Q : ι → Prop} {s : σ} {es : List ι} :
    Guarded step (fun _ e => Q e) s es ↔ ∀ e ∈ es, Q e := by
  induction es generalizing s with
  | nil => exact iff_of_true trivial (List.forall_mem_nil Q)
  | cons e es ih => rw [Guarded, ih, List.forall_mem_cons]

/-- **The rule of what cannot be repaired.** Where a step leads to a state with a
property exactly when it meets the guard in a state with it, a run ends in a state
with the property exactly when it starts in one and is guarded. -/
theorem final_iff_guarded {ok : σ → ι → Prop} {I P : σ → Prop}
    (hI : ∀ s e, I s → I (step s e)) (hstep : ∀ s e, I s → (P (step s e) ↔ P s ∧ ok s e))
    {s : σ} {es : List ι} (hs : I s) : P (final step s es) ↔ P s ∧ Guarded step ok s es := by
  induction es generalizing s with
  | nil => exact ⟨fun h => ⟨h, trivial⟩, fun h => h.1⟩
  | cons e es ih =>
    rw [final_cons, ih (hI s e hs), hstep s e hs, Guarded, and_assoc]

/-- **Every state of the run has `P`**, the first and the last included. -/
def Always (step : σ → ι → σ) (P : σ → Prop) : σ → List ι → Prop
  | s, [] => P s
  | s, e :: es => P s ∧ Always step P (step s e) es

/-- The states of a run are those its parts end in. -/
theorem always_iff {P : σ → Prop} {s : σ} {es : List ι} :
    Always step P s es ↔ ∀ before after, es = before ++ after → P (final step s before) := by
  induction es generalizing s with
  | nil =>
    refine ⟨fun h before after heq => ?_, fun h => h [] [] rfl⟩
    rw [(List.append_eq_nil_iff.mp heq.symm).1]
    exact h
  | cons e es ih =>
    rw [Always, ih]
    refine ⟨fun ⟨hs, hes⟩ before after heq => ?_, fun h => ⟨h [] (e :: es) rfl, ?_⟩⟩
    · cases before with
      | nil => exact hs
      | cons e' before =>
        obtain ⟨rfl, htail⟩ := List.cons_eq_cons.mp heq
        exact hes before after htail
    · intro before after heq
      exact h (e :: before) after (congrArg (e :: ·) heq)

/-- **The rule of what may be repaired.** Where a step from a state with `P` leads to a
state with `Q` exactly when it meets the guard, and then to one with `P`, all the states
of a run that starts with `P` have `Q` exactly when the run is guarded. -/
theorem always_iff_guarded {ok : σ → ι → Prop} {P Q : σ → Prop} (hPQ : ∀ s, P s → Q s)
    (hstep : ∀ s e, P s → (Q (step s e) ↔ ok s e)) (hP : ∀ s e, P s → ok s e → P (step s e))
    {s : σ} {es : List ι} (hs : P s) : Always step Q s es ↔ Guarded step ok s es := by
  induction es generalizing s with
  | nil => exact iff_of_true (hPQ s hs) trivial
  | cons e es ih =>
    rw [Always, Guarded]
    refine ⟨fun ⟨_, hes⟩ => ?_, fun ⟨hok, hes⟩ => ⟨hPQ s hs, (ih (hP s e hs hok)).mpr hes⟩⟩
    have hok : ok s e := by
      refine (hstep s e hs).mp ?_
      cases es with
      | nil => exact hes
      | cons e' es => exact hes.1
    exact ⟨hok, (ih (hP s e hs hok)).mp hes⟩

/-- The rule of machines that may stop for the runs that need no guard. -/
theorem invariant_some {step : Option σ → ι → Option σ} {P : σ → Prop}
    (hnone : ∀ e, step none e = none)
    (hstep : ∀ s s' e, step (some s) e = some s' → P s → P s') {s s' : σ} (es : List ι) (hs : P s)
    (hend : final step (some s) es = some s') : P s' := by
  have hes : Guarded step (fun _ _ => True) (some s) es :=
    guarded_of_invariant (P := fun _ => True) (Q := fun _ => True) (fun _ _ _ _ => trivial)
      (fun _ _ _ _ => trivial) trivial fun _ _ => trivial
  exact hes.invariant_some hnone (fun s s' e _ => hstep s s' e) hs hend

end Run
