import MeshBeacon.Downlink
import MeshBeacon.Locks

/-!
# The mutexes of the bridge

The bridge keeps a mutex for each of its two queues and one for its counters. A
frame is enqueued for transmission under the mutex of the downlink queue, and
counted under the one of the counters while the first is still held;
`cdp_bridge_get_stats` takes the same two in the other order. Nothing else takes one
mutex while it holds another.

So there is one deadlock, between a thread in an enqueue and a thread in
`cdp_bridge_get_stats`, each between its two locks (`Bridge.deadlock_iff`), and it
comes about exactly when one of them takes its first lock while the other is there
(`Bridge.not_deadlock_iff_entersApart`). Without `cdp_bridge_get_stats` the mutexes
are ordered.
-/

/-- The mutexes of `g_bridge`. -/
inductive BridgeMutex
  | uplink
  | downlink
  | stats
deriving DecidableEq

/-- A call of one of the functions of the bridge, with the arguments its locking
depends on. -/
inductive BridgeCall
  | enqueueDownlink (payload : Option Block)
  | enqueueDownlinkExt (payload : Option Block) (info : DownlinkInfo)
  /-- `inout_capacity` may be `NULL`. -/
  | popDownlink (capacity : Option UInt16)
  /-- A callback may be registered; it is `duck_rx_from_forwarder_cb`. -/
  | handleUplink (payload : Option Block) (rxCallback : Bool)
  | getStats
  | resetStats

namespace Bridge

open LockStep LockState BridgeMutex

/-- There is a payload, and it is not empty. -/
def hasPayload (payload : Option Block) : Bool := payload.any fun b => b.size ≠ 0

/-- `std::lock_guard`: the mutex is taken for the rest of a scope. -/
def lockGuard (l : BridgeMutex) (scope : List (LockStep BridgeMutex)) :
    List (LockStep BridgeMutex) :=
  lock l :: (scope ++ [unlock l])

/-- `cdp_bridge::push_uplink_packet`, which the callback calls. -/
def pushUplinkPacketLocks : List (LockStep BridgeMutex) := lockGuard uplink []

/-- The mutexes a call takes and gives back. -/
def locks : BridgeCall → List (LockStep BridgeMutex)
  | .enqueueDownlink payload =>
    if hasPayload payload then lockGuard downlink (lockGuard stats []) else []
  | .enqueueDownlinkExt payload _ =>
    if hasPayload payload then lockGuard downlink (lockGuard stats []) else []
  | .popDownlink capacity => if capacity.isSome then lockGuard downlink [] else []
  | .handleUplink payload rxCallback =>
    if hasPayload payload then
      lockGuard stats [] ++ (if rxCallback then pushUplinkPacketLocks else lockGuard uplink [])
    else []
  | .getStats => lockGuard stats (lockGuard downlink [])
  | .resetStats => lockGuard stats []

/-- What a thread making some calls does with the mutexes. -/
def program (calls : List BridgeCall) : List (LockStep BridgeMutex) := calls.flatMap locks

/-! ## What the programs look like -/

/-- The mutexes held while another is taken. -/
def Nested (l' l : BridgeMutex) : Prop :=
  (l' = downlink ∧ l = stats) ∨ (l' = stats ∧ l = downlink)

/-- A mutex that is taken in another, and that with a third in it, is not taken in the
third. -/
theorem Nested.not_nested {l' l m : BridgeMutex} (hinner : Nested m l) (houter : Nested l' m) :
    ¬ Nested l' l := by
  rcases houter with ⟨rfl, rfl⟩ | ⟨rfl, rfl⟩ <;> rcases hinner with ⟨h, rfl⟩ | ⟨h, rfl⟩
  · exact absurd h (by decide)
  · simp [Nested]
  · simp [Nested]
  · exact absurd h (by decide)

/-- A thread that has just given back a mutex takes another only when it has none. -/
def TakesAfresh : List (LockStep BridgeMutex) → Prop
  | [] => True
  | lock _ :: rest => TakesAfresh rest
  | unlock _ :: rest =>
    (∀ l rest', rest = lock l :: rest' → ∀ l', ¬ Owes l' rest) ∧ TakesAfresh rest

/-- What the proofs need to know of the rest of a program: mutexes are taken in one
another only as `R` says. -/
structure Shaped (R : BridgeMutex → BridgeMutex → Prop) (todo : List (LockStep BridgeMutex)) :
    Prop where
  disciplined : Disciplined todo
  nests : Nests R todo
  takesAfresh : TakesAfresh todo

/-- A list that starts a program. -/
structure Fresh (R : BridgeMutex → BridgeMutex → Prop) (todo : List (LockStep BridgeMutex)) :
    Prop extends Shaped R todo where
  owes : ∀ l, ¬ Owes l todo

variable {R : BridgeMutex → BridgeMutex → Prop}

theorem fresh_nil : Fresh R [] := ⟨⟨trivial, trivial, trivial⟩, fun _ => id⟩

theorem Fresh.lockGuard {rest : List (LockStep BridgeMutex)} (h : Fresh R rest) (l : BridgeMutex) :
    Fresh R (lockGuard l [] ++ rest) where
  disciplined := ⟨.inl rfl, h.owes l, h.disciplined⟩
  nests := by
    refine ⟨fun l' hl' => ?_, h.nests⟩
    obtain ⟨hne, heq | hrest⟩ := hl'
    · exact absurd heq hne
    · exact absurd hrest (h.owes l')
  takesAfresh := ⟨fun _ _ _ => h.owes, h.takesAfresh⟩
  owes := fun l' hl' => by
    obtain ⟨hne, heq | hrest⟩ := hl'
    · exact hne heq
    · exact h.owes l' hrest

theorem Fresh.lockGuard_lockGuard {rest : List (LockStep BridgeMutex)} (h : Fresh R rest)
    {l' l : BridgeMutex} (hne : l' ≠ l) (hnested : R l' l) :
    Fresh R (Bridge.lockGuard l' (Bridge.lockGuard l []) ++ rest) where
  disciplined := by
    refine ⟨⟨hne.symm, .inr (.inl rfl)⟩, .inl rfl, ?_, h.owes l', h.disciplined⟩
    rintro (heq | hrest)
    · exact hne heq
    · exact h.owes l hrest
  nests := by
    refine ⟨fun k hk => ?_, fun k hk => ?_, h.nests⟩
    · obtain ⟨hk', hk, heq | heq | hrest⟩ := hk
      · exact absurd heq hk
      · exact absurd heq hk'
      · exact absurd hrest (h.owes k)
    · obtain ⟨hk, heq | heq | hrest⟩ := hk
      · exact absurd heq hk
      · exact heq ▸ hnested
      · exact absurd hrest (h.owes k)
  takesAfresh := by
    refine ⟨fun k rest' heq => ?_, fun _ _ _ => h.owes, h.takesAfresh⟩
    exact absurd (List.cons_eq_cons.mp heq).1 (by simp)
  owes := fun k hk => by
    obtain ⟨hk', hk, heq | heq | hrest⟩ := hk
    · exact hk heq
    · exact hk' heq
    · exact h.owes k hrest

theorem Fresh.locks {rest : List (LockStep BridgeMutex)} (h : Fresh R rest) (call : BridgeCall)
    (henqueue : R downlink stats) (hgetStats : call = .getStats → R stats downlink) :
    Fresh R (locks call ++ rest) := by
  cases call with
  | enqueueDownlink payload =>
    rw [Bridge.locks]
    split_ifs
    · exact h.lockGuard_lockGuard (by decide) henqueue
    · exact h
  | enqueueDownlinkExt payload info =>
    rw [Bridge.locks]
    split_ifs
    · exact h.lockGuard_lockGuard (by decide) henqueue
    · exact h
  | popDownlink capacity =>
    rw [Bridge.locks]
    split_ifs
    · exact h.lockGuard downlink
    · exact h
  | handleUplink payload rxCallback =>
    rw [Bridge.locks]
    split_ifs
    · exact (h.lockGuard uplink).lockGuard stats
    · exact (h.lockGuard uplink).lockGuard stats
    · exact h
  | getStats => exact h.lockGuard_lockGuard (by decide) (hgetStats rfl)
  | resetStats => exact h.lockGuard stats

/-- **Every program starts afresh, and takes one mutex inside another only in an enqueue
and in `cdp_bridge_get_stats`.** -/
theorem fresh_program (calls : List BridgeCall) (henqueue : R downlink stats)
    (hgetStats : BridgeCall.getStats ∈ calls → R stats downlink) : Fresh R (program calls) := by
  induction calls with
  | nil => exact fresh_nil
  | cons call calls ih =>
    refine (ih fun hmem => hgetStats (List.mem_cons_of_mem _ hmem)).locks call henqueue ?_
    rintro rfl
    exact hgetStats List.mem_cons_self

theorem shaped_tail (a : LockStep BridgeMutex) (rest : List (LockStep BridgeMutex))
    (h : Shaped R (a :: rest)) : Shaped R rest where
  disciplined := disciplined_tail a rest h.disciplined
  nests := nests_tail a rest h.nests
  takesAfresh := by
    cases a with
    | lock l => exact h.takesAfresh
    | unlock l => exact h.takesAfresh.2

/-! ## The one deadlock -/

variable {τ : Type*} {s : LockState τ BridgeMutex}

/-- The thread is between the two locks of an enqueue. -/
def BetweenEnqueue (s : LockState τ BridgeMutex) (t : τ) : Prop :=
  s.owner downlink = some t ∧ s.Wants t stats

/-- The thread is between the two locks of `cdp_bridge_get_stats`. -/
def BetweenGetStats (s : LockState τ BridgeMutex) (t : τ) : Prop :=
  s.owner stats = some t ∧ s.Wants t downlink

/-- What holds of the threads in any case. -/
structure Sound (s : LockState τ BridgeMutex) : Prop where
  consistent : s.Consistent
  shaped : ∀ t, Shaped Nested (s.todo t)

theorem Sound.nests (h : Sound s) (t : τ) : Nests Nested (s.todo t) := (h.shaped t).nests

theorem sound_start (calls : τ → List BridgeCall) :
    Sound (start fun t => program (calls t)) := by
  have hfresh : ∀ t, Fresh Nested (program (calls t)) := fun t =>
    fresh_program (calls t) (.inl ⟨rfl, rfl⟩) fun _ => .inr ⟨rfl, rfl⟩
  exact ⟨consistent_start (fun t => (hfresh t).disciplined) fun t => (hfresh t).owes,
    fun t => (hfresh t).toShaped⟩

/-- **The threads are in a deadlock exactly when one is between the two locks of an
enqueue and another between those of `cdp_bridge_get_stats`.** -/
theorem deadlock_iff (h : Sound s) :
    s.Deadlock ↔ (∃ t, BetweenEnqueue s t) ∧ ∃ t, BetweenGetStats s t := by
  refine ⟨?_, ?_⟩
  · rintro ⟨D, ⟨t, ht⟩, hD⟩
    -- three threads, each with a lock the one before waits for
    obtain ⟨l, hl, -⟩ := hD t ht
    obtain ⟨t', ht', l', hl', howes, hnested⟩ := h.consistent.deadlock_step h.nests hD ht hl
    obtain ⟨t'', ht'', l'', hl'', howes', hnested'⟩ :=
      h.consistent.deadlock_step h.nests hD ht' hl'
    have howner := (h.consistent.owner_iff l t').mpr howes
    have howner' := (h.consistent.owner_iff l' t'').mpr howes'
    obtain ⟨rfl, rfl⟩ | ⟨rfl, rfl⟩ := hnested
    · obtain ⟨heq, -⟩ | ⟨-, rfl⟩ := hnested'
      · exact absurd heq (by decide)
      · exact ⟨⟨t', howner, hl'⟩, t'', howner', hl''⟩
    · obtain ⟨-, rfl⟩ | ⟨heq, -⟩ := hnested'
      · exact ⟨⟨t'', howner', hl''⟩, t', howner, hl'⟩
      · exact absurd heq (by decide)
  · rintro ⟨⟨t, hdownlink, hstats⟩, t', hstats', hdownlink'⟩
    have hne : t ≠ t' := by
      rintro rfl
      obtain ⟨rest, hrest⟩ := hstats
      obtain ⟨rest', hrest'⟩ := hdownlink'
      rw [hrest] at hrest'
      exact absurd (LockStep.lock.inj (List.cons_eq_cons.mp hrest').1) (by decide)
    refine ⟨{t, t'}, ⟨t, .inl rfl⟩, ?_⟩
    rintro k (rfl | rfl)
    · exact ⟨stats, hstats, t', .inr rfl, hne.symm, hstats'⟩
    · exact ⟨downlink, hdownlink', t, .inl rfl, hne, hdownlink⟩

/-- The thread does not take its first lock in an enqueue while another thread is
between the two locks of `cdp_bridge_get_stats`, nor the other way round. -/
def EntersApart (s : LockState τ BridgeMutex) (t : τ) : Prop :=
  (∀ rest, s.todo t = lock downlink :: lock stats :: rest → s.owner downlink = none →
      ∀ t', ¬ BetweenGetStats s t')
    ∧ ∀ rest, s.todo t = lock stats :: lock downlink :: rest → s.owner stats = none →
      ∀ t', ¬ BetweenEnqueue s t'

variable [DecidableEq τ]

theorem Sound.step (h : Sound s) (t : τ) : Sound (s.step t) where
  consistent := h.consistent.step t
  shaped := forall_todo_step shaped_tail h.shaped t

/-- **How a thread comes between two locks**: it is there already, or it takes the
first of them. -/
theorem Sound.between_of_step (h : Sound s) {t k : τ} {l' l : BridgeMutex}
    (howner : (s.step t).owner l' = some k) (hwants : (s.step t).Wants k l) :
    (s.owner l' = some k ∧ s.Wants k l)
      ∨ k = t ∧ s.owner l' = none ∧ ∃ rest, s.todo t = lock l' :: lock l :: rest := by
  obtain hstep | hstep := s.todo_step t
  · rw [hstep] at howner hwants
    exact .inl ⟨howner, hwants⟩
  have howes := ((h.step t).consistent.owner_iff l' k).mp howner
  obtain ⟨rest, hrest⟩ := hwants
  by_cases hk : k = t
  · subst hk
    have hself : (s.step k).todo k = (s.todo k).tail := by
      rw [hstep]
      exact Function.update_self ..
    rw [hrest] at hself howes
    have hshaped := h.shaped k
    cases htodo : s.todo k with
    | nil =>
      rw [htodo] at hself
      exact absurd hself (List.cons_ne_nil _ _)
    | cons a after =>
      rw [htodo] at hself hshaped
      have hafter : after = lock l :: rest := hself.symm
      subst hafter
      cases a with
      | lock m =>
        by_cases hfree : s.owner m = none
        · by_cases hm : m = l'
          · subst hm
            exact .inr ⟨rfl, hfree, rest, rfl⟩
          · -- a third mutex inside two others is nowhere in the programs
            have houter : Nested l' m := hshaped.nests.1 l' ⟨hm, howes⟩
            have hinner : Nested m l := hshaped.nests.2.1 m hshaped.disciplined.1
            have hboth : Nested l' l := hshaped.nests.2.1 l' howes
            exact absurd hboth (hinner.not_nested houter)
        · rw [step_of_taken htodo hfree] at hrest howner
          exact .inl ⟨howner, rest, hrest⟩
      | unlock m => exact absurd howes (hshaped.takesAfresh.1 l rest rfl l')
  · rw [hstep, Function.update_of_ne hk] at howes hrest
    exact .inl ⟨(h.consistent.owner_iff l' k).mpr howes, rest, hrest⟩

/-- A thread that takes the first of two locks comes between them. -/
theorem between_step {t : τ} {l' l : BridgeMutex} {rest : List (LockStep BridgeMutex)}
    (htodo : s.todo t = lock l' :: lock l :: rest) (hfree : s.owner l' = none) :
    (s.step t).owner l' = some t ∧ (s.step t).Wants t l := by
  rw [step_of_lock htodo hfree]
  exact ⟨Function.update_self .., rest, Function.update_self ..⟩

/-- Another thread stays between two locks when a third lock is taken. -/
theorem between_step_of_ne {t k : τ} (hne : k ≠ t) {l' l m : BridgeMutex}
    {rest : List (LockStep BridgeMutex)} (htodo : s.todo t = lock m :: rest) (hm : l' ≠ m)
    (howner : s.owner l' = some k) (hwants : s.Wants k l) :
    (s.step t).owner l' = some k ∧ (s.step t).Wants k l := by
  by_cases hfree : s.owner m = none
  · rw [step_of_lock htodo hfree]
    refine ⟨(Function.update_of_ne hm ..).trans howner, ?_⟩
    obtain ⟨after, hafter⟩ := hwants
    exact ⟨after, (Function.update_of_ne hne ..).trans hafter⟩
  · rw [step_of_taken htodo hfree]
    exact ⟨howner, hwants⟩

/-- **The step lemma**: a step leads into the deadlock exactly when it enters one of the
two functions while another thread is inside the other. -/
theorem Sound.not_deadlock_step_iff (h : Sound s) (hs : ¬ s.Deadlock) (t : τ) :
    ¬ (s.step t).Deadlock ↔ EntersApart s t := by
  rw [deadlock_iff h] at hs
  rw [deadlock_iff (h.step t)]
  refine ⟨fun hnot => ⟨?_, ?_⟩, ?_⟩
  · rintro rest htodo hfree t' ⟨howner, hwants⟩
    have hne : t' ≠ t := by
      rintro rfl
      have howes := (h.consistent.owner_iff stats t').mp howner
      rw [htodo] at howes
      exact howes.2.1 rfl
    exact hnot ⟨⟨t, between_step htodo hfree⟩, t',
      between_step_of_ne hne htodo (by decide) howner hwants⟩
  · rintro rest htodo hfree t' ⟨howner, hwants⟩
    have hne : t' ≠ t := by
      rintro rfl
      have howes := (h.consistent.owner_iff downlink t').mp howner
      rw [htodo] at howes
      exact howes.2.1 rfl
    exact hnot ⟨⟨t', between_step_of_ne hne htodo (by decide) howner hwants⟩, t,
      between_step htodo hfree⟩
  · rintro ⟨henqueue, hgetStats⟩ ⟨⟨t₁, howner₁, hwants₁⟩, t₂, howner₂, hwants₂⟩
    -- of the two threads between their locks at most one has got there in this step
    obtain hthere₁ | ⟨rfl, hfree, rest, htodo⟩ := h.between_of_step howner₁ hwants₁
    · obtain hthere₂ | ⟨rfl, hfree, rest, htodo⟩ := h.between_of_step howner₂ hwants₂
      · exact hs ⟨⟨t₁, hthere₁⟩, t₂, hthere₂⟩
      · exact hgetStats rest htodo hfree t₁ hthere₁
    · obtain hthere₂ | ⟨rfl, -, rest', htodo'⟩ := h.between_of_step howner₂ hwants₂
      · exact henqueue rest htodo hfree t₂ hthere₂
      · rw [htodo] at htodo'
        exact absurd (LockStep.lock.inj (List.cons_eq_cons.mp htodo').1) (by decide)

/-- **The bridge does not deadlock exactly while no thread enters an enqueue with
another inside `cdp_bridge_get_stats`, nor the other way round** – whatever the
threads call and however they are scheduled. -/
theorem not_deadlock_iff_entersApart (calls : τ → List BridgeCall) (schedule : List τ) :
    Run.Always step (fun s => ¬ s.Deadlock) (start fun t => program (calls t)) schedule
      ↔ Run.Guarded step EntersApart (start fun t => program (calls t)) schedule := by
  have hstart : ¬ (start fun t => program (calls t)).Deadlock := by
    rintro ⟨D, ⟨t, ht⟩, hD⟩
    obtain ⟨l, -, t', -, -, howner⟩ := hD t ht
    exact absurd howner.symm (Option.some_ne_none t')
  refine Run.always_iff_guarded (P := fun s => Sound s ∧ ¬ s.Deadlock) (fun _ h => h.2)
    (fun _ t h => h.1.not_deadlock_step_iff h.2 t) (fun _ t h hok => ⟨h.1.step t, ?_⟩)
    ⟨sound_start calls, hstart⟩
  exact (h.1.not_deadlock_step_iff h.2 t).mpr hok

/-- One thread enqueues a frame, another asks for the counters, and each gets its first
mutex. -/
theorem deadlock_of_enqueue_getStats :
    ¬ ∀ (calls : Bool → List BridgeCall) (schedule : List Bool),
      ¬ (Run.final step (start fun t => program (calls t)) schedule).Deadlock := by
  intro h
  refine h (fun t => if t then [.getStats] else [.enqueueDownlink (some ⟨[0], 1, by decide⟩)])
    [false, true] ?_
  refine ⟨Set.univ, ⟨true, trivial⟩, fun t _ => ?_⟩
  cases t with
  | false => exact ⟨stats, ⟨_, rfl⟩, true, trivial, by decide, rfl⟩
  | true => exact ⟨downlink, ⟨_, rfl⟩, false, trivial, by decide, rfl⟩

/-! ## Without the counters being asked for -/

/-- The order of the mutexes when `cdp_bridge_get_stats` is not called. -/
def rank : BridgeMutex → ℕ
  | uplink => 0
  | downlink => 0
  | stats => 1

/-- **Threads that do not call `cdp_bridge_get_stats` never deadlock.** -/
theorem not_deadlock_of_no_getStats (calls : τ → List BridgeCall)
    (hcalls : ∀ t, BridgeCall.getStats ∉ calls t) (schedule : List τ) :
    ¬ (Run.final step (start fun t => program (calls t)) schedule).Deadlock := by
  have hfresh : ∀ t, Fresh (fun l' l => rank l' < rank l) (program (calls t)) := fun t =>
    fresh_program (calls t) Nat.one_pos fun hmem => absurd hmem (hcalls t)
  have hrank : ∀ l, rank l < 2 := by
    intro l
    cases l <;> decide
  exact not_deadlock_final_of_rank (fun t => (hfresh t).disciplined) (fun t => (hfresh t).owes)
    hrank (fun t => (hfresh t).nests) schedule

end Bridge
