import MeshBeacon.JitPurge

/-!
# What a peek returns

A peek is asked for three things: that it drop the nodes it takes for missed
ones, and no other; that it return the node which departs soonest when that
one is due, and nothing otherwise; and that it look at nodes in use only.

The scan keeps the index of the best candidate while a purge sorts the array
again, and it resumes at index 1 after a purge. Neither matters when the first
node is not outdated: then that node stays first, and is the soonest. When it
is outdated the node that moves up to index 0 is never looked at again. So the
scan is right only if that node is not due anyway, or departs together with the
next one, and only if there is a next one to look at: with no candidate left
the source reads the node before the array.

The sorting routine promises an ascending array when the comparator orders it,
which is asked here where a node is to be purged. A peek that purges nothing
does not sort.
-/

open Jit Circle

/-! ## What is read -/

/-- An index as the source keeps it: -1 for none. -/
def idxOf (best : Option ℕ) : ℤ := best.elim (-1) (fun b => (b : ℤ))

/-- The candidate after a look at the node at an index. -/
def closer (timeUs : UInt32) (q : JitQueue) (i : ℕ) (best : Option ℕ) : Option ℕ :=
  best.elim (some i) fun b =>
    if (q.node i).pkt.countUs - timeUs < (q.node b).pkt.countUs - timeUs then some i else some b

/-- What `jit_peek` reads of the array from a point of its loop on: the indices,
each with the number of nodes in use. The last node counts as in use until it
has been moved over the dropped one. -/
def jitPeekLoopReads (qs : Qsort JitNode) (timeUs : UInt32) (q : JitQueue) (i : ℕ)
    (best : Option ℕ) : List (ℤ × ℕ) :=
  if i < q.numPkt.toNat then
    if outdated timeUs (q.node i) then
      ((i : ℤ), q.numPkt.toNat) :: ((q.numPkt.toNat : ℤ) - 1, q.numPkt.toNat)
        :: jitPeekLoopReads qs timeUs (q.remove qs i) 1 best
    else
      ((i : ℤ), q.numPkt.toNat) :: (best.toList.map fun b : ℕ => ((b : ℤ), q.numPkt.toNat))
        ++ jitPeekLoopReads qs timeUs q (i + 1) (closer timeUs q i best)
  else [(idxOf best, q.numPkt.toNat)]
termination_by q.numPkt.toNat * 256 + (q.numPkt.toNat - i)
decreasing_by
  · have hlt := q.numPkt.toNat_lt
    rw [JitQueue.numPkt_remove, JitQueue.toNat_numPkt_sub_one (by assumption)]
    change (q.numPkt.toNat - 1) * 256 + _ < _
    omega
  · omega

/-- What `jit_peek` reads of the array. -/
def jitPeekReads (qs : Qsort JitNode) (q : JitQueue) (timeUs : UInt32) : List (ℤ × ℕ) :=
  if q.numPkt = 0 then [] else jitPeekLoopReads qs timeUs q 0 none

/-- **What is asked of a peek.** -/
structure PeekMeets (qs : Qsort JitNode) (q : JitQueue) (timeUs : UInt32) : Prop where
  /-- The nodes left are those that are not outdated. -/
  purges : (jitPeek qs q timeUs).2.1.live.Perm (q.live.filter fun n => !outdated timeUs n)
  /-- The index returned is that of a node left, which is the soonest and due. -/
  selects : ∀ i, (jitPeek qs q timeUs).2.2.1 = some i →
    i < (jitPeek qs q timeUs).2.1.numPkt.toNat
      ∧ ((jitPeek qs q timeUs).2.1.node i).pkt.countUs - timeUs < txJitDelay
      ∧ ∀ n ∈ (jitPeek qs q timeUs).2.1.live,
        ((jitPeek qs q timeUs).2.1.node i).pkt.countUs - timeUs ≤ n.pkt.countUs - timeUs
  /-- No index is returned only if no node left is due. -/
  waits : (jitPeek qs q timeUs).2.2.1 = none →
    ∀ n ∈ (jitPeek qs q timeUs).2.1.live, txJitDelay ≤ n.pkt.countUs - timeUs
  /-- Only nodes in use are read. -/
  reads : ∀ r ∈ jitPeekReads qs q timeUs, 0 ≤ r.1 ∧ r.1 < r.2

/-- **When the scan is right**: the first node is not outdated, or it is, the
next two are not, and the first of these is not due or departs together with
the second. -/
def JitQueue.ScansRight (q : JitQueue) (timeUs : UInt32) : Prop :=
  ¬ outdated timeUs (q.node 0)
    ∨ (3 ≤ q.numPkt.toNat ∧ ¬ outdated timeUs (q.node 1) ∧ ¬ outdated timeUs (q.node 2)
      ∧ (txJitDelay ≤ (q.node 1).pkt.countUs - timeUs
        ∨ (q.node 2).pkt.countUs = (q.node 1).pkt.countUs))

/-! ## One turn of the loop -/

section Loop

variable (qs : Qsort JitNode) (timeUs : UInt32) {q : JitQueue} {i : ℕ} (best : Option ℕ)
  (dropped : List JitNode)

theorem jitPeekLoop_of_outdated (hi : i < q.numPkt.toNat) (hout : outdated timeUs (q.node i)) :
    jitPeekLoop qs timeUs q i best dropped
      = jitPeekLoop qs timeUs (q.remove qs i) 1 best (dropped ++ [q.node i]) := by
  rw [jitPeekLoop, if_pos hi]
  dsimp only
  rw [if_pos hout]

theorem jitPeekLoop_of_not_outdated (hi : i < q.numPkt.toNat)
    (hout : ¬ outdated timeUs (q.node i)) :
    jitPeekLoop qs timeUs q i best dropped
      = jitPeekLoop qs timeUs q (i + 1) (closer timeUs q i best) dropped := by
  rw [jitPeekLoop, if_pos hi]
  dsimp only
  rw [if_neg hout]
  cases best <;> rfl

theorem jitPeekLoop_of_ge (hi : ¬ i < q.numPkt.toNat) :
    jitPeekLoop qs timeUs q i best dropped = (q, best, dropped) := by
  rw [jitPeekLoop, if_neg hi]

/-- **The rule of the loop**: what holds at its end holds at a point if each
turn carries it back. -/
theorem jitPeekLoop_rule {P : JitQueue → ℕ → Option ℕ → List JitNode → Prop}
    (hpurge : ∀ q i best dropped, i < q.numPkt.toNat → outdated timeUs (q.node i) →
      P (q.remove qs i) 1 best (dropped ++ [q.node i]) → P q i best dropped)
    (hcompare : ∀ q i best dropped, i < q.numPkt.toNat → ¬ outdated timeUs (q.node i) →
      P q (i + 1) (closer timeUs q i best) dropped → P q i best dropped)
    (hend : ∀ q i best dropped, ¬ i < q.numPkt.toNat → P q i best dropped)
    (q : JitQueue) (i : ℕ) (best : Option ℕ) (dropped : List JitNode) : P q i best dropped := by
  induction q, i, best, dropped using jitPeekLoop.induct qs timeUs with
  | case1 q i best dropped hi n hn ih => exact hpurge q i best dropped hi hn ih
  | case2 q i best dropped hi n hn best' ih =>
    refine hcompare q i best dropped hi hn ?_
    have heq : closer timeUs q i best = best' := by cases best <;> rfl
    rw [heq]
    exact ih
  | case3 q i best dropped hi => exact hend q i best dropped hi

theorem idxOf_mem_jitPeekLoopReads (q : JitQueue) (i : ℕ) :
    (idxOf (jitPeekLoop qs timeUs q i best dropped).2.1,
        (jitPeekLoop qs timeUs q i best dropped).1.numPkt.toNat)
      ∈ jitPeekLoopReads qs timeUs q i best := by
  refine jitPeekLoop_rule qs timeUs (P := fun q i best dropped =>
    (idxOf (jitPeekLoop qs timeUs q i best dropped).2.1,
      (jitPeekLoop qs timeUs q i best dropped).1.numPkt.toNat)
        ∈ jitPeekLoopReads qs timeUs q i best) ?_ ?_ ?_ q i best dropped
  · intro q i best dropped hi hout ih
    rw [jitPeekLoop_of_outdated qs timeUs best dropped hi hout, jitPeekLoopReads, if_pos hi,
      if_pos hout]
    exact List.mem_cons_of_mem _ (List.mem_cons_of_mem _ ih)
  · intro q i best dropped hi hout ih
    rw [jitPeekLoop_of_not_outdated qs timeUs best dropped hi hout, jitPeekLoopReads, if_pos hi,
      if_neg hout]
    exact List.mem_append_right _ ih
  · intro q i best dropped hi
    rw [jitPeekLoop_of_ge qs timeUs best dropped hi, jitPeekLoopReads, if_neg hi]
    exact List.mem_singleton.mpr rfl

end Loop

/-! ## The departure times -/

/-- A node that is not below another is in the half circle ahead of it. -/
theorem fwd_lt_of_compare {m n : JitNode} (h : 0 ≤ JitNode.compare n m) :
    fwd m.pkt.countUs n.pkt.countUs < 2 ^ 31 := by
  have hbmod : JitNode.compare n m = (fwd m.pkt.countUs n.pkt.countUs : ℤ).bmod (2 ^ 32) :=
    BitVec.toInt_eq_toNat_bmod (n.pkt.countUs.toBitVec - m.pkt.countUs.toBitVec)
  have hlt := fwd_lt m.pkt.countUs n.pkt.countUs
  rw [hbmod, Int.bmod_def, Int.emod_eq_of_lt (by omega) (by omega)] at h
  split_ifs at h <;> omega

/-- **A comparator that orders the nodes has a first node**, and all nodes are
in the half circle ahead of it. -/
theorem exists_aheadOf {l : List JitNode} (h : TotalPreorderOn JitNode.compare l) :
    ∃ b, AheadOf b l := by
  have hsorted := (Qsort.insertion JitNode).sorted JitNode.compare l h
  have hperm := (Qsort.insertion JitNode).perm JitNode.compare l
  cases hs : (Qsort.insertion JitNode).sort JitNode.compare l with
  | nil =>
    rw [hs] at hperm
    rw [List.nil_perm.mp hperm]
    exact ⟨0, fun n hn => absurd hn List.not_mem_nil⟩
  | cons m ms =>
    rw [hs] at hsorted hperm
    have hm : m ∈ l := hperm.subset List.mem_cons_self
    refine ⟨m.pkt.countUs, fun n hn => ?_⟩
    rcases List.mem_cons.mp (hperm.symm.subset hn) with heq | hlater
    · rw [heq, fwd_self]
      exact Nat.two_pow_pos 31
    · exact fwd_lt_of_compare ((h.swap m hm n hn).mp ((List.pairwise_cons.mp hsorted).1 n hlater))

/-- The distance from a base point tells the times apart. -/
theorem fwd_injective {b p r : UInt32} (h : fwd b p = fwd b r) : p = r := by
  obtain ⟨t, ht⟩ := fwd_turns b p
  obtain ⟨u, hu⟩ := fwd_turns b r
  have hp := p.toNat_lt
  have hr := r.toNat_lt
  rw [← UInt32.toNat_inj]
  omega

/-- The departure times of the nodes in use. -/
def JitQueue.times (q : JitQueue) : List UInt32 := q.live.map fun n => n.pkt.countUs

section Times

variable (qs : Qsort JitNode) {b : UInt32} {q : JitQueue} {i : ℕ}

/-- A node in use, read off the list of them. -/
theorem JitQueue.getElem_live (hle : q.numPkt.toNat ≤ queueMax) (hi : i < q.numPkt.toNat)
    {hbound : i < q.live.length} : q.live[i] = q.node i := by
  have h := JitQueue.getElem?_live hle hi
  rwa [List.getElem?_eq_getElem hbound, Option.some_inj] at h

/-- The nodes left by a removal are still ahead. -/
theorem AheadOf.remove (hb : AheadOf b q.live) (hle : q.numPkt.toNat ≤ queueMax)
    (hi : i < q.numPkt.toNat) : AheadOf b (q.remove qs i).live :=
  fun n hn => hb n ((q.perm_remove qs hle hi).subset (List.mem_cons_of_mem _ hn))

/-- **A removal takes one time out of the sorted times** and leaves the others
in their places. -/
theorem JitQueue.times_remove (hq : q.Valid) (hb : AheadOf b q.live) (hi : i < q.numPkt.toNat) :
    (q.remove qs i).times = q.times.eraseIdx i := by
  have hlen := JitQueue.length_live hq.numPkt_le
  have hbound : i < q.live.length := by omega
  have hleft : (q.remove qs i).live.Perm (q.live.eraseIdx i) := by
    have herase := List.getElem_cons_eraseIdx_perm (l := q.live) (n := i) hbound
    rw [JitQueue.getElem_live hq.numPkt_le hi] at herase
    exact ((q.perm_remove qs hq.numPkt_le hi).trans herase.symm).cons_inv
  have hsorted (q : JitQueue) (hq : q.Valid) (hb : AheadOf b q.live) :
      q.times.Pairwise (fun p r => fwd b p ≤ fwd b r) :=
    List.pairwise_map.mpr (hq.sorted b hb)
  refine List.Perm.eq_of_pairwise ?_
    (hsorted _ (hq.remove qs hi) (hb.remove qs hq.numPkt_le hi))
    ((hsorted q hq hb).sublist (List.eraseIdx_sublist _ i)) ?_
  · exact fun p r _ _ hpr hrp => fwd_injective (le_antisymm hpr hrp)
  · unfold JitQueue.times
    rw [List.eraseIdx_map]
    exact hleft.map _

theorem JitQueue.getElem?_times (hle : q.numPkt.toNat ≤ queueMax) (hi : i < q.numPkt.toNat) :
    q.times[i]? = some (q.node i).pkt.countUs := by
  rw [times, List.getElem?_map, JitQueue.getElem?_live hle hi]
  rfl

/-- Before the removed node, the times are the same. -/
theorem JitQueue.countUs_remove_of_lt (hq : q.Valid) (hb : AheadOf b q.live)
    (hi : i < q.numPkt.toNat) {j : ℕ} (hj : j < i) :
    ((q.remove qs i).node j).pkt.countUs = (q.node j).pkt.countUs := by
  have hnum := JitQueue.toNat_numPkt_sub_one hi
  have hafter := JitQueue.getElem?_times (hq.remove qs hi).numPkt_le
    (show j < (q.remove qs i).numPkt.toNat by rw [JitQueue.numPkt_remove]; omega)
  rw [JitQueue.times_remove qs hq hb hi, List.getElem?_eraseIdx, if_pos hj,
    JitQueue.getElem?_times hq.numPkt_le (by omega), Option.some_inj] at hafter
  exact hafter.symm

/-- From the removed node on, the times move down by one place. -/
theorem JitQueue.countUs_remove_of_ge (hq : q.Valid) (hb : AheadOf b q.live)
    {j : ℕ} (hj : i ≤ j) (hlt : j + 1 < q.numPkt.toNat) :
    ((q.remove qs i).node j).pkt.countUs = (q.node (j + 1)).pkt.countUs := by
  have hi : i < q.numPkt.toNat := by omega
  have hnum := JitQueue.toNat_numPkt_sub_one hi
  have hafter := JitQueue.getElem?_times (hq.remove qs hi).numPkt_le
    (show j < (q.remove qs i).numPkt.toNat by rw [JitQueue.numPkt_remove]; omega)
  rw [JitQueue.times_remove qs hq hb hi, List.getElem?_eraseIdx, if_neg (not_lt.mpr hj),
    JitQueue.getElem?_times hq.numPkt_le hlt, Option.some_inj] at hafter
  exact hafter.symm

theorem outdated_congr {timeUs : UInt32} {m n : JitNode} (h : m.pkt.countUs = n.pkt.countUs) :
    outdated timeUs m = outdated timeUs n := by
  unfold outdated
  rw [h]

/-- The times of the nodes in use are ascending from the base point. -/
theorem JitQueue.fwd_le (hq : q.Valid) (hb : AheadOf b q.live) {j l : ℕ} (hjl : j ≤ l)
    (hl : l < q.numPkt.toNat) :
    fwd b (q.node j).pkt.countUs ≤ fwd b (q.node l).pkt.countUs := by
  rcases Nat.eq_or_lt_of_le hjl with heq | hlt
  · rw [heq]
  · have hlen := JitQueue.length_live hq.numPkt_le
    have hpair := List.pairwise_iff_getElem.mp (hq.sorted b hb) j l (by omega) (by omega) hlt
    rwa [JitQueue.getElem_live hq.numPkt_le (hlt.trans hl),
      JitQueue.getElem_live hq.numPkt_le hl] at hpair

/-- A node in use is ahead of the base point. -/
theorem JitQueue.fwd_node_lt (hle : q.numPkt.toNat ≤ queueMax) (hb : AheadOf b q.live)
    (hi : i < q.numPkt.toNat) : fwd b (q.node i).pkt.countUs < 2 ^ 31 :=
  hb _ (List.mem_of_getElem? (JitQueue.getElem?_live hle hi))

/-- **Of two nodes that are not outdated the later is not nearer.** -/
theorem JitQueue.fwd_le_of_not_outdated {timeUs : UInt32} (hq : q.Valid) (hb : AheadOf b q.live)
    {j l : ℕ} (hjl : j ≤ l) (hl : l < q.numPkt.toNat) (hj : ¬ outdated timeUs (q.node j))
    (hl' : ¬ outdated timeUs (q.node l)) :
    fwd timeUs (q.node j).pkt.countUs ≤ fwd timeUs (q.node l).pkt.countUs := by
  have hasc := JitQueue.fwd_le hq hb hjl hl
  have hmax : txMaxAdvanceDelay.toNat < 2 ^ 31 := by decide
  rw [outdated_iff, not_le] at hj hl'
  have hfromBase := toInt_sub_toInt32 (JitQueue.fwd_node_lt hq.numPkt_le hb hl)
    (JitQueue.fwd_node_lt hq.numPkt_le hb (lt_of_le_of_lt hjl hl))
  have hfromTime := toInt_sub_toInt32 (hl'.trans hmax) (hj.trans hmax)
  omega

/-- **Between two nodes that are not outdated there is none.** -/
theorem JitQueue.not_outdated_of_between {timeUs : UInt32} (hq : q.Valid)
    (hb : AheadOf b q.live) {j l m : ℕ} (hjl : j ≤ l) (hlm : l ≤ m) (hm : m < q.numPkt.toNat)
    (hj : ¬ outdated timeUs (q.node j)) (hm' : ¬ outdated timeUs (q.node m)) :
    ¬ outdated timeUs (q.node l) := by
  have hlow := JitQueue.fwd_le hq hb hjl (by omega)
  have hhigh := JitQueue.fwd_le hq hb hlm hm
  have hle := JitQueue.fwd_le_of_not_outdated hq hb (hjl.trans hlm) hm hj hm'
  have hmax : txMaxAdvanceDelay.toNat = 512000000 := rfl
  rw [outdated_iff, not_le] at hj hm' ⊢
  have hahead := JitQueue.fwd_node_lt hq.numPkt_le hb hm
  have hl := fwd_lt timeUs (q.node l).pkt.countUs
  obtain ⟨t₁, ht₁⟩ := fwd_turns b (q.node j).pkt.countUs
  obtain ⟨t₂, ht₂⟩ := fwd_turns b (q.node l).pkt.countUs
  obtain ⟨t₃, ht₃⟩ := fwd_turns b (q.node m).pkt.countUs
  obtain ⟨u₁, hu₁⟩ := fwd_turns timeUs (q.node j).pkt.countUs
  obtain ⟨u₂, hu₂⟩ := fwd_turns timeUs (q.node l).pkt.countUs
  obtain ⟨u₃, hu₃⟩ := fwd_turns timeUs (q.node m).pkt.countUs
  omega

end Times

/-! ## A candidate that stands -/

/-- **The candidate at index `k` stands**: it and the nodes before it are not
outdated, so no purge moves them. -/
structure JitQueue.Standing (timeUs b : UInt32) (k : ℕ) (q : JitQueue) : Prop where
  valid : q.Valid
  ahead : AheadOf b q.live
  /-- The candidate is in use. -/
  lt : k < q.numPkt.toNat
  /-- Up to the candidate no node is outdated. -/
  fresh : ∀ j, j ≤ k → ¬ outdated timeUs (q.node j)

namespace JitQueue.Standing

variable {timeUs b : UInt32} {q : JitQueue} {i k : ℕ}

/-- A node that is purged is behind the candidate. -/
theorem lt_of_outdated (h : q.Standing timeUs b k) (hout : outdated timeUs (q.node i)) : k < i := by
  by_contra hle
  exact h.fresh i (not_lt.mp hle) hout

theorem remove (qs : Qsort JitNode) (h : q.Standing timeUs b k) (hi : i < q.numPkt.toNat)
    (hout : outdated timeUs (q.node i)) : (q.remove qs i).Standing timeUs b k where
  valid := h.valid.remove qs hi
  ahead := h.ahead.remove qs h.valid.numPkt_le hi
  lt := by
    have hk := h.lt_of_outdated hout
    have hnum := JitQueue.toNat_numPkt_sub_one hi
    rw [JitQueue.numPkt_remove]
    omega
  fresh j hj := by
    have hk := h.lt_of_outdated hout
    rw [outdated_congr (q.countUs_remove_of_lt qs h.valid h.ahead hi (lt_of_le_of_lt hj hk))]
    exact h.fresh j hj

/-- No later node is nearer than the candidate. -/
theorem closer_eq (h : q.Standing timeUs b k) (hk : k ≤ i) (hi : i < q.numPkt.toNat)
    (hout : ¬ outdated timeUs (q.node i)) : closer timeUs q i (some k) = some k := by
  have hle := q.fwd_le_of_not_outdated h.valid h.ahead hk hi (h.fresh k le_rfl) hout
  refine if_neg fun hlt => ?_
  exact absurd (UInt32.lt_iff_toNat_lt.mp hlt) (not_lt_of_ge hle)

/-- **The scan keeps a candidate that stands**, with the times up to it, and
reads nodes in use only. -/
theorem loop (qs : Qsort JitNode) (h : q.Standing timeUs b k) (hk : k ≤ 1) (hi : k ≤ i) (h1 : 1 ≤ i)
    (dropped : List JitNode) :
    (jitPeekLoop qs timeUs q i (some k) dropped).2.1 = some k
      ∧ (jitPeekLoop qs timeUs q i (some k) dropped).1.Standing timeUs b k
      ∧ (∀ j, j ≤ k → ((jitPeekLoop qs timeUs q i (some k) dropped).1.node j).pkt.countUs
          = (q.node j).pkt.countUs)
      ∧ ∀ r ∈ jitPeekLoopReads qs timeUs q i (some k), 0 ≤ r.1 ∧ r.1 < r.2 := by
  refine jitPeekLoop_rule qs timeUs (P := fun q i best dropped =>
    best = some k → q.Standing timeUs b k → k ≤ i → 1 ≤ i →
      (jitPeekLoop qs timeUs q i best dropped).2.1 = some k
        ∧ (jitPeekLoop qs timeUs q i best dropped).1.Standing timeUs b k
        ∧ (∀ j, j ≤ k → ((jitPeekLoop qs timeUs q i best dropped).1.node j).pkt.countUs
            = (q.node j).pkt.countUs)
        ∧ ∀ r ∈ jitPeekLoopReads qs timeUs q i best, 0 ≤ r.1 ∧ r.1 < r.2)
    ?_ ?_ ?_ q i (some k) dropped rfl h hi h1
  · -- a purge leaves the candidate, and the scan goes on at index one
    intro q i best dropped hlt hout ih hbest h hi h1
    obtain ⟨hres, hstand, htimes, hreads⟩ := ih hbest (h.remove qs hlt hout) hk le_rfl
    have hki := h.lt_of_outdated hout
    rw [jitPeekLoop_of_outdated qs timeUs best dropped hlt hout]
    refine ⟨hres, hstand, fun j hj => ?_, fun r hr => ?_⟩
    · rw [htimes j hj]
      exact q.countUs_remove_of_lt qs h.valid h.ahead hlt (lt_of_le_of_lt hj hki)
    · rw [jitPeekLoopReads, if_pos hlt, if_pos hout] at hr
      rcases List.mem_cons.mp hr with rfl | hr
      · exact ⟨Int.natCast_nonneg i, Int.ofNat_lt.mpr hlt⟩
      · rcases List.mem_cons.mp hr with rfl | hr
        · dsimp only
          omega
        · exact hreads r hr
  · intro q i best dropped hlt hout ih hbest h hi h1
    -- a node that is compared is not nearer
    subst hbest
    have hcloser := h.closer_eq hi hlt hout
    rw [hcloser] at ih
    rw [jitPeekLoop_of_not_outdated qs timeUs _ dropped hlt hout, hcloser]
    obtain ⟨hres, hstand, htimes, hreads⟩ := ih rfl h (Nat.le_succ_of_le hi) (Nat.le_succ_of_le h1)
    refine ⟨hres, hstand, htimes, fun r hr => ?_⟩
    rw [jitPeekLoopReads, if_pos hlt, if_neg hout, hcloser] at hr
    rcases List.mem_append.mp hr with hr | hr
    · rcases List.mem_cons.mp hr with rfl | hr
      · exact ⟨Int.natCast_nonneg i, Int.ofNat_lt.mpr hlt⟩
      · rw [List.mem_singleton.mp hr]
        exact ⟨Int.natCast_nonneg k, Int.ofNat_lt.mpr h.lt⟩
    · exact hreads r hr
  · intro q i best dropped hge hbest h hi h1
    -- at the end there is one more read, of the candidate
    subst hbest
    rw [jitPeekLoop_of_ge qs timeUs _ dropped hge]
    refine ⟨rfl, h, fun j _ => rfl, fun r hr => ?_⟩
    rw [jitPeekLoopReads, if_neg hge] at hr
    rw [List.mem_singleton.mp hr]
    exact ⟨Int.natCast_nonneg k, Int.ofNat_lt.mpr h.lt⟩

end JitQueue.Standing

/-! ## What the scan gets wrong -/

section Wrong

variable {b : UInt32} {q : JitQueue} {i : ℕ}

/-- **The node at index 0 stays there** once the scan is past it. -/
theorem countUs_zero_jitPeekLoop (qs : Qsort JitNode) (timeUs : UInt32) (hq : q.Valid)
    (hb : AheadOf b q.live) (h1 : 1 ≤ i) (h0 : 0 < q.numPkt.toNat) (best : Option ℕ)
    (dropped : List JitNode) :
    0 < (jitPeekLoop qs timeUs q i best dropped).1.numPkt.toNat
      ∧ ((jitPeekLoop qs timeUs q i best dropped).1.node 0).pkt.countUs
        = (q.node 0).pkt.countUs := by
  refine jitPeekLoop_rule qs timeUs (P := fun q i best dropped =>
    q.Valid → AheadOf b q.live → 1 ≤ i → 0 < q.numPkt.toNat →
      0 < (jitPeekLoop qs timeUs q i best dropped).1.numPkt.toNat
        ∧ ((jitPeekLoop qs timeUs q i best dropped).1.node 0).pkt.countUs
          = (q.node 0).pkt.countUs) ?_ ?_ ?_ q i best dropped hq hb h1 h0
  · intro q i best dropped hlt hout ih hq hb h1 h0
    have hnum := JitQueue.toNat_numPkt_sub_one hlt
    rw [jitPeekLoop_of_outdated qs timeUs best dropped hlt hout,
      ← q.countUs_remove_of_lt qs hq hb hlt h1]
    refine ih (hq.remove qs hlt) (hb.remove qs hq.numPkt_le hlt) le_rfl ?_
    rw [JitQueue.numPkt_remove]
    omega
  · intro q i best dropped hlt hout ih hq hb h1 h0
    rw [jitPeekLoop_of_not_outdated qs timeUs best dropped hlt hout]
    exact ih hq hb (Nat.le_succ_of_le h1) h0
  · intro q i best dropped hge hq hb h1 h0
    rw [jitPeekLoop_of_ge qs timeUs best dropped hge]
    exact ⟨h0, rfl⟩

/-- **Nothing but outdated nodes behind index 0**: no candidate is found. -/
theorem jitPeekLoop_eq_none {qs : Qsort JitNode} {timeUs : UInt32} (hq : q.Valid)
    (hb : AheadOf b q.live)
    (hout : ∀ j, 1 ≤ j → j < q.numPkt.toNat → outdated timeUs (q.node j))
    (dropped : List JitNode) : (jitPeekLoop qs timeUs q 1 none dropped).2.1 = none := by
  refine jitPeekLoop_rule qs timeUs (P := fun q i best dropped =>
    i = 1 → best = none → q.Valid → AheadOf b q.live →
      (∀ j, 1 ≤ j → j < q.numPkt.toNat → outdated timeUs (q.node j)) →
      (jitPeekLoop qs timeUs q i best dropped).2.1 = none)
    ?_ ?_ ?_ q 1 none dropped rfl rfl hq hb hout
  · intro q i best dropped hlt hout ih hi hbest hq hb hall
    rw [jitPeekLoop_of_outdated qs timeUs best dropped hlt hout]
    refine ih rfl hbest (hq.remove qs hlt) (hb.remove qs hq.numPkt_le hlt) fun j hj hjlt => ?_
    rw [JitQueue.numPkt_remove, JitQueue.toNat_numPkt_sub_one hlt] at hjlt
    rw [outdated_congr (q.countUs_remove_of_ge qs hq hb (by omega) (by omega))]
    exact hall (j + 1) (by omega) (by omega)
  · intro q i best dropped hlt hout ih hi hbest hq hb hall
    exact absurd (hall i (by omega) hlt) hout
  · intro q i best dropped hge hi hbest hq hb hall
    rw [jitPeekLoop_of_ge qs timeUs best dropped hge]
    exact hbest

end Wrong

/-! ## The peek -/

section Peek

variable {qs : Qsort JitNode} {timeUs b : UInt32} {q q' : JitQueue} {k : ℕ} {best : Option ℕ}
  {dropped : List JitNode}

/-- `jit_peek` of a queue that is not empty, from where its loop ends. -/
theorem jitPeek_of_loop (hne : q.numPkt ≠ 0)
    (hloop : jitPeekLoop qs timeUs q 0 none [] = (q', best, dropped)) :
    jitPeek qs q timeUs
      = (.ok, q', best.filter (fun c => (q'.node c).pkt.countUs - timeUs < txJitDelay),
          dropped) := by
  rw [jitPeek, if_neg hne, hloop]

/-- What `jit_peek` reads of a queue that is not empty. -/
theorem jitPeekReads_of_ne_zero (hne : q.numPkt ≠ 0) :
    jitPeekReads qs q timeUs = jitPeekLoopReads qs timeUs q 0 none :=
  if_neg hne

theorem JitQueue.exists_node_eq (hle : q.numPkt.toNat ≤ queueMax) {n : JitNode} (hn : n ∈ q.live) :
    ∃ j, j < q.numPkt.toNat ∧ q.node j = n := by
  obtain ⟨j, hj⟩ := List.getElem?_of_mem hn
  have hlt : j < q.numPkt.toNat := by
    rw [← JitQueue.length_live hle]
    exact (List.getElem?_eq_some_iff.mp hj).1
  rw [JitQueue.getElem?_live hle hlt, Option.some_inj] at hj
  exact ⟨j, hlt, hj⟩

theorem JitQueue.node_mem_live (hle : q.numPkt.toNat ≤ queueMax) (hk : k < q.numPkt.toNat) :
    q.node k ∈ q.live :=
  List.mem_of_getElem? (JitQueue.getElem?_live hle hk)

/-- A peek without a candidate reads the node before the array. -/
theorem not_peekMeets_of_none (hne : q.numPkt ≠ 0)
    (hnone : (jitPeekLoop qs timeUs q 0 none []).2.1 = none) : ¬ PeekMeets qs q timeUs := by
  intro h
  have hmem := idxOf_mem_jitPeekLoopReads qs timeUs none [] q 0
  rw [hnone, ← jitPeekReads_of_ne_zero hne] at hmem
  exact absurd (h.reads _ hmem).1 (by decide : ¬ (0 : ℤ) ≤ -1)

/-- A peek that leaves an outdated node has not dropped all of them. -/
theorem not_peekMeets_of_outdated {n : JitNode} (hn : n ∈ (jitPeek qs q timeUs).2.1.live)
    (hout : outdated timeUs n) : ¬ PeekMeets qs q timeUs := by
  intro h
  have hkept := (List.mem_filter.mp (h.purges.subset hn)).2
  rw [hout] at hkept
  exact Bool.false_ne_true hkept

/-- A peek that leaves no outdated node has dropped the outdated ones. -/
theorem jitPeek_live_perm_filter (hq : q.Valid)
    (h : ∀ n ∈ (jitPeek qs q timeUs).2.1.live, ¬ outdated timeUs n) :
    (jitPeek qs q timeUs).2.1.live.Perm (q.live.filter fun n => !outdated timeUs n) := by
  have hperm := (jitPeek_perm qs hq.numPkt_le timeUs).2.filter fun n => !outdated timeUs n
  rw [List.filter_append] at hperm
  have hnone : (jitPeek qs q timeUs).2.2.2.filter (fun n => !outdated timeUs n) = [] := by
    refine List.filter_eq_nil_iff.mpr fun n hn => ?_
    rw [outdated_of_mem_dropped qs q timeUs hn]
    exact Bool.false_ne_true
  have hall : (jitPeek qs q timeUs).2.1.live.filter (fun n => !outdated timeUs n)
      = (jitPeek qs q timeUs).2.1.live := by
    refine List.filter_eq_self.mpr fun n hn => ?_
    rw [Bool.eq_false_iff.mpr (h n hn)]
    rfl
  rwa [hnone, hall, List.nil_append] at hperm

/-- **With a candidate that stands no outdated node is left.** -/
theorem JitQueue.Standing.not_outdated
    (hloop : jitPeekLoop qs timeUs q 0 none [] = (q', best, dropped))
    (hstand : q'.Standing timeUs b k) {j : ℕ} (hj : j < q'.numPkt.toNat) :
    ¬ outdated timeUs (q'.node j) := by
  rcases Nat.eq_zero_or_pos j with rfl | hpos
  · exact hstand.fresh 0 (Nat.zero_le k)
  · have hscan := jitPeekLoop_not_outdated qs timeUs q 0 none []
      (fun l _ hl => absurd hl (Nat.not_lt_zero l)) j hpos
    rw [hloop] at hscan
    exact hscan hj

/-- With a candidate that stands the first node left is the soonest. -/
theorem JitQueue.Standing.first_le
    (hloop : jitPeekLoop qs timeUs q 0 none [] = (q', best, dropped))
    (hstand : q'.Standing timeUs b k) {n : JitNode} (hn : n ∈ q'.live) :
    (q'.node 0).pkt.countUs - timeUs ≤ n.pkt.countUs - timeUs := by
  obtain ⟨j, hj, rfl⟩ := JitQueue.exists_node_eq hstand.valid.numPkt_le hn
  exact UInt32.le_iff_toNat_le.mpr (JitQueue.fwd_le_of_not_outdated hstand.valid hstand.ahead
    (Nat.zero_le j) hj (hstand.fresh 0 (Nat.zero_le k)) (hstand.not_outdated hloop hj))

/-- **With a candidate that stands the peek has purged all that is outdated**, and nothing
else. -/
theorem JitQueue.Standing.purges (hq : q.Valid) (hne : q.numPkt ≠ 0)
    (hloop : jitPeekLoop qs timeUs q 0 none [] = (q', some k, dropped))
    (hstand : q'.Standing timeUs b k) :
    (jitPeek qs q timeUs).2.1.live.Perm (q.live.filter fun n => !outdated timeUs n) := by
  refine jitPeek_live_perm_filter hq fun n hn => ?_
  rw [jitPeek_of_loop hne hloop] at hn
  obtain ⟨j, hj, rfl⟩ := JitQueue.exists_node_eq hstand.valid.numPkt_le hn
  exact hstand.not_outdated hloop hj

/-- **With a candidate that stands a peek is right exactly when the first node
left is not due, or departs together with the candidate.** -/
theorem peekMeets_iff_of_standing (hq : q.Valid) (hne : q.numPkt ≠ 0)
    (hloop : jitPeekLoop qs timeUs q 0 none [] = (q', some k, dropped))
    (hstand : q'.Standing timeUs b k)
    (hreads : ∀ r ∈ jitPeekLoopReads qs timeUs q 0 none, 0 ≤ r.1 ∧ r.1 < r.2) :
    PeekMeets qs q timeUs
      ↔ txJitDelay ≤ (q'.node 0).pkt.countUs - timeUs
        ∨ (q'.node k).pkt.countUs = (q'.node 0).pkt.countUs := by
  have hpeek := jitPeek_of_loop hne hloop
  have hlive : (jitPeek qs q timeUs).2.1 = q' := by rw [hpeek]
  have hidx : (jitPeek qs q timeUs).2.2.1
      = (some k).filter (fun c => (q'.node c).pkt.countUs - timeUs < txJitDelay) := by rw [hpeek]
  have hpurges := hstand.purges hq hne hloop
  rw [← jitPeekReads_of_ne_zero hne] at hreads
  have h0 := JitQueue.node_mem_live hstand.valid.numPkt_le (Nat.zero_lt_of_lt hstand.lt)
  have hk := JitQueue.node_mem_live hstand.valid.numPkt_le hstand.lt
  by_cases hdue : (q'.node k).pkt.countUs - timeUs < txJitDelay
  · -- the candidate is due, and is returned
    rw [Option.filter_some_pos (by simpa using hdue)] at hidx
    constructor
    · intro h
      have hleast := (h.selects k hidx).2.2
      rw [hlive] at hleast
      have heq := UInt32.le_antisymm (hleast _ h0) (hstand.first_le hloop hk)
      exact Or.inr ((UInt32.sub_left_inj timeUs).mp heq)
    · intro hcond
      have hsame : (q'.node k).pkt.countUs = (q'.node 0).pkt.countUs := by
        refine hcond.resolve_left fun hlate => ?_
        exact absurd hdue (UInt32.not_lt.mpr (UInt32.le_trans hlate (hstand.first_le hloop hk)))
      refine ⟨hpurges, fun i hi => ?_, fun hnone => ?_, hreads⟩
      · obtain rfl : k = i := Option.some_inj.mp (hidx.symm.trans hi)
        rw [hlive]
        refine ⟨hstand.lt, hdue, fun n hn => ?_⟩
        rw [hsame]
        exact hstand.first_le hloop hn
      · exact absurd (hidx.symm.trans hnone) (Option.some_ne_none k)
  · -- the candidate is not due, and nothing is returned
    rw [Option.filter_some_neg (by simpa using hdue)] at hidx
    constructor
    · intro h
      have hwait := h.waits hidx
      rw [hlive] at hwait
      exact Or.inl (hwait _ h0)
    · intro hcond
      have hlate : txJitDelay ≤ (q'.node 0).pkt.countUs - timeUs := by
        rcases hcond with hlate | hsame
        · exact hlate
        · rw [← hsame]
          exact UInt32.not_lt.mp hdue
      refine ⟨hpurges, fun i hi => ?_, fun _ n hn => ?_, hreads⟩
      · exact absurd (hidx.symm.trans hi) (Option.some_ne_none i).symm
      · rw [hlive] at hn
        exact UInt32.le_trans hlate (hstand.first_le hloop hn)

/-! ## The three beginnings of a scan -/

/-- The base point all times are ahead of: the time of the peek when no node is
outdated, else the first time in the order of the comparator. -/
theorem exists_aheadOf_live
    (hcmp : (∃ n ∈ q.live, outdated timeUs n) → TotalPreorderOn JitNode.compare q.live) :
    ∃ b, AheadOf b q.live := by
  by_cases hany : ∃ n ∈ q.live, outdated timeUs n
  · exact exists_aheadOf (hcmp hany)
  · refine ⟨timeUs, fun n hn => ?_⟩
    have hnear : ¬ outdated timeUs n := fun hout => hany ⟨n, hn, hout⟩
    rw [outdated_iff, not_le] at hnear
    exact hnear.trans (by decide)

/-- **A first node that is not outdated**: the peek is right. -/
theorem peekMeets_of_not_outdated (hq : q.Valid) (hb : AheadOf b q.live) (hne : q.numPkt ≠ 0)
    (hfresh : ¬ outdated timeUs (q.node 0)) : PeekMeets qs q timeUs := by
  have hpos : 0 < q.numPkt.toNat := Nat.pos_of_ne_zero fun h => hne (UInt8.toNat_inj.mp h)
  have hstand : q.Standing timeUs b 0 :=
    ⟨hq, hb, hpos, fun j hj => by rwa [Nat.le_zero.mp hj]⟩
  have hfirst := jitPeekLoop_of_not_outdated qs timeUs none [] hpos hfresh
  obtain ⟨hres, hstand', -, hreads⟩ :=
    hstand.loop qs (Nat.zero_le 1) (Nat.zero_le 1) le_rfl []
  change jitPeekLoop qs timeUs q 0 none [] = jitPeekLoop qs timeUs q 1 (some 0) [] at hfirst
  rw [← hfirst] at hres hstand'
  refine (peekMeets_iff_of_standing hq hne (Prod.ext rfl (Prod.ext hres rfl)) hstand'
    fun r hr => ?_).mpr (Or.inr rfl)
  rw [jitPeekLoopReads, if_pos hpos, if_neg hfresh] at hr
  rcases List.mem_append.mp hr with hr | hr
  · rw [List.mem_singleton.mp hr]
    exact ⟨le_rfl, Int.ofNat_lt.mpr hpos⟩
  · exact hreads r hr

/-- An outdated first node is taken out, and the scan resumes behind the node
that moves up. -/
theorem jitPeekLoop_of_first_outdated (hpos : 0 < q.numPkt.toNat)
    (hout : outdated timeUs (q.node 0)) :
    jitPeekLoop qs timeUs q 0 none []
      = jitPeekLoop qs timeUs (q.remove qs 0) 1 none [q.node 0] :=
  jitPeekLoop_of_outdated qs timeUs none [] hpos hout

/-- **Two outdated nodes in front**: the second is left. -/
theorem not_peekMeets_of_two_outdated (hq : q.Valid) (hb : AheadOf b q.live)
    (h1 : 1 < q.numPkt.toNat) (hout : outdated timeUs (q.node 0))
    (hout' : outdated timeUs (q.node 1)) : ¬ PeekMeets qs q timeUs := by
  have hpos : 0 < q.numPkt.toNat := Nat.zero_lt_of_lt h1
  have hne : q.numPkt ≠ 0 := fun h => by rw [h] at hpos; exact absurd hpos (lt_irrefl 0)
  have hnum := JitQueue.toNat_numPkt_sub_one hpos
  have hvalid := hq.remove qs hpos
  obtain ⟨hleft, htime⟩ := countUs_zero_jitPeekLoop qs timeUs hvalid
    (hb.remove qs hq.numPkt_le hpos) le_rfl (by rw [JitQueue.numPkt_remove]; omega) none [q.node 0]
  rw [← jitPeekLoop_of_first_outdated hpos hout, q.countUs_remove_of_ge qs hq hb le_rfl h1] at htime
  rw [← jitPeekLoop_of_first_outdated hpos hout] at hleft
  have hle := (jitPeek_spec qs hq timeUs).1.numPkt_le
  rw [jitPeek_of_loop hne rfl] at hle
  refine not_peekMeets_of_outdated (n := (jitPeekLoop qs timeUs q 0 none []).1.node 0) ?_ ?_
  · rw [jitPeek_of_loop hne rfl]
    exact JitQueue.node_mem_live hle hleft
  · rwa [outdated_congr htime]

/-- **An outdated first node with at most one after it that is not outdated**: no
candidate is found. -/
theorem not_peekMeets_of_alone (hq : q.Valid) (hb : AheadOf b q.live) (hne : q.numPkt ≠ 0)
    (hout : outdated timeUs (q.node 0))
    (hrest : ∀ j, 2 ≤ j → j < q.numPkt.toNat → outdated timeUs (q.node j)) :
    ¬ PeekMeets qs q timeUs := by
  have hpos : 0 < q.numPkt.toNat := Nat.pos_of_ne_zero fun h => hne (UInt8.toNat_inj.mp h)
  refine not_peekMeets_of_none hne ?_
  rw [jitPeekLoop_of_first_outdated hpos hout]
  refine jitPeekLoop_eq_none (hq.remove qs hpos) (hb.remove qs hq.numPkt_le hpos)
    (fun j hj hlt => ?_) _
  rw [JitQueue.numPkt_remove, JitQueue.toNat_numPkt_sub_one hpos] at hlt
  rw [outdated_congr (q.countUs_remove_of_ge qs hq hb (Nat.zero_le j) (by omega))]
  exact hrest (j + 1) (by omega) (by omega)

/-- **An outdated first node with two after it that are not**: the second of
these is the candidate. -/
theorem peekMeets_iff_of_second (hq : q.Valid) (hb : AheadOf b q.live)
    (h2 : 2 < q.numPkt.toNat) (hout : outdated timeUs (q.node 0))
    (hfresh₁ : ¬ outdated timeUs (q.node 1)) (hfresh₂ : ¬ outdated timeUs (q.node 2)) :
    PeekMeets qs q timeUs
      ↔ txJitDelay ≤ (q.node 1).pkt.countUs - timeUs
        ∨ (q.node 2).pkt.countUs = (q.node 1).pkt.countUs := by
  have hpos : 0 < q.numPkt.toNat := by omega
  have hne : q.numPkt ≠ 0 := fun h => by rw [h] at hpos; exact absurd hpos (lt_irrefl 0)
  have hnum := JitQueue.toNat_numPkt_sub_one hpos
  have htime₀ := q.countUs_remove_of_ge qs hq hb (le_refl 0) (show 0 + 1 < q.numPkt.toNat by omega)
  have htime₁ := q.countUs_remove_of_ge qs hq hb (Nat.zero_le 1) h2
  have hlt : 1 < (q.remove qs 0).numPkt.toNat := by rw [JitQueue.numPkt_remove]; omega
  -- after the purge the scan resumes at index one, which is the second of the nodes left
  have hstand : (q.remove qs 0).Standing timeUs b 1 := by
    refine ⟨hq.remove qs hpos, hb.remove qs hq.numPkt_le hpos, hlt, fun j hj => ?_⟩
    rcases Nat.le_one_iff_eq_zero_or_eq_one.mp hj with rfl | rfl
    · rwa [outdated_congr htime₀]
    · rwa [outdated_congr htime₁]
  have hfresh := hstand.fresh 1 le_rfl
  have hloop := jitPeekLoop_of_not_outdated qs timeUs none [q.node 0] hlt hfresh
  rw [← jitPeekLoop_of_first_outdated hpos hout] at hloop
  change _ = jitPeekLoop qs timeUs (q.remove qs 0) 2 (some 1) [q.node 0] at hloop
  obtain ⟨hres, hstand', htimes, hreads⟩ :=
    hstand.loop qs le_rfl (Nat.le_succ 1) (Nat.le_succ 1) [q.node 0]
  rw [← hloop] at hres hstand' htimes
  rw [peekMeets_iff_of_standing hq hne (Prod.ext rfl (Prod.ext hres rfl)) hstand' ?_,
    htimes 0 (Nat.zero_le 1), htimes 1 le_rfl, htime₀, htime₁]
  intro r hr
  rw [jitPeekLoopReads, if_pos hpos, if_pos hout, jitPeekLoopReads, if_pos hlt,
    if_neg hfresh] at hr
  simp only [List.mem_cons, List.mem_append, Option.toList_none, List.map_nil, List.not_mem_nil,
    or_false] at hr
  -- the reads of the first turn, of the second, and of the rest of the scan
  rcases hr with rfl | rfl | rfl | hr
  · exact ⟨le_rfl, Int.ofNat_lt.mpr hpos⟩
  · dsimp only
    omega
  · exact ⟨Int.natCast_nonneg 1, Int.ofNat_lt.mpr hlt⟩
  · exact hreads r hr

end Peek

/-! ## When a peek is right -/

/-- **A peek is right exactly when its scan is.** In a sound queue that is not
empty, `jit_peek` drops the outdated nodes and no other, returns the soonest
node left if that is due and nothing otherwise, and reads nodes in use only,
exactly when the first node is not outdated; or it is, the next two are not, and
the first of these is not due or departs together with the second. Where a node
is outdated, and the queue is sorted again, the comparator is asked to order
the nodes, as the sorting routine asks. -/
theorem jitPeek_meets_iff_scansRight (qs : Qsort JitNode) {q : JitQueue} (hq : q.Valid)
    (hne : q.numPkt ≠ 0) (timeUs : UInt32)
    (hcmp : (∃ n ∈ q.live, outdated timeUs n) → TotalPreorderOn JitNode.compare q.live) :
    PeekMeets qs q timeUs ↔ q.ScansRight timeUs := by
  obtain ⟨b, hb⟩ := exists_aheadOf_live hcmp
  unfold JitQueue.ScansRight
  by_cases hout : outdated timeUs (q.node 0)
  · rw [or_iff_right (not_not_intro hout)]
    by_cases hright : 3 ≤ q.numPkt.toNat ∧ ¬ outdated timeUs (q.node 1)
        ∧ ¬ outdated timeUs (q.node 2)
    · obtain ⟨h3, hfresh₁, hfresh₂⟩ := hright
      rw [peekMeets_iff_of_second hq hb h3 hout hfresh₁ hfresh₂]
      exact ⟨fun h => ⟨h3, hfresh₁, hfresh₂, h⟩, fun h => h.2.2.2⟩
    · refine iff_of_false ?_ fun h => hright ⟨h.1, h.2.1, h.2.2.1⟩
      by_cases hout₁ : 1 < q.numPkt.toNat ∧ outdated timeUs (q.node 1)
      · exact not_peekMeets_of_two_outdated hq hb hout₁.1 hout hout₁.2
      · refine not_peekMeets_of_alone hq hb hne hout fun j hj hlt => ?_
        -- the nodes that are not outdated have no outdated one between them
        have hfresh₁ : ¬ outdated timeUs (q.node 1) := fun h => hout₁ ⟨by omega, h⟩
        by_contra hfresh
        refine hright ⟨by omega, hfresh₁, ?_⟩
        exact JitQueue.not_outdated_of_between hq hb (Nat.le_succ 1) hj hlt hfresh₁ hfresh
  · exact iff_of_true (peekMeets_of_not_outdated hq hb hne hout) (Or.inl hout)

/-- Two class A packets a second apart, enqueued in time. -/
def twoDownlinks : List JitEvent :=
  [.enqueue 0 (downlinkAt 1000000) .downlinkClassA,
    .enqueue 0 (downlinkAt 2000000) .downlinkClassA]

/-- The queue that holds the two packets. -/
def queueOfTwo : JitQueue :=
  (Run.final (JitLedger.step (Qsort.insertion JitNode) (fun _ => 50) timedPacket) JitLedger.start
    twoDownlinks).queue

/-- The two packets are enqueued without a fault. -/
theorem guarded_twoDownlinks :
    Run.Guarded (JitLedger.step (Qsort.insertion JitNode) (fun _ => 50) timedPacket)
      JitLedger.InRange JitLedger.start twoDownlinks :=
  ⟨trivial, trivial, trivial⟩

/-- Both are in the half circle ahead of the start of the counter. -/
theorem aheadOf_queueOfTwo : AheadOf 0 queueOfTwo.live := by
  unfold AheadOf
  decide

/-- A peek at the two packets shortly before the first departs. -/
theorem jitPeek_meets_iff_scansRight_inTime :
    PeekMeets (Qsort.insertion JitNode) queueOfTwo 990000 ↔ queueOfTwo.ScansRight 990000 :=
  jitPeek_meets_iff_scansRight (Qsort.insertion JitNode)
    (JitLedger.run_valid guarded_twoDownlinks) (by decide) 990000
    (fun _ => totalPreorderOn_compare aheadOf_queueOfTwo)

/-- **A missed packet hides the next one.** Ten milliseconds before the second
of the two packets departs, a peek drops the first, which was missed, and has
no candidate left: it reads the node before the array and returns nothing. -/
theorem jitPeek_not_meets :
    ¬ ∀ (qs : Qsort JitNode) (toa : LgwPktTx → UInt32) (es : List JitEvent) (timeUs : UInt32),
      let q := (Run.final (JitLedger.step qs toa timedPacket) JitLedger.start es).queue
      Run.Guarded (JitLedger.step qs toa timedPacket) JitLedger.InRange JitLedger.start es →
        q.numPkt ≠ 0 → TotalPreorderOn JitNode.compare q.live → PeekMeets qs q timeUs := by
  intro h
  have hnum : queueOfTwo.numPkt.toNat = 2 := by decide
  have hnot : ¬ PeekMeets (Qsort.insertion JitNode) queueOfTwo 1990000 :=
    not_peekMeets_of_alone (JitLedger.run_valid guarded_twoDownlinks) aheadOf_queueOfTwo
      (by decide) (by decide) (fun j hj hlt => absurd hlt (by omega))
  exact hnot (h (Qsort.insertion JitNode) (fun _ => 50) twoDownlinks 1990000 guarded_twoDownlinks
    (by decide) (totalPreorderOn_compare aheadOf_queueOfTwo))
