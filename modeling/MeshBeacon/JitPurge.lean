import MeshBeacon.JitAccept

/-!
# Which accepted packets are purged

A packet that is `TX_MAX_ADVANCE_DELAY` or more ahead of the time of a peek is
taken for one that was missed a turn of the counter ago, and is dropped. That
is sound for packets that were nearer when they were accepted: the distance to
a packet only shrinks until it is due.

So the purge asks that no packet be accepted from as far ahead. Enqueueing
asks for it of class A and class B packets, and admits the limit itself; of
class C packets and beacons it does not ask at all. A packet accepted from the
limit or beyond is purged by a peek at the very time it was accepted, or by the
next one at that time, because the scan that restarts after a purge leaves out
the first node.
-/

open Jit Circle

/-! ## What a peek drops -/

/-- A node is outdated at the distances from the limit on. -/
theorem outdated_iff (timeUs : UInt32) (n : JitNode) :
    outdated timeUs n ↔ txMaxAdvanceDelay.toNat ≤ fwd timeUs n.pkt.countUs := by
  unfold outdated fwd
  rw [decide_eq_true_iff, UInt32.le_iff_toNat_le]

theorem outdated_of_mem_dropped (qs : Qsort JitNode) (q : JitQueue) (timeUs : UInt32) {n : JitNode}
    (hn : n ∈ (jitPeek qs q timeUs).2.2.2) : outdated timeUs n := by
  refine jitPeek_invariant qs timeUs (P := fun _ dropped => ∀ n ∈ dropped, outdated timeUs n) ?_ q
    (fun m hm => absurd hm List.not_mem_nil) n hn
  intro q i dropped _ hout hdropped m hm
  rcases List.mem_append.mp hm with hm | hm
  · exact hdropped m hm
  · rw [List.mem_singleton.mp hm]
    exact hout

/-- **The scan leaves no outdated node behind the first.** Every node at an
index from 1 to that of the scan was looked at since the queue was last
sorted. -/
theorem jitPeekLoop_not_outdated (qs : Qsort JitNode) (timeUs : UInt32) (q : JitQueue) (i : ℕ)
    (best : Option ℕ) (dropped : List JitNode)
    (hseen : ∀ j, 1 ≤ j → j < i → ¬ outdated timeUs (q.node j)) (j : ℕ) (h1 : 1 ≤ j)
    (hj : j < (jitPeekLoop qs timeUs q i best dropped).1.numPkt.toNat) :
    ¬ outdated timeUs ((jitPeekLoop qs timeUs q i best dropped).1.node j) := by
  induction q, i, best, dropped using jitPeekLoop.induct qs timeUs with
  | case1 q i best dropped hi n hn ih =>
    rw [jitPeekLoop, if_pos hi] at hj ⊢
    dsimp only at hj ⊢
    rw [if_pos hn] at hj ⊢
    exact ih (fun k hk hlt => absurd hk (not_le_of_gt hlt)) hj
  | case2 q i best dropped hi n hn best' ih =>
    rw [jitPeekLoop, if_pos hi] at hj ⊢
    dsimp only at hj ⊢
    rw [if_neg hn] at hj ⊢
    refine ih (fun k hk hlt => ?_) hj
    rcases Nat.lt_succ_iff_lt_or_eq.mp hlt with hlt | heq
    · exact hseen k hk hlt
    · rw [heq]
      exact hn
  | case3 q i best dropped hi =>
    rw [jitPeekLoop, if_neg hi] at hj ⊢
    exact hseen j h1 (lt_of_lt_of_le hj (not_lt.mp hi))

/-- An outdated node that a peek leaves in use is the first. -/
theorem eq_node_zero_of_outdated (qs : Qsort JitNode) (q : JitQueue) (timeUs : UInt32)
    {n : JitNode} (hle : (jitPeek qs q timeUs).2.1.numPkt.toNat ≤ queueMax)
    (hn : n ∈ (jitPeek qs q timeUs).2.1.live) (hout : outdated timeUs n) :
    (jitPeek qs q timeUs).2.1.node 0 = n ∧ 0 < (jitPeek qs q timeUs).2.1.numPkt.toNat := by
  obtain ⟨j, hj⟩ := List.getElem?_of_mem hn
  have hlt : j < (jitPeek qs q timeUs).2.1.numPkt.toNat := by
    rw [← JitQueue.length_live hle]
    exact (List.getElem?_eq_some_iff.mp hj).1
  rw [JitQueue.getElem?_live hle hlt, Option.some_inj] at hj
  rcases Nat.eq_zero_or_pos j with h0 | hpos
  · subst h0
    exact ⟨hj, hlt⟩
  · refine absurd hout ?_
    rw [← hj]
    unfold jitPeek at hlt ⊢
    split_ifs at hlt ⊢ with hempty
    · rw [hempty] at hlt
      exact absurd hlt (Nat.not_lt_zero j)
    · exact jitPeekLoop_not_outdated qs timeUs q 0 none []
        (fun k _ hk => absurd hk (Nat.not_lt_zero k)) j hpos hlt

/-- A peek drops the first node when that is outdated. -/
theorem node_zero_mem_dropped (qs : Qsort JitNode) {q : JitQueue} {timeUs : UInt32}
    (h0 : 0 < q.numPkt.toNat) (hout : outdated timeUs (q.node 0)) :
    q.node 0 ∈ (jitPeek qs q timeUs).2.2.2 := by
  have hne : q.numPkt ≠ 0 := by
    intro h
    rw [h] at h0
    exact absurd h0 (Nat.lt_irrefl 0)
  have hkeep := jitPeekLoop_invariant qs timeUs (P := fun _ dropped => q.node 0 ∈ dropped)
    (fun _ _ _ _ _ hmem => List.mem_append_left _ hmem) (q.remove qs 0) 1 none [q.node 0]
    (List.mem_singleton.mpr rfl)
  unfold jitPeek
  rw [if_neg hne]
  dsimp only
  rw [jitPeekLoop, if_pos h0]
  dsimp only
  rw [if_pos hout]
  exact hkeep

/-! ## What happens to an accepted packet -/

namespace JitLedger

/-- **A packet is not purged before it is due.** Whatever is called on the queue
from here on, no peek at a time from `t₀` to the packet's own drops it. -/
def KeptUntilDue (qs : Qsort JitNode) (toa : LgwPktTx → UInt32) (s : JitLedger) (t₀ : UInt32)
    (p : LgwPktTx) (pktType : JitPktType) : Prop :=
  ∀ es timeUs, fwd timeUs p.countUs ≤ fwd t₀ p.countUs →
    (p, pktType) ∉
      (jitPeek qs (Run.final (step qs toa timedPacket) s es).queue timeUs).2.2.2.map JitNode.entry

variable {qs : Qsort JitNode} {toa : LgwPktTx → UInt32} {s : JitLedger} {t₀ : UInt32}

/-- A packet nearer than the limit stays nearer until it is due. -/
theorem keptUntilDue_of_lt {p : LgwPktTx} (pktType : JitPktType)
    (h : fwd t₀ p.countUs < txMaxAdvanceDelay.toNat) : KeptUntilDue qs toa s t₀ p pktType := by
  intro es timeUs htime hmem
  obtain ⟨n, hn, hentry⟩ := List.mem_map.mp hmem
  have hout := (outdated_iff _ _).mp (outdated_of_mem_dropped qs _ _ hn)
  have hp : n.pkt = p := congrArg Prod.fst hentry
  rw [hp] at hout
  omega

/-- A stored packet outdated at `t₀` is dropped by a first or a second peek at
`t₀`. -/
theorem not_keptUntilDue_of_outdated (hmax : s.queue.numPkt.toNat ≤ queueMax) {n : JitNode}
    (hn : n ∈ s.queue.live) (hout : outdated t₀ n) :
    ¬ KeptUntilDue qs toa s t₀ n.pkt n.pktType := by
  intro hkept
  have hdrops (es : List JitEvent)
      (hmem : n ∈ (jitPeek qs (Run.final (step qs toa timedPacket) s es).queue t₀).2.2.2) : False :=
    hkept es t₀ le_rfl (List.mem_map.mpr ⟨n, hmem, rfl⟩)
  obtain ⟨hle, hperm⟩ := jitPeek_perm qs hmax t₀
  rcases List.mem_append.mp (hperm.mem_iff.mpr hn) with hfirst | hleft
  · exact hdrops [] hfirst
  · obtain ⟨hnode, h0⟩ := eq_node_zero_of_outdated qs s.queue t₀ hle hleft hout
    rw [← hnode] at hout
    have hsecond := node_zero_mem_dropped qs h0 hout
    rw [hnode] at hsecond
    exact hdrops [.peek t₀] hsecond

end JitLedger

/-- **Which accepted packets are kept until they are due.** After every run, a
packet that is accepted at a time is dropped by no peek between that time and
its own, whatever is called in between, exactly when it departs less than
`TX_MAX_ADVANCE_DELAY` after it was accepted. -/
theorem jitQueue_keptUntilDue_iff (qs : Qsort JitNode) (toa : LgwPktTx → UInt32)
    (es₀ : List JitEvent) (t₀ : UInt32) (packet : LgwPktTx) (pktType : JitPktType)
    (hok : (jitEnqueue qs toa (Run.final (JitLedger.step qs toa timedPacket) JitLedger.start
      es₀).queue t₀ packet pktType).1 = .ok) :
    let s := Run.final (JitLedger.step qs toa timedPacket) JitLedger.start es₀
    JitLedger.KeptUntilDue qs toa
        (JitLedger.step qs toa timedPacket s (.enqueue t₀ packet pktType)) t₀
        (jitEnqueue qs toa s.queue t₀ packet pktType).2.2 pktType
      ↔ fwd t₀ (departure toa s.queue t₀ packet pktType) < txMaxAdvanceDelay.toNat := by
  intro s
  have hs : s.queue.LivePairwise JitNode.DepartApart := JitLedger.run_departApart es₀
  have hacc : Accepts toa s.queue t₀ packet pktType := (jitEnqueue_fst_eq_ok_iff qs).mp hok
  have hpkt : (jitEnqueue qs toa s.queue t₀ packet pktType).2.2
      = (enqueuedNode toa s.queue t₀ packet pktType).pkt := by
    rw [jitEnqueue_of_accepts qs hacc]
  rw [hpkt]
  constructor
  · intro hkept
    by_contra hge
    have hroom := lt_of_le_of_ne hs.numPkt_le hacc.room
    have hout : outdated t₀ (enqueuedNode toa s.queue t₀ packet pktType) :=
      (outdated_iff _ _).mpr (not_lt.mp hge)
    refine JitLedger.not_keptUntilDue_of_outdated
      (JitLedger.step_departApart hs (.enqueue t₀ packet pktType)).numPkt_le ?_ hout hkept
    rw [JitLedger.queue_step_of_accepts hacc]
    exact (JitQueue.perm_push qs hroom _).mem_iff.mpr List.mem_cons_self
  · exact JitLedger.keptUntilDue_of_lt pktType

/-- A LoRa downlink that departs at a time. -/
def downlinkAt (countUs : UInt32) : LgwPktTx :=
  { LgwPktTx.zero with
    txMode := Hal.timestamped, countUs := countUs, modulation := Hal.modLora }

/-- A class A packet one microsecond nearer than the limit, in an empty queue. -/
theorem jitQueue_keptUntilDue_iff_nearer :
    let s := JitLedger.start
    JitLedger.KeptUntilDue (Qsort.insertion JitNode) (fun _ => 50)
        (JitLedger.step (Qsort.insertion JitNode) (fun _ => 50) timedPacket s
          (.enqueue 1000 (downlinkAt 512000999) .downlinkClassA)) 1000
        (jitEnqueue (Qsort.insertion JitNode) (fun _ => 50) s.queue 1000 (downlinkAt 512000999)
          .downlinkClassA).2.2 .downlinkClassA
      ↔ fwd 1000 (departure (fun _ => 50) s.queue 1000 (downlinkAt 512000999) .downlinkClassA)
        < txMaxAdvanceDelay.toNat :=
  jitQueue_keptUntilDue_iff (Qsort.insertion JitNode) (fun _ => 50) [] 1000
    (downlinkAt 512000999) .downlinkClassA (by decide)

/-- **The limit itself is accepted, and purged.** A class A packet exactly
`TX_MAX_ADVANCE_DELAY` ahead is stored, and a peek at the same time drops it. -/
theorem jitQueue_not_keptUntilDue :
    ¬ ∀ (qs : Qsort JitNode) (toa : LgwPktTx → UInt32) (es₀ : List JitEvent) (t₀ : UInt32)
      (packet : LgwPktTx) (pktType : JitPktType),
      let s := Run.final (JitLedger.step qs toa timedPacket) JitLedger.start es₀
      (jitEnqueue qs toa s.queue t₀ packet pktType).1 = .ok →
        JitLedger.KeptUntilDue qs toa
          (JitLedger.step qs toa timedPacket s (.enqueue t₀ packet pktType)) t₀
          (jitEnqueue qs toa s.queue t₀ packet pktType).2.2 pktType := by
  intro h
  have hkept := h (Qsort.insertion JitNode) (fun _ => 50) [] 1000 (downlinkAt 512001000)
    .downlinkClassA (by decide)
  have hdropped := node_zero_mem_dropped (Qsort.insertion JitNode)
    (q := (JitLedger.step (Qsort.insertion JitNode) (fun _ => 50) timedPacket JitLedger.start
      (.enqueue 1000 (downlinkAt 512001000) .downlinkClassA)).queue)
    (by decide) (show outdated 1000 _ by decide)
  exact hkept [] 1000 le_rfl (List.mem_map.mpr ⟨_, hdropped, rfl⟩)
