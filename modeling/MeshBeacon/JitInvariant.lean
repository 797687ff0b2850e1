import MeshBeacon.Circle
import MeshBeacon.JitQueue
import MeshBeacon.Run
import Mathlib.Data.Multiset.AddSub

/-!
# What every reachable queue looks like

The queue's representation is sound when the counters agree with the array,
the part of the array not in use is zero, and the part in use is ascending
wherever ascending means anything – that is, read from any base point that has
all stored times in the half circle after it.

Every operation is one of two moves on the nodes in use: a node is added, or
a node is taken out; either way the queue is sorted afterwards. So the
development proves each move once (`Valid.push`, `Valid.remove`), reads the
three operations as moves, and then follows a whole run with a ledger of the
packets that went in and came out (`JitLedger`).
-/

open Jit Circle

/-- Read from `b`, the nodes are all in the half circle ahead. -/
def AheadOf (b : UInt32) (l : List JitNode) : Prop :=
  ∀ n ∈ l, fwd b n.pkt.countUs < 2 ^ 31

/-- **Ascending where that means anything**: read from any base point with all
the nodes in the half circle ahead, later nodes are not nearer. -/
def CircularlySorted (l : List JitNode) : Prop :=
  ∀ b, AheadOf b l → l.Pairwise (fun m n => fwd b m.pkt.countUs ≤ fwd b n.pkt.countUs)

/-- In one half of the circle the comparator is the difference of the
distances, so it orders the nodes. -/
theorem totalPreorderOn_compare {b : UInt32} {l : List JitNode} (h : AheadOf b l) :
    TotalPreorderOn JitNode.compare l where
  swap m hm n hn := by
    unfold JitNode.compare
    rw [toInt_sub_toInt32 (h m hm) (h n hn), toInt_sub_toInt32 (h n hn) (h m hm)]
    omega
  trans m hm n hn p hp := by
    unfold JitNode.compare
    rw [toInt_sub_toInt32 (h m hm) (h n hn), toInt_sub_toInt32 (h n hn) (h p hp),
      toInt_sub_toInt32 (h m hm) (h p hp)]
    omega

/-- Whatever was sorted is ascending where that means anything. -/
theorem circularlySorted_sort (qs : Qsort JitNode) (l : List JitNode) :
    CircularlySorted (qs.sort JitNode.compare l) := by
  intro b hb
  have hl : AheadOf b l := fun n hn => hb n ((qs.mem_sort _ l n).mpr hn)
  refine (qs.sorted _ l (totalPreorderOn_compare hl)).imp_of_mem (fun {m n} hm hn hmn => ?_)
  unfold JitNode.compare at hmn
  rw [toInt_sub_toInt32 (hb m hm) (hb n hn)] at hmn
  omega

/-- **The representation invariant** of the queue. -/
structure JitQueue.Valid (q : JitQueue) : Prop where
  /-- No more packets than nodes. -/
  numPkt_le : q.numPkt.toNat ≤ queueMax
  /-- The beacon counter counts the beacons in use. -/
  numBeacon_eq : q.numBeacon.toNat = q.live.countP (fun n => n.pktType = .beacon)
  /-- The nodes not in use are zero. -/
  zero_above : ∀ i, q.numPkt.toNat ≤ i → q.node i = JitNode.zero
  /-- The nodes in use are ascending. -/
  sorted : CircularlySorted q.live

namespace JitQueue

/-! ## The nodes in use -/

theorem length_live {q : JitQueue} (h : q.numPkt.toNat ≤ queueMax) :
    q.live.length = q.numPkt.toNat := by
  rw [live, List.length_take, q.length_nodes]
  exact min_eq_left h

theorem live_getElem? (q : JitQueue) {i : ℕ} (h : i < q.numPkt.toNat) :
    q.live[i]? = q.nodes[i]? :=
  List.getElem?_take_of_lt h

/-- The node at an index in use is in the list of nodes in use. -/
theorem getElem?_live {q : JitQueue} (h : q.numPkt.toNat ≤ queueMax) {i : ℕ}
    (hi : i < q.numPkt.toNat) : q.live[i]? = some (q.node i) := by
  have hlen : i < q.nodes.length := by rw [q.length_nodes]; omega
  rw [live_getElem? q hi, node, List.getElem?_eq_getElem hlen]
  rfl

/-- Sorting the queue sorts the nodes in use. -/
theorem live_jitSortQueue (qs : Qsort JitNode) (q : JitQueue) :
    (jitSortQueue qs q).live = qs.sort JitNode.compare q.live := by
  by_cases h0 : q.numPkt = 0
  · have hlive : q.live = [] := by rw [live, h0]; rfl
    rw [jitSortQueue, if_pos h0, hlive]
    exact (List.perm_nil.mp (qs.perm JitNode.compare [])).symm
  · rw [jitSortQueue, if_neg h0]
    show (qs.sort JitNode.compare q.live ++ q.nodes.drop q.numPkt.toNat).take q.numPkt.toNat = _
    have hlen : (qs.sort JitNode.compare q.live).length = q.live.length := qs.length_sort _ _
    have hle : q.live.length ≤ q.numPkt.toNat := List.length_take_le _ _
    rw [List.take_append, List.take_of_length_le (by omega)]
    rcases Nat.lt_or_ge queueMax q.numPkt.toNat with hgt | hle'
    · rw [List.drop_eq_nil_of_le (by rw [q.length_nodes]; omega), List.take_nil, List.append_nil]
    · rw [hlen, length_live hle', Nat.sub_self, List.take_zero, List.append_nil]

/-- Sorting touches no node outside those in use. -/
theorem node_jitSortQueue (qs : Qsort JitNode) {q : JitQueue} (h : q.numPkt.toNat ≤ queueMax)
    {i : ℕ} (hi : q.numPkt.toNat ≤ i) : (jitSortQueue qs q).node i = q.node i := by
  by_cases h0 : q.numPkt = 0
  · rw [jitSortQueue, if_pos h0]
  · rw [jitSortQueue, if_neg h0, node, node]
    have hlen : (qs.sort JitNode.compare q.live).length = q.numPkt.toNat := by
      rw [Qsort.length_sort, length_live h]
    show (qs.sort JitNode.compare q.live ++ q.nodes.drop q.numPkt.toNat)[i]?.getD _ = _
    rw [List.getElem?_append_right (by omega), hlen, List.getElem?_drop,
      Nat.add_sub_cancel' hi]

/-- Below the size of the array, the packet counter does not wrap. -/
theorem numPkt_push {q : JitQueue} (h : q.numPkt.toNat < queueMax) (n : JitNode) :
    (q.push n).numPkt.toNat = q.numPkt.toNat + 1 := by
  have hmax : queueMax < 256 := by decide
  show (q.numPkt + 1).toNat = _
  rw [UInt8.toNat_add]
  exact Nat.mod_eq_of_lt (show q.numPkt.toNat + 1 < 256 by omega)

/-- Writing behind the nodes in use adds a node to them. -/
theorem live_push {q : JitQueue} (h : q.numPkt.toNat < queueMax) (n : JitNode) :
    (q.push n).live = q.live ++ [n] := by
  show (q.nodes.set q.numPkt.toNat n).take (q.push n).numPkt.toNat = _
  rw [numPkt_push h, List.take_succ_set (by rw [q.length_nodes]; exact h)]
  rfl

/-! ## The two moves -/

/-- The nodes in use after an enqueueing are those before and the new one. -/
theorem perm_push (qs : Qsort JitNode) {q : JitQueue} (hlt : q.numPkt.toNat < queueMax)
    (n : JitNode) : (jitSortQueue qs (q.push n)).live.Perm (n :: q.live) := by
  rw [live_jitSortQueue, live_push hlt]
  exact (qs.perm _ _).trans (List.perm_append_singleton n q.live)

variable {q : JitQueue} {i : ℕ}

theorem toNat_numPkt_sub_one (hi : i < q.numPkt.toNat) :
    (q.numPkt - 1).toNat = q.numPkt.toNat - 1 := by
  have h1 : (1 : UInt8) ≤ q.numPkt := by
    rw [UInt8.le_iff_toNat_le]
    show 1 ≤ q.numPkt.toNat
    omega
  exact UInt8.toNat_sub_of_le _ _ h1

/-- **Taking out a node** leaves the others in use, in some order. -/
theorem perm_remove (qs : Qsort JitNode) (hle : q.numPkt.toNat ≤ queueMax)
    (hi : i < q.numPkt.toNat) :
    (q.node i :: (q.remove qs i).live).Perm q.live := by
  have hlen := length_live hle
  have hlast := getElem?_live hle (show q.numPkt.toNat - 1 < q.numPkt.toNat by omega)
  have hnum := toNat_numPkt_sub_one hi
  have hmoved : (((q.nodes.set i (q.node (q.numPkt - 1).toNat)).set (q.numPkt - 1).toNat
      JitNode.zero).take (q.numPkt - 1).toNat).Perm (q.live.eraseIdx i) := by
    rw [List.take_set_of_le le_rfl, hnum, List.take_set]
    have htake : q.nodes.take (q.numPkt.toNat - 1) = q.live.take (q.numPkt.toNat - 1) := by
      rw [live, List.take_take, min_eq_left (Nat.sub_le _ _)]
    rw [htake, ← List.take_set]
    exact List.set_dropLast_perm_eraseIdx (by omega) (by omega) hlast
  have hbound : i < q.live.length := by omega
  have hget : q.live[i] = q.node i := by
    have h := getElem?_live hle hi
    rwa [List.getElem?_eq_getElem hbound, Option.some_inj] at h
  have herase := List.getElem_cons_eraseIdx_perm (l := q.live) (n := i) (by omega)
  rw [hget] at herase
  refine List.Perm.trans (List.Perm.cons _ ?_) herase
  rw [remove, live_jitSortQueue]
  exact (qs.perm _ _).trans hmoved

/-- Taking out what is not in use takes out the last node in use. -/
theorem live_remove_of_ge (qs : Qsort JitNode) (hi : q.numPkt.toNat ≤ i)
    (h0 : 0 < q.numPkt.toNat) : (q.remove qs i).live.Perm (q.live.take (q.numPkt - 1).toNat) := by
  have hnum := toNat_numPkt_sub_one h0
  rw [remove, live_jitSortQueue]
  refine (qs.perm _ _).trans (List.Perm.of_eq ?_)
  show ((q.nodes.set i _).set (q.numPkt - 1).toNat JitNode.zero).take (q.numPkt - 1).toNat = _
  rw [List.take_set_of_le le_rfl, List.take_set_of_le (by omega), live, List.take_take,
    min_eq_left (by omega)]

theorem mem_of_mem_remove (qs : Qsort JitNode) (hle : q.numPkt.toNat ≤ queueMax)
    (h0 : 0 < q.numPkt.toNat) {n : JitNode} (hn : n ∈ (q.remove qs i).live) : n ∈ q.live := by
  rcases Nat.lt_or_ge i q.numPkt.toNat with hi | hi
  · exact (perm_remove qs hle hi).subset (List.mem_cons_of_mem _ hn)
  · exact List.mem_of_mem_take ((live_remove_of_ge qs hi h0).subset hn)

end JitQueue

namespace JitQueue.Valid

theorem init : jitQueueInit.Valid where
  numPkt_le := Nat.zero_le _
  numBeacon_eq := rfl
  zero_above i _ := by
    show (List.replicate queueMax JitNode.zero)[i]?.getD JitNode.zero = _
    rw [List.getElem?_replicate]
    split_ifs <;> rfl
  sorted _ _ := List.Pairwise.nil

/-- Sorting makes a queue sound that was sound but for the order. -/
theorem of_unsorted (qs : Qsort JitNode) {q : JitQueue} (hle : q.numPkt.toNat ≤ queueMax)
    (hb : q.numBeacon.toNat = q.live.countP (fun n => n.pktType = .beacon))
    (hz : ∀ i, q.numPkt.toNat ≤ i → q.node i = JitNode.zero) : (jitSortQueue qs q).Valid where
  numPkt_le := by rwa [numPkt_jitSortQueue]
  numBeacon_eq := by
    rw [numBeacon_jitSortQueue, live_jitSortQueue, hb]
    exact ((qs.perm _ q.live).countP_eq _).symm
  zero_above i hi := by
    rw [numPkt_jitSortQueue] at hi
    rw [node_jitSortQueue qs hle hi, hz i hi]
  sorted := by
    rw [live_jitSortQueue]
    exact circularlySorted_sort qs q.live

theorem numBeacon_le {q : JitQueue} (h : q.Valid) : q.numBeacon.toNat ≤ queueMax := by
  rw [h.numBeacon_eq]
  exact le_trans (List.countP_le_length) (by rw [length_live h.numPkt_le]; exact h.numPkt_le)

/-- **Adding a node** to a sound queue that is not full. -/
theorem push (qs : Qsort JitNode) {q : JitQueue} (h : q.Valid)
    (hlt : q.numPkt.toNat < queueMax) (n : JitNode) : (jitSortQueue qs (q.push n)).Valid := by
  have hn := numPkt_push hlt n
  refine of_unsorted qs (by omega) ?_ (fun i hi => ?_)
  · have hb := h.numBeacon_le
    have hmax : queueMax < 255 := by decide
    rw [live_push hlt, List.countP_append, ← h.numBeacon_eq]
    by_cases hbeacon : n.pktType = .beacon
    · have hnum : (q.push n).numBeacon = q.numBeacon + 1 := if_pos hbeacon
      rw [hnum, UInt8.toNat_add, List.countP_singleton, if_pos (by simpa using hbeacon)]
      exact Nat.mod_eq_of_lt (show q.numBeacon.toNat + 1 < 256 by omega)
    · have hnum : (q.push n).numBeacon = q.numBeacon := if_neg hbeacon
      rw [hnum, List.countP_singleton, if_neg (by simpa using hbeacon), Nat.add_zero]
  · have hz := h.zero_above i (by omega)
    rw [← hz]
    show (q.nodes.set q.numPkt.toNat n)[i]?.getD _ = _
    rw [List.getElem?_set_ne (by omega)]
    rfl

variable {q : JitQueue} {i : ℕ}

theorem numBeacon_remove (qs : Qsort JitNode) (h : q.Valid) (hi : i < q.numPkt.toNat) :
    (q.remove qs i).numBeacon.toNat
      = (q.remove qs i).live.countP (fun n => n.pktType = .beacon) := by
  have hcount := (perm_remove qs h.numPkt_le hi).countP_eq (fun n => decide (n.pktType = .beacon))
  rw [List.countP_cons, ← h.numBeacon_eq] at hcount
  rw [JitQueue.remove, numBeacon_jitSortQueue, ← JitQueue.remove]
  show (if (q.node i).pktType = .beacon then q.numBeacon - 1 else q.numBeacon).toNat = _
  by_cases hbeacon : (q.node i).pktType = .beacon
  · rw [if_pos (decide_eq_true hbeacon)] at hcount
    have h1 : (1 : UInt8) ≤ q.numBeacon := by
      rw [UInt8.le_iff_toNat_le]
      show 1 ≤ q.numBeacon.toNat
      omega
    rw [if_pos hbeacon, UInt8.toNat_sub_of_le _ _ h1]
    show q.numBeacon.toNat - 1 = _
    omega
  · rw [if_neg (by rw [decide_eq_true_iff]; exact hbeacon), Nat.add_zero] at hcount
    rw [if_neg hbeacon]
    exact hcount.symm

/-- Behind the nodes in use after a removal, there is nothing. -/
theorem node_remove (qs : Qsort JitNode) (h : q.Valid) (hi : i < q.numPkt.toNat) {j : ℕ}
    (hj : (q.numPkt - 1).toNat ≤ j) : (q.remove qs i).node j = JitNode.zero := by
  have hle := h.numPkt_le
  have hnum := toNat_numPkt_sub_one hi
  rw [JitQueue.remove, node_jitSortQueue qs (show (q.numPkt - 1).toNat ≤ _ by omega) hj]
  show ((q.nodes.set i (q.node (q.numPkt - 1).toNat)).set (q.numPkt - 1).toNat
    JitNode.zero)[j]?.getD _ = _
  rcases Nat.eq_or_lt_of_le hj with heq | hlt
  · rw [← heq, List.getElem?_set_self (by rw [List.length_set, q.length_nodes]; omega)]
    rfl
  · rw [List.getElem?_set_ne (by omega), List.getElem?_set_ne (by omega)]
    exact h.zero_above j (by omega)

/-- Taking out a node of a sound queue leaves a sound queue. -/
theorem remove (qs : Qsort JitNode) (h : q.Valid) (hi : i < q.numPkt.toNat) :
    (q.remove qs i).Valid where
  numPkt_le := by
    have hle := h.numPkt_le
    have hnum := toNat_numPkt_sub_one hi
    rw [JitQueue.numPkt_remove]
    omega
  numBeacon_eq := h.numBeacon_remove qs hi
  zero_above j hj := by
    rw [JitQueue.numPkt_remove] at hj
    exact h.node_remove qs hi hj
  sorted := by
    rw [JitQueue.remove, live_jitSortQueue]
    exact circularlySorted_sort qs _

end JitQueue.Valid

/-! ## The operations as moves -/

/-- The departure time a packet is given is all that enqueueing decides about
it; what it writes is settled by that time and the type. -/
theorem timedPacket_countUs (packet : LgwPktTx) (c : UInt32) (pktType : JitPktType) :
    timedPacket packet (timedPacket packet c pktType).countUs pktType
      = timedPacket packet c pktType := by
  cases pktType <;> rfl

/-- **What enqueueing does**: either it fails and leaves the queue, or there
was room, the packet met no stored node, and its node was added. -/
theorem jitEnqueue_cases (qs : Qsort JitNode) (toa : LgwPktTx → UInt32) (q : JitQueue)
    (timeUs : UInt32) (packet : LgwPktTx) (pktType : JitPktType) :
    ((jitEnqueue qs toa q timeUs packet pktType).1 ≠ .ok
        ∧ (jitEnqueue qs toa q timeUs packet pktType).2.1 = q)
      ∨ ∃ p : LgwPktTx,
          q.numPkt.toNat ≠ queueMax
          ∧ p = timedPacket packet p.countUs pktType
          ∧ (∀ n ∈ q.live,
              collidesWith pktType p.countUs pktType.preDelay (postDelayOf toa packet pktType) n
                = false)
          ∧ jitEnqueue qs toa q timeUs packet pktType
            = (.ok, jitSortQueue qs
                (q.push ⟨p, pktType, pktType.preDelay, postDelayOf toa packet pktType⟩), p) := by
  unfold jitEnqueue
  by_cases hfull : q.numPkt.toNat = queueMax
  · rw [if_pos hfull]
    exact Or.inl ⟨nofun, rfl⟩
  rw [if_neg hfull]
  dsimp only
  -- from here on the packet has its departure time
  set p := timedPacket packet (asapCountUs q timeUs pktType.preDelay
    (postDelayOf toa packet pktType)) pktType with hp
  split_ifs with hlate hearly
  · exact Or.inl ⟨nofun, rfl⟩
  · exact Or.inl ⟨nofun, rfl⟩
  cases hfind : q.live.find? (collidesWith pktType p.countUs pktType.preDelay
      (postDelayOf toa packet pktType)) with
  | some n =>
    refine Or.inl ⟨?_, rfl⟩
    show collisionError n.pktType ≠ .ok
    cases n.pktType <;> decide
  | none =>
    refine Or.inr ⟨p, hfull, ?_, fun n hn => ?_, rfl⟩
    · rw [hp, timedPacket_countUs]
    · exact Bool.eq_false_iff.mpr (List.find?_eq_none.mp hfind n hn)

/-- **The rule of the search of `jit_peek`.** What holds of a queue and the
nodes dropped from it, and survives taking out another outdated node in use,
holds when the search is over. -/
theorem jitPeekLoop_invariant (qs : Qsort JitNode) (timeUs : UInt32)
    {P : JitQueue → List JitNode → Prop}
    (hremove : ∀ q i dropped, i < q.numPkt.toNat → outdated timeUs (q.node i) → P q dropped →
      P (q.remove qs i) (dropped ++ [q.node i]))
    (q : JitQueue) (i : ℕ) (best : Option ℕ) (dropped : List JitNode) (hq : P q dropped) :
    P (jitPeekLoop qs timeUs q i best dropped).1 (jitPeekLoop qs timeUs q i best dropped).2.2 := by
  induction q, i, best, dropped using jitPeekLoop.induct qs timeUs with
  | case1 q i best dropped hi n hn ih =>
    rw [jitPeekLoop, if_pos hi]
    dsimp only
    rw [if_pos hn]
    exact ih (hremove q i dropped hi hn hq)
  | case2 q i best dropped hi n hn best' ih =>
    rw [jitPeekLoop, if_pos hi]
    dsimp only
    rw [if_neg hn]
    exact ih hq
  | case3 q i best dropped hi =>
    rw [jitPeekLoop, if_neg hi]
    exact hq

/-- The rule of `jit_peek`: the same, from the queue it is called on. -/
theorem jitPeek_invariant (qs : Qsort JitNode) (timeUs : UInt32)
    {P : JitQueue → List JitNode → Prop}
    (hremove : ∀ q i dropped, i < q.numPkt.toNat → outdated timeUs (q.node i) → P q dropped →
      P (q.remove qs i) (dropped ++ [q.node i]))
    (q : JitQueue) (hq : P q []) :
    P (jitPeek qs q timeUs).2.1 (jitPeek qs q timeUs).2.2.2 := by
  unfold jitPeek
  split_ifs with h0
  · exact hq
  · exact jitPeekLoop_invariant qs timeUs hremove q 0 none [] hq

/-- The packets `jit_peek` drops are those that leave the queue. -/
theorem jitPeek_perm (qs : Qsort JitNode) {q : JitQueue} (hle : q.numPkt.toNat ≤ queueMax)
    (timeUs : UInt32) : (jitPeek qs q timeUs).2.1.numPkt.toNat ≤ queueMax
      ∧ ((jitPeek qs q timeUs).2.2.2 ++ (jitPeek qs q timeUs).2.1.live).Perm q.live := by
  refine jitPeek_invariant qs timeUs (P := fun q' dropped =>
    q'.numPkt.toNat ≤ queueMax ∧ (dropped ++ q'.live).Perm q.live) ?_ q ⟨hle, List.Perm.refl _⟩
  intro q' i dropped hi _ ⟨hle', hperm⟩
  refine ⟨?_, List.Perm.trans ?_ hperm⟩
  · rw [JitQueue.numPkt_remove, JitQueue.toNat_numPkt_sub_one hi]
    omega
  · rw [List.append_assoc]
    exact List.Perm.append_left dropped (q'.perm_remove qs hle' hi)

/-- A peek at a sound queue leaves a sound queue. -/
theorem jitPeek_spec (qs : Qsort JitNode) {q : JitQueue} (hq : q.Valid) (timeUs : UInt32) :
    (jitPeek qs q timeUs).2.1.Valid
      ∧ ((jitPeek qs q timeUs).2.2.2 ++ (jitPeek qs q timeUs).2.1.live).Perm q.live :=
  ⟨jitPeek_invariant qs timeUs (P := fun q' _ => q'.Valid)
    (fun _ _ _ hi _ hvalid => hvalid.remove qs hi) q hq, (jitPeek_perm qs hq.numPkt_le timeUs).2⟩
