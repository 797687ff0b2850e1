import MeshBeacon.JitPeek
import MeshBeacon.TransmitPath
import Mathlib.Tactic.Abel

/-!
# Every frame is accounted for

What one step does is said once for each of the places where things change hands: the bridge
(`mesh_cases`), the pop with what follows (`handle_cases`), the queue (`items_of_enqueued`,
`items_remove`, `items_jitPeek`). The books then balance by arithmetic of multisets.

For that the thread has to take frames of the bridge for what they are, so the frames that wait
are not empty; and the index it dequeues has to be one of the queue it peeked at, although other
packets may have been enqueued since. Both are part of the invariant, `TransmitPath.Inv`.
-/

open Hal Jit Gps Beacon Circle

/-! ## The queue -/

namespace JitQueue

/-- A queue with the nodes of a list holds what they hold. -/
theorem items_of_perm {q : JitQueue} {l : List JitNode} (h : q.live.Perm l) :
    q.items = (l.map JitNode.item : List Item) :=
  Multiset.coe_eq_coe.mpr (h.map _)

/-- An accepted packet is one more thing to send. -/
theorem items_push (qs : Qsort JitNode) {q : JitQueue} (hlt : q.numPkt.toNat < queueMax)
    (n : JitNode) : (jitSortQueue qs (q.push n)).items = {n.item} + q.items := by
  rw [items_of_perm (perm_push qs hlt n), List.map_cons, ← Multiset.cons_coe,
    ← Multiset.singleton_add]
  rfl

theorem items_remove (qs : Qsort JitNode) {q : JitQueue} (hle : q.numPkt.toNat ≤ queueMax) {i : ℕ}
    (hi : i < q.numPkt.toNat) : q.items = {(q.node i).item} + (q.remove qs i).items := by
  rw [items_of_perm (perm_remove qs hle hi).symm, List.map_cons, ← Multiset.cons_coe,
    ← Multiset.singleton_add]
  rfl

/-- A peek splits a queue into what it drops and what is left. -/
theorem items_jitPeek (qs : Qsort JitNode) {q : JitQueue} (hle : q.numPkt.toNat ≤ queueMax)
    (timeUs : UInt32) : q.items = ((jitPeek qs q timeUs).2.2.2.map JitNode.item : List Item)
      + (jitPeek qs q timeUs).2.1.items := by
  rw [items_of_perm (jitPeek_perm qs hle timeUs).2.symm, List.map_append, ← Multiset.coe_add]
  rfl

end JitQueue

/-- **Behind index 0, no node is outdated** up to an index in use. -/
structure JitQueue.FreshTo (timeUs b : UInt32) (k : ℕ) (q : JitQueue) : Prop where
  valid : q.Valid
  ahead : AheadOf b q.live
  fresh : ∀ j, 1 ≤ j → j < k → ¬ outdated timeUs (q.node j)

theorem JitQueue.FreshTo.remove {timeUs b : UInt32} {k i : ℕ} {q : JitQueue} (qs : Qsort JitNode)
    (h : q.FreshTo timeUs b k) (hi : i < q.numPkt.toNat) (hk : k ≤ i) :
    (q.remove qs i).FreshTo timeUs b k where
  valid := h.valid.remove qs hi
  ahead := h.ahead.remove qs h.valid.numPkt_le hi
  fresh j h1 hj := by
    rw [outdated_congr (q.countUs_remove_of_lt qs h.valid h.ahead hi (lt_of_lt_of_le hj hk))]
    exact h.fresh j h1 hj

/-- **The candidate of the search stays in use**: no purge comes before it. -/
theorem lt_of_jitPeekLoop (qs : Qsort JitNode) (timeUs b : UInt32) (q : JitQueue) (i : ℕ)
    (best : Option ℕ) (dropped : List JitNode) (hscan : q.FreshTo timeUs b i)
    (h0 : i = 0 → best = none)
    (hbest : ∀ c ∈ best, c < q.numPkt.toNat ∧ q.FreshTo timeUs b (c + 1)) :
    ∀ c ∈ (jitPeekLoop qs timeUs q i best dropped).2.1,
      c < (jitPeekLoop qs timeUs q i best dropped).1.numPkt.toNat := by
  refine jitPeekLoop_rule qs timeUs (P := fun q i best dropped =>
    q.FreshTo timeUs b i → (i = 0 → best = none) →
      (∀ c ∈ best, c < q.numPkt.toNat ∧ q.FreshTo timeUs b (c + 1)) →
        ∀ c ∈ (jitPeekLoop qs timeUs q i best dropped).2.1,
          c < (jitPeekLoop qs timeUs q i best dropped).1.numPkt.toNat)
    ?_ ?_ ?_ q i best dropped hscan h0 hbest
  · intro q i best dropped hi hout ih hscan h0 hbest
    rw [jitPeekLoop_of_outdated qs timeUs best dropped hi hout]
    have hone : (q.remove qs i).FreshTo timeUs b 1 :=
      ⟨hscan.valid.remove qs hi, hscan.ahead.remove qs hscan.valid.numPkt_le hi,
        fun j h1 hj => absurd h1 (Nat.not_le.mpr hj)⟩
    refine ih hone (fun h => absurd h Nat.one_ne_zero) fun c hc => ?_
    obtain ⟨hlt, hfresh⟩ := hbest c hc
    have hpos : i ≠ 0 := fun hzero => by
      rw [h0 hzero] at hc
      exact Option.not_mem_none c hc
    -- the node purged is behind the candidate, which was found fresh
    have hci : c < i := by
      by_contra hge
      exact hfresh.fresh i (Nat.one_le_iff_ne_zero.mpr hpos) (by omega) hout
    refine ⟨?_, hfresh.remove qs hi hci⟩
    rw [JitQueue.numPkt_remove, JitQueue.toNat_numPkt_sub_one hi]
    omega
  · intro q i best dropped hi hout ih hscan h0 hbest
    rw [jitPeekLoop_of_not_outdated qs timeUs best dropped hi hout]
    have hnext : q.FreshTo timeUs b (i + 1) :=
      ⟨hscan.valid, hscan.ahead, fun j h1 hj => by
        rcases Nat.lt_succ_iff_lt_or_eq.mp hj with hlt | rfl
        · exact hscan.fresh j h1 hlt
        · exact hout⟩
    refine ih hnext (fun h => absurd h (Nat.succ_ne_zero i)) fun c hc => ?_
    have hcases : c = i ∨ c ∈ best := by
      cases best with
      | none => exact Or.inl (Option.some_inj.mp hc).symm
      | some k =>
        change c ∈ if (q.node i).pkt.countUs - timeUs < (q.node k).pkt.countUs - timeUs then some i
          else some k at hc
        split_ifs at hc with hnear
        · exact Or.inl (Option.some_inj.mp hc).symm
        · exact Or.inr hc
    rcases hcases with rfl | hc
    · exact ⟨hi, hnext⟩
    · exact hbest c hc
  · intro q i best dropped hge hscan h0 hbest c hc
    rw [jitPeekLoop_of_ge qs timeUs best dropped hge] at hc ⊢
    exact (hbest c hc).1

/-- **The index returned is one in use**, when the comparator orders the nodes or none is
outdated. -/
theorem lt_of_jitPeek {qs : Qsort JitNode} {q : JitQueue} {timeUs : UInt32} {i : ℕ} (hq : q.Valid)
    (hord : (∃ n ∈ q.live, outdated timeUs n) → TotalPreorderOn JitNode.compare q.live)
    (hi : (jitPeek qs q timeUs).2.2.1 = some i) :
    i < (jitPeek qs q timeUs).2.1.numPkt.toNat := by
  by_cases hne : q.numPkt = 0
  · rw [jitPeek, if_pos hne] at hi
    exact absurd hi.symm (Option.some_ne_none i)
  · obtain ⟨b, hb⟩ := exists_aheadOf_live hord
    have hlt := lt_of_jitPeekLoop qs timeUs b q 0 none []
      ⟨hq, hb, fun j _ hj => absurd hj (Nat.not_lt_zero j)⟩ (fun _ => rfl)
      fun c hc => absurd hc (Option.not_mem_none c)
    rw [jitPeek_of_loop hne rfl] at hi ⊢
    exact hlt i (Option.mem_filter_iff.mp hi).1

/-! ## A frame on its way into a queue -/

/-- **A packet of the mesh as the queue of a chain stores it.** -/
structure IsMeshPacket (i : ℕ) (p : LgwPktTx) : Prop where
  rfChain : p.rfChain.toNat = i
  txMode : p.txMode = timestamped
  modulation : p.modulation = modLora
  bandwidth : p.bandwidth = bw125khz
  datarate : p.datarate = drLoraSf7
  coderate : p.coderate = crLora45
  size_pos : 0 < p.size.toNat
  size_le : p.size.toNat ≤ 256
  /-- All of it is there. -/
  length : p.size.toNat ≤ p.payload.length

/-- **What became of the frame that was popped**, with its bytes: the packet of it was stored in
the queue of its chain, or the queues are as they were. -/
inductive Became (qs : Qsort JitNode) (bytes : List UInt8) (queues queues' : ℕ → JitQueue) :
    Option Handling → Prop
  /-- No packet was built. -/
  | lost (hqueues : queues' = queues) : Became qs bytes queues queues' none
  /-- The packet was not accepted. -/
  | refused (h : Handling) (hrefused : h.accepted = false) (hsent : h.txpkt.sent = bytes)
      (hqueues : queues' = queues) : Became qs bytes queues queues' (some h)
  /-- The packet was accepted. -/
  | stored (h : Handling) (i : ℕ) (n : JitNode) (haccepted : h.accepted = true)
      (hi : i < rfChainNb) (htype : n.pktType = .downlinkClassC) (hpkt : IsMeshPacket i n.pkt)
      (hsent : n.pkt.sent = bytes) (hroom : (queues i).numPkt.toNat ≠ queueMax)
      (hqueues : queues' = Function.update queues i (jitSortQueue qs ((queues i).push n))) :
      Became qs bytes queues queues' (some h)

/-- A packet as either loop builds it, before it has a time. -/
structure IsBuilt (p : LgwPktTx) : Prop where
  rfChain : p.rfChain.toNat < rfChainNb
  modulation : p.modulation = modLora
  bandwidth : p.bandwidth = bw125khz
  datarate : p.datarate = drLoraSf7
  coderate : p.coderate = crLora45
  size_pos : 0 < p.size.toNat
  size_le : p.size.toNat ≤ 256
  length : p.size.toNat ≤ p.payload.length

theorem DownlinkLoop.isBuilt_txpkt (loop : DownlinkLoop) (dl : DownlinkInfo)
    {payload : List UInt8} {size : UInt16} (hpos : 0 < size.toNat) (hle : size.toNat ≤ 256)
    (hlen : size.toNat ≤ payload.length) : IsBuilt (loop.txpkt dl payload size) := by
  have hpayload : size.toNat
      ≤ (overwrite (payload.take size.toNat) LgwPktTx.zero.payload).length := by
    rw [overwrite, List.length_append, List.length_take, min_eq_left hlen]
    exact Nat.le_add_right _ _
  cases loop with
  | outer =>
    refine ⟨?_, rfl, rfl, rfl, rfl, hpos, hle, hpayload⟩
    show (if dl.rfChain.toNat < rfChainNb then dl.rfChain else 0).toNat < rfChainNb
    split_ifs with h
    · exact h
    · exact Nat.zero_lt_two
  | inner => exact ⟨Nat.zero_lt_two, rfl, rfl, rfl, rfl, hpos, hle, hpayload⟩

section Handle

variable {chain : ℕ → TxChain} {qs : Qsort JitNode} {toa : LgwPktTx → UInt32} {st : DownState}
  {txpkt : LgwPktTx}

/-- Enqueueing writes to the queue of the chain. -/
theorem jitQueue_enqueue (qs : Qsort JitNode) (toa : LgwPktTx → UInt32) (st : DownState)
    (timeUs : UInt32) (txpkt : LgwPktTx) :
    (st.enqueue qs toa timeUs txpkt).2.jitQueue = Function.update st.jitQueue txpkt.rfChain.toNat
      (jitEnqueue qs toa (st.jitQueue txpkt.rfChain.toNat) timeUs txpkt .downlinkClassC).2.1 := rfl

/-- A packet is passed to the queue of its chain: it is refused and the queues stay, or it is
stored as a packet of the mesh that sends the same. -/
theorem enqueue_cases (qs : Qsort JitNode) (toa : LgwPktTx → UInt32) (st : DownState)
    (timeUs : UInt32) (hbuilt : IsBuilt txpkt) :
    ((st.enqueue qs toa timeUs txpkt).1 ≠ .ok
        ∧ (st.enqueue qs toa timeUs txpkt).2.jitQueue = st.jitQueue)
      ∨ ((st.enqueue qs toa timeUs txpkt).1 = .ok ∧ ∃ n : JitNode,
        n.pktType = .downlinkClassC ∧ IsMeshPacket txpkt.rfChain.toNat n.pkt
          ∧ n.pkt.sent = txpkt.sent ∧ (st.jitQueue txpkt.rfChain.toNat).numPkt.toNat ≠ queueMax
          ∧ (st.enqueue qs toa timeUs txpkt).2.jitQueue
            = Function.update st.jitQueue txpkt.rfChain.toNat
              (jitSortQueue qs ((st.jitQueue txpkt.rfChain.toNat).push n))) := by
  rcases jitEnqueue_cases qs toa (st.jitQueue txpkt.rfChain.toNat) timeUs txpkt .downlinkClassC
    with ⟨herr, hsame⟩ | ⟨p, hroom, hp, -, heq⟩
  · refine Or.inl ⟨herr, ?_⟩
    rw [jitQueue_enqueue, hsame, Function.update_eq_self]
  · refine Or.inr ⟨?_, ⟨p, .downlinkClassC, JitPktType.preDelay .downlinkClassC,
      postDelayOf toa txpkt .downlinkClassC⟩, rfl, ?_, ?_, hroom, ?_⟩
    · exact congrArg Prod.fst heq
    · rw [hp]
      exact ⟨rfl, rfl, hbuilt.modulation, hbuilt.bandwidth, hbuilt.datarate, hbuilt.coderate,
        hbuilt.size_pos, hbuilt.size_le, hbuilt.length⟩
    · rw [hp]
      rfl
    · rw [jitQueue_enqueue, heq]

/-- The outer loop leaves the variables of the pop. -/
theorem td_outerHandle (chain : ℕ → TxChain) (qs : Qsort JitNode) (toa : LgwPktTx → UInt32)
    (st : DownState) (txpkt : LgwPktTx) : (outerHandle chain qs toa st txpkt).1.td = st.td := by
  unfold outerHandle
  by_cases hfreq : txpkt.freqHz < (chain txpkt.rfChain.toNat).txFreqMin
      ∨ (chain txpkt.rfChain.toNat).txFreqMax < txpkt.freqHz
  · rw [if_pos hfreq]
  · rw [if_neg hfreq]
    rfl

/-- The outer loop handles the packet it built. -/
theorem became_outerHandle (chain : ℕ → TxChain) (qs : Qsort JitNode) (toa : LgwPktTx → UInt32)
    (st : DownState) (hbuilt : IsBuilt txpkt) :
    Became qs txpkt.sent st.jitQueue (outerHandle chain qs toa st txpkt).1.jitQueue
      (some (outerHandle chain qs toa st txpkt).2) := by
  unfold outerHandle
  by_cases hfreq : txpkt.freqHz < (chain txpkt.rfChain.toNat).txFreqMin
      ∨ (chain txpkt.rfChain.toNat).txFreqMax < txpkt.freqHz
  · rw [if_pos hfreq]
    exact .refused _ rfl rfl rfl
  · rw [if_neg hfreq]
    dsimp only
    -- the power is the only setting that may be changed
    set sent := if (getTxGainLutIndex (chain txpkt.rfChain.toNat) txpkt.rfPower).1 < 0
        ∨ (chain txpkt.rfChain.toNat).rfPower
            (getTxGainLutIndex (chain txpkt.rfChain.toNat) txpkt.rfPower).2.toNat ≠ txpkt.rfPower
      then { txpkt with
        rfPower := (chain txpkt.rfChain.toNat).rfPower
          (getTxGainLutIndex (chain txpkt.rfChain.toNat) txpkt.rfPower).2.toNat }
      else txpkt with hsent
    have hsame : IsBuilt sent ∧ sent.sent = txpkt.sent := by
      rw [hsent]
      split_ifs
      · exact ⟨⟨hbuilt.rfChain, hbuilt.modulation, hbuilt.bandwidth, hbuilt.datarate,
          hbuilt.coderate, hbuilt.size_pos, hbuilt.size_le, hbuilt.length⟩, rfl⟩
      · exact ⟨hbuilt, rfl⟩
    rcases enqueue_cases qs toa st st.currentConcentratorTime hsame.1 with
      ⟨herr, hqueue⟩ | ⟨hok, n, htype, hpkt, hbytes, hroom, hqueue⟩
    · refine .refused _ ?_ rfl hqueue
      show (some _).any _ = false
      exact decide_eq_false herr
    · refine .stored _ _ n ?_ hsame.1.rfChain htype hpkt (hbytes.trans hsame.2) hroom hqueue
      exact decide_eq_true hok

theorem became_innerHandle (qs : Qsort JitNode) (toa : LgwPktTx → UInt32) (instcnt : UInt32)
    (st : DownState) (hbuilt : IsBuilt txpkt) :
    Became qs txpkt.sent st.jitQueue (innerHandle qs toa instcnt st txpkt).1.jitQueue
      (some (innerHandle qs toa instcnt st txpkt).2) := by
  rcases enqueue_cases qs toa { st with currentConcentratorTime := instcnt } instcnt hbuilt with
    ⟨herr, hqueue⟩ | ⟨hok, n, htype, hpkt, hbytes, hroom, hqueue⟩
  · exact .refused _ (decide_eq_false herr) rfl hqueue
  · exact .stored _ _ n (decide_eq_true hok) hbuilt.rfChain htype hpkt hbytes hroom hqueue

end Handle

/-- **Taking a frame from the bridge** takes it out, and builds a packet that sends it, if any. -/
theorem pollDownlink_spec (loop : DownlinkLoop) {td : ThreadDown} {pkt : DownlinkPacket}
    (rest : List DownlinkPacket) (hne : pkt.payload ≠ []) (hcap : td.bufCapacity.toNat ≤ 256) :
    (pollDownlink loop td (pkt :: rest)).2.1 = rest
      ∧ (pollDownlink loop td (pkt :: rest)).1.bufCapacity.toNat ≤ 256
      ∧ ∀ p ∈ (pollDownlink loop td (pkt :: rest)).2.2, IsBuilt p ∧ p.sent = pkt.payload := by
  rcases Nat.lt_or_ge td.bufCapacity.toNat pkt.payload.length with hlt | hle
  · -- a frame that does not go into the buffer is dropped
    rw [pollDownlink_of_lt hlt]
    exact ⟨rfl, Nat.zero_le _, fun p hp => absurd hp (Option.not_mem_none p)⟩
  · have hsize : (UInt16.ofNat pkt.payload.length).toNat = pkt.payload.length :=
      UInt16.toNat_ofNat_of_lt' (lt_of_le_of_lt hle td.bufCapacity.toNat_lt)
    have hpos : 0 < (UInt16.ofNat pkt.payload.length).toNat := by
      rw [hsize]
      exact List.length_pos_of_ne_nil hne
    -- one that does is copied over what the buffer held before
    have hpop : cdpBridgePopDownlink td.duckPayloadBuf td.bufCapacity td.dl (pkt :: rest)
        = ⟨0, overwrite pkt.payload td.duckPayloadBuf, UInt16.ofNat pkt.payload.length, pkt.info,
          rest⟩ := if_neg (Nat.not_lt.mpr hle)
    have hpoll : pollDownlink loop td (pkt :: rest)
        = (⟨overwrite pkt.payload td.duckPayloadBuf, duckPayloadBufSize, pkt.info⟩, rest,
          some (loop.txpkt pkt.info (overwrite pkt.payload td.duckPayloadBuf)
            (UInt16.ofNat pkt.payload.length))) := by
      unfold pollDownlink
      rw [hpop]
      exact if_pos ⟨rfl, UInt16.lt_iff_toNat_lt.mpr hpos⟩
    have hlen : (UInt16.ofNat pkt.payload.length).toNat
        ≤ (overwrite pkt.payload td.duckPayloadBuf).length := by
      rw [hsize, overwrite, List.length_append]
      exact Nat.le_add_right _ _
    rw [hpoll]
    refine ⟨rfl, le_refl 256, fun p hp => ?_⟩
    obtain rfl := Option.some_inj.mp hp
    refine ⟨loop.isBuilt_txpkt _ hpos (by omega) hlen, ?_⟩
    rw [loop.sent_txpkt _ _ _ hlen, hsize, take_overwrite]

/-- **A frame that is popped** is gone from the bridge, and what became of it is one of the
three. -/
theorem became_handle (chain : ℕ → TxChain) (qs : Qsort JitNode) (toa : LgwPktTx → UInt32)
    {st : DownState} (loop : DownlinkLoop) (instcnt : UInt32) {pkt : DownlinkPacket}
    (rest : List DownlinkPacket) (hne : pkt.payload ≠ []) (hcap : st.td.bufCapacity.toNat ≤ 256) :
    (loop.handle chain qs toa instcnt st (pkt :: rest)).2.1 = rest
      ∧ (loop.handle chain qs toa instcnt st (pkt :: rest)).1.td.bufCapacity.toNat ≤ 256
      ∧ Became qs pkt.payload st.jitQueue
        (loop.handle chain qs toa instcnt st (pkt :: rest)).1.jitQueue
        (loop.handle chain qs toa instcnt st (pkt :: rest)).2.2 := by
  obtain ⟨hrest, hcap', hbuilt⟩ := pollDownlink_spec loop rest hne hcap
  unfold DownlinkLoop.handle
  generalize pollDownlink loop st.td (pkt :: rest) = polled at hrest hcap' hbuilt
  obtain ⟨td, queue, txpkt⟩ := polled
  obtain rfl := hrest
  cases txpkt with
  | none => exact ⟨rfl, hcap', .lost rfl⟩
  | some p =>
    obtain ⟨hp, hsent⟩ := hbuilt p rfl
    rw [← hsent]
    cases loop with
    | outer =>
      refine ⟨rfl, ?_, became_outerHandle chain qs toa { st with td := td } hp⟩
      show (outerHandle chain qs toa { st with td := td } p).1.td.bufCapacity.toNat ≤ 256
      rw [td_outerHandle]
      exact hcap'
    | inner => exact ⟨rfl, hcap', became_innerHandle qs toa instcnt { st with td := td } hp⟩

theorem handle_nil (chain : ℕ → TxChain) (qs : Qsort JitNode) (toa : LgwPktTx → UInt32)
    (st : DownState) (loop : DownlinkLoop) (instcnt : UInt32) :
    loop.handle chain qs toa instcnt st [] = (st, [], none) := by
  cases loop <;> rfl

/-! ## The invariant -/

namespace TransmitPath

/-- The index the transmitting thread is about to dequeue is one of the queue, and the chain it
is at is one of the two. -/
def PcInRange (s : TransmitPath) : Prop :=
  match s.jitPc with
  | .peek i => i < rfChainNb
  | .dequeue i pktIndex => i < rfChainNb ∧ pktIndex < (s.down.jitQueue i).numPkt.toNat
  | .send i _ _ => i < rfChainNb

/-- **The invariant** of the three threads. -/
structure Inv (s : TransmitPath) : Prop where
  /-- No frame that waits is empty. -/
  ne_nil : ∀ pkt ∈ s.bridge, pkt.payload ≠ []
  /-- The capacity is that of the buffer, or less. -/
  capacity_le : s.down.td.bufCapacity.toNat ≤ 256
  /-- The queues are sound. -/
  valid : ∀ i, (s.down.jitQueue i).Valid
  /-- The transmitting thread is where it can go on. -/
  inRange : s.PcInRange
  /-- It never was told an index that was not there. -/
  noFailure : s.books.dequeueFailures = 0
  /-- The books balance. -/
  balanced : s.Balanced

/-! ## The queues together -/

section Queues

variable {queues : ℕ → JitQueue} {i : ℕ} {q : JitQueue} {a : Multiset Item}

/-- More in one of the queues is more in all. -/
theorem stored_update (hi : i < rfChainNb) (h : q.items = a + (queues i).items) :
    stored (Function.update queues i q) = a + stored queues := by
  have hcases : i = 0 ∨ i = 1 := by
    unfold rfChainNb at hi
    omega
  unfold stored
  rcases hcases with rfl | rfl
  · rw [Function.update_self, Function.update_of_ne Nat.one_ne_zero, h, Multiset.add_assoc]
  · rw [Function.update_self, Function.update_of_ne Nat.zero_ne_one, h]
    abel

theorem stored_eq_add_update (hi : i < rfChainNb) (h : (queues i).items = a + q.items) :
    stored queues = a + stored (Function.update queues i q) := by
  have hback := @stored_update (Function.update queues i q) i (queues i) a hi
    (by rw [Function.update_self]; exact h)
  rwa [Function.update_idem, Function.update_eq_self] at hback

/-- Writing a sound queue leaves the queues sound. -/
theorem valid_update (hvalid : ∀ j, (queues j).Valid) (hq : q.Valid) (j : ℕ) :
    (Function.update queues i q j).Valid := by
  by_cases hj : j = i
  · rw [hj, Function.update_self]
    exact hq
  · rw [Function.update_of_ne hj]
    exact hvalid j

theorem numPkt_le_update (hq : (queues i).numPkt.toNat ≤ q.numPkt.toNat) (j : ℕ) :
    (queues j).numPkt.toNat ≤ (Function.update queues i q j).numPkt.toNat := by
  by_cases hj : j = i
  · rw [hj, Function.update_self]
    exact hq
  · rw [Function.update_of_ne hj]

theorem numPkt_le_push (qs : Qsort JitNode) (hlt : q.numPkt.toNat < queueMax) (n : JitNode) :
    q.numPkt.toNat ≤ (jitSortQueue qs (q.push n)).numPkt.toNat := by
  rw [numPkt_jitSortQueue, JitQueue.numPkt_push hlt]
  exact Nat.le_succ _

end Queues

theorem waiting_append (bridge : List DownlinkPacket) (pkt : DownlinkPacket) :
    waiting (bridge ++ [pkt]) = {Item.frame pkt.payload} + waiting bridge := by
  rw [waiting, List.map_append, ← Multiset.coe_add, Multiset.add_comm]
  rfl

theorem waiting_cons (pkt : DownlinkPacket) (bridge : List DownlinkPacket) :
    waiting (pkt :: bridge) = {Item.frame pkt.payload} + waiting bridge := by
  rw [waiting, List.map_cons, ← Multiset.cons_coe, ← Multiset.singleton_add]
  rfl

theorem handedOver_append (handed : List Handed) (h : Handed) :
    handedOver (handed ++ [h]) = {h.item} + handedOver handed := by
  rw [handedOver, List.map_append, ← Multiset.coe_add, Multiset.add_comm]
  rfl

/-- The place of the transmitting thread stays right when the queues grow. -/
theorem PcInRange.of_le {s s' : TransmitPath} (h : s.PcInRange) (hpc : s'.jitPc = s.jitPc)
    (hle : ∀ i, (s.down.jitQueue i).numPkt.toNat ≤ (s'.down.jitQueue i).numPkt.toNat) :
    s'.PcInRange := by
  unfold PcInRange at h ⊢
  rw [hpc]
  cases hcase : s.jitPc with
  | peek i =>
    rw [hcase] at h
    exact h
  | dequeue i pktIndex =>
    rw [hcase] at h
    exact ⟨h.1, lt_of_lt_of_le h.2 (hle i)⟩
  | send i pkt pktType =>
    rw [hcase] at h
    exact h

end TransmitPath

/-! ## What became of a frame -/

section Became

open TransmitPath

variable {qs : Qsort JitNode} {queues queues' : ℕ → JitQueue} {pkt : DownlinkPacket}
  {handling : Option Handling}

theorem Became.valid {bytes : List UInt8} (h : Became qs bytes queues queues' handling)
    (hvalid : ∀ i, (queues i).Valid) (i : ℕ) : (queues' i).Valid := by
  cases h with
  | lost hqueues => exact hqueues ▸ hvalid i
  | refused _ _ _ hqueues => exact hqueues ▸ hvalid i
  | stored _ j n _ _ _ _ _ hroom hqueues =>
    rw [hqueues]
    exact valid_update hvalid
      ((hvalid j).push qs (lt_of_le_of_ne (hvalid j).numPkt_le hroom) n) i

theorem Became.numPkt_le {bytes : List UInt8} (h : Became qs bytes queues queues' handling)
    (hvalid : ∀ i, (queues i).Valid) (i : ℕ) :
    (queues i).numPkt.toNat ≤ (queues' i).numPkt.toNat := by
  cases h with
  | lost hqueues => rw [hqueues]
  | refused _ _ _ hqueues => rw [hqueues]
  | stored _ j n _ _ _ _ _ hroom hqueues =>
    rw [hqueues]
    exact numPkt_le_update
      (numPkt_le_push qs (lt_of_le_of_ne (hvalid j).numPkt_le hroom) n) i

/-- **The frame is in one place more**, lost, refused or stored, and nothing else has moved. -/
theorem Became.moved (h : Became qs pkt.payload queues queues' handling)
    (hvalid : ∀ i, (queues i).Valid) (books : TransmitBooks) (rest : List DownlinkPacket) :
    ∃ lost refused, popped books (pkt :: rest) handling
        = { books with lost := lost, refused := refused }
      ∧ lost + refused + TransmitPath.stored queues'
        = {Item.frame pkt.payload} + (books.lost + books.refused + TransmitPath.stored queues) := by
  cases h with
  | lost hqueues =>
    refine ⟨{Item.frame pkt.payload} + books.lost, books.refused, rfl, ?_⟩
    rw [hqueues]
    abel
  | refused handling hrefused hsent hqueues =>
    refine ⟨books.lost, {Item.frame pkt.payload} + books.refused, ?_, ?_⟩
    · unfold popped
      dsimp only
      rw [if_neg (by rw [hrefused]; exact Bool.false_ne_true), hsent]
    · rw [hqueues]
      abel
  | stored handling i n haccepted hi htype hpkt hsent hroom hqueues =>
    refine ⟨books.lost, books.refused, if_pos haccepted, ?_⟩
    have hitem : n.item = Item.frame pkt.payload := by
      unfold JitNode.item itemOf
      rw [htype, ← hsent]
    rw [hqueues, stored_update hi
      (JitQueue.items_push qs (lt_of_le_of_ne (hvalid i).numPkt_le hroom) n), hitem]
    abel

end Became

/-! ## The steps -/

namespace TransmitPath

section Steps

variable {conf : BeaconConf} {chain : ℕ → TxChain} {qs : Qsort JitNode} {toa : LgwPktTx → UInt32}
  {s : TransmitPath}

theorem inv_start (beacon : BeaconPkt) (buf : List UInt8) (time : UInt32) :
    (start beacon buf time).Inv where
  ne_nil := nofun
  capacity_le := le_refl 256
  valid _ := JitQueue.Valid.init
  inRange := Nat.zero_lt_two
  noFailure := rfl
  balanced := rfl

theorem mesh_of_ne_zero {b : Block} (hb : b.size ≠ 0) (info : DownlinkInfo) :
    s.mesh (some b) info
      = { s with
          bridge := s.bridge ++ [⟨b.read, info⟩]
          books := { s.books with entered := {Item.frame b.read} + s.books.entered } } := by
  have haccepted : cdpBridgeEnqueueDownlinkExt (some b) info s.bridge
      = (0, s.bridge ++ [⟨b.read, info⟩]) := if_neg hb
  unfold TransmitPath.mesh
  rw [haccepted]
  rfl

theorem Inv.mesh (h : s.Inv) (payload : Option Block) (info : DownlinkInfo) :
    (s.mesh payload info).Inv := by
  cases payload with
  | none => exact h
  | some b =>
    by_cases hb : b.size = 0
    · have hrejected : cdpBridgeEnqueueDownlinkExt (some b) info s.bridge = (-1, s.bridge) :=
        if_pos hb
      unfold TransmitPath.mesh
      rw [hrejected]
      exact h
    · have hread : b.read ≠ [] := by
        intro hnil
        have hlen := b.length_read
        rw [hnil] at hlen
        exact hb (UInt16.toNat_inj.mp hlen.symm)
      have hbooks := h.balanced
      rw [mesh_of_ne_zero hb]
      refine ⟨fun pkt hpkt => ?_, h.capacity_le, h.valid, h.inRange, h.noFailure, ?_⟩
      · rcases List.mem_append.mp hpkt with hpkt | hpkt
        · exact h.ne_nil pkt hpkt
        · rw [List.mem_singleton.mp hpkt]
          exact hread
      · unfold Balanced at hbooks ⊢
        dsimp only
        rw [waiting_append, hbooks]
        abel

/-- Taking a frame from the bridge keeps the invariant. -/
theorem Inv.pollBridge (h : s.Inv) (loop : DownlinkLoop) (r : DownReading) (pc : DownPc) :
    (s.pollBridge chain qs toa loop r pc).Inv := by
  have hbooks := h.balanced
  unfold Balanced at hbooks
  unfold TransmitPath.pollBridge
  cases hbridge : s.bridge with
  | nil =>
    rw [handle_nil]
    rw [hbridge] at hbooks
    exact ⟨fun _ hp => absurd hp List.not_mem_nil, h.capacity_le, h.valid, h.inRange, h.noFailure,
      hbooks⟩
  | cons pkt rest =>
    have hne := h.ne_nil
    rw [hbridge] at hne hbooks
    rw [waiting_cons] at hbooks
    obtain ⟨hrest, hcap, hbecame⟩ := became_handle chain qs toa loop r.instcnt rest
      (hne pkt List.mem_cons_self) h.capacity_le
    -- both loops do the same to the books: a frame leaves the bridge, and becomes something
    generalize loop.handle chain qs toa r.instcnt s.down (pkt :: rest) = res at hrest hcap hbecame ⊢
    obtain ⟨down, bridge, handling⟩ := res
    obtain rfl : bridge = rest := hrest
    have hne' : ∀ p ∈ bridge, p.payload ≠ [] := fun p hp => hne p (List.mem_cons_of_mem pkt hp)
    change Became qs pkt.payload s.down.jitQueue down.jitQueue handling at hbecame
    obtain ⟨lost, refused, hpopped, hmoved⟩ := hbecame.moved h.valid s.books bridge
    dsimp only
    rw [hpopped]
    refine ⟨hne', hcap, hbecame.valid h.valid, h.inRange.of_le rfl (hbecame.numPkt_le h.valid),
      h.noFailure, ?_⟩
    unfold Balanced
    calc s.books.entered
      _ = waiting bridge + ({Item.frame pkt.payload}
            + (s.books.lost + s.books.refused + stored s.down.jitQueue)) + s.books.purged
          + held s.jitPc + s.books.blocked + handedOver s.books.handed := by
        rw [hbooks]
        abel
      _ = _ := by
        rw [← hmoved]
        abel

/-- The node a beacon is stored as. -/
def beaconNode (pkt : LgwPktTx) : JitNode :=
  ⟨pkt, .beacon, JitPktType.preDelay .beacon, beaconReserved⟩

theorem item_beaconNode (pkt : LgwPktTx) : (beaconNode pkt).item = itemOf pkt .beacon := rfl

/-- **Trying a beacon**: it is queued for the slot, or the queues are as they were. -/
theorem tryBeacon_cases (conf : BeaconConf) (qs : Qsort JitNode) (toa : LgwPktTx → UInt32)
    (s : TransmitPath) (r : DownReading) (beaconLoop : UInt8) (retry : ℕ) :
    let s' := s.tryBeacon conf qs toa r beaconLoop retry
    s'.bridge = s.bridge ∧ s'.down.td = s.down.td ∧ s'.jitPc = s.jitPc
      ∧ s'.beacons.beacon = s.nextBeacon conf r retry
      ∧ ((s'.down.jitQueue = s.down.jitQueue ∧ s'.books = s.books
            ∧ s'.downPc = .beacons beaconLoop (retry + 1)
            ∧ s'.beacons.lastBeaconSec = s.beacons.lastBeaconSec)
        ∨ ((s.down.jitQueue 0).numPkt.toNat ≠ queueMax
            ∧ s'.down.jitQueue = Function.update s.down.jitQueue 0
              (jitSortQueue qs
                ((s.down.jitQueue 0).push (beaconNode (s.nextBeacon conf r retry).pkt)))
            ∧ s'.books = { s.books with
                entered := {itemOf (s.nextBeacon conf r retry).pkt .beacon} + s.books.entered
                slots := s.books.slots
                  ++ [(s.nextSec conf r retry, (s.nextBeacon conf r retry).pkt)] }
            ∧ s'.downPc = .beacons (beaconLoop - 1) 0
            ∧ s'.beacons.lastBeaconSec = s.nextSec conf r retry)) := by
  intro s'
  have hs' : s' = s.tryBeacon conf qs toa r beaconLoop retry := rfl
  unfold tryBeacon at hs'
  dsimp only at hs'
  rcases jitEnqueue_cases qs toa (s.down.jitQueue 0) r.instcnt (s.nextBeacon conf r retry).pkt
    .beacon with ⟨herr, hsame⟩ | ⟨p, hroom, hp, -, heq⟩
  · rw [if_neg herr, hsame, Function.update_eq_self] at hs'
    rw [hs']
    exact ⟨rfl, rfl, rfl, rfl, Or.inl ⟨rfl, rfl, rfl, rfl⟩⟩
  · -- it is stored as it was built, since a beacon keeps its time
    have hpkt : p = (s.nextBeacon conf r retry).pkt := hp
    rw [heq, if_pos rfl, hpkt] at hs'
    rw [hs']
    exact ⟨rfl, rfl, rfl, rfl, Or.inr ⟨hroom, rfl, rfl, rfl, rfl⟩⟩

theorem Inv.tryBeacon (h : s.Inv) (r : DownReading) (beaconLoop : UInt8) (retry : ℕ) :
    (s.tryBeacon conf qs toa r beaconLoop retry).Inv := by
  have hbooks := h.balanced
  unfold Balanced at hbooks
  obtain ⟨hbridge, htd, hpc, -, ⟨hqueues, hbook, -⟩ | ⟨hroom, hqueues, hbook, -⟩⟩ :=
    tryBeacon_cases conf qs toa s r beaconLoop retry
  · -- nothing was queued: the books are as they were
    refine ⟨?_, ?_, ?_, h.inRange.of_le hpc ?_, ?_, ?_⟩
    · rw [hbridge]
      exact h.ne_nil
    · rw [htd]
      exact h.capacity_le
    · rw [hqueues]
      exact h.valid
    · rw [hqueues]
      exact fun _ => le_rfl
    · rw [hbook]
      exact h.noFailure
    · unfold Balanced
      rw [hbridge, hpc, hqueues, hbook]
      exact hbooks
  · -- the beacon has entered, and is stored
    have hlt := lt_of_le_of_ne (h.valid 0).numPkt_le hroom
    refine ⟨?_, ?_, ?_, h.inRange.of_le hpc ?_, ?_, ?_⟩
    · rw [hbridge]
      exact h.ne_nil
    · rw [htd]
      exact h.capacity_le
    · rw [hqueues]
      exact valid_update h.valid ((h.valid 0).push qs hlt _)
    · rw [hqueues]
      exact numPkt_le_update (numPkt_le_push qs hlt _)
    · rw [hbook]
      exact h.noFailure
    · unfold Balanced
      rw [hbridge, hpc, hqueues, hbook,
        stored_update Nat.zero_lt_two (JitQueue.items_push qs hlt _),
        item_beaconNode]
      dsimp only
      rw [hbooks]
      abel

/-- The downstream thread keeps the invariant. -/
theorem Inv.threadDown (h : s.Inv) (r : DownReading) :
    (s.threadDown conf chain qs toa r).Inv := by
  -- moving on changes nothing else
  have hmove : ∀ pc, ({ s with downPc := pc } : TransmitPath).Inv := fun _ =>
    ⟨h.ne_nil, h.capacity_le, h.valid, h.inRange, h.noFailure, h.balanced⟩
  unfold TransmitPath.threadDown
  split
  · exact h.pollBridge _ r _
  · split_ifs
    · exact hmove _
    · exact hmove _
  · split_ifs
    · exact h.tryBeacon r _ _
    · exact hmove _
    · exact hmove _
  · exact h.pollBridge _ r _

theorem nextChain_lt (i : ℕ) : nextChain i < rfChainNb := by
  unfold nextChain
  split_ifs with h
  · exact h
  · exact Nat.zero_lt_two

/-- The correction leaves what a packet sends. -/
theorem itemOf_corrected (r : JitReading) (pkt : LgwPktTx) (pktType : JitPktType) :
    itemOf (corrected r pkt pktType) pktType = itemOf pkt pktType := by
  cases pktType <;> rfl

theorem held_peeked (i : ℕ) (err : JitError) (pktIndex : Option ℕ) :
    held (peeked i err pktIndex) = 0 := by
  cases err <;> cases pktIndex <;> rfl

/-- After a dequeueing, what was taken out is held. -/
theorem held_dequeued (r : JitReading) (i : ℕ) (n : JitNode) :
    held (dequeued r i (some n.entry)) = {n.item} :=
  congrArg ({·}) (itemOf_corrected r n.pkt n.pktType)

/-- **The comparator orders what is stored**, when the transmitting thread peeks at a queue with
an outdated packet. -/
def Ordered (s : TransmitPath) : TransmitEvent → Prop
  | .jit r => ∀ i, s.jitPc = .peek i → (∃ n ∈ (s.down.jitQueue i).live, outdated r.instcnt n) →
      TotalPreorderOn JitNode.compare (s.down.jitQueue i).live
  | _ => True

/-- The transmitting thread keeps the invariant. -/
theorem Inv.threadJit (h : s.Inv) {r : JitReading} (hord : s.Ordered (.jit r)) :
    (s.threadJit qs r).Inv := by
  have hbooks := h.balanced
  have hrange := h.inRange
  unfold Balanced at hbooks
  unfold PcInRange at hrange
  unfold TransmitPath.threadJit
  cases hpc : s.jitPc with
  | peek i =>
    rw [hpc] at hbooks hrange
    -- what a peek drops is noted as purged; it needs the order only for the index
    have hitems := JitQueue.items_jitPeek qs (h.valid i).numPkt_le r.instcnt
    have hvalid := (jitPeek_spec qs (h.valid i) r.instcnt).1
    have hindex : ∀ index, (jitPeek qs (s.down.jitQueue i) r.instcnt).2.2.1 = some index → _ :=
      fun index => lt_of_jitPeek (h.valid i) (hord i hpc)
    dsimp only
    generalize jitPeek qs (s.down.jitQueue i) r.instcnt = peeked at hitems hvalid hindex ⊢
    obtain ⟨err, q, pktIndex, dropped⟩ := peeked
    refine ⟨h.ne_nil, h.capacity_le, valid_update h.valid hvalid, ?_, h.noFailure, ?_⟩
    · unfold PcInRange
      cases err with
      | ok =>
        cases pktIndex with
        | none => exact nextChain_lt i
        | some index =>
          refine ⟨hrange, ?_⟩
          dsimp only
          rw [Function.update_self]
          exact hindex index rfl
      | _ => exact nextChain_lt i
    · unfold Balanced
      dsimp only
      rw [stored_eq_add_update hrange hitems] at hbooks
      rw [hbooks, held_peeked]
      show _ + _ + _ + (_ + _) + _ + 0 + _ + _ = _ + _ + _ + _ + (_ + _) + 0 + _ + _
      abel
  | dequeue i pktIndex =>
    rw [hpc] at hbooks hrange
    obtain ⟨hi, hlt⟩ := hrange
    -- what is taken out is held by the thread
    have hle := (h.valid i).numPkt_le
    have hdequeue := @JitLedger.jitDequeue_inRange qs ⟨s.down.jitQueue i, 0, 0⟩ hle _
      (Int.natCast_nonneg pktIndex) (Int.ofNat_lt.mpr hlt)
    rw [Int.toNat_natCast] at hdequeue
    dsimp only at hdequeue ⊢
    rw [hdequeue]
    dsimp only
    rw [if_pos Option.isSome_some]
    refine ⟨h.ne_nil, h.capacity_le, valid_update h.valid ((h.valid i).remove qs hlt), hi,
      h.noFailure, ?_⟩
    rw [stored_eq_add_update hi (JitQueue.items_remove qs hle hlt)] at hbooks
    unfold Balanced
    dsimp only
    rw [held_dequeued, hbooks]
    show _ + _ + _ + (_ + _) + _ + 0 + _ + _ = _
    abel
  | send i pkt pktType =>
    rw [hpc] at hbooks hrange
    dsimp only
    refine ⟨h.ne_nil, h.capacity_le, h.valid, nextChain_lt i, ?_, ?_⟩
    · split_ifs <;> exact h.noFailure
    · unfold Balanced
      dsimp only
      -- it is blocked or handed over, and held no more
      split_ifs
      · rw [hbooks]
        show _ + _ + _ + _ + _ + {itemOf pkt pktType} + _ + _
          = _ + _ + _ + _ + _ + 0 + ({itemOf pkt pktType} + _) + _
        abel
      · rw [handedOver_append, hbooks]
        show _ + _ + _ + _ + _ + {itemOf pkt pktType} + _ + _
          = _ + _ + _ + _ + _ + 0 + _ + ({itemOf pkt pktType} + _)
        abel

/-- **A step of any thread keeps the invariant.** -/
theorem Inv.step (h : s.Inv) {e : TransmitEvent} (hord : s.Ordered e) :
    (s.step conf chain qs toa e).Inv := by
  cases e with
  | mesh payload info => exact h.mesh payload info
  | down r => exact h.threadDown r
  | jit r => exact h.threadJit hord

end Steps

theorem inv_final {conf : BeaconConf} {chain : ℕ → TxChain} {qs : Qsort JitNode}
    {toa : LgwPktTx → UInt32} {beacon : BeaconPkt} {buf : List UInt8} {time : UInt32}
    {es : List TransmitEvent}
    (hes : Run.Guarded (step conf chain qs toa) Ordered (start beacon buf time) es) :
    (Run.final (step conf chain qs toa) (start beacon buf time) es).Inv :=
  hes.invariant (fun _ _ he h => h.step he) (inv_start beacon buf time)

end TransmitPath

/-- **No frame and no beacon is lost on the way, sent twice or invented.** In every run of the
three threads, in whatever order they take their steps and whatever they read, as long as the
comparator orders a queue in which a peek finds an outdated packet: what the bridge accepted and
the beacons queued are what waits in the bridge, is stored, or is held by the transmitting
thread, together with what was lost at a pop, refused, dropped by a peek, given up since the
concentrator was emitting, or handed over, each as often as it came in. And every index a peek
returned was one in use when the packet was taken out. -/
theorem transmitPath_balanced (conf : BeaconConf) (chain : ℕ → TxChain) (qs : Qsort JitNode)
    (toa : LgwPktTx → UInt32) (beacon : BeaconPkt) (buf : List UInt8) (time : UInt32)
    (es : List TransmitEvent)
    (hes : Run.Guarded (TransmitPath.step conf chain qs toa) TransmitPath.Ordered
      (TransmitPath.start beacon buf time) es) :
    let s := Run.final (TransmitPath.step conf chain qs toa) (TransmitPath.start beacon buf time) es
    s.Balanced ∧ s.books.dequeueFailures = 0 ∧ ∀ i, (s.down.jitQueue i).Valid :=
  ⟨(TransmitPath.inv_final hes).balanced, (TransmitPath.inv_final hes).noFailure,
    (TransmitPath.inv_final hes).valid⟩

/-- A block of one byte. -/
def oneByte : Block := ⟨[0x2A], 1, by decide⟩

/-- The thread reads the time, and no reference is valid. -/
def plainDown (instcnt : UInt32) : DownReading :=
  ⟨instcnt, true, false, false, ⟨0, 0, ⟨0, 0⟩, ⟨0, 0⟩, 1⟩⟩

/-- The thread reads the time; the transmitter is free, and sends. -/
def plainJit (instcnt : UInt32) : JitReading := ⟨instcnt, id, some txFree, true⟩

/-- Beacons at spreading factor 9, every 128 seconds on one channel. -/
def beaconsSf9 : BeaconConf := ⟨128, 869525000, 1, 0, 9, 125000, 14, 0, 0, 0⟩

/-- The beacon that is built of them over a cleared stack. -/
def beaconSf9 : BeaconPkt := (beaconInit beaconsSf9 LgwPktTx.zero).getD ⟨LgwPktTx.zero, 0, 0⟩

/-- The threads on their own, from a buffer that is not used yet. -/
def plainStep : TransmitPath → TransmitEvent → TransmitPath :=
  TransmitPath.step beaconsSf9 (fun _ => bandChain) (Qsort.insertion JitNode) fun _ => 50

def plainStart : TransmitPath := TransmitPath.start beaconSf9 [] 1000000

/-- The way of one frame, from the bridge to the radio. -/
def oneFrame : List TransmitEvent :=
  [.mesh (some oneByte) DownlinkInfo.none, .down (plainDown 1000000), .jit (plainJit 1050000),
    .jit (plainJit 1050000), .jit (plainJit 1050000)]

theorem guarded_oneFrame : Run.Guarded plainStep TransmitPath.Ordered plainStart oneFrame := by
  refine ⟨trivial, trivial, fun i hpc hout => ?_, fun i hpc => ?_, fun i hpc => ?_, trivial⟩
  · have hplace : (Run.final plainStep plainStart (oneFrame.take 2)).jitPc = .peek 0 := by
      decide +kernel
    obtain rfl := JitPc.peek.inj (hplace.symm.trans hpc)
    revert hout
    exact fun h => absurd h (by decide +kernel)
  · have hplace : (Run.final plainStep plainStart (oneFrame.take 3)).jitPc = .dequeue 0 0 := by
      decide +kernel
    exact absurd (hplace.symm.trans hpc) nofun
  · have hplace : (Run.final plainStep plainStart (oneFrame.take 4)).jitPc
        = .send 0 { (outerTxpkt DownlinkInfo.none [0x2A] 1) with
          txMode := timestamped, countUs := 1080000, rfPower := 14 } .downlinkClassC := by
      decide +kernel
    exact absurd (hplace.symm.trans hpc) nofun

/-- The books of that way balance. -/
theorem transmitPath_balanced_one :
    let s := Run.final plainStep plainStart oneFrame
    s.Balanced ∧ s.books.dequeueFailures = 0 ∧ ∀ i, (s.down.jitQueue i).Valid :=
  transmitPath_balanced _ _ _ _ _ _ _ _ guarded_oneFrame
