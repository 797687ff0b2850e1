import MeshBeacon.JitAsap
import MeshBeacon.JitHandover
import MeshBeacon.JitPeek

/-!
# Every accepted packet leaves in time

A queue promises to hand a packet out shortly before it departs. It cannot keep the promise alone:
it is asked, and returns what is due then. Whoever asks must come back often enough, and the times
that are given to it are readings of a counter that wraps.

Here the time is a natural number, and the counter reads it modulo its period. As long as the peeks
follow each other within a gap that is shorter than the time a peek looks ahead, and than what is
kept free between two packets, there is at most one packet to hand out at a peek, and none that
was missed. So nothing is ever purged, and nothing is late.

Between a peek and the dequeueing other packets may be accepted. They sort behind what the peek
returned, unless the time they are given was read long before.
-/

open Jit Circle JitQueue

/-! ## The counter and the time -/

namespace Circle

/-- What the counter reads at a time. -/
def counterAt (t : ℕ) : UInt32 := UInt32.ofNat t

/-- The first time from `t` on at which the counter reads `c`. -/
def dueAt (t : ℕ) (c : UInt32) : ℕ := t + fwd (counterAt t) c

variable {t d : ℕ} {c : UInt32}

theorem dueAt_lt (t : ℕ) (c : UInt32) : dueAt t c < t + 2 ^ 32 :=
  Nat.add_lt_add_left (fwd_lt _ _) t

theorem counterAt_dueAt (t : ℕ) (c : UInt32) : counterAt (dueAt t c) = c := by
  rw [counterAt, dueAt, UInt32.ofNat_add, fwd, UInt32.ofNat_toNat, counterAt, UInt32.add_comm,
    UInt32.sub_add_cancel]

/-- A time less than a turn ahead is found again by what the counter reads then. -/
theorem dueAt_counterAt (h : t ≤ d) (hlt : d < t + 2 ^ 32) : dueAt t (counterAt d) = d := by
  have hsub : counterAt d - counterAt t = UInt32.ofNat (d - t) := by
    rw [counterAt, counterAt, UInt32.sub_eq_iff_eq_add, ← UInt32.ofNat_add, Nat.sub_add_cancel h]
  rw [dueAt, fwd, hsub, UInt32.toNat_ofNat', Nat.mod_eq_of_lt (by omega)]
  omega

/-- **The time something is due does not depend on when one looks**, up to then. -/
theorem dueAt_eq {t' : ℕ} (h : t ≤ t') (h' : t' ≤ dueAt t c) : dueAt t' c = dueAt t c := by
  have hlt := dueAt_lt t c
  have heq := dueAt_counterAt h' (by omega)
  rwa [counterAt_dueAt] at heq

end Circle

/-! ## The first node -/

/-- **The nearest node is the first**, if no other departs with it. -/
theorem JitQueue.Valid.node_zero_eq {q : JitQueue} {b : UInt32} (hq : q.Valid)
    (hd : q.LivePairwise JitNode.DepartApart) (hb : AheadOf b q.live) {n : JitNode}
    (hn : n ∈ q.live) (hmin : ∀ m ∈ q.live, fwd b n.pkt.countUs ≤ fwd b m.pkt.countUs) :
    q.node 0 = n := by
  obtain ⟨k, hk, rfl⟩ := JitQueue.exists_node_eq hq.numPkt_le hn
  have hzero := JitQueue.node_mem_live hq.numPkt_le (Nat.zero_lt_of_lt hk)
  have hle := JitQueue.fwd_le hq hb (Nat.zero_le k) hk
  have heq := le_antisymm hle (hmin _ hzero)
  refine hd.eq_of_countUs_eq hzero hn ?_
  exact UInt32.sub_left_inj b |>.mp (UInt32.toNat_inj.mp heq)

/-- An index of the first node is 0, if no two depart together. -/
theorem JitQueue.LivePairwise.eq_zero_of_node_eq {q : JitQueue}
    (hd : q.LivePairwise JitNode.DepartApart) {i : ℕ} (hi : i < q.numPkt.toNat)
    (heq : q.node 0 = q.node i) : i = 0 := by
  by_contra hne
  have hlen := length_live hd.numPkt_le
  have hget : ∀ k, ∀ hk : k < q.live.length, q.live[k] = q.node k := by
    intro k hk
    have hlive := getElem?_live hd.numPkt_le (hlen ▸ hk)
    rwa [List.getElem?_eq_getElem hk, Option.some_inj] at hlive
  have hapart := List.pairwise_iff_getElem.mp hd.pairwise 0 i (by omega) (by omega) (by omega)
  rw [hget, hget, heq] at hapart
  exact hapart rfl

/-- Any two different nodes in use are related as they are pairwise. -/
theorem JitQueue.LivePairwise.of_ne {q : JitQueue} {R : JitNode → JitNode → Prop}
    (h : q.LivePairwise R) (hR : ∀ {m n}, R m n → R n m) {m n : JitNode} (hm : m ∈ q.live)
    (hn : n ∈ q.live) (hne : m ≠ n) : R m n := by
  have hsymm : Std.Symm R := ⟨fun _ _ hmn => hR hmn⟩
  exact h.pairwise.forall hm hn hne

/-- Every test asks at least the start delay before a node. -/
theorem JitNode.Made.le_lead {n : JitNode} (h : n.Made) : 1500 ≤ n.lead := by
  rcases h.lead_cases with ⟨-, hlead⟩ | ⟨-, hlead⟩ <;> omega

/-- **A peek that finds nothing outdated** leaves the nodes, and returns the nearest one when it
is due, and nothing otherwise. -/
theorem jitPeek_of_fresh (qs : Qsort JitNode) {q : JitQueue} {timeUs : UInt32} (hq : q.Valid)
    (hfresh : ∀ n ∈ q.live, ¬ outdated timeUs n) :
    (jitPeek qs q timeUs).2.1.live.Perm q.live
      ∧ (∀ i, (jitPeek qs q timeUs).2.2.1 = some i →
        i < (jitPeek qs q timeUs).2.1.numPkt.toNat
          ∧ fwd timeUs ((jitPeek qs q timeUs).2.1.node i).pkt.countUs < 40000
          ∧ ∀ n ∈ (jitPeek qs q timeUs).2.1.live,
            fwd timeUs ((jitPeek qs q timeUs).2.1.node i).pkt.countUs ≤ fwd timeUs n.pkt.countUs)
      ∧ ((jitPeek qs q timeUs).2.2.1 = none →
        ∀ n ∈ (jitPeek qs q timeUs).2.1.live, 40000 ≤ fwd timeUs n.pkt.countUs) := by
  by_cases hne : q.numPkt = 0
  · have hlive : q.live = [] := by rw [JitQueue.live, hne]; rfl
    rw [jitPeek, if_pos hne]
    refine ⟨List.Perm.refl _, fun _ h => absurd h.symm (Option.some_ne_none _), fun _ n hn => ?_⟩
    rw [hlive] at hn
    exact absurd hn List.not_mem_nil
  · -- with nothing outdated all times are ahead of the peek itself
    have hb : AheadOf timeUs q.live := by
      intro n hn
      have hnear := hfresh n hn
      rw [outdated_iff, not_le] at hnear
      exact hnear.trans (by decide)
    have hpos : 0 < q.numPkt.toNat := Nat.pos_of_ne_zero fun h => hne (UInt8.toNat_inj.mp h)
    have hmeets := @peekMeets_of_not_outdated qs timeUs timeUs q hq hb hne
      (hfresh _ (JitQueue.node_mem_live hq.numPkt_le hpos))
    refine ⟨?_, hmeets.selects, hmeets.waits⟩
    have hall : q.live.filter (fun n => !outdated timeUs n) = q.live :=
      List.filter_eq_self.mpr fun n hn => by simpa using hfresh n hn
    rw [← hall]
    exact hmeets.purges

/-! ## The queue in time -/

/-- A packet that was handed out. -/
structure SentPacket where
  /-- The time of the peek that returned it. -/
  peeked : ℕ
  /-- The time it departs. -/
  due : ℕ
  entry : LgwPktTx × JitPktType

/-- A queue, and what its users did. -/
structure TimedQueue where
  queue : JitQueue
  /-- The time of the last peek. -/
  peeked : ℕ
  /-- The index it returned, as long as the packet was not taken out. -/
  found : Option ℕ
  /-- What was accepted, with the time it departs. -/
  accepted : Multiset (ℕ × LgwPktTx × JitPktType)
  /-- What was handed out. -/
  sent : List SentPacket

/-- What its users do. -/
inductive TimedEvent where
  | enqueue (t : ℕ) (packet : LgwPktTx) (pktType : JitPktType)
  | peek (t : ℕ)
  | dequeue

namespace TimedQueue

variable (qs : Qsort JitNode) (toa : LgwPktTx → UInt32)

/-- The queue as initialized. -/
def start (t : ℕ) : TimedQueue := ⟨jitQueueInit, t, none, 0, []⟩

/-- One step. The thread that peeks takes out what it found before it peeks again. -/
def step (s : TimedQueue) : TimedEvent → TimedQueue
  | .enqueue t packet pktType =>
    let (err, queue, p) := jitEnqueue qs toa s.queue (counterAt t) packet pktType
    { s with
      queue
      accepted := if err = .ok then (dueAt t p.countUs, p, pktType) ::ₘ s.accepted
        else s.accepted }
  | .peek t =>
    if s.found.isSome then s
    else
      let (_, queue, found, _) := jitPeek qs s.queue (counterAt t)
      { s with queue, found, peeked := t }
  | .dequeue =>
    match s.found with
    | none => s
    | some i =>
      let (_, queue, entry) := jitDequeue qs s.queue i
      { s with
        queue
        found := none
        sent := s.sent ++ entry.toList.map fun e => ⟨s.peeked, dueAt s.peeked e.1.countUs, e⟩ }

/-- **The users are in time.** A packet that is accepted departs before the limit of the purge
and has a post-delay below 2^28 us, and the time it was given is at most 2.5 ms older than the last
peek; two peeks are less than a gap apart; and the gap is not longer than what is kept free behind
a packet, with the start delay and the margin. -/
def Timely (gap : ℕ) (s : TimedQueue) : TimedEvent → Prop
  | .enqueue t packet pktType =>
    s.peeked ≤ t + 2500 ∧ (Accepts toa s.queue (counterAt t) packet pktType →
      dueAt t (departure toa s.queue (counterAt t) packet pktType)
          < s.peeked + txMaxAdvanceDelay.toNat
        ∧ (postDelayOf toa packet pktType).toNat < 2 ^ 28
        ∧ gap ≤ (postDelayOf toa packet pktType).toNat + 2500)
  | .peek t => s.peeked ≤ t ∧ t < s.peeked + gap
  | .dequeue => True

/-- When a node departs. -/
def due (s : TimedQueue) (n : JitNode) : ℕ := dueAt s.peeked n.pkt.countUs

/-- What is stored, with the time it departs. -/
def stored (s : TimedQueue) : Multiset (ℕ × LgwPktTx × JitPktType) :=
  (s.queue.live.map fun n => (s.due n, n.entry) : List _)

/-- What was handed out, with the time it departs. -/
def handed (s : TimedQueue) : Multiset (ℕ × LgwPktTx × JitPktType) :=
  (s.sent.map fun e => (e.due, e.entry) : List _)

/-- What holds between two steps. -/
structure Inv (gap : ℕ) (s : TimedQueue) : Prop where
  valid : s.queue.Valid
  arranged : s.queue.Arranged
  apart : s.queue.LivePairwise JitNode.DepartApart
  brief : ∀ n ∈ s.queue.live, n.Brief ∧ gap ≤ n.postDelay.toNat + 2500
  near : ∀ n ∈ s.queue.live, s.due n < s.peeked + txMaxAdvanceDelay.toNat
  /-- With nothing found, nothing departs before the next peek. -/
  waiting : s.found = none → ∀ n ∈ s.queue.live, s.peeked + gap ≤ s.due n
  /-- What was found is the first node, and departs soon; no other one does before the next
  peek. -/
  first : ∀ i, s.found = some i → i = 0 ∧ 0 < s.queue.numPkt.toNat
    ∧ s.peeked < s.due (s.queue.node 0) ∧ s.due (s.queue.node 0) < s.peeked + 40000
    ∧ ∀ n ∈ s.queue.live, n ≠ s.queue.node 0 → s.peeked + gap ≤ s.due n
  books : s.stored + s.handed = s.accepted
  inTime : ∀ e ∈ s.sent, e.peeked < e.due ∧ e.due < e.peeked + 40000

variable {qs toa} {gap : ℕ} {s : TimedQueue}

/-- Seen from the last peek, the nodes are in one half of the circle. -/
theorem Inv.aheadOf (h : s.Inv gap) : AheadOf (counterAt s.peeked) s.queue.live := by
  intro n hn
  have hnear := h.near n hn
  have hmax : txMaxAdvanceDelay.toNat = 512000000 := rfl
  unfold due dueAt at hnear
  omega

/-- A packet that is accepted departs later than what a peek looks ahead. -/
theorem lt_due_of_accepts {t : ℕ} {packet : LgwPktTx} {pktType : JitPktType}
    (hacc : Accepts toa s.queue (counterAt t) packet pktType)
    (htimely : s.Timely toa gap (.enqueue t packet pktType)) :
    s.peeked + 40000 < s.due (enqueuedNode toa s.queue (counterAt t) packet pktType)
      ∧ s.due (enqueuedNode toa s.queue (counterAt t) packet pktType)
        = dueAt t (departure toa s.queue (counterAt t) packet pktType) := by
  obtain ⟨hfresh, hacc'⟩ := htimely
  obtain ⟨hnear, -, -⟩ := hacc' hacc
  have hmax : txMaxAdvanceDelay.toNat = 512000000 := rfl
  have hlate := hacc.inTime
  rw [UInt32.le_iff_toNat_le] at hlate
  have hdelays : (txStartDelay + txMarginDelay + txJitDelay).toNat = 42500 := rfl
  have hdue : t + 42500 < dueAt t (departure toa s.queue (counterAt t) packet pktType) := by
    unfold dueAt fwd
    omega
  have heq := dueAt_counterAt (t := s.peeked)
    (d := dueAt t (departure toa s.queue (counterAt t) packet pktType)) (by omega) (by omega)
  rw [counterAt_dueAt] at heq
  have heq' : s.due (enqueuedNode toa s.queue (counterAt t) packet pktType)
      = dueAt t (departure toa s.queue (counterAt t) packet pktType) := heq
  exact ⟨by omega, heq'⟩

/-- A packet that is not accepted changes nothing. -/
theorem step_enqueue_of_not_accepts {t : ℕ} {packet : LgwPktTx} {pktType : JitPktType}
    (hacc : ¬ Accepts toa s.queue (counterAt t) packet pktType) :
    s.step qs toa (.enqueue t packet pktType) = s := by
  obtain ⟨herr, hsame⟩ := jitEnqueue_of_not_accepts qs hacc
  rw [step]
  dsimp only
  rw [if_neg herr, hsame]

theorem step_enqueue_of_accepts {t : ℕ} {packet : LgwPktTx} {pktType : JitPktType}
    (hacc : Accepts toa s.queue (counterAt t) packet pktType) :
    s.step qs toa (.enqueue t packet pktType)
      = { s with
          queue := jitSortQueue qs
            (s.queue.push (enqueuedNode toa s.queue (counterAt t) packet pktType))
          accepted := (dueAt t (departure toa s.queue (counterAt t) packet pktType),
            (enqueuedNode toa s.queue (counterAt t) packet pktType).entry) ::ₘ s.accepted } := by
  rw [step, jitEnqueue_of_accepts qs hacc]
  rfl

/-- The nearest node of a queue that was found stays the first when a later one is added. -/
theorem Inv.node_zero_push (h : s.Inv gap) {q : JitQueue} {n : JitNode} (hq : q.Valid)
    (hd : q.LivePairwise JitNode.DepartApart) (hperm : q.live.Perm (n :: s.queue.live))
    (hlate : s.peeked + 40000 < s.due n)
    (hnear : s.due n < s.peeked + txMaxAdvanceDelay.toNat) {i : ℕ} (hfound : s.found = some i) :
    q.node 0 = s.queue.node 0 := by
  obtain ⟨-, hpos, -, hsoon, -⟩ := h.first i hfound
  have hmax : txMaxAdvanceDelay.toNat = 512000000 := rfl
  have hzero := JitQueue.node_mem_live h.valid.numPkt_le hpos
  unfold due dueAt at hlate hnear hsoon
  refine hq.node_zero_eq hd (b := counterAt s.peeked) ?_
    (hperm.symm.subset (List.mem_cons_of_mem n hzero)) ?_
  · intro m hm
    rcases List.mem_cons.mp (hperm.subset hm) with rfl | hold
    · omega
    · exact h.aheadOf m hold
  · intro m hm
    rcases List.mem_cons.mp (hperm.subset hm) with rfl | hold
    · omega
    · obtain ⟨k, hk, rfl⟩ := JitQueue.exists_node_eq h.valid.numPkt_le hold
      exact JitQueue.fwd_le h.valid h.aheadOf (Nat.zero_le k) hk

/-- **Enqueueing keeps the invariant.** -/
theorem Inv.enqueue (hgap : gap ≤ 40000) (h : s.Inv gap) {t : ℕ} {packet : LgwPktTx}
    {pktType : JitPktType} (htimely : s.Timely toa gap (.enqueue t packet pktType)) :
    (s.step qs toa (.enqueue t packet pktType)).Inv gap := by
  by_cases hacc : Accepts toa s.queue (counterAt t) packet pktType
  · obtain ⟨hlate, hdue⟩ := lt_due_of_accepts hacc htimely
    obtain ⟨-, hacc'⟩ := htimely
    obtain ⟨hnear, hbrief, hpost⟩ := hacc' hacc
    have hlt := lt_of_le_of_ne h.valid.numPkt_le hacc.room
    have harranged := @JitLedger.step_arranged qs toa timedPacket ⟨s.queue, 0, 0⟩ h.arranged
      (.enqueue (counterAt t) packet pktType)
    have hapart := @JitLedger.step_departApart qs toa timedPacket ⟨s.queue, 0, 0⟩ h.apart
      (.enqueue (counterAt t) packet pktType)
    rw [JitLedger.queue_step_of_accepts hacc] at harranged hapart
    rw [step_enqueue_of_accepts hacc, ← hdue]
    rw [← hdue] at hnear
    change (enqueuedNode toa s.queue (counterAt t) packet pktType).Brief at hbrief
    change gap ≤ (enqueuedNode toa s.queue (counterAt t) packet pktType).postDelay.toNat + 2500
      at hpost
    dsimp only at harranged hapart
    -- from here on only the node matters, not how it was made
    generalize enqueuedNode toa s.queue (counterAt t) packet pktType = n at *
    have hvalid := h.valid.push qs hlt n
    have hperm := perm_push qs hlt n
    generalize jitSortQueue qs (s.queue.push n) = q at *
    refine ⟨hvalid, harranged, hapart, ?_, ?_, ?_, ?_, ?_, h.inTime⟩
    · intro m hm
      rcases List.mem_cons.mp (hperm.subset hm) with rfl | hold
      · exact ⟨hbrief, hpost⟩
      · exact h.brief m hold
    · intro m hm
      rcases List.mem_cons.mp (hperm.subset hm) with rfl | hold
      · exact hnear
      · exact h.near m hold
    · intro hfound m hm
      rcases List.mem_cons.mp (hperm.subset hm) with rfl | hold
      · exact (Nat.add_le_add_left hgap _).trans hlate.le
      · exact h.waiting hfound m hold
    · -- the first node stays the first: the new one is due later
      intro i hfound
      obtain ⟨hi, hpos, hnow, hsoon, hothers⟩ := h.first i hfound
      have hnum := hperm.length_eq
      rw [JitQueue.length_live hvalid.numPkt_le, List.length_cons] at hnum
      dsimp only
      rw [h.node_zero_push hvalid hapart hperm hlate hnear hfound]
      refine ⟨hi, by omega, hnow, hsoon, ?_⟩
      intro m hm hne
      rcases List.mem_cons.mp (hperm.subset hm) with rfl | hold
      · exact (Nat.add_le_add_left hgap _).trans hlate.le
      · exact hothers m hold hne
    · -- it is one more that is stored, and one more that was accepted
      have hstored : ((q.live.map fun n => (s.due n, n.entry) : List _) : Multiset _)
          = (s.due n, n.entry) ::ₘ s.stored :=
        Multiset.coe_eq_coe.mpr (hperm.map _)
      show _ + s.handed = _ ::ₘ s.accepted
      rw [← h.books, ← Multiset.cons_add, ← hstored]
      rfl
  · rw [step_enqueue_of_not_accepts hacc]
    exact h

/-- **Peeking keeps the invariant.** -/
theorem Inv.peek (hgap : gap ≤ 40000) (h : s.Inv gap) {t : ℕ}
    (htimely : s.Timely toa gap (.peek t)) : (s.step qs toa (.peek t)).Inv gap := by
  cases hfound : s.found with
  | some i =>
    rw [step, if_pos (by rw [hfound]; rfl)]
    exact h
  | none =>
    obtain ⟨hle, hlt⟩ := htimely
    have hmax : txMaxAdvanceDelay.toNat = 512000000 := rfl
    -- no node is due before the peek, so none has been left behind by the counter
    have hwaiting := h.waiting hfound
    have hdue : ∀ n ∈ s.queue.live, dueAt t n.pkt.countUs = s.due n := fun n hn =>
      dueAt_eq hle (hlt.le.trans (hwaiting n hn))
    have hfresh : ∀ n ∈ s.queue.live, ¬ outdated (counterAt t) n := by
      intro n hn
      have hnear := h.near n hn
      rw [← hdue n hn] at hnear
      rw [outdated_iff, not_le]
      unfold dueAt at hnear
      omega
    obtain ⟨hperm, hselects, hwaits⟩ := jitPeek_of_fresh qs h.valid hfresh
    have hvalid := (jitPeek_spec qs h.valid (counterAt t)).1
    have harranged : (jitPeek qs s.queue (counterAt t)).2.1.Arranged :=
      @JitLedger.step_arranged qs toa timedPacket ⟨s.queue, 0, 0⟩ h.arranged
        (.peek (counterAt t))
    have hapart : (jitPeek qs s.queue (counterAt t)).2.1.LivePairwise JitNode.DepartApart :=
      @JitLedger.step_departApart qs toa timedPacket ⟨s.queue, 0, 0⟩ h.apart
        (.peek (counterAt t))
    rw [step, if_neg (by rw [hfound]; exact Bool.false_ne_true)]
    generalize jitPeek qs s.queue (counterAt t) = r at *
    obtain ⟨err, q, found, dropped⟩ := r
    dsimp only at *
    have hmem : ∀ n ∈ q.live, n ∈ s.queue.live := fun n hn => hperm.subset hn
    have hlater : ∀ n ∈ q.live, t < dueAt t n.pkt.countUs := fun n hn => by
      rw [hdue n (hmem n hn)]
      exact hlt.trans_le (hwaiting n (hmem n hn))
    -- what is found is the node at index zero: it is the earliest, and no two depart together
    have hzero : ∀ i, found = some i → i = 0 ∧ q.node 0 ∈ q.live := by
      intro i hi
      obtain ⟨hbound, -, hmin⟩ := hselects i hi
      have hb : AheadOf (counterAt t) q.live := fun n hn => by
        have hnear := hfresh n (hmem n hn)
        rw [outdated_iff, not_le] at hnear
        exact hnear.trans (by decide)
      have heq := hvalid.node_zero_eq hapart hb (JitQueue.node_mem_live hvalid.numPkt_le hbound)
        hmin
      have hi0 := hapart.eq_zero_of_node_eq hbound heq
      exact ⟨hi0, JitQueue.node_mem_live hvalid.numPkt_le (hi0 ▸ hbound)⟩
    refine ⟨hvalid, harranged, hapart, fun n hn => h.brief n (hmem n hn), ?_, ?_, ?_, ?_, h.inTime⟩
    · intro n hn
      show dueAt t n.pkt.countUs < t + _
      rw [hdue n (hmem n hn)]
      exact (h.near n (hmem n hn)).trans_le (Nat.add_le_add_right hle _)
    · intro hnone n hn
      have hfar := hwaits hnone n hn
      show t + gap ≤ dueAt t n.pkt.countUs
      unfold dueAt
      omega
    · intro i hi
      obtain ⟨rfl, hnode⟩ := hzero i hi
      obtain ⟨hbound, hsoon, hmin⟩ := hselects 0 hi
      refine ⟨rfl, hbound, hlater _ hnode, Nat.add_lt_add_left hsoon t, ?_⟩
      intro n hn hne
      show t + gap ≤ dueAt t n.pkt.countUs
      -- the slot of the node found ends before that of any other begins
      have hspaced := harranged.spaced.of_ne JitNode.Spaced.symm hnode hn (Ne.symm hne)
      obtain ⟨hroom, -⟩ := hspaced (h.brief _ (hmem _ hnode)).1 (h.brief n (hmem n hn)).1
      rw [fwd_of_le (hmin n hn)] at hroom
      have hpost := (h.brief _ (hmem _ hnode)).2
      have hlead := (harranged.made n hn).le_lead
      have hmargin : txMarginDelay.toNat = 1000 := rfl
      unfold dueAt
      omega
    · have hstored : ((q.live.map fun n => (dueAt t n.pkt.countUs, n.entry) : List _)
          : Multiset _) = s.stored := by
        refine Multiset.coe_eq_coe.mpr ?_
        rw [List.map_congr_left fun n hn => by rw [hdue n (hmem n hn)]]
        exact hperm.map _
      show _ + s.handed = s.accepted
      rw [← h.books, ← hstored]
      rfl

/-- Taking out what was found hands the first node out. -/
theorem Inv.step_dequeue (h : s.Inv gap) {i : ℕ} (hfound : s.found = some i) :
    s.step qs toa .dequeue
      = { s with
          queue := s.queue.remove qs 0
          found := none
          sent := s.sent
            ++ [⟨s.peeked, s.due (s.queue.node 0), (s.queue.node 0).entry⟩] } := by
  obtain ⟨rfl, hpos, -⟩ := h.first i hfound
  have hdeq := @JitLedger.jitDequeue_inRange qs ⟨s.queue, 0, 0⟩ h.valid.numPkt_le 0 le_rfl
    (by exact_mod_cast hpos)
  rw [step, hfound]
  dsimp only
  rw [Int.ofNat_zero, hdeq]
  rfl

/-- **Taking out keeps the invariant.** -/
theorem Inv.dequeue (h : s.Inv gap) : (s.step qs toa .dequeue).Inv gap := by
  cases hfound : s.found with
  | none =>
    rw [step, hfound]
    exact h
  | some i =>
    obtain ⟨-, hpos, hnow, hsoon, hothers⟩ := h.first i hfound
    have hperm := perm_remove qs h.valid.numPkt_le hpos
    have hmem : ∀ n ∈ (s.queue.remove qs 0).live, n ∈ s.queue.live := fun n hn =>
      hperm.subset (List.mem_cons_of_mem _ hn)
    have harranged := @JitLedger.step_arranged qs toa timedPacket ⟨s.queue, 0, 0⟩ h.arranged
      (.dequeue 0)
    have hdeq := @JitLedger.jitDequeue_inRange qs ⟨s.queue, 0, 0⟩ h.valid.numPkt_le 0 le_rfl
      (by exact_mod_cast hpos)
    rw [JitLedger.step, hdeq] at harranged
    -- the nodes that are left are others than the one taken out
    have hne : ∀ n ∈ (s.queue.remove qs 0).live, n ≠ s.queue.node 0 := by
      intro n hn heq
      have hpairwise := (hperm.pairwise_iff (R := JitNode.DepartApart)
        fun hmn => Ne.symm hmn).mpr h.apart.pairwise
      exact (List.pairwise_cons.mp hpairwise).1 n hn (by rw [heq])
    rw [h.step_dequeue hfound]
    refine ⟨h.valid.remove qs hpos, harranged, h.apart.remove (fun hmn => hmn.symm) qs hpos 0,
      fun n hn => h.brief n (hmem n hn), fun n hn => h.near n (hmem n hn),
      fun _ n hn => hothers n (hmem n hn) (hne n hn), fun _ hi => absurd hi.symm (Option.some_ne_none _), ?_, ?_⟩
    · have hstored : s.stored = (s.due (s.queue.node 0), (s.queue.node 0).entry)
          ::ₘ (((s.queue.remove qs 0).live.map fun n => (s.due n, n.entry) : List _)
            : Multiset _) :=
        Multiset.coe_eq_coe.mpr (hperm.map _).symm
      -- it moves from what is stored to what was handed out
      have hhanded : ((List.map (fun e : SentPacket => (e.due, e.entry))
            (s.sent ++ [⟨s.peeked, s.due (s.queue.node 0), (s.queue.node 0).entry⟩]) : List _)
            : Multiset _)
          = (s.due (s.queue.node 0), (s.queue.node 0).entry) ::ₘ s.handed :=
        Multiset.coe_eq_coe.mpr ((List.perm_append_singleton _ _).map _)
      rw [← h.books, hstored, Multiset.cons_add, ← Multiset.add_cons, ← hhanded]
      rfl
    · intro e he
      rcases List.mem_append.mp he with hold | hnew
      · exact h.inTime e hold
      · rw [List.mem_singleton.mp hnew]
        exact ⟨hnow, hsoon⟩

theorem inv_start (gap t : ℕ) : (start t).Inv gap where
  valid := JitQueue.Valid.init
  arranged := @JitLedger.run_arranged (Qsort.insertion JitNode) (fun _ => 0) timedPacket []
  apart := JitQueue.LivePairwise.init
  brief _ hn := absurd hn List.not_mem_nil
  near _ hn := absurd hn List.not_mem_nil
  waiting _ _ hn := absurd hn List.not_mem_nil
  first _ hi := absurd hi.symm (Option.some_ne_none _)
  books := rfl
  inTime _ he := absurd he List.not_mem_nil

theorem Inv.step (hgap : gap ≤ 40000) (h : s.Inv gap) {e : TimedEvent}
    (htimely : s.Timely toa gap e) : (s.step qs toa e).Inv gap := by
  cases e with
  | enqueue t packet pktType => exact h.enqueue hgap htimely
  | peek t => exact h.peek hgap htimely
  | dequeue => exact h.dequeue

/-- Nothing that departs before the next peek is still stored. -/
theorem Inv.mem_handed (h : s.Inv gap) (hfound : s.found = none) {e : ℕ × LgwPktTx × JitPktType}
    (he : e ∈ s.accepted) (hdue : e.1 < s.peeked + gap) : e ∈ s.handed := by
  rw [← h.books] at he
  rcases Multiset.mem_add.mp he with hstored | hhanded
  · obtain ⟨n, hn, rfl⟩ := List.mem_map.mp (Multiset.mem_coe.mp hstored)
    exact absurd hdue (h.waiting hfound n hn).not_gt
  · exact hhanded

end TimedQueue

/-- **Every accepted packet leaves in time.** In every run in which the users are in time, with at
most 40 ms between two peeks, the packets accepted are those stored and those handed out, so
nothing is purged; what was handed out was returned by a peek at most 40 ms before it departs, and
not after that; and once what was found is taken out, everything that departs before the next peek
was handed out. -/
theorem jitQueue_inTime (qs : Qsort JitNode) (toa : LgwPktTx → UInt32) (gap t : ℕ)
    (hgap : gap ≤ 40000) (es : List TimedEvent)
    (hes : Run.Guarded (TimedQueue.step qs toa) (TimedQueue.Timely toa gap) (TimedQueue.start t)
      es) :
    let s := Run.final (TimedQueue.step qs toa) (TimedQueue.start t) es
    s.stored + s.handed = s.accepted
      ∧ (∀ e ∈ s.sent, e.peeked < e.due ∧ e.due < e.peeked + 40000)
      ∧ (s.found = none → ∀ e ∈ s.accepted, e.1 < s.peeked + gap → e ∈ s.handed) := by
  have h := hes.invariant (P := TimedQueue.Inv gap)
    (fun s e htimely hs => TimedQueue.Inv.step hgap hs htimely) (TimedQueue.inv_start gap t)
  exact ⟨h.books, h.inTime, fun hfound _ he hdue => h.mem_handed hfound he hdue⟩

/-- A downlink that departs after 60 ms, with a peek after 30 ms. -/
theorem jitQueue_inTime_one :
    let es : List TimedEvent := [.enqueue 0 (downlinkAt 60000) .downlinkClassA, .peek 30000,
      .dequeue]
    let s := Run.final (TimedQueue.step (Qsort.insertion JitNode) fun _ => 50)
      (TimedQueue.start 0) es
    s.stored + s.handed = s.accepted
      ∧ (∀ e ∈ s.sent, e.peeked < e.due ∧ e.due < e.peeked + 40000)
      ∧ (s.found = none → ∀ e ∈ s.accepted, e.1 < s.peeked + 40000 → e ∈ s.handed) :=
  jitQueue_inTime (Qsort.insertion JitNode) (fun _ => 50) 40000 0 le_rfl _
    ⟨⟨by decide, fun _ => by decide⟩, ⟨by decide, by decide⟩, trivial, trivial⟩
