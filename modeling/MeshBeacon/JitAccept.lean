import MeshBeacon.JitLedger

/-!
# What the just-in-time queue accepts

Whether a packet is accepted, and at what time it departs, is settled by the
queue, the caller's time and the packet: `Accepts` spells out the conditions
that `jit_enqueue` goes through, and `enqueuedNode` is the node it stores when
they are met. What was accepted can be followed through a run from there.

The second half of the module carries a relation between any two stored nodes
through every call. A call takes nodes out, which cannot break the relation, or
adds one that was tested against the others. No two stored packets depart at
the same time, because the test always sees a distance of zero.
-/

open Jit

/-! ## One enqueueing -/

section Enqueue

variable (toa : LgwPktTx → UInt32) (q : JitQueue) (timeUs : UInt32) (packet : LgwPktTx)
  (pktType : JitPktType)

/-- The node a packet is stored as: at the departure time it is given, with what
is reserved around it. -/
def enqueuedNode : JitNode where
  pkt := timedPacket packet
    (asapCountUs q timeUs pktType.preDelay (postDelayOf toa packet pktType)) pktType
  pktType := pktType
  preDelay := pktType.preDelay
  postDelay := postDelayOf toa packet pktType

/-- The departure time a packet is given: its own, or for class C the slot found. -/
def departure : UInt32 := (enqueuedNode toa q timeUs packet pktType).pkt.countUs

/-- **The packet is accepted.** -/
structure Accepts : Prop where
  /-- There is a free node. -/
  room : q.numPkt.toNat ≠ queueMax
  /-- There is time enough to program the concentrator. -/
  inTime : ¬ departure toa q timeUs packet pktType - timeUs
    ≤ txStartDelay + txMarginDelay + txJitDelay
  /-- A class A or class B packet is not too far ahead. -/
  notEarly : pktType = .downlinkClassA ∨ pktType = .downlinkClassB →
    ¬ txMaxAdvanceDelay < departure toa q timeUs packet pktType - timeUs
  /-- No stored packet is in the way. -/
  clear : ∀ n ∈ q.live, collidesWith pktType (departure toa q timeUs packet pktType)
    pktType.preDelay (postDelayOf toa packet pktType) n = false

variable {toa q timeUs packet pktType}

/-- `jit_enqueue`, in terms of the node it would store. -/
theorem jitEnqueue_eq (qs : Qsort JitNode) :
    jitEnqueue qs toa q timeUs packet pktType
      = if q.numPkt.toNat = queueMax then (.full, q, packet)
        else if departure toa q timeUs packet pktType - timeUs
            ≤ txStartDelay + txMarginDelay + txJitDelay then
          (.tooLate, q, (enqueuedNode toa q timeUs packet pktType).pkt)
        else if (pktType = .downlinkClassA ∨ pktType = .downlinkClassB)
            ∧ txMaxAdvanceDelay < departure toa q timeUs packet pktType - timeUs then
          (.tooEarly, q, (enqueuedNode toa q timeUs packet pktType).pkt)
        else
          match q.live.find? (collidesWith pktType (departure toa q timeUs packet pktType)
              pktType.preDelay (postDelayOf toa packet pktType)) with
          | some n => (collisionError n.pktType, q, (enqueuedNode toa q timeUs packet pktType).pkt)
          | none => (.ok, jitSortQueue qs (q.push (enqueuedNode toa q timeUs packet pktType)),
              (enqueuedNode toa q timeUs packet pktType).pkt) := rfl

/-- An accepted packet is stored, and handed back as it was stored. -/
theorem jitEnqueue_of_accepts (qs : Qsort JitNode) (h : Accepts toa q timeUs packet pktType) :
    jitEnqueue qs toa q timeUs packet pktType
      = (.ok, jitSortQueue qs (q.push (enqueuedNode toa q timeUs packet pktType)),
          (enqueuedNode toa q timeUs packet pktType).pkt) := by
  have hfind : q.live.find? (collidesWith pktType (departure toa q timeUs packet pktType)
      pktType.preDelay (postDelayOf toa packet pktType)) = none :=
    List.find?_eq_none.mpr fun n hn => Bool.eq_false_iff.mp (h.clear n hn)
  rw [jitEnqueue_eq, if_neg h.room, if_neg h.inTime,
    if_neg (fun hearly => h.notEarly hearly.1 hearly.2), hfind]

/-- A packet that is not accepted leaves the queue, with an error. -/
theorem jitEnqueue_of_not_accepts (qs : Qsort JitNode)
    (h : ¬ Accepts toa q timeUs packet pktType) :
    (jitEnqueue qs toa q timeUs packet pktType).1 ≠ .ok
      ∧ (jitEnqueue qs toa q timeUs packet pktType).2.1 = q := by
  rw [jitEnqueue_eq]
  by_cases hfull : q.numPkt.toNat = queueMax
  · rw [if_pos hfull]
    exact ⟨nofun, rfl⟩
  rw [if_neg hfull]
  by_cases hlate : departure toa q timeUs packet pktType - timeUs
      ≤ txStartDelay + txMarginDelay + txJitDelay
  · rw [if_pos hlate]
    exact ⟨nofun, rfl⟩
  rw [if_neg hlate]
  by_cases hearly : (pktType = .downlinkClassA ∨ pktType = .downlinkClassB)
      ∧ txMaxAdvanceDelay < departure toa q timeUs packet pktType - timeUs
  · rw [if_pos hearly]
    exact ⟨nofun, rfl⟩
  rw [if_neg hearly]
  cases hfind : q.live.find? (collidesWith pktType (departure toa q timeUs packet pktType)
      pktType.preDelay (postDelayOf toa packet pktType)) with
  | some n =>
    refine ⟨?_, rfl⟩
    show collisionError n.pktType ≠ .ok
    cases n.pktType <;> decide
  | none =>
    refine absurd ⟨hfull, hlate, fun hty hlt => hearly ⟨hty, hlt⟩, fun n hn => ?_⟩ h
    exact Bool.eq_false_iff.mpr (List.find?_eq_none.mp hfind n hn)

/-- **`jit_enqueue` returns no error** on the packets it accepts. -/
theorem jitEnqueue_fst_eq_ok_iff (qs : Qsort JitNode) :
    (jitEnqueue qs toa q timeUs packet pktType).1 = .ok ↔ Accepts toa q timeUs packet pktType := by
  by_cases h : Accepts toa q timeUs packet pktType
  · rw [jitEnqueue_of_accepts qs h]
    exact iff_of_true rfl h
  · exact iff_of_false (jitEnqueue_of_not_accepts qs h).1 h

/-- A packet that collides with no stored one departs at another time than
they: at no distance the test is always positive. -/
theorem Accepts.departure_ne (h : Accepts toa q timeUs packet pktType) {n : JitNode}
    (hn : n ∈ q.live) : departure toa q timeUs packet pktType ≠ n.pkt.countUs := by
  intro heq
  have hclear := h.clear n hn
  unfold collidesWith jitCollisionTest at hclear
  rw [heq, UInt32.sub_self, Bool.or_eq_false_iff, decide_eq_false_iff_not] at hclear
  exact hclear.1 UInt32.zero_le

end Enqueue

/-! ## A relation between stored nodes -/

/-- Any two nodes in use are related. -/
structure JitQueue.LivePairwise (R : JitNode → JitNode → Prop) (q : JitQueue) : Prop where
  /-- No more packets than nodes. -/
  numPkt_le : q.numPkt.toNat ≤ queueMax
  /-- The nodes in use are pairwise related. -/
  pairwise : q.live.Pairwise R

namespace JitQueue.LivePairwise

variable {R : JitNode → JitNode → Prop} {q : JitQueue}

/-- The initialized queue has no two nodes in use. -/
theorem init : jitQueueInit.LivePairwise R := ⟨Nat.zero_le _, List.Pairwise.nil⟩

/-- Taking out a node, at whatever index, leaves nodes that were there. -/
theorem remove (hR : ∀ {m n}, R m n → R n m) (qs : Qsort JitNode) (h : q.LivePairwise R)
    (h0 : 0 < q.numPkt.toNat) (i : ℕ) : (q.remove qs i).LivePairwise R where
  numPkt_le := by
    have hle := h.numPkt_le
    rw [JitQueue.numPkt_remove, toNat_numPkt_sub_one h0]
    omega
  pairwise := by
    rcases Nat.lt_or_ge i q.numPkt.toNat with hi | hi
    · have hperm := perm_remove qs h.numPkt_le hi
      exact ((hperm.pairwise_iff hR).mpr h.pairwise).tail
    · have hperm := live_remove_of_ge qs hi h0
      exact (hperm.pairwise_iff hR).mpr (h.pairwise.sublist (List.take_sublist _ _))

/-- A node related to every node in use is added to related nodes. -/
theorem push (hR : ∀ {m n}, R m n → R n m) (qs : Qsort JitNode) (h : q.LivePairwise R)
    (hlt : q.numPkt.toNat < queueMax) {n : JitNode} (hn : ∀ m ∈ q.live, R n m) :
    (jitSortQueue qs (q.push n)).LivePairwise R where
  numPkt_le := by
    rw [numPkt_jitSortQueue, numPkt_push hlt]
    exact hlt
  pairwise := by
    rw [(perm_push qs hlt n).pairwise_iff hR]
    exact List.pairwise_cons.mpr ⟨hn, h.pairwise⟩

end JitQueue.LivePairwise

/-- Two nodes depart at different times. -/
def JitNode.DepartApart (m n : JitNode) : Prop := m.pkt.countUs ≠ n.pkt.countUs

namespace JitLedger

variable {qs : Qsort JitNode} {toa : LgwPktTx → UInt32} {alter : Alteration} {s : JitLedger}
  {timeUs : UInt32} {packet : LgwPktTx} {pktType : JitPktType}

/-- An accepted packet is added to the nodes in use. -/
theorem queue_step_of_accepts (h : Accepts toa s.queue timeUs packet pktType) :
    (step qs toa alter s (.enqueue timeUs packet pktType)).queue
      = jitSortQueue qs (s.queue.push (enqueuedNode toa s.queue timeUs packet pktType)) := by
  rw [step, jitEnqueue_of_accepts qs h]

/-- A packet that is not accepted changes nothing. -/
theorem queue_step_of_not_accepts (h : ¬ Accepts toa s.queue timeUs packet pktType) :
    (step qs toa alter s (.enqueue timeUs packet pktType)).queue = s.queue :=
  (jitEnqueue_of_not_accepts qs h).2

/-- **Every call keeps the nodes related**, if an accepted packet is related to
the nodes in use. -/
theorem step_livePairwise {R : JitNode → JitNode → Prop} (hR : ∀ {m n}, R m n → R n m)
    (h : s.queue.LivePairwise R) {e : JitEvent}
    (he : ∀ timeUs packet pktType, e = .enqueue timeUs packet pktType →
      Accepts toa s.queue timeUs packet pktType →
        ∀ n ∈ s.queue.live, R (enqueuedNode toa s.queue timeUs packet pktType) n) :
    (step qs toa alter s e).queue.LivePairwise R := by
  cases e with
  | init => exact .init
  | enqueue timeUs packet pktType =>
    by_cases hacc : Accepts toa s.queue timeUs packet pktType
    · rw [queue_step_of_accepts hacc]
      exact h.push hR qs (lt_of_le_of_ne h.numPkt_le hacc.room) (he _ _ _ rfl hacc)
    · rw [queue_step_of_not_accepts hacc]
      exact h
  | dequeue index =>
    show (jitDequeue qs s.queue index).2.1.LivePairwise R
    unfold jitDequeue
    split_ifs with hbad h0
    · exact h
    · exact h
    · exact h.remove hR qs (Nat.pos_of_ne_zero fun hz => h0 (UInt8.toNat_inj.mp hz)) _
  | peek timeUs =>
    refine jitPeek_invariant qs timeUs (P := fun q _ => q.LivePairwise R) ?_ s.queue h
    intro q i dropped hi _ hq
    exact hq.remove hR qs (Nat.zero_lt_of_lt hi) i

/-- Where a node in use after a call comes from: it was in use, or it is the
one enqueued. -/
theorem mem_live_step (hle : s.queue.numPkt.toNat ≤ queueMax) {e : JitEvent} {n : JitNode}
    (hn : n ∈ (step qs toa alter s e).queue.live) :
    n ∈ s.queue.live ∨ ∃ timeUs packet pktType p, e = .enqueue timeUs packet pktType
      ∧ n = ⟨p, pktType, pktType.preDelay, postDelayOf toa packet pktType⟩ := by
  cases e with
  | init => exact absurd hn List.not_mem_nil
  | enqueue timeUs packet pktType =>
    by_cases hacc : Accepts toa s.queue timeUs packet pktType
    · rw [queue_step_of_accepts hacc] at hn
      have hmem := (JitQueue.perm_push qs (lt_of_le_of_ne hle hacc.room) _).subset hn
      rcases List.mem_cons.mp hmem with hnew | hold
      · exact Or.inr ⟨timeUs, packet, pktType, _, rfl, hnew⟩
      · exact Or.inl hold
    · rw [queue_step_of_not_accepts hacc] at hn
      exact Or.inl hn
  | dequeue index =>
    refine Or.inl ?_
    change n ∈ (jitDequeue qs s.queue index).2.1.live at hn
    unfold jitDequeue at hn
    split_ifs at hn with hbad h0
    · exact hn
    · exact hn
    · exact JitQueue.mem_of_mem_remove qs hle
        (Nat.pos_of_ne_zero fun hz => h0 (UInt8.toNat_inj.mp hz)) hn
  | peek timeUs =>
    refine Or.inl ?_
    -- a peek only purges
    refine (jitPeek_invariant qs timeUs (P := fun q _ =>
      q.numPkt.toNat ≤ queueMax ∧ ∀ n ∈ q.live, n ∈ s.queue.live) ?_ s.queue
      ⟨hle, fun _ hm => hm⟩).2 n hn
    intro q i dropped hi _ ⟨hq, hold⟩
    have h0 := Nat.zero_lt_of_lt hi
    refine ⟨?_, fun m hm => hold m (JitQueue.mem_of_mem_remove qs hq h0 hm)⟩
    rw [JitQueue.numPkt_remove, JitQueue.toNat_numPkt_sub_one h0]
    omega

/-- Every call keeps the stored departure times different. -/
theorem step_departApart (h : s.queue.LivePairwise JitNode.DepartApart) (e : JitEvent) :
    (step qs toa alter s e).queue.LivePairwise JitNode.DepartApart :=
  step_livePairwise (fun hmn => hmn.symm) h fun _ _ _ _ hacc _ hn => hacc.departure_ne hn

/-- **No two stored packets depart at the same time**, after any run. -/
theorem run_departApart (es : List JitEvent) :
    (Run.final (step qs toa alter) start es).queue.LivePairwise JitNode.DepartApart :=
  Run.invariant (P := fun s : JitLedger => s.queue.LivePairwise JitNode.DepartApart)
    (fun _ e h => step_departApart h e) es .init

end JitLedger
