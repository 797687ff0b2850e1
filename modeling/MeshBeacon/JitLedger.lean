import MeshBeacon.JitInvariant
import Mathlib.Data.Multiset.AddSub

/-!
# The ledger of the just-in-time queue

A run of the queue is kept together with its books: the packets the queue
accepted and the packets that left it, whether they were dequeued or dropped.
The books are ghosts – no operation reads them – and what they say of a run is
that they balance: stored and removed packets together are the accepted ones,
each as often as it was accepted.

What "accepted" enters in the books is the packet as the caller passed it, up
to the alterations that enqueueing is allowed to make. These are a parameter
of the run (`Alteration`), so that one definition of a run serves to say what
the queue does and what it does not do.
-/

open Jit

/-- What is called on a queue. -/
inductive JitEvent where
  | init
  | enqueue (timeUs : UInt32) (packet : LgwPktTx) (pktType : JitPktType)
  | dequeue (index : ℤ)
  | peek (timeUs : UInt32)

/-- What enqueueing may make of a packet, given its departure time and its
type. -/
abbrev Alteration := LgwPktTx → UInt32 → JitPktType → LgwPktTx

/-- The alteration that sets the departure time of a class C packet and
nothing else. -/
def setCountUs : Alteration
  | packet, c, .downlinkClassC => { packet with countUs := c }
  | packet, _, _ => packet

/-- The packet of a node, with its type. -/
def JitNode.entry (n : JitNode) : LgwPktTx × JitPktType := (n.pkt, n.pktType)

/-- The packets in a queue. -/
def JitQueue.stored (q : JitQueue) : Multiset (LgwPktTx × JitPktType) :=
  (q.live.map JitNode.entry : List _)

/-- A queue and its books. -/
structure JitLedger where
  queue : JitQueue
  /-- The packets accepted since the queue was initialized. -/
  accepted : Multiset (LgwPktTx × JitPktType)
  /-- The packets dequeued or dropped since. -/
  removed : Multiset (LgwPktTx × JitPktType)

namespace JitLedger

/-- The initialized queue with empty books. -/
def start : JitLedger := ⟨jitQueueInit, 0, 0⟩

/-- One call, entered in the books. -/
def step (qs : Qsort JitNode) (toa : LgwPktTx → UInt32) (alter : Alteration) (s : JitLedger) :
    JitEvent → JitLedger
  | .init => start
  | .enqueue timeUs packet pktType =>
    let (err, q, p) := jitEnqueue qs toa s.queue timeUs packet pktType
    { s with
      queue := q
      accepted := if err = .ok then (alter packet p.countUs pktType, pktType) ::ₘ s.accepted
        else s.accepted }
  | .dequeue index =>
    let (_, q, entry) := jitDequeue qs s.queue index
    { s with queue := q, removed := (entry.toList : List _) + s.removed }
  | .peek timeUs =>
    let (_, q, _, dropped) := jitPeek qs s.queue timeUs
    { s with queue := q, removed := (dropped.map JitNode.entry : List _) + s.removed }

/-- The index dequeued is that of a packet in the queue. -/
def InRange (s : JitLedger) : JitEvent → Prop
  | .dequeue index => 0 ≤ index ∧ index < s.queue.numPkt.toNat
  | _ => True

/-- The books balance. -/
def Balanced (s : JitLedger) : Prop := s.queue.stored + s.removed = s.accepted

end JitLedger

/-! ## One step -/

/-- Nodes in use that are rearranged are the same packets. -/
theorem JitQueue.stored_of_perm {q : JitQueue} {l : List JitNode} (h : q.live.Perm l) :
    q.stored = (l.map JitNode.entry : List _) :=
  Multiset.coe_eq_coe.mpr (h.map _)

namespace JitLedger

variable {qs : Qsort JitNode} {toa : LgwPktTx → UInt32} {alter : Alteration} {s : JitLedger}

/-- An index in range hands the node at that index back, and takes it out. -/
theorem jitDequeue_inRange (hle : s.queue.numPkt.toNat ≤ queueMax) {index : ℤ} (h0 : 0 ≤ index)
    (hlt : index < s.queue.numPkt.toNat) :
    jitDequeue qs s.queue index = (.ok, s.queue.remove qs index.toNat,
      some (s.queue.node index.toNat).entry) := by
  have hne : s.queue.numPkt ≠ 0 := by
    intro h
    rw [h] at hlt
    exact absurd hlt (not_lt_of_ge h0)
  rw [jitDequeue, if_neg (by omega), if_neg hne]
  rfl

/-- **What enqueueing does to the ledger**: nothing, or a packet that came to
the queue is entered as accepted. -/
theorem step_enqueue_cases (qs : Qsort JitNode) (toa : LgwPktTx → UInt32) (alter : Alteration)
    (s : JitLedger) (timeUs : UInt32) (packet : LgwPktTx) (pktType : JitPktType) :
    step qs toa alter s (.enqueue timeUs packet pktType) = s
      ∨ ∃ p : LgwPktTx,
          s.queue.numPkt.toNat ≠ queueMax
          ∧ p = timedPacket packet p.countUs pktType
          ∧ (∀ n ∈ s.queue.live,
              collidesWith pktType p.countUs pktType.preDelay (postDelayOf toa packet pktType) n
                = false)
          ∧ step qs toa alter s (.enqueue timeUs packet pktType)
            = { s with
                queue := jitSortQueue qs
                  (s.queue.push ⟨p, pktType, pktType.preDelay, postDelayOf toa packet pktType⟩)
                accepted := (alter packet p.countUs pktType, pktType) ::ₘ s.accepted } := by
  rcases jitEnqueue_cases qs toa s.queue timeUs packet pktType with
    ⟨herr, hsame⟩ | ⟨p, hroom, hp, hclear, heq⟩
  · refine Or.inl ?_
    rw [step]
    dsimp only
    rw [if_neg herr, hsame]
  · refine Or.inr ⟨p, hroom, hp, hclear, ?_⟩
    rw [step, heq]
    rfl

theorem step_valid (hq : s.queue.Valid) {e : JitEvent} (he : InRange s e) :
    (step qs toa alter s e).queue.Valid := by
  cases e with
  | init => exact JitQueue.Valid.init
  | enqueue timeUs packet pktType =>
    rcases step_enqueue_cases qs toa alter s timeUs packet pktType with
      heq | ⟨p, hroom, -, -, heq⟩
    · rw [heq]
      exact hq
    · rw [heq]
      exact hq.push qs (lt_of_le_of_ne hq.numPkt_le hroom) _
  | dequeue index =>
    obtain ⟨h0, hlt⟩ := he
    rw [step, jitDequeue_inRange hq.numPkt_le h0 hlt]
    exact hq.remove qs (by omega)
  | peek timeUs => exact (jitPeek_spec qs hq timeUs).1

/-- **Every call keeps the books balanced**, when enqueueing is charged with
what it really does to a packet. -/
theorem step_balanced (hq : s.queue.Valid) (hs : Balanced s) {e : JitEvent} (he : InRange s e) :
    Balanced (step qs toa timedPacket s e) := by
  unfold Balanced at hs ⊢
  cases e with
  | init => rfl
  | enqueue timeUs packet pktType =>
    rcases step_enqueue_cases qs toa timedPacket s timeUs packet pktType with
      heq | ⟨p, hroom, hp, -, heq⟩
    · rw [heq]
      exact hs
    · have hperm := JitQueue.perm_push qs (lt_of_le_of_ne hq.numPkt_le hroom)
        ⟨p, pktType, pktType.preDelay, postDelayOf toa packet pktType⟩
      rw [heq]
      show JitQueue.stored _ + s.removed = (timedPacket packet p.countUs pktType, pktType) ::ₘ _
      rw [JitQueue.stored_of_perm hperm, List.map_cons, ← Multiset.cons_coe, Multiset.cons_add,
        ← hp, ← hs]
      rfl
  | dequeue index =>
    obtain ⟨h0, hlt⟩ := he
    have hindex : index.toNat < s.queue.numPkt.toNat := by omega
    -- what is taken out was stored
    have hperm := JitQueue.perm_remove qs hq.numPkt_le hindex
    rw [step, jitDequeue_inRange hq.numPkt_le h0 hlt]
    show (s.queue.remove qs index.toNat).stored
      + ({(s.queue.node index.toNat).entry} + s.removed) = s.accepted
    rw [← hs, JitQueue.stored_of_perm hperm.symm, List.map_cons, ← Multiset.cons_coe,
      Multiset.cons_add, Multiset.singleton_add, Multiset.add_cons]
    rfl
  | peek timeUs =>
    -- what is purged counts as removed
    have hperm := (jitPeek_spec qs hq timeUs).2
    rw [step]
    generalize jitPeek qs s.queue timeUs = r at hperm
    show r.2.1.stored + (((r.2.2.2.map JitNode.entry : List _) : Multiset _) + s.removed)
      = s.accepted
    rw [← hs, JitQueue.stored_of_perm hperm.symm, List.map_append, ← Multiset.coe_add,
      ← Multiset.add_assoc, Multiset.add_comm (JitQueue.stored _)]
    rfl

/-! ## Whole runs -/

/-- The representation is sound after every run. -/
theorem run_valid {es : List JitEvent} (hes : Run.Guarded (step qs toa alter) InRange start es) :
    (Run.final (step qs toa alter) start es).queue.Valid :=
  hes.invariant (P := fun s => s.queue.Valid) (fun _ _ he hq => step_valid hq he)
    JitQueue.Valid.init

theorem run_balanced {es : List JitEvent}
    (hes : Run.Guarded (step qs toa timedPacket) InRange start es) :
    Balanced (Run.final (step qs toa timedPacket) start es) :=
  (hes.invariant (P := fun s => s.queue.Valid ∧ Balanced s)
    (fun _ _ he h => ⟨step_valid h.1 he, step_balanced h.1 h.2 he⟩)
    ⟨JitQueue.Valid.init, rfl⟩).2

end JitLedger

/-- **The queue neither loses nor invents packets.** After every run of
initializations, enqueueings, dequeueings of stored packets and peeks the
representation is sound – counters, cleared nodes, order – and the packets
stored are the accepted ones less the removed ones, where an accepted packet
of class C is entered as timestamped, at the departure time it was given, and
any other as it came. An enqueueing that fails leaves the queue as it was. -/
theorem jitQueue_sound_of_run (qs : Qsort JitNode) (toa : LgwPktTx → UInt32) (es : List JitEvent)
    (hes : Run.Guarded (JitLedger.step qs toa timedPacket) JitLedger.InRange JitLedger.start es) :
    let s := Run.final (JitLedger.step qs toa timedPacket) JitLedger.start es
    s.queue.Valid ∧ s.queue.stored + s.removed = s.accepted
      ∧ ∀ timeUs packet pktType,
        (jitEnqueue qs toa s.queue timeUs packet pktType).1 ≠ .ok →
          (jitEnqueue qs toa s.queue timeUs packet pktType).2.1 = s.queue := by
  refine ⟨JitLedger.run_valid hes, JitLedger.run_balanced hes, fun timeUs packet pktType herr => ?_⟩
  rcases jitEnqueue_cases qs toa _ timeUs packet pktType with ⟨-, hsame⟩ | ⟨p, -, -, -, heq⟩
  · exact hsame
  · rw [heq] at herr
    exact absurd rfl herr

/-- A downlink to be sent at once, of class C. -/
def immediateDownlink : LgwPktTx :=
  { LgwPktTx.zero with txMode := Hal.immediate, modulation := Hal.modLora }

/-- A run with a class C downlink, a beacon and a peek. -/
theorem jitQueue_sound_of_run_mixed :
    let step := JitLedger.step (Qsort.insertion JitNode) (fun _ => 50) timedPacket
    let es : List JitEvent := [.enqueue 1000 immediateDownlink .downlinkClassC,
      .enqueue 1000 { LgwPktTx.zero with countUs := 100000000 } .beacon, .dequeue 0, .peek 70000]
    let s := Run.final step JitLedger.start es
    s.queue.Valid ∧ s.queue.stored + s.removed = s.accepted
      ∧ ∀ timeUs packet pktType,
        (jitEnqueue (Qsort.insertion JitNode) (fun _ => 50) s.queue timeUs packet pktType).1 ≠ .ok →
          (jitEnqueue (Qsort.insertion JitNode) (fun _ => 50) s.queue timeUs packet pktType).2.1
            = s.queue :=
  jitQueue_sound_of_run (Qsort.insertion JitNode) (fun _ => 50) _
    ⟨trivial, trivial, ⟨by decide, by decide⟩, trivial, trivial⟩

/-- **The mode of a class C packet changes too.** With the departure time as
the only alteration, the books of one enqueueing do not balance: the packet
came in with the immediate mode and is stored with the timestamped one. -/
theorem setCountUs_not_balanced :
    ¬ ∀ (qs : Qsort JitNode) (toa : LgwPktTx → UInt32) (es : List JitEvent),
      Run.Guarded (JitLedger.step qs toa setCountUs) JitLedger.InRange JitLedger.start es →
        let s := Run.final (JitLedger.step qs toa setCountUs) JitLedger.start es
        s.queue.Valid ∧ s.queue.stored + s.removed = s.accepted
          ∧ ∀ timeUs packet pktType,
            (jitEnqueue qs toa s.queue timeUs packet pktType).1 ≠ .ok →
              (jitEnqueue qs toa s.queue timeUs packet pktType).2.1 = s.queue := by
  intro h
  have hbooks := (h (Qsort.insertion JitNode) (fun _ => 50)
    [.enqueue 1000 immediateDownlink .downlinkClassC] ⟨trivial, trivial⟩).2.1
  revert hbooks
  decide
