import MeshBeacon.JitAccept
import MeshBeacon.TimeOnAir

/-!
# No two queued packets collide

Each queued packet reserves the arc of the counter from its pre-delay before
its time to its post-delay after it. Two packets are **clear** of each other
when their arcs keep more than `TX_MARGIN_DELAY` apart; a beacon's arc is
shortened against the class A and class C packets, which may use its guard.

The collision test compares sums of delays, in 32 bits, with distances. As
long as the sums are what they are meant to be (`JitLedger.Fits`) a packet that
passes the test against a node is clear of it, and everything else the queue
does only rearranges nodes or takes some out. A packet the library would send
is never long enough for a sum to overflow; but the queue does not ask whether
the library would send a packet, and past that the test has no force.
-/

open Jit Circle JitQueue

/-- The arc a node reserves against a packet of a type. -/
def JitNode.reserved (n : JitNode) (pktType : JitPktType) : Set UInt32 :=
  window n.pkt.countUs (targetPreDelay pktType n) n.postDelay

/-- **Two nodes are clear of each other.** -/
def JitNode.Clear (m n : JitNode) : Prop :=
  Apart txMarginDelay.toNat (m.reserved n.pktType) (n.reserved m.pktType)

theorem JitNode.Clear.symm {m n : JitNode} (h : m.Clear n) : n.Clear m := Apart.symm h

/-- Every two nodes in use are clear of each other. -/
structure JitQueue.Collisionless (q : JitQueue) : Prop where
  /-- No more packets than nodes. -/
  numPkt_le : q.numPkt.toNat ≤ queueMax
  /-- The nodes in use are pairwise clear. -/
  clear : q.live.Pairwise JitNode.Clear

namespace JitLedger

/-- **The sums of the collision test fit in 32 bits**, for the packet enqueued
against each node in use. -/
def Fits (toa : LgwPktTx → UInt32) (s : JitLedger) : JitEvent → Prop
  | .enqueue _ packet pktType => ∀ n ∈ s.queue.live,
      pktType.preDelay.toNat + n.postDelay.toNat + txMarginDelay.toNat < 2 ^ 32
        ∧ (targetPreDelay pktType n).toNat + (postDelayOf toa packet pktType).toNat
            + txMarginDelay.toNat < 2 ^ 32
  | _ => True

end JitLedger

/-! ## The test -/

/-- A sum of delays that fits is what it is meant to be. -/
theorem lt_of_not_le_sum {d a b m : UInt32} (h : ¬ d ≤ a + b + m)
    (hfit : a.toNat + b.toNat + m.toNat < 2 ^ 32) : a.toNat + b.toNat + m.toNat < d.toNat := by
  rw [UInt32.le_iff_toNat_le, UInt32.toNat_add, UInt32.toNat_add] at h
  omega

/-- A new beacon is tested with its whole guard, and asks for less. -/
theorem targetPreDelay_le (ty pktType : JitPktType) (p : LgwPktTx) (post : UInt32) :
    targetPreDelay ty ⟨p, pktType, pktType.preDelay, post⟩ ≤ pktType.preDelay := by
  show (if (ty = .downlinkClassA ∨ ty = .downlinkClassC) ∧ pktType = .beacon then txStartDelay
    else pktType.preDelay) ≤ _
  split_ifs with h
  · rw [h.2]
    decide
  · exact UInt32.le_refl _

/-- **A packet that passes the test against a node is clear of it.** -/
theorem clear_of_collidesWith_eq_false {p : LgwPktTx} {pktType : JitPktType} {post : UInt32}
    {n : JitNode}
    (h : collidesWith pktType p.countUs pktType.preDelay post n = false)
    (hpre : pktType.preDelay.toNat + n.postDelay.toNat + txMarginDelay.toNat < 2 ^ 32)
    (hpost : (targetPreDelay pktType n).toNat + post.toNat + txMarginDelay.toNat < 2 ^ 32) :
    JitNode.Clear ⟨p, pktType, pktType.preDelay, post⟩ n := by
  unfold collidesWith jitCollisionTest at h
  rw [Bool.or_eq_false_iff, decide_eq_false_iff_not, decide_eq_false_iff_not] at h
  have hafter := lt_of_not_le_sum h.1 hpre
  have hbefore := lt_of_not_le_sum h.2 hpost
  have hapart : Apart txMarginDelay.toNat (window p.countUs pktType.preDelay post)
      (n.reserved pktType) := by
    refine apart_window ?_ ?_
    · show _ < (n.pkt.countUs - p.countUs).toNat
      omega
    · show _ < (p.countUs - n.pkt.countUs).toNat
      omega
  refine hapart.mono (window_subset ?_) (fun x hx => hx)
  exact targetPreDelay_le _ _ _ _

/-! ## The operations -/

/-- Being free of collisions is a relation between any two nodes. -/
theorem JitQueue.collisionless_iff {q : JitQueue} :
    q.Collisionless ↔ q.LivePairwise JitNode.Clear :=
  ⟨fun h => ⟨h.numPkt_le, h.clear⟩, fun h => ⟨h.numPkt_le, h.pairwise⟩⟩

namespace JitLedger

variable {qs : Qsort JitNode} {toa : LgwPktTx → UInt32} {alter : Alteration} {s : JitLedger}

/-- Every call keeps the nodes clear of each other, as long as the sums of the
collision test fit. -/
theorem step_collisionless (h : s.queue.Collisionless) {e : JitEvent} (he : Fits toa s e) :
    (step qs toa alter s e).queue.Collisionless := by
  rw [JitQueue.collisionless_iff] at h ⊢
  refine step_livePairwise JitNode.Clear.symm h fun timeUs packet pktType heq hacc n hn => ?_
  subst heq
  exact clear_of_collidesWith_eq_false (hacc.clear n hn) (he n hn).1 (he n hn).2

end JitLedger

/-! ## Packets the library would send -/

/-- A packet to enqueue is a beacon, or is not FSK at a bit rate the library
refuses to send. -/
def JitEvent.Sendable : JitEvent → Prop
  | .enqueue _ packet pktType =>
    pktType ≠ .beacon → packet.modulation = Hal.modFsk → isFskDr packet.datarate
  | _ => True

/-- The delays of a node are far from the period of the counter. -/
def JitNode.Short (n : JitNode) : Prop :=
  n.preDelay.toNat ≤ 3041500 ∧ n.postDelay.toNat ≤ 2710001000

/-- What is reserved after a packet the library would send. -/
theorem postDelayOf_le (syncWordSize : UInt8) {timeUs : UInt32} {packet : LgwPktTx}
    {pktType : JitPktType} (h : (JitEvent.enqueue timeUs packet pktType).Sendable) :
    (postDelayOf (lgwTimeOnAir syncWordSize) packet pktType).toNat ≤ 2710001000 := by
  have hdownlink (hne : pktType ≠ .beacon) :
      (lgwTimeOnAir syncWordSize packet * 1000).toNat ≤ 2710001000 := by
    have htoa := lgwTimeOnAir_le syncWordSize packet (h hne)
    rw [UInt32.toNat_mul]
    refine (Nat.mod_le _ _).trans ?_
    show (lgwTimeOnAir syncWordSize packet).toNat * 1000 ≤ _
    omega
  cases pktType with
  | beacon => exact (show beaconReserved.toNat ≤ 2710001000 by decide)
  | downlinkClassA => exact hdownlink nofun
  | downlinkClassB => exact hdownlink nofun
  | downlinkClassC => exact hdownlink nofun

theorem preDelay_le (pktType : JitPktType) : pktType.preDelay.toNat ≤ 3041500 := by
  cases pktType <;> decide

namespace JitLedger

/-- **Runs of packets the library would send fit.** Whatever is called in
whatever order, the sums of the collision test stay within 32 bits. -/
theorem guarded_fits_of_sendable (syncWordSize : UInt8) {es : List JitEvent}
    (hes : ∀ e ∈ es, e.Sendable) :
    Run.Guarded (step qs (lgwTimeOnAir syncWordSize) alter) (Fits (lgwTimeOnAir syncWordSize))
      start es := by
  have hfits (s : JitLedger) (e : JitEvent)
      (hs : s.queue.Collisionless ∧ ∀ n ∈ s.queue.live, n.Short) (he : e.Sendable) :
      Fits (lgwTimeOnAir syncWordSize) s e := by
    cases e with
    | enqueue timeUs packet pktType =>
      intro n hn
      obtain ⟨hpre, hpost⟩ := hs.2 n hn
      have hnewPre := preDelay_le pktType
      have hnewPost := postDelayOf_le syncWordSize he
      have hmargin : txMarginDelay.toNat = 1000 := rfl
      have htarget : (targetPreDelay pktType n).toNat ≤ 3041500 := by
        unfold targetPreDelay
        split_ifs
        · decide
        · exact hpre
      constructor <;> omega
    | _ => trivial
  refine Run.guarded_of_invariant (Q := JitEvent.Sendable)
    (P := fun s : JitLedger => s.queue.Collisionless ∧ ∀ n ∈ s.queue.live, n.Short)
    hfits (fun s e hs he => ⟨step_collisionless hs.1 (hfits s e hs he), fun n hn => ?_⟩)
    ⟨⟨Nat.zero_le _, List.Pairwise.nil⟩, fun n hn => absurd hn List.not_mem_nil⟩ hes
  rcases mem_live_step hs.1.numPkt_le hn with hold | ⟨timeUs, packet, pktType, p, rfl, rfl⟩
  · exact hs.2 n hold
  · exact ⟨preDelay_le pktType, postDelayOf_le syncWordSize he⟩

end JitLedger

/-- **No two queued packets collide.** After every run of initializations,
enqueueings, dequeueings and peeks in which the sums of the collision test fit
in 32 bits, the reserved arcs of any two stored packets keep more than
`TX_MARGIN_DELAY` apart. -/
theorem jitQueue_collisionless_of_run (qs : Qsort JitNode) (toa : LgwPktTx → UInt32)
    (es : List JitEvent)
    (hes : Run.Guarded (JitLedger.step qs toa timedPacket) (JitLedger.Fits toa)
      JitLedger.start es) :
    (Run.final (JitLedger.step qs toa timedPacket) JitLedger.start es).queue.live.Pairwise
      JitNode.Clear :=
  (hes.invariant (P := fun s : JitLedger => s.queue.Collisionless)
    (fun _ _ he h => JitLedger.step_collisionless h he) ⟨Nat.zero_le _, List.Pairwise.nil⟩).clear

/-- A LoRa packet for a time of the counter. -/
def loraAt (countUs : UInt32) : LgwPktTx :=
  { LgwPktTx.zero with
    txMode := Hal.timestamped, countUs := countUs, modulation := Hal.modLora
    bandwidth := Hal.bw125khz, datarate := Hal.drLoraSf7, coderate := Hal.crLora45
    preamble := 8, size := 10 }

/-- Three packets across a wrap of the counter, one of them a beacon. -/
theorem jitQueue_collisionless_of_run_wrap :
    (Run.final (JitLedger.step (Qsort.insertion JitNode) (lgwTimeOnAir 3) timedPacket)
      JitLedger.start
      [.enqueue 4294000000 (loraAt 4294900000) .downlinkClassA,
        .enqueue 4294000000 (loraAt 3000000) .downlinkClassA,
        .enqueue 4294000000 (loraAt 20000000) .beacon]).queue.live.Pairwise JitNode.Clear :=
  jitQueue_collisionless_of_run (Qsort.insertion JitNode) (lgwTimeOnAir 3) _
    ⟨by unfold JitLedger.Fits; decide +kernel, by unfold JitLedger.Fits; decide +kernel,
      by unfold JitLedger.Fits; decide +kernel, trivial⟩

/-- An FSK packet at 30 bits per second, with a long preamble: it lasts 4294934
milliseconds, 33296 microseconds short of a turn of the counter. -/
def slowFsk : LgwPktTx :=
  { LgwPktTx.zero with
    txMode := Hal.timestamped, countUs := 1000000, modulation := Hal.modFsk
    datarate := 30, fDev := 25, preamble := 16090, size := 10 }

/-- **The test does not see a packet that lasts almost a turn of the counter.**
The sum of its post-delay and the other packet's pre-delay overflows, and a
packet four seconds into it is accepted. -/
theorem slowFsk_collides :
    ¬ ∀ (qs : Qsort JitNode) (syncWordSize : UInt8) (es : List JitEvent),
      (Run.final (JitLedger.step qs (lgwTimeOnAir syncWordSize) timedPacket)
        JitLedger.start es).queue.live.Pairwise JitNode.Clear := by
  intro h
  have hpair := h (Qsort.insertion JitNode) 3
    [.enqueue 900000 slowFsk .downlinkClassA, .enqueue 900000 (loraAt 5000000) .downlinkClassA]
  have hlive : (Run.final (JitLedger.step (Qsort.insertion JitNode) (lgwTimeOnAir 3) timedPacket)
      JitLedger.start [.enqueue 900000 slowFsk .downlinkClassA,
        .enqueue 900000 (loraAt 5000000) .downlinkClassA]).queue.live
      = [⟨slowFsk, .downlinkClassA, 41500, 4294934000⟩,
        ⟨loraAt 5000000, .downlinkClassA, 41500, 41000⟩] := by
    decide +kernel
  rw [hlive, List.pairwise_pair] at hpair
  -- the second packet's own time is in both arcs
  have hmem : (5000000 : UInt32) ∈ window 1000000 41500 4294934000 := ⟨4041500, by decide, rfl⟩
  have hself := mem_window_self 5000000 41500 41000
  exact absurd (hpair 5000000 hmem 5000000 hself).1 (by decide)
