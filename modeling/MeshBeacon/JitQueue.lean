import MeshBeacon.Hal
import MeshBeacon.Qsort

/-!
# The just-in-time queue

Downlinks and beacons wait in a fixed array of nodes until their departure
time comes close. A node reserves the time from `preDelay` before its packet's
timestamp to `postDelay` after it, on a 32-bit microsecond counter that wraps;
every comparison of times is a comparison of wrapping differences.

The queue is what the C structure is: two byte counters and an array of
`JIT_QUEUE_MAX` nodes, of which the first `numPkt` are in use. The three
operations return the queue they leave and what they hand back, and
`jitPeek` in addition the nodes it dropped, in the order in which it logs
them.

The sorting routine and the time on air are parameters, so everything proved
here holds of any of either. The comparator is a difference of two
signed readings of the counter and wraps as the compiled code does.
-/

namespace Jit

/-- `JIT_QUEUE_MAX`. -/
abbrev queueMax : ℕ := 32
/-- `TX_START_DELAY`, in microseconds. -/
def txStartDelay : UInt32 := 1500
/-- `TX_MARGIN_DELAY`, in microseconds. -/
def txMarginDelay : UInt32 := 1000
/-- `TX_JIT_DELAY`, in microseconds. -/
def txJitDelay : UInt32 := 40000
/-- `TX_MAX_ADVANCE_DELAY`, in microseconds: `(3 + 1) * 128 * 1E6`, a whole
number, so comparing with it in floating point is comparing with it here. -/
def txMaxAdvanceDelay : UInt32 := 512000000
/-- `BEACON_GUARD`, in microseconds. -/
def beaconGuard : UInt32 := 3000000
/-- `BEACON_RESERVED`, in microseconds. -/
def beaconReserved : UInt32 := 2120000

end Jit

open Jit

/-- `enum jit_pkt_type_e`. -/
inductive JitPktType where
  | downlinkClassA
  | downlinkClassB
  | downlinkClassC
  | beacon
deriving DecidableEq

/-- `enum jit_error_e`, as far as the queue itself returns it. -/
inductive JitError where
  | ok
  | tooLate
  | tooEarly
  | full
  | empty
  | collisionPacket
  | collisionBeacon
  | invalid
deriving DecidableEq

/-- `struct jit_node_s`. -/
structure JitNode where
  pkt : LgwPktTx
  pktType : JitPktType
  /-- Time reserved before the packet's timestamp. -/
  preDelay : UInt32
  /-- Time reserved after the packet's timestamp. -/
  postDelay : UInt32
deriving DecidableEq

/-- The node `memset` to zero leaves; the zero of the packet type is class A. -/
def JitNode.zero : JitNode := ⟨LgwPktTx.zero, .downlinkClassA, 0, 0⟩

/-- `struct jit_queue_s`. The array always has its `JIT_QUEUE_MAX` nodes. -/
structure JitQueue where
  numPkt : UInt8
  /-- Number of beacons among them. -/
  numBeacon : UInt8
  nodes : List JitNode
  /-- The array is neither grown nor shrunk. -/
  length_nodes : nodes.length = queueMax

namespace JitQueue

/-- The node at an index of the array. -/
def node (q : JitQueue) (i : ℕ) : JitNode := q.nodes[i]?.getD JitNode.zero

/-- The nodes in use: the first `numPkt` of the array. -/
def live (q : JitQueue) : List JitNode := q.nodes.take q.numPkt.toNat

end JitQueue

/-- `jit_queue_init`: every element is reset. -/
def jitQueueInit : JitQueue := ⟨0, 0, List.replicate queueMax JitNode.zero, by simp⟩

/-- `compare`: the difference of the two timestamps read as signed integers. -/
def JitNode.compare (p q : JitNode) : ℤ := (p.pkt.countUs.toInt32 - q.pkt.countUs.toInt32).toInt

/-- `jit_sort_queue`: the nodes in use are sorted, the others stay. -/
def jitSortQueue (qs : Qsort JitNode) (q : JitQueue) : JitQueue :=
  if q.numPkt = 0 then q
  else { q with
    nodes := qs.sort JitNode.compare q.live ++ q.nodes.drop q.numPkt.toNat
    length_nodes := by
      have h := q.length_nodes
      simp only [JitQueue.live, List.length_append, Qsort.length_sort, List.length_take,
        List.length_drop]
      omega }

@[simp] theorem numPkt_jitSortQueue (qs : Qsort JitNode) (q : JitQueue) :
    (jitSortQueue qs q).numPkt = q.numPkt := by
  unfold jitSortQueue
  split_ifs <;> rfl

@[simp] theorem numBeacon_jitSortQueue (qs : Qsort JitNode) (q : JitQueue) :
    (jitSortQueue qs q).numBeacon = q.numBeacon := by
  unfold jitSortQueue
  split_ifs <;> rfl

/-- `jit_collision_test`: in one of the two directions, the second packet
starts before the first one and the margin are over. -/
def jitCollisionTest (p1CountUs p1PreDelay p1PostDelay p2CountUs p2PreDelay p2PostDelay : UInt32) :
    Bool :=
  p1CountUs - p2CountUs ≤ p1PreDelay + p2PostDelay + txMarginDelay
    || p2CountUs - p1CountUs ≤ p2PreDelay + p1PostDelay + txMarginDelay

/-! ## Enqueueing -/

/-- The time `jit_enqueue` reserves before a packet of the type. -/
def JitPktType.preDelay : JitPktType → UInt32
  | .beacon => txStartDelay + beaconGuard + txJitDelay
  | _ => txStartDelay + txJitDelay

/-- The time `jit_enqueue` reserves after a packet: its time on air, which the
library gives in milliseconds, or what the standard reserves for a beacon. -/
def postDelayOf (toa : LgwPktTx → UInt32) (packet : LgwPktTx) : JitPktType → UInt32
  | .beacon => beaconReserved
  | _ => toa packet * 1000

/-- The slot right after a node, for a packet reserving `pre` before itself. -/
def slotAfter (pre : UInt32) (n : JitNode) : UInt32 :=
  n.pkt.countUs + n.postDelay + pre + txJitDelay + txMarginDelay

/-- A packet placed at `c` collides with the node, under the node's own
delays. -/
def collidesAt (c pre post : UInt32) (n : JitNode) : Bool :=
  jitCollisionTest c pre post n.pkt.countUs n.preDelay n.postDelay

/-- The second search loop of `jit_enqueue`: the slot after each node in turn,
kept as soon as it does not collide with the next node, and after the last
node unconditionally. -/
def searchSlot (pre post : UInt32) : List JitNode → UInt32 → UInt32
  | [], asap => asap
  | [n], _ => slotAfter pre n
  | n :: m :: ns, _ =>
    if collidesAt (slotAfter pre n) pre post m then searchSlot pre post (m :: ns) (slotAfter pre n)
    else slotAfter pre n

/-- The departure time given to an immediate downlink: now plus a margin when
that collides with no node, the result of the search otherwise. -/
def asapCountUs (q : JitQueue) (timeUs pre post : UInt32) : UInt32 :=
  let asap := timeUs + 2 * txJitDelay
  if q.live.any (collidesAt asap pre post) then searchSlot pre post q.live asap else asap

/-- The pre-delay of a node in the final collision test: the beacon guard is
ignored for class A and class C downlinks. -/
def targetPreDelay (pktType : JitPktType) (n : JitNode) : UInt32 :=
  if (pktType = .downlinkClassA ∨ pktType = .downlinkClassC) ∧ n.pktType = .beacon then txStartDelay
  else n.preDelay

/-- The packet at `c` collides with the node, under the delays of the final
test. -/
def collidesWith (pktType : JitPktType) (c pre post : UInt32) (n : JitNode) : Bool :=
  jitCollisionTest c pre post n.pkt.countUs (targetPreDelay pktType n) n.postDelay

/-- The error a collision is reported as, by the type of the node in the way. -/
def collisionError : JitPktType → JitError
  | .beacon => .collisionBeacon
  | _ => .collisionPacket

/-- The packet `jit_enqueue` works with: an immediate downlink becomes a
timestamped one, departing at `c`. -/
def timedPacket (packet : LgwPktTx) (c : UInt32) : JitPktType → LgwPktTx
  | .downlinkClassC => { packet with txMode := Hal.timestamped, countUs := c }
  | _ => packet

/-- A node is written behind the nodes in use. -/
def JitQueue.push (q : JitQueue) (n : JitNode) : JitQueue where
  numPkt := q.numPkt + 1
  numBeacon := if n.pktType = .beacon then q.numBeacon + 1 else q.numBeacon
  nodes := q.nodes.set q.numPkt.toNat n
  length_nodes := by rw [List.length_set, q.length_nodes]

/-- `jit_enqueue`: the error, the queue, and the packet as the caller finds it
back. -/
def jitEnqueue (qs : Qsort JitNode) (toa : LgwPktTx → UInt32) (q : JitQueue) (timeUs : UInt32)
    (packet : LgwPktTx) (pktType : JitPktType) : JitError × JitQueue × LgwPktTx :=
  if q.numPkt.toNat = queueMax then (.full, q, packet)
  else
    let pre := pktType.preDelay
    let post := postDelayOf toa packet pktType
    let packet := timedPacket packet (asapCountUs q timeUs pre post) pktType
    if packet.countUs - timeUs ≤ txStartDelay + txMarginDelay + txJitDelay then
      (.tooLate, q, packet)
    else if (pktType = .downlinkClassA ∨ pktType = .downlinkClassB)
        ∧ txMaxAdvanceDelay < packet.countUs - timeUs then
      (.tooEarly, q, packet)
    else
      match q.live.find? (collidesWith pktType packet.countUs pre post) with
      | some n => (collisionError n.pktType, q, packet)
      | none => (.ok, jitSortQueue qs (q.push ⟨packet, pktType, pre, post⟩), packet)

/-! ## Dequeueing and peeking -/

/-- The removal `jit_dequeue` and `jit_peek` make: the counters go down, the
last node is moved over the removed one, its place is zeroed, and the queue is
sorted. -/
def JitQueue.remove (qs : Qsort JitNode) (q : JitQueue) (i : ℕ) : JitQueue :=
  let last := (q.numPkt - 1).toNat
  jitSortQueue qs
    { numPkt := q.numPkt - 1
      numBeacon := if (q.node i).pktType = .beacon then q.numBeacon - 1 else q.numBeacon
      nodes := (q.nodes.set i (q.node last)).set last JitNode.zero
      length_nodes := by rw [List.length_set, List.length_set, q.length_nodes] }

/-- `jit_dequeue`: the packet at an index, with its type. On an error nothing
is handed back. -/
def jitDequeue (qs : Qsort JitNode) (q : JitQueue) (index : ℤ) :
    JitError × JitQueue × Option (LgwPktTx × JitPktType) :=
  if index < 0 ∨ (queueMax : ℤ) ≤ index then (.invalid, q, none)
  else if q.numPkt = 0 then (.empty, q, none)
  else
    let n := q.node index.toNat
    (.ok, q.remove qs index.toNat, some (n.pkt, n.pktType))

@[simp] theorem JitQueue.numPkt_remove (qs : Qsort JitNode) (q : JitQueue) (i : ℕ) :
    (q.remove qs i).numPkt = q.numPkt - 1 :=
  numPkt_jitSortQueue qs _

/-- A packet this far ahead was missed, and is dropped. -/
def outdated (timeUs : UInt32) (n : JitNode) : Bool :=
  txMaxAdvanceDelay ≤ n.pkt.countUs - timeUs

/-- The search loop of `jit_peek`. `best` is the index of the packet to send
soonest, `none` for the initial -1, and `dropped` lists the purged nodes.

After a purge the source sets the index to 0 and continues, which the `for`
increments: the scan resumes at index 1, with `best` as it was. -/
def jitPeekLoop (qs : Qsort JitNode) (timeUs : UInt32) (q : JitQueue) (i : ℕ) (best : Option ℕ)
    (dropped : List JitNode) : JitQueue × Option ℕ × List JitNode :=
  if i < q.numPkt.toNat then
    let n := q.node i
    if outdated timeUs n then jitPeekLoop qs timeUs (q.remove qs i) 1 best (dropped ++ [n])
    else
      let best := match best with
        | none => some i
        | some b =>
          if n.pkt.countUs - timeUs < (q.node b).pkt.countUs - timeUs then some i else some b
      jitPeekLoop qs timeUs q (i + 1) best dropped
  else (q, best, dropped)
termination_by q.numPkt.toNat * 256 + (q.numPkt.toNat - i)
decreasing_by
  · have h1 : (1 : UInt8) ≤ q.numPkt := by rw [UInt8.le_iff_toNat_le]; change 1 ≤ _; omega
    have hlt := q.numPkt.toNat_lt
    rw [JitQueue.numPkt_remove, UInt8.toNat_sub_of_le _ _ h1]
    change (q.numPkt.toNat - 1) * 256 + _ < _
    omega
  · omega

/-- `jit_peek`: the error, the queue, the index to dequeue (`none` for -1) and
the packets dropped as outdated.

With no candidate the source reads the node before the array and then stores
-1 on either branch, so the result does not depend on what it read. -/
def jitPeek (qs : Qsort JitNode) (q : JitQueue) (timeUs : UInt32) :
    JitError × JitQueue × Option ℕ × List JitNode :=
  if q.numPkt = 0 then (.empty, q, none, [])
  else
    let (q', best, dropped) := jitPeekLoop qs timeUs q 0 none []
    let pktIdx := best.filter (fun b => (q'.node b).pkt.countUs - timeUs < txJitDelay)
    (.ok, q', pktIdx, dropped)
