import MeshBeacon.Beacon
import MeshBeacon.DownlinkLoops

/-!
# From the mesh to the radio

Three threads send. The mesh layer puts frames into the bridge; the downstream thread takes
them out, and puts them and the beacons into the queues of the two RF chains; and the
transmitting thread takes packets out of the queues when their time comes and hands them to
the concentrator. The locks make each call on a queue or on the bridge one step, so what the
three do together is an interleaving of such steps.

A thread is where its program is (`DownPc`, `JitPc`), and one step of it does what its program
does next, on what it then reads: the counter of the concentrator, the time reference, the
status of the radio. The readings are part of the event, so they may be anything.

Beside the state the system keeps books. They say what became of each frame that was accepted
and of each beacon that was queued; nothing reads them.
-/

open Hal Jit Gps Beacon

/-! ## What is sent -/

/-- Something to be sent: a frame of the mesh, or a beacon. -/
inductive Item where
  | frame (bytes : List UInt8)
  | beacon (pkt : LgwPktTx)
deriving DecidableEq

/-- What a packet of a queue sends. The frequency of a beacon does not count: it is corrected
when the beacon is taken out. -/
def itemOf (pkt : LgwPktTx) : JitPktType → Item
  | .beacon => .beacon { pkt with freqHz := 0 }
  | _ => .frame pkt.sent

/-- What a node holds. -/
def JitNode.item (n : JitNode) : Item := itemOf n.pkt n.pktType

/-- What a queue holds. -/
def JitQueue.items (q : JitQueue) : Multiset Item := (q.live.map JitNode.item : List Item)

/-! ## The threads -/

/-- Where the downstream thread is. -/
inductive DownPc where
  /-- At the top of the outer loop. -/
  | outer
  /-- At the condition of the inner loop. -/
  | inner
  /-- In the loop over the beacons, with `beacon_loop` and `retry`. -/
  | beacons (beaconLoop : UInt8) (retry : ℕ)
  /-- Behind it. -/
  | poll
deriving DecidableEq

/-- What the downstream thread reads in a step. -/
structure DownReading where
  /-- The counter of the concentrator. -/
  instcnt : UInt32
  /-- It is not yet time for another pull request. -/
  keepalive : Bool
  gpsRefValid : Bool
  xtalCorrectOk : Bool
  timeReferenceGps : Tref

/-- The variables of the downstream thread about beacons. -/
structure BeaconVars where
  beacon : BeaconPkt
  /-- `last_beacon_gps_time.tv_sec`. -/
  lastBeaconSec : ℤ
  measNbBeaconQueued : UInt32
  measNbBeaconRejected : UInt32

/-- Where the transmitting thread is: it goes over the RF chains. -/
inductive JitPc where
  | peek (i : ℕ)
  /-- An index was returned. -/
  | dequeue (i pktIndex : ℕ)
  /-- A packet was taken out. -/
  | send (i : ℕ) (pkt : LgwPktTx) (pktType : JitPktType)
deriving DecidableEq

/-- What the transmitting thread reads in a step. -/
structure JitReading where
  instcnt : UInt32
  /-- The correction of a frequency by `xtal_correct`. -/
  xtalCorrect : UInt32 → UInt32
  /-- What `lgw_status` says, if it does not fail. -/
  txStatus : Option UInt8
  /-- `lgw_send` succeeds. -/
  sent : Bool

/-- A packet handed to `lgw_send`. -/
structure Handed where
  /-- The chain in whose queue it was. -/
  chain : ℕ
  pkt : LgwPktTx
  pktType : JitPktType
  sent : Bool

/-- What a packet that was handed over sends. -/
def Handed.item (h : Handed) : Item := itemOf h.pkt h.pktType

/-- The books. -/
structure TransmitBooks where
  /-- The frames accepted by the bridge and the beacons queued. -/
  entered : Multiset Item
  /-- Frames taken out of the bridge of which no packet was built. -/
  lost : Multiset Item
  /-- Frames whose packet failed a check or was not accepted by the queue. -/
  refused : Multiset Item
  /-- What was dropped by a peek. -/
  purged : Multiset Item
  /-- What was given up since the concentrator was emitting. -/
  blocked : Multiset Item
  /-- The packets handed over, in order. -/
  handed : List Handed
  /-- The slots for which beacons were queued, in order, each with its packet. -/
  slots : List (ℤ × LgwPktTx)
  /-- The calls of `jit_dequeue` that failed. -/
  dequeueFailures : ℕ

/-- Empty books. -/
def TransmitBooks.empty : TransmitBooks := ⟨0, 0, 0, 0, 0, [], [], 0⟩

/-- The three threads with what they share. -/
structure TransmitPath where
  bridge : List DownlinkPacket
  /-- The variables of the downstream thread about frames, and the queues. -/
  down : DownState
  downPc : DownPc
  beacons : BeaconVars
  jitPc : JitPc
  books : TransmitBooks

/-- A step of one of the threads. -/
inductive TransmitEvent where
  /-- `cdp_bridge_enqueue_downlink_ext`, or without parameters `cdp_bridge_enqueue_downlink`. -/
  | mesh (payload : Option Block) (info : DownlinkInfo)
  | down (r : DownReading)
  | jit (r : JitReading)

namespace TransmitPath

/-- The threads have started: the buffer, and the concentrator time that was never read, are
whatever they were. -/
def start (beacon : BeaconPkt) (buf : List UInt8) (time : UInt32) : TransmitPath where
  bridge := []
  down := ⟨ThreadDown.init buf, time, fun _ => jitQueueInit, 0⟩
  downPc := .outer
  beacons := ⟨beacon, 0, 0, 0⟩
  jitPc := .peek 0
  books := .empty

/-! ## The mesh layer -/

/-- The mesh layer sends a frame. -/
def mesh (s : TransmitPath) (payload : Option Block) (info : DownlinkInfo) : TransmitPath :=
  let (rc, bridge) := cdpBridgeEnqueueDownlinkExt payload info s.bridge
  let items : List Item := (payload.map fun b => Item.frame b.read).toList
  { s with
    bridge := bridge
    books := if rc = 0 then { s.books with entered := items + s.books.entered } else s.books }

/-! ## The downstream thread -/

/-- The books after a pop: a frame that was there and of which no packet was built is lost, and
a packet that was not enqueued is refused. -/
def popped (books : TransmitBooks) (bridge : List DownlinkPacket) (handling : Option Handling) :
    TransmitBooks :=
  match bridge, handling with
  | [], none => books
  | pkt :: _, none => { books with lost := {Item.frame pkt.payload} + books.lost }
  | _, some h =>
    if h.accepted then books
    else { books with refused := {Item.frame h.txpkt.sent} + books.refused }

section Step

variable (conf : BeaconConf) (chain : ℕ → TxChain) (qs : Qsort JitNode) (toa : LgwPktTx → UInt32)

/-- A frame is taken from the bridge and handled, in one of the places. Between the pop and the
enqueueing nothing the thread does concerns another one. -/
def pollBridge (s : TransmitPath) (loop : DownlinkLoop) (r : DownReading) (pc : DownPc) :
    TransmitPath :=
  let (down, bridge, handling) := loop.handle chain qs toa r.instcnt s.down s.bridge
  { s with
    bridge := bridge
    down := down
    downPc := pc
    books := popped s.books s.bridge handling }

/-- The slot to try next. -/
def nextSec (s : TransmitPath) (r : DownReading) (retry : ℕ) : ℤ :=
  nextBeaconSec conf.beaconPeriod s.beacons.lastBeaconSec r.timeReferenceGps.gps.tvSec retry

/-- The beacon for it. -/
def nextBeacon (s : TransmitPath) (r : DownReading) (retry : ℕ) : BeaconPkt :=
  s.beacons.beacon.load conf r.timeReferenceGps (s.nextSec conf r retry)

/-- The loop over the beacons, once more: the beacon of the next slot is made and enqueued. -/
def tryBeacon (s : TransmitPath) (r : DownReading) (beaconLoop : UInt8) (retry : ℕ) :
    TransmitPath :=
  let beacon := s.nextBeacon conf r retry
  let (err, q, _) := jitEnqueue qs toa (s.down.jitQueue 0) r.instcnt beacon.pkt .beacon
  let down := { s.down with
    currentConcentratorTime := r.instcnt, jitQueue := Function.update s.down.jitQueue 0 q }
  if err = .ok then
    { s with
      down := down
      downPc := .beacons (beaconLoop - 1) 0
      beacons := { s.beacons with
        beacon := beacon
        lastBeaconSec := s.nextSec conf r retry
        measNbBeaconQueued := s.beacons.measNbBeaconQueued + 1 }
      books := { s.books with
        entered := {itemOf beacon.pkt .beacon} + s.books.entered
        slots := s.books.slots ++ [(s.nextSec conf r retry, beacon.pkt)] } }
  else
    { s with
      down := down
      downPc := .beacons beaconLoop (retry + 1)
      beacons := { s.beacons with
        beacon := beacon
        measNbBeaconRejected := if err = .collisionBeacon then s.beacons.measNbBeaconRejected
          else s.beacons.measNbBeaconRejected + 1 } }

/-- `thread_down`, one step. -/
def threadDown (s : TransmitPath) (r : DownReading) : TransmitPath :=
  match s.downPc with
  | .outer => s.pollBridge chain qs toa .outer r .inner
  | .inner =>
    if r.keepalive then
      { s with downPc := .beacons (jitNumBeaconInQueue - (s.down.jitQueue 0).numBeacon) 0 }
    else { s with downPc := .outer }
  | .beacons beaconLoop retry =>
    if beaconLoop ≠ 0 ∧ conf.beaconPeriod ≠ 0 then
      if r.gpsRefValid ∧ r.xtalCorrectOk then s.tryBeacon conf qs toa r beaconLoop retry
      else { s with downPc := .poll }
    else { s with downPc := .poll }
  | .poll => s.pollBridge chain qs toa .inner r .inner

/-! ## The transmitting thread -/

/-- The next RF chain. -/
def nextChain (i : ℕ) : ℕ := if i + 1 < rfChainNb then i + 1 else 0

/-- The packet taken out, with the frequency of a beacon corrected. -/
def corrected (r : JitReading) (pkt : LgwPktTx) : JitPktType → LgwPktTx
  | .beacon => { pkt with freqHz := r.xtalCorrect pkt.freqHz }
  | _ => pkt

/-- Where the thread goes after a peek at the queue of a chain. -/
def peeked (i : ℕ) : JitError → Option ℕ → JitPc
  | .ok, some pktIndex => .dequeue i pktIndex
  | _, _ => .peek (nextChain i)

/-- Where it goes after a dequeueing. -/
def dequeued (r : JitReading) (i : ℕ) : Option (LgwPktTx × JitPktType) → JitPc
  | some (pkt, pktType) => .send i (corrected r pkt pktType) pktType
  | none => .peek (nextChain i)

/-- `thread_jit`, one step. -/
def threadJit (s : TransmitPath) (r : JitReading) : TransmitPath :=
  match s.jitPc with
  | .peek i =>
    let (err, q, pktIndex, dropped) := jitPeek qs (s.down.jitQueue i) r.instcnt
    { s with
      down := { s.down with jitQueue := Function.update s.down.jitQueue i q }
      jitPc := peeked i err pktIndex
      books := { s.books with
        purged := (dropped.map JitNode.item : List Item) + s.books.purged } }
  | .dequeue i pktIndex =>
    let (_, q, entry) := jitDequeue qs (s.down.jitQueue i) pktIndex
    { s with
      down := { s.down with jitQueue := Function.update s.down.jitQueue i q }
      jitPc := dequeued r i entry
      books := if entry.isSome then s.books
        else { s.books with dequeueFailures := s.books.dequeueFailures + 1 } }
  | .send i pkt pktType =>
    { s with
      jitPc := .peek (nextChain i)
      books := if r.txStatus = some txEmitting then
          { s.books with blocked := {itemOf pkt pktType} + s.books.blocked }
        else { s.books with handed := s.books.handed ++ [⟨i, pkt, pktType, r.sent⟩] } }

/-- One step. -/
def step (s : TransmitPath) : TransmitEvent → TransmitPath
  | .mesh payload info => s.mesh payload info
  | .down r => s.threadDown conf chain qs toa r
  | .jit r => s.threadJit qs r

end Step

/-! ## Where the items are -/

/-- What the transmitting thread holds. -/
def held : JitPc → Multiset Item
  | .send _ pkt pktType => {itemOf pkt pktType}
  | _ => 0

/-- What waits in the bridge. -/
def waiting (bridge : List DownlinkPacket) : Multiset Item :=
  (bridge.map fun pkt => Item.frame pkt.payload : List Item)

/-- What was handed over. -/
def handedOver (handed : List Handed) : Multiset Item := (handed.map Handed.item : List Item)

/-- What is stored in the queues. -/
def stored (queues : ℕ → JitQueue) : Multiset Item := (queues 0).items + (queues 1).items

/-- **The books balance**: what entered is where it waits, is stored or held, or went one of
the ways there are out of the path. -/
def Balanced (s : TransmitPath) : Prop :=
  s.books.entered
    = waiting s.bridge + s.books.lost + s.books.refused + stored s.down.jitQueue + s.books.purged
      + held s.jitPc + s.books.blocked + handedOver s.books.handed

end TransmitPath
