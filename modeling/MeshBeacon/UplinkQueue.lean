import MeshBeacon.Duck
import MeshBeacon.Run

/-!
# The uplink queue of the bridge

The upstream thread hands every packet to `cdp_bridge_handle_uplink`. If a callback
is registered, the packet goes to it: `duck_rx_from_forwarder_cb` builds an
`UplinkPacket`, pushes it with `push_uplink_packet` and sets the receive flag. If
none is, the function builds the packet and puts it into the queue itself. Both ways
bound the queue by `MAX_QUEUE_SIZE`, each in its own code.

The ways differ in the flag only. What is popped is what has arrived, in order, as
far as it has not been dropped; and only the oldest of 50 is dropped.
-/

namespace CdpBridge

variable {F : Type*}

/-- `cdp_bridge::UplinkPacket`. The signal-to-noise ratio is a float that is only
copied. -/
structure UplinkPacket (F : Type*) where
  payload : List UInt8
  freqHz : UInt32
  datarateSf : UInt8
  rfChain : UInt8
  rssi : Int16
  snr : F
deriving DecidableEq

/-- The arguments of `cdp_bridge_handle_uplink`. -/
structure UplinkArgs (F : Type*) where
  payload : Option Block
  rssi : Int16
  snr : F
  freqHz : UInt32
  tmst : UInt32
  rfChain : UInt8
  bandwidthHz : UInt32
  datarateSf : UInt8
  coderate : UInt8

/-- What of `g_bridge` and of the radio is about uplinks. -/
structure UplinkState (F : Type*) where
  /-- `rx_callback`: none, or `duck_rx_from_forwarder_cb`. -/
  rxCallback : Bool
  uplinkQueue : List (UplinkPacket F)
  uplinkCount : UInt32
  /-- `DuckLoRa::receivedFlag`. -/
  receivedFlag : Bool

/-- `MAX_QUEUE_SIZE`. -/
def maxQueueSize : ℕ := 50

/-! ## The functions -/

/-- `push_uplink_packet`. -/
def pushUplinkPacket (pkt : UplinkPacket F) (queue : List (UplinkPacket F)) :
    List (UplinkPacket F) :=
  if queue.length ≥ maxQueueSize then queue.tail ++ [pkt] else queue ++ [pkt]

/-- `pop_uplink_packet`. -/
def popUplinkPacket (queue : List (UplinkPacket F)) :
    Option (UplinkPacket F) × List (UplinkPacket F) :=
  match queue with
  | [] => (none, [])
  | pkt :: rest => (some pkt, rest)

/-- `has_uplink_packet`. -/
def hasUplinkPacket (queue : List (UplinkPacket F)) : Bool := !queue.isEmpty

namespace UplinkState

/-- `duck_rx_from_forwarder_cb`: the packet is built, pushed, and announced. -/
def duckRxFromForwarderCb (b : Block) (u : UplinkArgs F) (s : UplinkState F) : UplinkState F :=
  let pkt : UplinkPacket F :=
    { payload := b.read
      freqHz := u.freqHz
      datarateSf := u.datarateSf
      rfChain := u.rfChain
      rssi := u.rssi
      snr := u.snr }
  { s with uplinkQueue := pushUplinkPacket pkt s.uplinkQueue, receivedFlag := true }

/-- The polling branch of `cdp_bridge_handle_uplink`: the queue is bounded before the
packet is built. -/
def storeForPolling (b : Block) (u : UplinkArgs F) (s : UplinkState F) : UplinkState F :=
  let queue := if s.uplinkQueue.length ≥ maxQueueSize then s.uplinkQueue.tail else s.uplinkQueue
  let pkt : UplinkPacket F :=
    { payload := b.read
      freqHz := u.freqHz
      datarateSf := u.datarateSf
      rfChain := u.rfChain
      rssi := u.rssi
      snr := u.snr }
  { s with uplinkQueue := queue ++ [pkt] }

/-- `cdp_bridge_handle_uplink`. -/
def cdpBridgeHandleUplink (u : UplinkArgs F) (s : UplinkState F) : UplinkState F :=
  match u.payload with
  | none => s
  | some b =>
    if b.size = 0 then s
    else
      let s := { s with uplinkCount := s.uplinkCount + 1 }
      if s.rxCallback then s.duckRxFromForwarderCb b u else s.storeForPolling b u

/-- `cdp_bridge_register_rx_callback`. -/
def cdpBridgeRegisterRxCallback (cb : Bool) (s : UplinkState F) : UplinkState F :=
  { s with rxCallback := cb }

/-- The bridge at startup. -/
def init : UplinkState F := ⟨false, [], 0, false⟩

end UplinkState

/-! ## What is received -/

/-- The packet a call brings, exactly as received: there is none without a payload. -/
def UplinkArgs.received (u : UplinkArgs F) : Option (UplinkPacket F) :=
  u.payload.bind fun b =>
    if b.size = 0 then none
    else some ⟨b.read, u.freqHz, u.datarateSf, u.rfChain, u.rssi, u.snr⟩

/-- **The two ways leave the same queue.** -/
theorem uplinkQueue_storeForPolling (b : Block) (u : UplinkArgs F) (s : UplinkState F) :
    (s.storeForPolling b u).uplinkQueue = (s.duckRxFromForwarderCb b u).uplinkQueue := by
  show (if _ then _ else _) ++ [_] = pushUplinkPacket _ _
  unfold pushUplinkPacket
  split_ifs <;> rfl

/-- What a call does to the queue, whichever way it goes. -/
theorem uplinkQueue_cdpBridgeHandleUplink (u : UplinkArgs F) (s : UplinkState F) :
    (s.cdpBridgeHandleUplink u).uplinkQueue
      = u.received.elim s.uplinkQueue fun pkt => pushUplinkPacket pkt s.uplinkQueue := by
  unfold UplinkState.cdpBridgeHandleUplink UplinkArgs.received
  cases u.payload with
  | none => rfl
  | some b =>
    rw [Option.bind_some]
    by_cases hsize : b.size = 0
    · rw [if_pos hsize]
      simp only [if_pos hsize]
      rfl
    · rw [if_neg hsize]
      simp only [if_neg hsize]
      cases s.rxCallback with
      | true => rfl
      | false => exact uplinkQueue_storeForPolling b u _

/-- A queue with room, or one that has just made room, is as long as before at most. -/
theorem length_pushUplinkPacket_le (pkt : UplinkPacket F) {queue : List (UplinkPacket F)}
    (h : queue.length ≤ maxQueueSize) : (pushUplinkPacket pkt queue).length ≤ maxQueueSize := by
  unfold pushUplinkPacket
  by_cases hfull : queue.length ≥ maxQueueSize
  · rw [if_pos hfull, List.length_append, List.length_tail, List.length_singleton]
    exact (Nat.sub_add_cancel ((by decide : 1 ≤ maxQueueSize).trans hfull)).trans_le h
  · rw [if_neg hfull, List.length_append, List.length_singleton]
    exact Nat.lt_of_not_ge hfull

/-! ## Runs -/

/-- A call of one of the functions. -/
inductive UplinkEvent (F : Type*)
  | registerRxCallback (cb : Bool)
  | handleUplink (u : UplinkArgs F)
  | popUplinkPacket

/-- How a packet has left the queue. -/
inductive Departure (F : Type*)
  /-- It has been returned by `pop_uplink_packet`. -/
  | popped (pkt : UplinkPacket F)
  /-- It has been dropped from a queue. -/
  | dropped (pkt : UplinkPacket F) (queue : List (UplinkPacket F))

/-- The packet that has left. -/
def Departure.packet : Departure F → UplinkPacket F
  | popped pkt => pkt
  | dropped pkt _ => pkt

/-- The bridge, the calls it has been given, and how packets have left its queue. -/
structure UplinkHistory (F : Type*) where
  bridge : UplinkState F
  arrived : List (UplinkArgs F)
  departed : List (Departure F)

/-- What a packet that arrives pushes out. -/
def pushedOut (queue : List (UplinkPacket F)) : List (Departure F) :=
  if queue.length ≥ maxQueueSize then queue.head?.toList.map fun pkt => .dropped pkt queue else []

namespace UplinkHistory

/-- The record at startup. -/
def init : UplinkHistory F := ⟨UplinkState.init, [], []⟩

/-- One call. -/
def step (h : UplinkHistory F) : UplinkEvent F → UplinkHistory F
  | .registerRxCallback cb => { h with bridge := h.bridge.cdpBridgeRegisterRxCallback cb }
  | .handleUplink u =>
    ⟨h.bridge.cdpBridgeHandleUplink u, h.arrived ++ [u],
      h.departed ++ u.received.elim [] fun _ => pushedOut h.bridge.uplinkQueue⟩
  | .popUplinkPacket =>
    let (pkt, queue) := popUplinkPacket h.bridge.uplinkQueue
    ⟨{ h.bridge with uplinkQueue := queue }, h.arrived, h.departed ++ pkt.toList.map .popped⟩

/-- What is asked of the queue: it is bounded; packets leave in the order they arrived
in, exactly as received; and one that is not popped was the oldest of 50. -/
structure Faithful (h : UplinkHistory F) : Prop where
  bounded : h.bridge.uplinkQueue.length ≤ maxQueueSize
  fifo : h.arrived.filterMap UplinkArgs.received
    = h.departed.map Departure.packet ++ h.bridge.uplinkQueue
  dropped : ∀ pkt queue, Departure.dropped pkt queue ∈ h.departed →
    queue.length = maxQueueSize ∧ queue.head? = some pkt

theorem faithful_init : (init : UplinkHistory F).Faithful where
  bounded := Nat.zero_le _
  fifo := rfl
  dropped := fun _ _ hmem => absurd hmem List.not_mem_nil

/-- Pushing conserves packets: what was in the queue, and the new one, is what is pushed
out and what is then in the queue. -/
theorem pushUplinkPacket_conserves (pkt : UplinkPacket F) (queue : List (UplinkPacket F)) :
    queue ++ [pkt] = (pushedOut queue).map Departure.packet ++ pushUplinkPacket pkt queue := by
  unfold pushedOut pushUplinkPacket
  by_cases hfull : queue.length ≥ maxQueueSize
  · rw [if_pos hfull, if_pos hfull]
    cases queue with
    | nil => exact absurd hfull (Nat.not_succ_le_zero 49)
    | cons first rest => rfl
  · rw [if_neg hfull, if_neg hfull]
    rfl

theorem pushedOut_oldest {queue : List (UplinkPacket F)} (h : queue.length ≤ maxQueueSize)
    {pkt : UplinkPacket F} {queue' : List (UplinkPacket F)}
    (hmem : Departure.dropped pkt queue' ∈ pushedOut queue) :
    queue'.length = maxQueueSize ∧ queue'.head? = some pkt := by
  unfold pushedOut at hmem
  by_cases hfull : queue.length ≥ maxQueueSize
  · rw [if_pos hfull] at hmem
    obtain ⟨pkt', hpkt', heq⟩ := List.mem_map.mp hmem
    obtain ⟨rfl, rfl⟩ := Departure.dropped.inj heq
    exact ⟨Nat.le_antisymm h hfull, Option.mem_toList.mp hpkt'⟩
  · rw [if_neg hfull] at hmem
    exact absurd hmem List.not_mem_nil

/-- **Conservation keeps a record faithful**: what was in the queue, and then arrives, is
what departs, and then is in the queue. -/
theorem Faithful.advance {h h' : UplinkHistory F} (hf : h.Faithful) {new : List (UplinkPacket F)}
    {gone : List (Departure F)}
    (harrived : h'.arrived.filterMap UplinkArgs.received
      = h.arrived.filterMap UplinkArgs.received ++ new)
    (hdeparted : h'.departed = h.departed ++ gone)
    (hqueue : h.bridge.uplinkQueue ++ new
      = gone.map Departure.packet ++ h'.bridge.uplinkQueue)
    (hbounded : h'.bridge.uplinkQueue.length ≤ maxQueueSize)
    (holdest : ∀ pkt queue, Departure.dropped pkt queue ∈ gone →
      queue.length = maxQueueSize ∧ queue.head? = some pkt) : h'.Faithful where
  bounded := hbounded
  fifo := by
    rw [harrived, hf.fifo, List.append_assoc, hqueue, hdeparted, List.map_append,
      List.append_assoc]
  dropped := by
    intro pkt queue hmem
    rw [hdeparted] at hmem
    obtain hmem | hmem := List.mem_append.mp hmem
    · exact hf.dropped pkt queue hmem
    · exact holdest pkt queue hmem

/-- Without arrivals and departures the queue stays as it is. -/
theorem Faithful.of_same {h h' : UplinkHistory F} (hf : h.Faithful)
    (harrived : h'.arrived.filterMap UplinkArgs.received
      = h.arrived.filterMap UplinkArgs.received)
    (hdeparted : h'.departed = h.departed)
    (hqueue : h'.bridge.uplinkQueue = h.bridge.uplinkQueue) : h'.Faithful :=
  ⟨hqueue ▸ hf.bounded, harrived.trans (hdeparted ▸ hqueue ▸ hf.fifo), hdeparted ▸ hf.dropped⟩

/-- A call that brings a packet is kept with it, and with what the packet pushes out. -/
theorem Faithful.handleUplink {h : UplinkHistory F} (hf : h.Faithful) (u : UplinkArgs F) :
    (h.step (.handleUplink u)).Faithful := by
  have hqueue := uplinkQueue_cdpBridgeHandleUplink u h.bridge
  cases hreceived : u.received with
  | none =>
    rw [hreceived] at hqueue
    -- what is no packet arrives nowhere
    refine hf.of_same ?_ ?_ hqueue
    · show (h.arrived ++ [u]).filterMap UplinkArgs.received = _
      rw [List.filterMap_append, List.filterMap_cons_none hreceived, List.filterMap_nil,
        List.append_nil]
    · show h.departed ++ u.received.elim [] _ = h.departed
      rw [hreceived]
      exact List.append_nil h.departed
  | some pkt =>
    rw [hreceived] at hqueue
    -- a packet is pushed, and the oldest of a full queue departs
    have hpushed : (h.step (.handleUplink u)).bridge.uplinkQueue
        = pushUplinkPacket pkt h.bridge.uplinkQueue := hqueue
    refine hf.advance (?_ : _ = _ ++ [pkt]) (?_ : _ = _ ++ pushedOut h.bridge.uplinkQueue)
      ?_ ?_ fun pkt' queue hmem => pushedOut_oldest hf.bounded hmem
    · show (h.arrived ++ [u]).filterMap UplinkArgs.received = _
      rw [List.filterMap_append, List.filterMap_cons_some hreceived, List.filterMap_nil]
    · show h.departed ++ u.received.elim [] _ = _
      rw [hreceived]
      rfl
    · rw [hpushed]
      exact pushUplinkPacket_conserves pkt h.bridge.uplinkQueue
    · rw [hpushed]
      exact length_pushUplinkPacket_le pkt hf.bounded

theorem Faithful.popUplinkPacket {h : UplinkHistory F} (hf : h.Faithful) :
    (h.step .popUplinkPacket).Faithful := by
  have hbounded := hf.bounded
  cases hqueue : h.bridge.uplinkQueue with
  | nil =>
    refine hf.of_same rfl ?_ ?_ <;>
      simp [UplinkHistory.step, CdpBridge.popUplinkPacket, hqueue]
  | cons pkt rest =>
    rw [hqueue] at hbounded
    have hrest : (h.step .popUplinkPacket).bridge.uplinkQueue = rest := by
      simp only [UplinkHistory.step, CdpBridge.popUplinkPacket, hqueue]
    refine hf.advance (List.append_nil _).symm (?_ : _ = _ ++ [.popped pkt]) ?_ ?_
      fun pkt' queue hmem => ?_
    · simp only [UplinkHistory.step, CdpBridge.popUplinkPacket, hqueue]
      rfl
    · rw [hrest, hqueue, List.append_nil]
      rfl
    · rw [hrest]
      exact (Nat.le_succ rest.length).trans hbounded
    · cases List.mem_singleton.mp hmem

/-- The step lemma. -/
theorem Faithful.step {h : UplinkHistory F} (hf : h.Faithful) (e : UplinkEvent F) :
    (h.step e).Faithful := by
  cases e with
  | registerRxCallback cb => exact hf.of_same rfl rfl rfl
  | handleUplink u => exact hf.handleUplink u
  | popUplinkPacket => exact hf.popUplinkPacket

/-! ## The two ways -/

/-- A packet arrives or is popped; no callback is registered or unregistered. -/
def isTraffic : UplinkEvent F → Bool
  | .registerRxCallback _ => false
  | .handleUplink _ => true
  | .popUplinkPacket => true

/-- The queue after a call, whichever way packets go. -/
def queueStep (queue : List (UplinkPacket F)) : UplinkEvent F → List (UplinkPacket F)
  | .registerRxCallback _ => queue
  | .handleUplink u => u.received.elim queue fun pkt => pushUplinkPacket pkt queue
  | .popUplinkPacket => (CdpBridge.popUplinkPacket queue).2

theorem uplinkQueue_step (h : UplinkHistory F) (e : UplinkEvent F) :
    (h.step e).bridge.uplinkQueue = queueStep h.bridge.uplinkQueue e := by
  cases e with
  | registerRxCallback cb => rfl
  | handleUplink u => exact uplinkQueue_cdpBridgeHandleUplink u h.bridge
  | popUplinkPacket => rfl

/-- **The queue depends on what arrives and is popped alone**, not on the way. -/
theorem uplinkQueue_final (h : UplinkHistory F) (es : List (UplinkEvent F)) :
    (Run.final step h es).bridge.uplinkQueue
      = Run.final queueStep h.bridge.uplinkQueue (es.filter isTraffic) := by
  induction es generalizing h with
  | nil => rfl
  | cons e es ih =>
    rw [Run.final_cons, ih, uplinkQueue_step]
    cases e with
    | registerRxCallback cb => rfl
    | handleUplink u => rfl
    | popUplinkPacket => rfl

/-- **The uplink queue is faithful, and the same on both ways**: in every run it is
bounded, in order and loses only the oldest of 50, and any other run with the same
arrivals and pops, whichever way its packets go, leaves the same queue. -/
theorem faithful_final (es : List (UplinkEvent F)) :
    (Run.final step init es).Faithful
      ∧ ∀ es' : List (UplinkEvent F), es'.filter isTraffic = es.filter isTraffic →
          (Run.final step init es').bridge.uplinkQueue
            = (Run.final step init es).bridge.uplinkQueue := by
  refine ⟨Run.invariant (P := Faithful) (fun _ e h => h.step e) es faithful_init, ?_⟩
  intro es' hes'
  rw [uplinkQueue_final, uplinkQueue_final, hes']

end UplinkHistory

end CdpBridge
