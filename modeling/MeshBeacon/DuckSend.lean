import MeshBeacon.BloomMemory
import MeshBeacon.DuckEffects
import MeshBeacon.PapaDuck

/-!
# Sending from a duck

An application sends data through its duck, to one device, to every PapaDuck or
to every duck. The duck sends when it has a route; otherwise it asks for one, at
most every 30 seconds, and drops the data. Both overloads of `sendData` share
this, but a PapaDuck sends without a route in one of them.

The identifier of a message is added to the filter when it is assigned, and once
more when the packet is given to the radio.
-/

variable {S J : Type*} {g : BloomGeometry}

/-- `max_reserved`: smaller topics are those of the protocol. -/
def ReservedTopic.maxReserved : UInt8 := 0x0F

/-- `DUCKPACKET_ERR_TOPIC_INVALID`. -/
def duckpacketErrTopicInvalid : ℤ := -4001

/-- `DuckType::PAPA`. -/
def DuckType.papa : UInt8 := 0x01

/-- A duck with the time it has last asked for a route. -/
structure TimedDuck (S : Type*) (g : BloomGeometry) where
  duck : Duck S g
  lastRreqTime : UInt64

/-- `sendRouteRequest`. -/
def Duck.sendRouteRequest (lib : ArduinoJson J) (env : DuckEnv) (targetDevice : Duid)
    (json : RouteJson J) (duck : Duck S g) : ℤ × Duck S g :=
  duck.sendReservedTopicData env targetDevice ReservedTopic.rreq (json.asString lib)

/-- `sendPing`, to every duck. -/
def Duck.sendPing (env : DuckEnv) (duck : Duck S g) : ℤ × Duck S g :=
  duck.sendReservedTopicData env broadcastDuid ReservedTopic.ping [0]

/-- **A call of `sendData` is defined**: where it looks for a route, the answer fits. -/
def Duck.SendDefined [LinearOrder S] (topic : UInt8) (targetDevice : Duid) (duck : Duck S g) :
    Prop :=
  topic < ReservedTopic.maxReserved ∨ duck.router.networkState ≠ .publicNetwork
    ∨ duck.LookupFits targetDevice

instance [LinearOrder S] (topic : UInt8) (targetDevice : Duid) (duck : Duck S g) :
    Decidable (duck.SendDefined topic targetDevice) :=
  inferInstanceAs (Decidable (_ ∨ _))

namespace TimedDuck

variable (lib : ArduinoJson J) (env : DuckEnv) (millis : UInt64)

/-- `sendData`, data that is sent: the message is assigned and the packet given to
the radio. -/
def sendPacket (txPacket : CdpPacket) (node : TimedDuck S g) : ℤ × TimedDuck S g :=
  let (txPacket, filter) := assignUniqueMessageId env.random node.duck.router.filter txPacket
  let (err, duck) := (node.duck.withFilter filter).sendToRadio txPacket
  (err, { node with duck := duck })

/-- `sendData`, data there is no route for. -/
def requestRoute (targetDevice : Duid) (node : TimedDuck S g) : TimedDuck S g :=
  if 30000 < millis - node.lastRreqTime then
    let rreqDoc := (RouteJson.ofDuids lib targetDevice node.duck.duid).addToPath lib node.duck.duid
    { duck := (node.duck.sendRouteRequest lib env targetDevice rreqDoc).2, lastRreqTime := millis }
  else node

/-- `sendData`, when the duck may always send or only where there is a route. The call is
taken to be defined. -/
def sendDataWith [LinearOrder S] (always : Bool) (topic : UInt8) (data : List UInt8)
    (targetDevice : Duid) (node : TimedDuck S g) : ℤ × TimedDuck S g :=
  if topic < ReservedTopic.maxReserved then (duckpacketErrTopicInvalid, node)
  else if node.duck.router.networkState = .publicNetwork then
    let txPacket := CdpPacket.forSending targetDevice topic data node.duck.duid node.duck.duckType
    let (nextHop, routingTable) := getBestNextHop targetDevice node.duck.router.routingTable
    let node := { node with duck := node.duck.withRoutes routingTable }
    if always ∨ nextHop.isSome ∨ targetDevice = papaduckDuid ∨ targetDevice = broadcastDuid then
      node.sendPacket env txPacket
    else (duckErrNone, node.requestRoute lib env millis targetDevice)
  else (duckErrNone, node)

/-- `sendData` of an array of bytes: a PapaDuck always sends. -/
def sendData [LinearOrder S] (topic : UInt8) (data : List UInt8) (targetDevice : Duid)
    (node : TimedDuck S g) : ℤ × TimedDuck S g :=
  node.sendDataWith lib env millis (node.duck.duckType = DuckType.papa) topic data targetDevice

/-- `sendData` of a `std::string`. -/
def sendDataString [LinearOrder S] (topic : UInt8) (data : List UInt8) (targetDevice : Duid)
    (node : TimedDuck S g) : ℤ × TimedDuck S g :=
  node.sendDataWith lib env millis false topic data targetDevice

/-! ## What they do -/

/-- The packet whose message is assigned. -/
def assigned (txPacket : CdpPacket) (node : TimedDuck S g) : CdpPacket :=
  { txPacket with muid := chooseMuid node.duck.router.filter env.random 100 0 }

/-- **Data that is sent** adds the message assigned, twice if its packet can be
built, and queues its frame then. -/
theorem does_sendPacket {txPacket : CdpPacket} {node : TimedDuck S g} (h : txPacket.Sendable) :
    Duck.Does [(node.assigned env txPacket).muid, (node.assigned env txPacket).muid]
      (node.duck.duckRadio.queued (node.assigned env txPacket).frame) node.duck
      (node.sendPacket env txPacket).2.duck :=
  (node.duck.does_note (node.assigned env txPacket).muid).trans
    ((node.duck.note (node.assigned env txPacket).muid).does_sendToRadio
      (node.assigned env txPacket) h)

/-- The code returned for it is that of the radio. -/
theorem fst_sendPacket {txPacket : CdpPacket} {node : TimedDuck S g} (h : txPacket.Sendable) :
    (node.sendPacket env txPacket).1
      = if node.duck.duckRadio.isSetup then duckErrNone else duckloraErrNotInitialized :=
  (node.duck.note (node.assigned env txPacket).muid).fst_sendToRadio
    (node.assigned env txPacket) h

/-- Data that does not fit is not sent, but its message is assigned. -/
theorem sendPacket_of_not_sendable {txPacket : CdpPacket} {node : TimedDuck S g}
    (h : ¬ txPacket.Sendable) : node.sendPacket env txPacket =
      (duckpacketErrSizeInvalid,
        { node with duck := node.duck.note (node.assigned env txPacket).muid }) := by
  have hsend := (node.duck.note (node.assigned env txPacket).muid).sendToRadio_of_not_sendable
    (node.assigned env txPacket) h
  exact congrArg (fun sent => (Prod.fst sent, { node with duck := Prod.snd sent })) hsend

/-! ## The two overloads

They differ where one sends and the other has no route. -/

section Overloads

variable [LinearOrder S] {topic : UInt8} {targetDevice : Duid}

/-- **The overloads decide alike**: the topic is reserved, the network is not public, the
duck is no PapaDuck, there is a route, or the target is every PapaDuck or every duck. -/
def DecidesAlike (topic : UInt8) (targetDevice : Duid) (node : TimedDuck S g) : Prop :=
  topic < ReservedTopic.maxReserved ∨ node.duck.router.networkState ≠ .publicNetwork
    ∨ node.duck.duckType ≠ DuckType.papa
    ∨ (getBestNextHop targetDevice node.duck.router.routingTable).1.isSome
    ∨ targetDevice = papaduckDuid ∨ targetDevice = broadcastDuid

instance (node : TimedDuck S g) : Decidable (node.DecidesAlike topic targetDevice) :=
  inferInstanceAs (Decidable (_ ∨ _))

theorem sendData_eq_of_decidesAlike {node : TimedDuck S g}
    (h : node.DecidesAlike topic targetDevice) (data : List UInt8) :
    node.sendData lib env millis topic data targetDevice
      = node.sendDataString lib env millis topic data targetDevice := by
  unfold sendData sendDataString sendDataWith
  dsimp only
  obtain htopic | hstate | htype | hroute := h
  · rw [if_pos htopic, if_pos htopic]
  · rw [if_neg hstate, if_neg hstate]
  · rw [decide_eq_false htype]
  · rw [if_pos (Or.inr hroute), if_pos (Or.inr hroute)]

/-- A PapaDuck without a route sends in one and asks for a route in the other. -/
theorem sendData_of_not_decidesAlike {node : TimedDuck S g}
    (h : ¬ node.DecidesAlike topic targetDevice) (data : List UInt8) :
    let looked := { node with
      duck := node.duck.withRoutes (getBestNextHop targetDevice node.duck.router.routingTable).2 }
    node.sendData lib env millis topic data targetDevice
        = looked.sendPacket env
          (CdpPacket.forSending targetDevice topic data node.duck.duid node.duck.duckType)
      ∧ node.sendDataString lib env millis topic data targetDevice
        = (duckErrNone, looked.requestRoute lib env millis targetDevice) := by
  obtain ⟨htopic, hstate, htype, hroute⟩ := not_or.mp h |>.imp_right fun h =>
    not_or.mp h |>.imp_right not_or.mp
  unfold sendData sendDataString sendDataWith
  dsimp only
  rw [if_neg htopic, if_neg htopic, if_pos (not_not.mp hstate), if_pos (not_not.mp hstate)]
  refine ⟨if_pos (Or.inl (decide_eq_true (not_not.mp htype))), if_neg (not_or.mpr ⟨?_, hroute⟩)⟩
  exact Bool.false_ne_true

omit [LinearOrder S] in
/-- Asking for a route leaves another duck than sending the data, or another time. -/
theorem sendPacket_ne_requestRoute (hmax : 2 ≤ g.maxMsgs) (txPacket : CdpPacket)
    (node : TimedDuck S g) : node.sendPacket env txPacket
      ≠ (duckErrNone, node.requestRoute lib env millis targetDevice) := by
  intro heq
  by_cases hbuilt : txPacket.Sendable
  · have htime : (node.sendPacket env txPacket).2.lastRreqTime = node.lastRreqTime := rfl
    rw [heq] at htime
    unfold requestRoute at heq htime
    dsimp only at htime
    split_ifs at heq htime with hdue
    · -- the time of the request is more than 30 seconds later
      have hzero : millis - node.lastRreqTime = 0 := by
        rw [show millis = node.lastRreqTime from htime, UInt64.sub_self]
      exact absurd (hzero ▸ hdue) (by decide)
    · -- the data has left its message in the filter
      have hfilter := (node.does_sendPacket env hbuilt).filter
      rw [heq] at hfilter
      exact BloomFilter.bloomAdd_bloomAdd_ne hmax _ _ _ hfilter.symm
  · rw [sendPacket_of_not_sendable env hbuilt] at heq
    have hcode : duckpacketErrSizeInvalid = duckErrNone := congrArg Prod.fst heq
    exact absurd hcode (by decide)

/-- **When the overloads have the same effect**: when they decide alike. The filter is the
one a router has. -/
theorem sendData_eq_sendDataString_iff (topic : UInt8) (data : List UInt8) (targetDevice : Duid)
    (node : TimedDuck S BloomGeometry.default) :
    node.sendData lib env millis topic data targetDevice
        = node.sendDataString lib env millis topic data targetDevice
      ↔ node.DecidesAlike topic targetDevice := by
  by_cases h : node.DecidesAlike topic targetDevice
  · exact iff_of_true (sendData_eq_of_decidesAlike lib env millis h data) h
  · obtain ⟨hsend, hrequest⟩ := sendData_of_not_decidesAlike lib env millis h data
    refine iff_of_false (fun heq => ?_) h
    rw [hsend, hrequest] at heq
    exact sendPacket_ne_requestRoute lib env millis (by decide) _ _ heq

/-- **The overloads differ** at a PapaDuck that has just begun and a device it knows no
route to. -/
theorem sendData_ne_sendDataString : ¬ ∀ (topic : UInt8) (data : List UInt8) (targetDevice : Duid)
    (node : TimedDuck ℤ BloomGeometry.default),
    node.sendData ArduinoJson.text PapaDuck.env₀ 0 topic data targetDevice
      = node.sendDataString ArduinoJson.text PapaDuck.env₀ 0 topic data targetDevice := by
  intro h
  have hnot : ¬ DecidesAlike 0x14 (letterDuid 0x41)
      (⟨PapaDuck.newPapaDuck [], 0⟩ : TimedDuck ℤ BloomGeometry.default) := by decide +kernel
  obtain ⟨hsend, hrequest⟩ :=
    sendData_of_not_decidesAlike ArduinoJson.text PapaDuck.env₀ 0 hnot [0x2A]
  have heq := h 0x14 [0x2A] (letterDuid 0x41) ⟨PapaDuck.newPapaDuck [], 0⟩
  rw [hsend, hrequest] at heq
  exact sendPacket_ne_requestRoute _ _ _ (by decide) _ _ heq

end Overloads

end TimedDuck
