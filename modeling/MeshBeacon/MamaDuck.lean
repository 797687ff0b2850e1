import MeshBeacon.BloomMemory
import MeshBeacon.DuckSend

/-!
# The MamaDuck

The relay of the mesh. It handles every frame it reads, seen before or not, by
destination and topic: it answers the requests of the protocol, passes on the
answers of others to where it knows a route, and relays the rest. Its own messages
it sends as every duck does.

A duck is kept together with its history: what it has done about messages, in
order, each entry being one call of `bloom_add`. No operation reads the history.
It tells apart what the filter does not – messages the duck has assigned, sent,
relayed or heard – and the filter is what the history makes of the filter at the
start (`MamaDuck.Follows`).
-/

variable {S J : Type*} {g : BloomGeometry}

/-- `cmd`. -/
def ReservedTopic.cmd : UInt8 := 0x05

/-- `NET_JOIN_DELAY`. -/
def netJoinDelay : UInt64 := 15000

/-- What a duck does about a message. -/
inductive Deed where
  /-- Its identifier is assigned. -/
  | assigned (muid : Muid)
  /-- A packet of its own is given to the radio. -/
  | sent (muid : Muid)
  /-- The packet of another is given to the radio. -/
  | relayed (muid : Muid)
  /-- A packet received has been handled. -/
  | heard (muid : Muid)
deriving DecidableEq

/-- The message it is about. -/
def Deed.muid : Deed → Muid
  | assigned muid => muid
  | sent muid => muid
  | relayed muid => muid
  | heard muid => muid

/-- `MamaDuck`, with its history. -/
structure MamaDuck (S : Type*) (g : BloomGeometry) extends TimedDuck S g where
  history : List Deed

/-- `setNetworkState`: from searching a duck joins, from the public network it leaves,
and from disconnected it searches. -/
def DuckRouter.setNetworkState (newState : NetworkState) (router : DuckRouter S g) :
    DuckRouter S g :=
  match router.networkState, newState with
  | .searching, .publicNetwork => { router with networkState := .publicNetwork }
  | .publicNetwork, .disconnected => { router with networkState := .disconnected }
  | .publicNetwork, .searching => { router with networkState := .searching }
  | .disconnected, .searching => { router with networkState := .searching }
  | _, _ => router

namespace MamaDuck

/-- The duck after something that it did about messages. -/
def doing (deeds : List Deed) (duck : Duck S g) (mama : MamaDuck S g) : MamaDuck S g :=
  { mama with duck := duck, history := mama.history ++ deeds }

/-! ## Sending and relaying -/

section Send

variable (lib : ArduinoJson J) (env : DuckEnv) (millis : UInt64)

/-- `broadcastPacket`. -/
def broadcastPacket (packet : CdpPacket) (mama : MamaDuck S g) : MamaDuck S g :=
  mama.doing (if mama.duck.Relays packet then [.relayed packet.muid] else [])
    (mama.duck.broadcastPacket packet).2

/-- `forwardPacket`. -/
def forwardPacket [LinearOrder S] (packet : CdpPacket) (mama : MamaDuck S g) : MamaDuck S g :=
  mama.doing
    (if mama.duck.Routes packet ∧ mama.duck.Relays packet then [.relayed packet.muid] else [])
    (mama.duck.forwardPacket packet).2

/-- `forwardPacket`, where it is defined. -/
def forward [LinearOrder S] (packet : CdpPacket) (mama : MamaDuck S g) : Option (MamaDuck S g) :=
  if mama.duck.LookupFits packet.dduid then some (mama.forwardPacket packet) else none

theorem forward_eq_some [LinearOrder S] {packet : CdpPacket} {mama mama' : MamaDuck S g} :
    mama.forward packet = some mama'
      ↔ mama.duck.LookupFits packet.dduid ∧ mama.forwardPacket packet = mama' := by
  rw [forward, Option.ite_none_right_eq_some, Option.some_inj]

theorem isSome_forward [LinearOrder S] {packet : CdpPacket} {mama : MamaDuck S g} :
    (mama.forward packet).isSome ↔ mama.duck.LookupFits packet.dduid := by
  rw [Option.isSome_iff_exists]
  exact ⟨fun ⟨_, h⟩ => (forward_eq_some.mp h).1, fun h => ⟨_, forward_eq_some.mpr ⟨h, rfl⟩⟩⟩

/-- `sendReservedTopicData`. -/
def sendReservedTopicData (targetDevice : Duid) (topic : UInt8) (data : List UInt8)
    (mama : MamaDuck S g) : MamaDuck S g :=
  mama.doing
    (if mama.duck.Speaks topic then
      [.assigned (mama.duck.reservedPacket env targetDevice topic data).muid] else [])
    (mama.duck.sendReservedTopicData env targetDevice topic data).2

/-- `sendRouteResponse`. -/
def sendRouteResponse (targetDevice : Duid) (data : List UInt8) (mama : MamaDuck S g) :
    MamaDuck S g :=
  mama.sendReservedTopicData env targetDevice ReservedTopic.rrep data

/-- `sendRouteRequest`. -/
def sendRouteRequest (targetDevice : Duid) (json : RouteJson J) (mama : MamaDuck S g) :
    MamaDuck S g :=
  mama.sendReservedTopicData env targetDevice ReservedTopic.rreq (json.asString lib)

/-- `sendPong`, to every duck. -/
def sendPong (mama : MamaDuck S g) : MamaDuck S g :=
  mama.sendReservedTopicData env broadcastDuid ReservedTopic.pong [0]

/-- `sendPing`. -/
def sendPing (targetDevice : Duid) (mama : MamaDuck S g) : MamaDuck S g :=
  mama.sendReservedTopicData env targetDevice ReservedTopic.ping [0]

/-- `insertIntoRoutingTable`. -/
def insertRoute (deviceID nextHop : Duid) (mama : MamaDuck S g) : MamaDuck S g :=
  mama.doing [] (mama.duck.insertRoute env deviceID nextHop)

/-- `sendData`, data that is sent. -/
def sendPacket (txPacket : CdpPacket) (mama : MamaDuck S g) : MamaDuck S g :=
  let muid := (mama.toTimedDuck.assigned env txPacket).muid
  mama.doing (.assigned muid :: if txPacket.Sendable then [.sent muid] else [])
    (mama.toTimedDuck.sendPacket env txPacket).2.duck

/-- `sendData`, data there is no route for. -/
def requestRoute (targetDevice : Duid) (mama : MamaDuck S g) : MamaDuck S g :=
  if 30000 < millis - mama.lastRreqTime then
    let rreqDoc := (RouteJson.ofDuids lib targetDevice mama.duck.duid).addToPath lib mama.duck.duid
    { mama.sendRouteRequest lib env targetDevice rreqDoc with lastRreqTime := millis }
  else mama

/-- `sendData`, of a `std::string` or of an array of bytes, from a MamaDuck: both send
only where there is a route. -/
def sendData [LinearOrder S] (topic : UInt8) (data : List UInt8) (targetDevice : Duid)
    (mama : MamaDuck S g) : MamaDuck S g :=
  if topic < ReservedTopic.maxReserved then mama
  else if mama.duck.router.networkState = .publicNetwork then
    let txPacket := CdpPacket.forSending targetDevice topic data mama.duck.duid mama.duck.duckType
    let (nextHop, routingTable) := getBestNextHop targetDevice mama.duck.router.routingTable
    let mama := mama.doing [] (mama.duck.withRoutes routingTable)
    if nextHop.isSome ∨ targetDevice = papaduckDuid ∨ targetDevice = broadcastDuid then
      mama.sendPacket env txPacket
    else mama.requestRoute lib env millis targetDevice
  else mama

/-- `sendData`, where it is defined. -/
def send [LinearOrder S] (topic : UInt8) (data : List UInt8) (targetDevice : Duid)
    (mama : MamaDuck S g) : Option (MamaDuck S g) :=
  if mama.duck.SendDefined topic targetDevice then
    some (mama.sendData lib env millis topic data targetDevice)
  else none

theorem send_eq_some [LinearOrder S] {topic : UInt8} {data : List UInt8} {targetDevice : Duid}
    {mama mama' : MamaDuck S g} :
    mama.send lib env millis topic data targetDevice = some mama'
      ↔ mama.duck.SendDefined topic targetDevice
        ∧ mama.sendData lib env millis topic data targetDevice = mama' := by
  rw [send, Option.ite_none_right_eq_some, Option.some_inj]

/-- **The history changes nothing**: a MamaDuck sends data as every duck does that sends
only where there is a route. -/
theorem toTimedDuck_sendData [LinearOrder S] (topic : UInt8) (data : List UInt8)
    (targetDevice : Duid) (mama : MamaDuck S g) :
    (mama.sendData lib env millis topic data targetDevice).toTimedDuck
      = (mama.toTimedDuck.sendDataString lib env millis topic data targetDevice).2 := by
  unfold sendData TimedDuck.sendDataString TimedDuck.sendDataWith
  by_cases htopic : topic < ReservedTopic.maxReserved
  · rw [if_pos htopic, if_pos htopic]
  rw [if_neg htopic, if_neg htopic]
  by_cases hpublic : mama.duck.router.networkState = .publicNetwork
  · rw [if_pos hpublic, if_pos hpublic]
    dsimp only
    by_cases hsend : (getBestNextHop targetDevice mama.duck.router.routingTable).1.isSome
        ∨ targetDevice = papaduckDuid ∨ targetDevice = broadcastDuid
    · rw [if_pos hsend, if_pos (Or.inr hsend)]
      rfl
    · rw [if_neg hsend, if_neg (fun h => hsend (h.resolve_left Bool.false_ne_true))]
      unfold requestRoute TimedDuck.requestRoute
      by_cases hlate : 30000 < millis - mama.lastRreqTime
      · exact (congrArg toTimedDuck (if_pos hlate)).trans (if_pos hlate).symm
      · exact (congrArg toTimedDuck (if_neg hlate)).trans (if_neg hlate).symm
  · rw [if_neg hpublic, if_neg hpublic]

end Send

/-! ## Handling a packet -/

section Handle

variable (lib : ArduinoJson J) (env : DuckEnv)

/-- `ifBroadcast`. Commands are relayed as all other topics are. -/
def ifBroadcast (rxPacket : CdpPacket) (mama : MamaDuck S g) : MamaDuck S g :=
  if rxPacket.topic = ReservedTopic.rreq then
    if rxPacket.hopCount = 0 then
      let rrepDoc := (RouteJson.ofDuids lib rxPacket.sduid mama.duck.duid).addToPath lib
        mama.duck.duid
      (mama.sendRouteResponse env rxPacket.sduid (rrepDoc.asString lib)).insertRoute env
        rxPacket.sduid rxPacket.sduid
    else mama
  else if rxPacket.topic = ReservedTopic.ping then mama.sendPong env
  else if rxPacket.topic = ReservedTopic.pong then mama
  else mama.broadcastPacket rxPacket

variable [LinearOrder S]

/-- `ifNotBroadcast`, a route request. -/
def ifRouteRequest (rxPacket : CdpPacket) (relay : Bool) (mama : MamaDuck S g) :
    Option (MamaDuck S g) :=
  match RouteJson.ofPacket lib rxPacket.data with
  | none => none
  | some rreqDoc =>
    let lastInPath := rreqDoc.getlastInPath.getD rxPacket.sduid
    if relay then
      let packet :=
        { rxPacket with data := (rreqDoc.addToPath lib mama.duck.duid).asString lib }
      mama.forward packet
    else some (mama.sendRouteResponse env lastInPath ((rreqDoc.convertReqToRep lib).asString lib))

/-- `ifNotBroadcast`, a route response. The duck does not look whether it is its
own. -/
def ifRouteResponse (rxPacket : CdpPacket) (mama : MamaDuck S g) : Option (MamaDuck S g) :=
  match RouteJson.ofPacket lib rxPacket.data with
  | none => none
  | some rrepDoc =>
    let lastInPath := rrepDoc.getlastInPath.getD rxPacket.sduid
    if ¬ mama.duck.LookupFits rrepDoc.getDestination then none
    else
      let (nextHop, routingTable) :=
        getBestNextHop rrepDoc.getDestination mama.duck.router.routingTable
      let mama := mama.doing [] (mama.duck.withRoutes routingTable)
      if rrepDoc.getDestination ≠ mama.duck.duid ∧ nextHop.isSome
          ∧ nextHop ≠ some rxPacket.sduid.toList then
        match rrepDoc.popFromPath lib with
        | none => none
        | some doc =>
          some ((mama.sendRouteResponse env rrepDoc.getDestination
            ((doc.addToPath lib mama.duck.duid).asString lib)).insertRoute env rxPacket.sduid
              lastInPath)
      else some (mama.insertRoute env rrepDoc.getOrigin lastInPath)

/-- `ifNotBroadcast`. -/
def ifNotBroadcast (rxPacket : CdpPacket) (relay : Bool) (mama : MamaDuck S g) :
    Option (MamaDuck S g) :=
  if rxPacket.topic = ReservedTopic.rreq then mama.ifRouteRequest lib env rxPacket relay
  -- neither responses nor commands are looked at for whether they are to be relayed
  else if rxPacket.topic = ReservedTopic.rrep then mama.ifRouteResponse lib env rxPacket
  else if rxPacket.topic = ReservedTopic.ping then some (mama.sendPong env)
  else if rxPacket.topic = ReservedTopic.pong then some mama
  else if rxPacket.topic = ReservedTopic.cmd then some (mama.broadcastPacket rxPacket)
  else if relay then mama.forward rxPacket
  else some mama

/-- `handleReceivedPacket`, the packet by its destination. -/
def handleByDestination (rxPacket : CdpPacket) (mama : MamaDuck S g) : Option (MamaDuck S g) :=
  if broadcastDuid = rxPacket.dduid then some (mama.ifBroadcast lib env rxPacket)
  else if mama.duck.duid = rxPacket.dduid then mama.ifNotBroadcast lib env rxPacket false
  else mama.ifNotBroadcast lib env rxPacket true

/-- `handleReceivedPacket`, the end: the message is added to the filter. -/
def noteHeard (muid : Muid) (mama : MamaDuck S g) : MamaDuck S g :=
  mama.doing [.heard muid] (mama.duck.note muid)

/-- The duck after reading from its radio. -/
def withRadio (radio : DuckLoRa S) (mama : MamaDuck S g) : MamaDuck S g :=
  { mama with duck := { mama.duck with duckRadio := radio } }

/-- `handleReceivedPacket`. There is no duck where the behaviour is undefined. -/
def handleReceivedPacket (mama : MamaDuck S g) : Option (MamaDuck S g) :=
  let (rxData, radio) := mama.duck.duckRadio.readReceivedData
  let mama := mama.withRadio radio
  match rxData with
  | none => some mama
  | some bytes =>
    let rxPacket := CdpPacket.ofBuffer bytes
    (mama.handleByDestination lib env rxPacket).map (noteHeard rxPacket.muid)

end Handle

/-! ## The main loop -/

section Main

variable (lib : ArduinoJson J) (env : DuckEnv) (millis : UInt64)

/-- `setNetworkState`, of the duck's router. -/
def setNetworkState (newState : NetworkState) (mama : MamaDuck S g) : MamaDuck S g :=
  { mama with
    duck := { mama.duck with router := mama.duck.router.setNetworkState newState } }

/-- `checkForNetworks`: a route response to this duck. -/
def checkForNetworks (mama : MamaDuck S g) : Option CdpPacket × MamaDuck S g :=
  if mama.duck.duckRadio.receivedFlag then
    let (rxData, radio) := mama.duck.duckRadio.readReceivedData
    match rxData with
    | none => (none, mama.withRadio radio)
    | some bytes =>
      let rxPacket := CdpPacket.ofBuffer bytes
      if rxPacket.topic = ReservedTopic.rrep ∧ rxPacket.dduid = mama.duck.duid then
        (some rxPacket, mama.withRadio radio)
      else (none, mama.withRadio radio)
  else (none, mama)

/-- `attemptNetworkJoin`: the duck joins when it is answered, and asks every
`NET_JOIN_DELAY`. -/
def attemptNetworkJoin (mama : MamaDuck S g) : MamaDuck S g :=
  let (cdpNode, mama) := mama.checkForNetworks
  match cdpNode with
  | some cdpNode =>
    (mama.insertRoute env cdpNode.sduid cdpNode.sduid).setNetworkState .publicNetwork
  | none =>
    if netJoinDelay < millis - mama.lastRreqTime then
      let rreqDoc := (RouteJson.ofDuids lib broadcastDuid mama.duck.duid).addToPath lib
        mama.duck.duid
      { mama.sendRouteRequest lib env broadcastDuid rreqDoc with lastRreqTime := millis }
    else mama

/-- `main`. A duck that has found no network makes one. -/
def main [LinearOrder S] (mama : MamaDuck S g) : Option (MamaDuck S g) :=
  if mama.duck.router.networkState = .publicNetwork then
    if mama.duck.duckRadio.receivedFlag then mama.handleReceivedPacket lib env else some mama
  else
    let mama := mama.attemptNetworkJoin lib env millis
    -- a duck that has just joined is not searching any more
    if mama.duck.router.networkState = .searching ∧ netJoinDelay * 5 + 5000 < millis then
      some (mama.setNetworkState .publicNetwork)
    else some mama

end Main
end MamaDuck
