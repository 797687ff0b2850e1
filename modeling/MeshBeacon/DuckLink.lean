import MeshBeacon.RouteResponse

/-!
# The DuckLink

The end device of the mesh. Of what it receives it relays nothing but commands for
every duck; beside that it answers requests and takes routes, and it handles every
frame it reads, seen before or not, like a MamaDuck.

Its part in the protocol of routes differs from that of the others in two places. It
answers a request for every duck with a document to which it does not add itself, so
that the document has no path; and it takes it for granted that the responses it
receives have one.
-/

variable {S J : Type*} {g : BloomGeometry}

/-- `DuckType::LINK`. -/
def DuckType.link : UInt8 := 0x03

namespace DuckLink

variable (lib : ArduinoJson J) (env : DuckEnv)

/-! ## Handling a packet -/

/-- `ifBroadcast`. -/
def ifBroadcast (rxPacket : CdpPacket) (duck : Duck S g) : Duck S g :=
  if rxPacket.topic = ReservedTopic.rreq then
    if rxPacket.hopCount = 0 then
      let rrepDoc := RouteJson.ofDuids lib rxPacket.sduid duck.duid
      let lastInPath := rrepDoc.getlastInPath.getD rxPacket.sduid
      (duck.sendRouteResponse env rxPacket.sduid (rrepDoc.asString lib)).2.insertRoute env
        rxPacket.sduid lastInPath
    else duck
  else if rxPacket.topic = ReservedTopic.ping then (duck.sendPong env).2
  else if rxPacket.topic = ReservedTopic.cmd then (duck.broadcastPacket rxPacket).2
  else duck

/-- `ifNotBroadcast`, a route request. That to another duck is read as well. -/
def ifRouteRequest (rxPacket : CdpPacket) (relay : Bool) (duck : Duck S g) : Option (Duck S g) :=
  match RouteJson.ofPacket lib rxPacket.data with
  | none => none
  | some rreqDoc =>
    if relay then some duck
    else
      let lastInPath := rreqDoc.getlastInPath.getD rxPacket.sduid
      some ((duck.sendRouteResponse env lastInPath
        ((rreqDoc.convertReqToRep lib).asString lib)).2.insertRoute env rxPacket.sduid lastInPath)

/-- `ifNotBroadcast`, a route response. The last duck of the path is taken without
looking whether there is one. -/
def ifRouteResponse (rxPacket : CdpPacket) (duck : Duck S g) : Option (Duck S g) :=
  match RouteJson.ofPacket lib rxPacket.data with
  | none => none
  | some rrepDoc =>
    match rrepDoc.getlastInPath with
    | none => none
    | some lastInPath => some (duck.insertRoute env rrepDoc.getOrigin lastInPath)

/-- `ifNotBroadcast`. -/
def ifNotBroadcast (rxPacket : CdpPacket) (relay : Bool) (duck : Duck S g) : Option (Duck S g) :=
  if rxPacket.topic = ReservedTopic.rreq then ifRouteRequest lib env rxPacket relay duck
  else if rxPacket.topic = ReservedTopic.rrep then ifRouteResponse lib env rxPacket duck
  else some duck

/-- `handleReceivedPacket`, the packet by its destination. -/
def handleByDestination (rxPacket : CdpPacket) (duck : Duck S g) : Option (Duck S g) :=
  if broadcastDuid = rxPacket.dduid then some (ifBroadcast lib env rxPacket duck)
  else if duck.duid = rxPacket.dduid then ifNotBroadcast lib env rxPacket false duck
  else ifNotBroadcast lib env rxPacket true duck

/-- `handleReceivedPacket`. There is no duck where the behaviour is undefined, or
where the value of an empty optional is asked for. -/
def handleReceivedPacket (duck : Duck S g) : Option (Duck S g) :=
  if duck.duckRadio.receivedFlag then
    let (rxData, radio) := duck.duckRadio.readReceivedData
    let duck := { duck with duckRadio := radio }
    match rxData with
    | none => some duck
    | some bytes =>
      let rxPacket := CdpPacket.ofBuffer bytes
      (handleByDestination lib env rxPacket duck).map fun duck => duck.note rxPacket.muid
  else some duck

/-! ## What it does -/

variable {lib env} {rxPacket : CdpPacket} {duck duck' : Duck S g}

/-- The packet with which it answers a request for every duck, with a document of two names
and no path. -/
def answer (lib : ArduinoJson J) (env : DuckEnv) (sduid : Duid) (duck : Duck S g) : CdpPacket :=
  duck.reservedPacket env sduid ReservedTopic.rrep
    ((RouteJson.ofDuids lib sduid duck.duid).asString lib)

theorem reacts_ifBroadcast (rxPacket : CdpPacket) (duck : Duck S g) :
    duck.Reacts (ifBroadcast lib env rxPacket duck) := by
  unfold ifBroadcast
  split_ifs
  · exact (duck.reacts_sendReservedTopicData env _ _ _).before (Duck.does_insertRoute env _ _ _)
  · exact (Duck.Does.refl duck).reacts
  · exact duck.reacts_sendReservedTopicData env _ _ _
  · exact duck.reacts_broadcastPacket rxPacket
  · exact (Duck.Does.refl duck).reacts

theorem reacts_ifRouteRequest {relay : Bool}
    (h : ifRouteRequest lib env rxPacket relay duck = some duck') : duck.Reacts duck' := by
  unfold ifRouteRequest at h
  split at h
  · exact absurd h nofun
  · split_ifs at h <;> cases h
    · exact (Duck.Does.refl duck).reacts
    · exact (duck.reacts_sendReservedTopicData env _ _ _).before (Duck.does_insertRoute env _ _ _)

/-- A response is only ever noted in the routes. -/
theorem does_ifRouteResponse (h : ifRouteResponse lib env rxPacket duck = some duck') :
    Duck.Does [] [] duck duck' := by
  unfold ifRouteResponse at h
  split at h
  · exact absurd h nofun
  · split at h
    · exact absurd h nofun
    · cases h
      exact Duck.does_insertRoute env _ _ _

/-- **Handling a packet is a reaction**: a DuckLink queues at most one frame. -/
theorem reacts_handleByDestination
    (h : handleByDestination lib env rxPacket duck = some duck') : duck.Reacts duck' := by
  have hnot : ∀ relay, ifNotBroadcast lib env rxPacket relay duck = some duck' →
      duck.Reacts duck' := by
    intro relay hrelay
    unfold ifNotBroadcast at hrelay
    split_ifs at hrelay
    · exact reacts_ifRouteRequest hrelay
    · exact (does_ifRouteResponse hrelay).reacts
    · cases hrelay
      exact (Duck.Does.refl duck).reacts
  unfold handleByDestination at h
  split_ifs at h
  · cases h
    exact reacts_ifBroadcast rxPacket duck
  · exact hnot false h
  · exact hnot true h

end DuckLink
