import MeshBeacon.Duck

/-!
# The PapaDuck

The gateway of the mesh. It reads one frame at a time, drops it when its message
has been seen, and otherwise calls its callback and handles the packet by
destination and topic: it answers the requests of the protocol and relays the
rest.

A message is added to the filter as soon as it is found not to be in it, which is
before the packet is handled; and relaying looks it up again.
-/

variable {S J : Type*} {g : BloomGeometry} [LinearOrder S]

namespace PapaDuck

variable (lib : ArduinoJson J) (env : DuckEnv)

/-! ## Handling a packet -/

/-- `ifBroadcast`. -/
def ifBroadcast (rxPacket : CdpPacket) (duck : Duck S g) : Duck S g :=
  if rxPacket.topic = ReservedTopic.rreq then
    -- requests of this duck come back as echoes
    if rxPacket.sduid = duck.duid then duck
    else if rxPacket.hopCount = 0 then
      let rrepDoc := (RouteJson.ofDuids lib rxPacket.sduid duck.duid).addToPath lib duck.duid
      (duck.sendRouteResponse env rxPacket.sduid (rrepDoc.asString lib)).2.insertRoute env
        rxPacket.sduid rxPacket.sduid
    else duck
  else if rxPacket.topic = ReservedTopic.ping then (duck.sendPong env).2
  else if rxPacket.topic = ReservedTopic.pong then duck
  else (duck.broadcastPacket rxPacket).2

/-- `ifNotBroadcast`, a route request. -/
def ifRouteRequest (rxPacket : CdpPacket) (relay : Bool) (duck : Duck S g) : Option (Duck S g) :=
  match RouteJson.ofPacket lib rxPacket.data with
  | none => none
  | some rreqDoc =>
    let lastInPath := rreqDoc.getlastInPath.getD rxPacket.sduid
    if relay then
      let packet := { rxPacket with data := (rreqDoc.addToPath lib duck.duid).asString lib }
      duck.forward packet
    else some (duck.sendRouteResponse env lastInPath ((rreqDoc.convertReqToRep lib).asString lib)).2

/-- `ifNotBroadcast`, a route response. -/
def ifRouteResponse (rxPacket : CdpPacket) (duck : Duck S g) : Option (Duck S g) :=
  match RouteJson.ofPacket lib rxPacket.data with
  | none => none
  | some rrepDoc =>
    let lastInPath := rrepDoc.getlastInPath.getD rxPacket.sduid
    if rxPacket.sduid = duck.duid then some duck
    else if ¬ duck.LookupFits rrepDoc.getDestination then none
    else
      let (nextHop, routingTable) := getBestNextHop rrepDoc.getDestination duck.router.routingTable
      let duck := duck.withRoutes routingTable
      if rrepDoc.getDestination ≠ duck.duid ∧ nextHop.isSome
          ∧ nextHop ≠ some rxPacket.sduid.toList then
        match rrepDoc.popFromPath lib with
        | none => none
        | some doc =>
          some ((duck.sendRouteResponse env rrepDoc.getDestination
            ((doc.addToPath lib duck.duid).asString lib)).2.insertRoute env rxPacket.sduid
              lastInPath)
      else some (duck.insertRoute env rrepDoc.getOrigin lastInPath)

/-- `ifNotBroadcast`. -/
def ifNotBroadcast (rxPacket : CdpPacket) (relay : Bool) (duck : Duck S g) : Option (Duck S g) :=
  if rxPacket.topic = ReservedTopic.rreq then ifRouteRequest lib env rxPacket relay duck
  else if rxPacket.topic = ReservedTopic.rrep then ifRouteResponse lib env rxPacket duck
  else if rxPacket.topic = ReservedTopic.ping then some (duck.sendPong env).2
  else if rxPacket.topic = ReservedTopic.pong then some duck
  else if relay then duck.forward rxPacket
  else some duck

/-- `handleReceivedPacket`, behind the filter: the packet is handled by its
destination. -/
def handleByDestination (rxPacket : CdpPacket) (duck : Duck S g) : Option (Duck S g) :=
  if broadcastDuid = rxPacket.dduid then some (ifBroadcast lib env rxPacket duck)
  else if duck.duid = rxPacket.dduid ∨ rxPacket.dduid = papaduckDuid then
    ifNotBroadcast lib env rxPacket false duck
  else ifNotBroadcast lib env rxPacket true duck

/-- `handleReceivedPacket`, a packet of a new message: the message is added to the
filter, and the callback is called. -/
def noteReceived (rxPacket : CdpPacket) (duck : Duck S g) : Duck S g :=
  { duck.withFilter (duck.router.filter.bloomAdd rxPacket.muid.toList) with
    received := duck.received ++ [rxPacket] }

/-- `handleReceivedPacket`. There is no duck where the behaviour is undefined. -/
def handleReceivedPacket (duck : Duck S g) : Option (Duck S g) :=
  let (rxData, radio) := duck.duckRadio.readReceivedData
  let duck := { duck with duckRadio := radio }
  match rxData with
  | none => some duck
  | some bytes =>
    let rxPacket := CdpPacket.ofBuffer bytes
    if duck.router.filter.bloomCheck rxPacket.muid.toList then some duck
    else handleByDestination lib env rxPacket (noteReceived rxPacket duck)

/-! ## Relaying -/

/-- **The packet is to be relayed**: it is for every duck and not a request or
answer of the protocol, or it is for another duck to which there is a route. -/
def ToBeRelayed (rxPacket : CdpPacket) (duck : Duck S g) : Prop :=
  (rxPacket.dduid = broadcastDuid
      ∧ rxPacket.topic ∉ [ReservedTopic.rreq, ReservedTopic.ping, ReservedTopic.pong])
    ∨ (rxPacket.dduid ∉ [broadcastDuid, duck.duid, papaduckDuid]
      ∧ rxPacket.topic
        ∉ [ReservedTopic.rreq, ReservedTopic.rrep, ReservedTopic.ping, ReservedTopic.pong]
      ∧ (getBestNextHop rxPacket.dduid duck.router.routingTable).1.isSome)

instance (rxPacket : CdpPacket) (duck : Duck S g) : Decidable (ToBeRelayed rxPacket duck) :=
  inferInstanceAs (Decidable (_ ∨ _))

/-- The frame that relays a frame: one more hop. -/
def relayedFrame (bytes : List UInt8) : List UInt8 :=
  bytes.set hopCountPos (byteAt bytes hopCountPos + 1)

/-- Calling the function hands the radio exactly these frames. -/
def HandsOver (duck : Duck S g) (frames : List (List UInt8)) : Prop :=
  ∃ duck', handleReceivedPacket lib env duck = some duck'
    ∧ duck'.duckRadio.downlinkQueue.map DownlinkPacket.payload
      = duck.duckRadio.downlinkQueue.map DownlinkPacket.payload ++ frames

/-- **Relaying once**: the first reception of a frame hands over the frame with one
more hop, and another reception, by a duck whose filter knows the message, hands
over none. -/
structure RelaysOnce (duck : Duck S g) (bytes : List UInt8) : Prop where
  /-- The first reception. -/
  first : HandsOver lib env duck [relayedFrame bytes]
  /-- Another reception. -/
  second : ∀ again : Duck S g, again.duckRadio.readReceivedData.1 = some bytes →
    again.router.filter.bloomCheck (CdpPacket.ofBuffer bytes).muid.toList →
    HandsOver lib env again []

/-- A frame handled is one frame read, whatever the duck then does with it. -/
theorem handleReceivedPacket_of_read {duck : Duck S g} {bytes : List UInt8}
    (hread : duck.duckRadio.readReceivedData.1 = some bytes) :
    handleReceivedPacket lib env duck
      = if duck.router.filter.bloomCheck (CdpPacket.ofBuffer bytes).muid.toList then
          some { duck with duckRadio := duck.duckRadio.readReceivedData.2 }
        else
          handleByDestination lib env (CdpPacket.ofBuffer bytes)
            (noteReceived (CdpPacket.ofBuffer bytes)
              { duck with duckRadio := duck.duckRadio.readReceivedData.2 }) := by
  unfold handleReceivedPacket
  dsimp only
  rw [hread]

/-- **A packet to be relayed whose message is in the filter is not relayed.** -/
theorem handleByDestination_of_seen {rxPacket : CdpPacket} {duck duck' : Duck S g}
    (hrelay : ToBeRelayed rxPacket duck)
    (hseen : duck.router.filter.bloomCheck rxPacket.muid.toList)
    (h : handleByDestination lib env rxPacket duck = some duck') :
    duck'.duckRadio = duck.duckRadio := by
  unfold handleByDestination at h
  rcases hrelay with ⟨hdest, htopic⟩ | ⟨hdest, htopic, -⟩
  · simp only [List.mem_cons, List.not_mem_nil, or_false, not_or] at htopic
    rw [if_pos hdest.symm] at h
    unfold ifBroadcast at h
    rw [if_neg htopic.1, if_neg htopic.2.1, if_neg htopic.2.2,
      Duck.broadcastPacket_of_seen hseen] at h
    cases h
    rfl
  · simp only [List.mem_cons, List.not_mem_nil, or_false, not_or] at hdest htopic
    rw [if_neg (fun h => hdest.1 h.symm),
      if_neg (fun h => h.elim (fun h => hdest.2.1 h.symm) hdest.2.2)] at h
    unfold ifNotBroadcast at h
    rw [if_neg htopic.1, if_neg htopic.2.1, if_neg htopic.2.2.1, if_neg htopic.2.2.2,
      if_pos rfl] at h
    obtain ⟨-, rfl⟩ := Duck.forward_eq_some.mp h
    rw [Duck.forwardPacket_of_seen hseen]
    rfl

/-- A frame that is received for the first time and is to be relayed hands over no
frame: by the time it is relayed its message is in the filter. -/
theorem HandsOver.eq_nil {duck : Duck S g} {bytes : List UInt8} {frames : List (List UInt8)}
    (h : HandsOver lib env duck frames) (hread : duck.duckRadio.readReceivedData.1 = some bytes)
    (hnew : ¬ duck.router.filter.bloomCheck (CdpPacket.ofBuffer bytes).muid.toList)
    (hrelay : ToBeRelayed (CdpPacket.ofBuffer bytes) duck) : frames = [] := by
  obtain ⟨duck', heq, hframes⟩ := h
  have hnoted : ToBeRelayed (CdpPacket.ofBuffer bytes) (noteReceived (CdpPacket.ofBuffer bytes)
      { duck with duckRadio := duck.duckRadio.readReceivedData.2 }) := hrelay
  rw [handleReceivedPacket_of_read lib env hread, if_neg hnew] at heq
  have hradio :=
    handleByDestination_of_seen lib env hnoted (BloomFilter.bloomCheck_bloomAdd _ _) heq
  have hqueue : duck'.duckRadio.downlinkQueue = duck.duckRadio.downlinkQueue :=
    hradio ▸ DuckLoRa.downlinkQueue_readReceivedData duck.duckRadio
  rw [hqueue] at hframes
  exact List.self_eq_append_right.mp hframes

/-- **A PapaDuck relays nothing.** Whatever its state, a frame that is received for
the first time and is to be relayed is not. -/
theorem not_relaysOnce (duck : Duck S g) (bytes : List UInt8)
    (hread : duck.duckRadio.readReceivedData.1 = some bytes)
    (hnew : ¬ duck.router.filter.bloomCheck (CdpPacket.ofBuffer bytes).muid.toList)
    (hrelay : ToBeRelayed (CdpPacket.ofBuffer bytes) duck) :
    ¬ RelaysOnce lib env duck bytes := by
  intro h
  exact absurd (h.first.eq_nil lib env hread hnew hrelay) (List.cons_ne_nil _ _)

end PapaDuck

/-- A JSON library to which every text is a document without members. -/
def ArduinoJson.text : ArduinoJson (List UInt8) where
  empty := []
  deserialize := id
  getString _ _ := none
  getArray _ _ := []
  setString json _ _ := json
  setArray json _ _ := json
  serialize := id

namespace PapaDuck

/-- A frame of one byte for every duck, of the topic `status`. -/
def statusFrame : List UInt8 :=
  (CdpPacket.forSending broadcastDuid 0x10 [0x2A] (letterDuid 0x4D) 2).prepareForSending.2.buffer

/-- A PapaDuck that has just begun and has a frame waiting. -/
def newPapaDuck (frame : List UInt8) : Duck ℤ BloomGeometry.default where
  duckRadio := ⟨true, true, 0, 0, 0, [⟨frame, 922800000, 7, 0⟩], []⟩
  duid := letterDuid 0x50
  duckType := 1
  router :=
    { routingTable := RoutingTable.empty
      filter := ⟨Vector.replicate 312 0, Vector.replicate 312 0, true, 0, #v[17, 42]⟩
      networkState := .publicNetwork }
  received := []

/-- Its surroundings. -/
def env₀ : DuckEnv := ⟨fun _ => 0, 0, 0⟩

/-- A new PapaDuck does not relay a broadcast. -/
theorem not_relaysOnce_status :
    ¬ RelaysOnce ArduinoJson.text env₀ (newPapaDuck statusFrame) statusFrame :=
  not_relaysOnce ArduinoJson.text env₀ (newPapaDuck statusFrame) statusFrame (by decide +kernel)
    (by decide +kernel) (by decide +kernel)

/-- **A broadcast is not relayed**, not even by a new PapaDuck. -/
theorem broadcast_not_relayed :
    ¬ ∀ (duck : Duck ℤ BloomGeometry.default) (bytes : List UInt8),
      duck.duckRadio.readReceivedData.1 = some bytes →
      headerLength + 1 ≤ bytes.length → bytes.length ≤ packetLength →
      ¬ duck.router.filter.bloomCheck (CdpPacket.ofBuffer bytes).muid.toList →
      ToBeRelayed (CdpPacket.ofBuffer bytes) duck →
      RelaysOnce ArduinoJson.text env₀ duck bytes := by
  intro h
  have hread : (newPapaDuck statusFrame).duckRadio.readReceivedData.1 = some statusFrame := by
    decide +kernel
  have hrelay : ToBeRelayed (CdpPacket.ofBuffer statusFrame) (newPapaDuck statusFrame) := by
    decide +kernel
  have honce := h (newPapaDuck statusFrame) statusFrame hread (by decide +kernel)
    (by decide +kernel) (by decide +kernel) hrelay
  exact absurd (honce.first.eq_nil _ _ hread (by decide +kernel) hrelay) (List.cons_ne_nil _ _)

end PapaDuck
