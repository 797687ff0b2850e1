import MeshBeacon.BloomFilter
import MeshBeacon.CdpPacket
import MeshBeacon.Downlink
import MeshBeacon.DuckRouter
import MeshBeacon.RouteJson

/-!
# Ducks

A duck has a radio, a router and an identifier. Its radio is the bridge: it
receives what the upstream thread has queued and sends by queueing for the
downstream thread.

What the ducks of all types share is here: reading a frame and checking it,
sending the frames of the protocol, and the two ways of relaying a packet, which
both look the message up in the filter first. Signal strengths and what is
computed of them in floating point are one score, of any type.
-/

variable {S : Type*} {g : BloomGeometry}

/-! ## The radio -/

/-- `UplinkPacket`. -/
structure UplinkPacket (S : Type*) where
  payload : List UInt8
  freqHz : UInt32
  datarateSf : UInt8
  /-- The score computed of the signal strength and the signal-to-noise ratio. -/
  signalScore : S

/-- `DuckLoRa`, with the queues of the bridge. -/
structure DuckLoRa (S : Type*) where
  isSetup : Bool
  receivedFlag : Bool
  lastRxFreqHz : UInt32
  lastRxSf : UInt8
  /-- The score of `last_rx_rssi` and `last_rx_snr`. -/
  lastRxScore : S
  uplinkQueue : List (UplinkPacket S)
  downlinkQueue : List DownlinkPacket

/-- `DUCKLORA_ERR_NOT_INITIALIZED`. -/
def duckloraErrNotInitialized : ℤ := -1054

namespace DuckLoRa

/-- `readReceivedData`, the frame taken from the bridge: none is an empty one. -/
def popUplinkPacket (radio : DuckLoRa S) : List UInt8 × DuckLoRa S :=
  match radio.uplinkQueue with
  | [] => ([], radio)
  | pkt :: queue =>
    (pkt.payload,
      { radio with
        uplinkQueue := queue
        lastRxFreqHz := pkt.freqHz
        lastRxSf := pkt.datarateSf
        lastRxScore := pkt.signalScore
        receivedFlag := if queue = [] then false else radio.receivedFlag })

/-- `readReceivedData`, the checks: there is a header, and the CRC is that of the
data. -/
def acceptable (packetBytes : List UInt8) : Bool :=
  dataCrcPos < packetBytes.length && dataPos ≤ packetBytes.length
    && crc32Calculate (packetBytes.drop dataPos)
      = DuckUtils.toUint32 (bytesAt 4 packetBytes dataCrcPos)

/-- `readReceivedData`. -/
def readReceivedData (radio : DuckLoRa S) : Option (List UInt8) × DuckLoRa S :=
  if radio.isSetup then
    let (packetBytes, radio) := radio.popUplinkPacket
    if acceptable packetBytes then (some packetBytes, radio) else (none, radio)
  else (none, radio)

/-- The parameters the radio sends frames with. -/
def downlinkInfo : DownlinkInfo where
  freqHz := cdpcfgRfLoraFreqHz
  tmst := 0
  txPowerDbm := 14
  bwHz := 125000
  sf := 7
  cr := 1
  rfChain := 0

/-- The block passed to the bridge: its size is that of the frame in 16 bits. -/
def blockOf (data : List UInt8) : Block :=
  ⟨data, UInt16.ofNat data.length, by
    rw [UInt16.toNat_ofNat']
    exact Nat.mod_le _ _⟩

/-- `sendData` and `startTransmitData`. What the bridge answers is not looked
at. -/
def sendData (data : List UInt8) (radio : DuckLoRa S) : ℤ × DuckLoRa S :=
  if radio.isSetup then
    (duckErrNone,
      { radio with
        downlinkQueue :=
          (cdpBridgeEnqueueDownlinkExt (some (blockOf data)) downlinkInfo radio.downlinkQueue).2 })
  else (duckloraErrNotInitialized, radio)

theorem downlinkQueue_readReceivedData (radio : DuckLoRa S) :
    radio.readReceivedData.2.downlinkQueue = radio.downlinkQueue := by
  unfold readReceivedData popUplinkPacket
  split_ifs
  · cases radio.uplinkQueue <;> dsimp only <;> split_ifs <;> rfl
  · rfl

end DuckLoRa

/-! ## The duck -/

/-- `NetworkState`. -/
inductive NetworkState where
  | searching
  | publicNetwork
  | disconnected
deriving DecidableEq

/-- `DuckRouter`. -/
structure DuckRouter (S : Type*) (g : BloomGeometry) where
  routingTable : RoutingTable S
  filter : BloomFilter g
  networkState : NetworkState

/-- `Duck`, with the packets its callback has been called with. -/
structure Duck (S : Type*) (g : BloomGeometry) where
  duckRadio : DuckLoRa S
  duid : Duid
  duckType : UInt8
  router : DuckRouter S g
  /-- The packets `recvDataCallback` has been called with. -/
  received : List CdpPacket

/-- What a call sees of the outside: random numbers and the clock. -/
structure DuckEnv where
  random : ℕ → ℕ
  /-- The time of an eviction. -/
  evictAt : UInt64
  /-- The time of a record. -/
  insertAt : UInt64

/-- The message identifier of the attempts of `assignUniqueMessageId`, of which
there are so many after the next. -/
def chooseMuid (filter : BloomFilter g) (random : ℕ → ℕ) : ℕ → ℕ → Muid
  | 0, attempt => DuckUtils.getRandomBytes 4 random (4 * attempt)
  | n + 1, attempt =>
    let muid := DuckUtils.getRandomBytes 4 random (4 * attempt)
    if filter.bloomCheck muid.toList then chooseMuid filter random n (attempt + 1) else muid

/-- `assignUniqueMessageId`: after 100 attempts that fail the next is taken as it
is. -/
def assignUniqueMessageId (random : ℕ → ℕ) (filter : BloomFilter g) (packet : CdpPacket) :
    CdpPacket × BloomFilter g :=
  let muid := chooseMuid filter random 100 0
  ({ packet with muid := muid }, filter.bloomAdd muid.toList)

namespace Duck

variable (env : DuckEnv)

/-- The duck with another filter. -/
def withFilter (duck : Duck S g) (filter : BloomFilter g) : Duck S g :=
  { duck with router := { duck.router with filter := filter } }

/-- The duck with another routing table. -/
def withRoutes (duck : Duck S g) (routingTable : RoutingTable S) : Duck S g :=
  { duck with router := { duck.router with routingTable := routingTable } }

/-- `insertIntoRoutingTable`, with the score of the last reception. -/
def insertRoute (deviceID nextHop : Duid) (duck : Duck S g) : Duck S g :=
  duck.withRoutes (insertIntoRoutingTable env.evictAt env.insertAt deviceID nextHop
    duck.duckRadio.lastRxScore duck.router.routingTable)

/-- `sendToRadio`: a packet that cannot be built is not sent, and its message is
not added to the filter. -/
def sendToRadio (packet : CdpPacket) (duck : Duck S g) : ℤ × Duck S g :=
  let (err, packet) := packet.prepareForSending
  if err ≠ duckErrNone then (err, duck)
  else
    let (err, radio) := duck.duckRadio.sendData packet.buffer
    (err, { duck.withFilter (duck.router.filter.bloomAdd packet.muid.toList) with
      duckRadio := radio })

/-- `broadcastPacket`: a message that has been seen is not sent. -/
def broadcastPacket (packet : CdpPacket) (duck : Duck S g) : ℤ × Duck S g :=
  if duck.router.filter.bloomCheck packet.muid.toList then (duckErrNone, duck)
  else duck.sendToRadio { packet with hopCount := packet.hopCount + 1 }

/-- The answer to looking up a duck fits. -/
def LookupFits [LinearOrder S] (target : Duid) (duck : Duck S g) : Prop :=
  AnswerFits target duck.router.routingTable

instance [LinearOrder S] (target : Duid) (duck : Duck S g) : Decidable (duck.LookupFits target) :=
  inferInstanceAs (Decidable (AnswerFits _ _))

/-- `forwardPacket`: a packet is relayed when its destination is in the table or
is every PapaDuck. The answer is taken to fit. -/
def forwardPacket [LinearOrder S] (packet : CdpPacket) (duck : Duck S g) : ℤ × Duck S g :=
  let (nextHop, routingTable) := getBestNextHop packet.dduid duck.router.routingTable
  let duck := duck.withRoutes routingTable
  if nextHop.isSome ∨ packet.dduid = papaduckDuid then duck.broadcastPacket packet
  else (duckErrNone, duck)

/-- `forwardPacket`, where it is defined. -/
def forward [LinearOrder S] (packet : CdpPacket) (duck : Duck S g) : Option (Duck S g) :=
  if duck.LookupFits packet.dduid then some (duck.forwardPacket packet).2 else none

/-- `sendReservedTopicData`. -/
def sendReservedTopicData (targetDevice : Duid) (topic : UInt8) (data : List UInt8)
    (duck : Duck S g) : ℤ × Duck S g :=
  if duck.router.networkState = .publicNetwork
      ∨ (duck.router.networkState = .searching ∧ topic = ReservedTopic.rreq) then
    let (txPacket, filter) := assignUniqueMessageId env.random duck.router.filter
      (CdpPacket.forSending targetDevice topic data duck.duid duck.duckType)
    let duck := duck.withFilter filter
    let (err, txPacket) := txPacket.prepareForSending
    if err ≠ duckErrNone then (err, duck)
    else
      let (err, radio) := duck.duckRadio.sendData txPacket.buffer
      (err, { duck with duckRadio := radio })
  else (duckErrNone, duck)

/-- `sendRouteResponse`. -/
def sendRouteResponse (targetDevice : Duid) (data : List UInt8) (duck : Duck S g) :
    ℤ × Duck S g :=
  duck.sendReservedTopicData env targetDevice ReservedTopic.rrep data

/-- `sendPong`, to every duck. -/
def sendPong (duck : Duck S g) : ℤ × Duck S g :=
  duck.sendReservedTopicData env broadcastDuid ReservedTopic.pong [0]

/-- A message that has been seen is not broadcast. -/
theorem broadcastPacket_of_seen {packet : CdpPacket} {duck : Duck S g}
    (h : duck.router.filter.bloomCheck packet.muid.toList) :
    duck.broadcastPacket packet = (duckErrNone, duck) := if_pos h

theorem forward_eq_some [LinearOrder S] {packet : CdpPacket} {duck duck' : Duck S g} :
    duck.forward packet = some duck'
      ↔ duck.LookupFits packet.dduid ∧ (duck.forwardPacket packet).2 = duck' := by
  rw [forward, Option.ite_none_right_eq_some, Option.some_inj]

theorem isSome_forward [LinearOrder S] {packet : CdpPacket} {duck : Duck S g} :
    (duck.forward packet).isSome ↔ duck.LookupFits packet.dduid := by
  rw [Option.isSome_iff_exists]
  exact ⟨fun ⟨_, h⟩ => (forward_eq_some.mp h).1, fun h => ⟨_, forward_eq_some.mpr ⟨h, rfl⟩⟩⟩

/-- A message that has been seen is not forwarded: only the table may change. -/
theorem forwardPacket_of_seen [LinearOrder S] {packet : CdpPacket} {duck : Duck S g}
    (h : duck.router.filter.bloomCheck packet.muid.toList) :
    duck.forwardPacket packet = (duckErrNone,
      duck.withRoutes (getBestNextHop packet.dduid duck.router.routingTable).2) := by
  unfold forwardPacket
  dsimp only
  split_ifs
  · exact broadcastPacket_of_seen h
  · rfl

end Duck
