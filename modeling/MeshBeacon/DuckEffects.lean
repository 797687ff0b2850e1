import MeshBeacon.Duck
import MeshBeacon.Run

/-!
# What the operations of a duck do

Whatever a duck does when it sends, answers or relays, it adds messages to its
filter and queues frames, and keeps its identifier, its type, the state of its
network and what it has yet to read. `Duck.Does` says which messages and which
frames, and composes: one operation after the other adds and queues the one's
and then the other's. There is one lemma for each operation, and nothing above
unfolds them again.
-/

variable {S : Type*} {g : BloomGeometry}

namespace CdpPacket

/-- `prepareForSending` builds a frame. -/
def Sendable (packet : CdpPacket) : Prop :=
  packet.data ≠ [] ∧ (UInt8.ofNat packet.data.length).toNat ≤ maxDataLength

instance (packet : CdpPacket) : Decidable packet.Sendable := inferInstanceAs (Decidable (_ ∧ _))

/-- The packet with one more hop. -/
def hop (packet : CdpPacket) : CdpPacket := { packet with hopCount := packet.hopCount + 1 }

/-- A packet is built into its frame or refused. -/
theorem prepareForSending_eq (packet : CdpPacket) : packet.prepareForSending =
    if packet.Sendable then (duckErrNone, { packet with buffer := packet.frame })
    else (duckpacketErrSizeInvalid, { packet with buffer := [] }) := by
  unfold prepareForSending Sendable
  simp only [ite_not, ← not_or, ← Nat.not_lt]

end CdpPacket

namespace DuckLoRa

/-- The frames the bridge queues when the radio is given one. -/
def queued (radio : DuckLoRa S) (data : List UInt8) : List DownlinkPacket :=
  if radio.isSetup then (cdpBridgeEnqueueDownlinkExt (some (blockOf data)) downlinkInfo []).2
  else []

theorem length_queued_le_one (radio : DuckLoRa S) (data : List UInt8) :
    (radio.queued data).length ≤ 1 := by
  unfold queued cdpBridgeEnqueueDownlinkExt
  dsimp only
  split_ifs
  · exact Nat.zero_le 1
  · exact Nat.le_refl 1
  · exact Nat.zero_le 1

/-- A radio that is set up queues a frame whose length fits 16 bits. -/
theorem queued_of_length {radio : DuckLoRa S} {data : List UInt8} (hsetup : radio.isSetup)
    (hpos : 0 < data.length) (hlt : data.length < 2 ^ 16) :
    radio.queued data = [⟨data, downlinkInfo⟩] := by
  have hsize : (UInt16.ofNat data.length).toNat = data.length := UInt16.toNat_ofNat_of_lt' hlt
  have hread : (blockOf data).read = data := by
    show data.take (UInt16.ofNat data.length).toNat = data
    rw [hsize, List.take_length]
  have hne : (blockOf data).size ≠ 0 := fun h => by
    rw [← UInt16.toNat_inj] at h
    exact absurd (hsize.symm.trans h) (Nat.pos_iff_ne_zero.mp hpos)
  unfold queued cdpBridgeEnqueueDownlinkExt
  dsimp only
  rw [if_pos hsetup, if_neg hne, hread, List.nil_append]

theorem sendData_eq (data : List UInt8) (radio : DuckLoRa S) :
    radio.sendData data = (if radio.isSetup then duckErrNone else duckloraErrNotInitialized,
      { radio with downlinkQueue := radio.downlinkQueue ++ radio.queued data }) := by
  unfold sendData queued cdpBridgeEnqueueDownlinkExt
  dsimp only
  split_ifs <;> simp

end DuckLoRa

namespace Duck

/-- **The duck has added these messages and queued these frames**, and is
otherwise as it was, but for its routes and the packets received. -/
structure Does (added : List Muid) (queued : List DownlinkPacket) (duck duck' : Duck S g) :
    Prop where
  isSetup : duck'.duckRadio.isSetup = duck.duckRadio.isSetup
  uplinkQueue : duck'.duckRadio.uplinkQueue = duck.duckRadio.uplinkQueue
  duid : duck'.duid = duck.duid
  duckType : duck'.duckType = duck.duckType
  networkState : duck'.router.networkState = duck.router.networkState
  filter : duck'.router.filter
    = Run.final BloomFilter.bloomAdd duck.router.filter (added.map Vector.toList)
  downlinkQueue : duck'.duckRadio.downlinkQueue = duck.duckRadio.downlinkQueue ++ queued

namespace Does

variable {added added' : List Muid} {queued queued' : List DownlinkPacket}
  {duck duck' duck'' : Duck S g}

theorem refl (duck : Duck S g) : Does [] [] duck duck :=
  ⟨rfl, rfl, rfl, rfl, rfl, rfl, (List.append_nil _).symm⟩

/-- **One operation after another.** -/
theorem trans (h : Does added queued duck duck') (h' : Does added' queued' duck' duck'') :
    Does (added ++ added') (queued ++ queued') duck duck'' where
  isSetup := h'.isSetup.trans h.isSetup
  uplinkQueue := h'.uplinkQueue.trans h.uplinkQueue
  duid := h'.duid.trans h.duid
  duckType := h'.duckType.trans h.duckType
  networkState := h'.networkState.trans h.networkState
  filter := by rw [h'.filter, h.filter, List.map_append, Run.final_append]
  downlinkQueue := by rw [h'.downlinkQueue, h.downlinkQueue, List.append_assoc]

theorem of_refl (h : Does [] [] duck duck') (h' : Does added queued duck' duck'') :
    Does added queued duck duck'' := h.trans h'

theorem then_refl (h : Does added queued duck duck') (h' : Does [] [] duck' duck'') :
    Does added queued duck duck'' := by
  have hboth := h.trans h'
  rwa [List.append_nil, List.append_nil] at hboth

end Does

variable (env : DuckEnv) (duck : Duck S g)

/-- Changing the routes adds no message and queues no frame. -/
theorem does_withRoutes (routingTable : RoutingTable S) :
    Does [] [] duck (duck.withRoutes routingTable) :=
  ⟨rfl, rfl, rfl, rfl, rfl, rfl, (List.append_nil _).symm⟩

theorem does_insertRoute (deviceID nextHop : Duid) :
    Does [] [] duck (duck.insertRoute env deviceID nextHop) := duck.does_withRoutes _

/-- The duck with a message added to its filter. -/
def note (muid : Muid) : Duck S g :=
  duck.withFilter (duck.router.filter.bloomAdd muid.toList)

theorem does_note (muid : Muid) : Does [muid] [] duck (duck.note muid) :=
  ⟨rfl, rfl, rfl, rfl, rfl, rfl, (List.append_nil _).symm⟩

theorem does_sendData (data : List UInt8) :
    Does [] (duck.duckRadio.queued data) duck
      { duck with duckRadio := (duck.duckRadio.sendData data).2 } := by
  rw [DuckLoRa.sendData_eq]
  exact ⟨rfl, rfl, rfl, rfl, rfl, rfl, rfl⟩

/-- **`sendToRadio`** adds the message of a packet that can be built and queues its
frame. -/
theorem does_sendToRadio (packet : CdpPacket) (h : packet.Sendable) :
    Does [packet.muid] (duck.duckRadio.queued packet.frame) duck (duck.sendToRadio packet).2 := by
  unfold sendToRadio
  rw [packet.prepareForSending_eq, if_pos h]
  exact (duck.does_note packet.muid).trans ((duck.note packet.muid).does_sendData packet.frame)

/-- The code `sendToRadio` returns then is that of the radio. -/
theorem fst_sendToRadio (packet : CdpPacket) (h : packet.Sendable) :
    (duck.sendToRadio packet).1
      = if duck.duckRadio.isSetup then duckErrNone else duckloraErrNotInitialized := by
  unfold sendToRadio
  rw [packet.prepareForSending_eq, if_pos h]
  exact congrArg Prod.fst (DuckLoRa.sendData_eq packet.frame duck.duckRadio)

/-- A packet that cannot be built is refused. -/
theorem sendToRadio_of_not_sendable (packet : CdpPacket) (h : ¬ packet.Sendable) :
    duck.sendToRadio packet = (duckpacketErrSizeInvalid, duck) := by
  unfold sendToRadio
  rw [packet.prepareForSending_eq, if_neg h]
  rfl

/-- **The packet is relayed**: its message has not been seen, and it can be built. -/
structure Relays (packet : CdpPacket) : Prop where
  new : ¬ duck.router.filter.bloomCheck packet.muid.toList
  sendable : packet.Sendable

instance (packet : CdpPacket) : Decidable (duck.Relays packet) :=
  decidable_of_iff (_ ∧ _) ⟨fun h => ⟨h.1, h.2⟩, fun h => ⟨h.new, h.sendable⟩⟩

/-- **`broadcastPacket`** adds the message of a packet that is relayed and queues
its frame with one more hop. -/
theorem does_broadcastPacket (packet : CdpPacket) (h : duck.Relays packet) :
    Does [packet.muid]
      (duck.duckRadio.queued packet.hop.frame) duck
      (duck.broadcastPacket packet).2 := by
  unfold broadcastPacket
  rw [if_neg h.new]
  exact duck.does_sendToRadio packet.hop h.sendable

/-- A packet that is not relayed leaves the duck as it is. -/
theorem broadcastPacket_of_not_relays (packet : CdpPacket) (h : ¬ duck.Relays packet) :
    (duck.broadcastPacket packet).2 = duck := by
  unfold broadcastPacket
  split_ifs with hseen
  · rfl
  · exact congrArg Prod.snd
      (duck.sendToRadio_of_not_sendable packet.hop fun hbuilt => h ⟨hseen, hbuilt⟩)

/-- **`forwardPacket`** takes the packet to be broadcast: its destination is in the
table or is every PapaDuck. -/
def Routes [LinearOrder S] (packet : CdpPacket) : Prop :=
  (getBestNextHop packet.dduid duck.router.routingTable).1.isSome ∨ packet.dduid = papaduckDuid

instance [LinearOrder S] (packet : CdpPacket) : Decidable (duck.Routes packet) :=
  inferInstanceAs (Decidable (_ ∨ _))

/-- The duck with the routes left when the destination of a packet has been looked
up. -/
def lookedUp [LinearOrder S] (packet : CdpPacket) : Duck S g :=
  duck.withRoutes (getBestNextHop packet.dduid duck.router.routingTable).2

theorem forwardPacket_snd [LinearOrder S] (packet : CdpPacket) : (duck.forwardPacket packet).2 =
    if duck.Routes packet then ((duck.lookedUp packet).broadcastPacket packet).2
    else duck.lookedUp packet :=
  apply_ite Prod.snd (duck.Routes packet) _ (duckErrNone, duck.lookedUp packet)

/-- **`forwardPacket`** relays a packet that it takes to be broadcast. -/
theorem does_forwardPacket [LinearOrder S] {packet : CdpPacket} (hroutes : duck.Routes packet)
    (h : duck.Relays packet) :
    Does [packet.muid]
      (duck.duckRadio.queued packet.hop.frame) duck
      (duck.forwardPacket packet).2 := by
  rw [forwardPacket_snd, if_pos hroutes]
  exact (duck.does_withRoutes _).of_refl
    ((duck.lookedUp packet).does_broadcastPacket packet ⟨h.new, h.sendable⟩)

theorem does_forwardPacket_of_not [LinearOrder S] {packet : CdpPacket}
    (h : ¬ (duck.Routes packet ∧ duck.Relays packet)) :
    Does [] [] duck (duck.forwardPacket packet).2 := by
  rw [forwardPacket_snd]
  split_ifs with hroutes
  · rw [(duck.lookedUp packet).broadcastPacket_of_not_relays packet fun hrelays =>
      h ⟨hroutes, hrelays.new, hrelays.sendable⟩]
    exact duck.does_withRoutes _
  · exact duck.does_withRoutes _

/-- **The frames of a topic are sent** in the state of the network. -/
def Speaks (topic : UInt8) : Prop :=
  duck.router.networkState = .publicNetwork
    ∨ (duck.router.networkState = .searching ∧ topic = ReservedTopic.rreq)

instance (topic : UInt8) : Decidable (duck.Speaks topic) := inferInstanceAs (Decidable (_ ∨ _))

/-- The packet `sendReservedTopicData` builds. -/
def reservedPacket (targetDevice : Duid) (topic : UInt8) (data : List UInt8) : CdpPacket :=
  (assignUniqueMessageId env.random duck.router.filter
    (CdpPacket.forSending targetDevice topic data duck.duid duck.duckType)).1

/-- **`sendReservedTopicData`** adds the message it assigns, and queues the frame of
a packet that can be built. -/
theorem does_sendReservedTopicData {topic : UInt8} (h : duck.Speaks topic) (targetDevice : Duid)
    (data : List UInt8) :
    let txPacket := duck.reservedPacket env targetDevice topic data
    Does [txPacket.muid]
      (if txPacket.Sendable then duck.duckRadio.queued txPacket.frame else []) duck
      (duck.sendReservedTopicData env targetDevice topic data).2 := by
  intro txPacket
  have hassigned := duck.does_note txPacket.muid
  set assigned := duck.note txPacket.muid
  have hsend : duck.sendReservedTopicData env targetDevice topic data =
      if txPacket.prepareForSending.1 ≠ duckErrNone then (txPacket.prepareForSending.1, assigned)
      else ((assigned.duckRadio.sendData txPacket.prepareForSending.2.buffer).1,
        { assigned with
          duckRadio := (assigned.duckRadio.sendData txPacket.prepareForSending.2.buffer).2 }) :=
    if_pos h
  rw [hsend, txPacket.prepareForSending_eq]
  by_cases hbuilt : txPacket.Sendable
  · rw [if_pos hbuilt, if_pos hbuilt, if_neg (not_not.mpr rfl)]
    exact hassigned.trans (assigned.does_sendData txPacket.frame)
  · rw [if_neg hbuilt, if_neg hbuilt,
      if_pos (show duckpacketErrSizeInvalid ≠ duckErrNone by decide)]
    exact hassigned

theorem sendReservedTopicData_of_not_speaks {topic : UInt8} (h : ¬ duck.Speaks topic)
    (targetDevice : Duid) (data : List UInt8) :
    duck.sendReservedTopicData env targetDevice topic data = (duckErrNone, duck) := if_neg h

/-! ## Reactions -/

/-- **A reaction** queues at most one frame. -/
def Reacts (duck duck' : Duck S g) : Prop :=
  ∃ added queued, Does added queued duck duck' ∧ queued.length ≤ 1

/-- Adding and queueing nothing is a reaction. -/
theorem Does.reacts {duck duck' : Duck S g} (h : Does [] [] duck duck') : Reacts duck duck' :=
  ⟨[], [], h, Nat.zero_le 1⟩

/-- What adds and queues nothing may come before a reaction. -/
theorem Reacts.after {duck duck' duck'' : Duck S g} (h' : Reacts duck' duck'')
    (h : Does [] [] duck duck') : Reacts duck duck'' := by
  obtain ⟨added, queued, hdoes, hlen⟩ := h'
  exact ⟨added, queued, h.of_refl hdoes, hlen⟩

theorem Reacts.before {duck duck' duck'' : Duck S g} (h : Reacts duck duck')
    (h' : Does [] [] duck' duck'') : Reacts duck duck'' := by
  obtain ⟨added, queued, hdoes, hlen⟩ := h
  exact ⟨added, queued, hdoes.then_refl h', hlen⟩

theorem reacts_broadcastPacket (packet : CdpPacket) :
    Reacts duck (duck.broadcastPacket packet).2 := by
  by_cases h : duck.Relays packet
  · exact ⟨_, _, duck.does_broadcastPacket packet h, DuckLoRa.length_queued_le_one _ _⟩
  · rw [duck.broadcastPacket_of_not_relays packet h]
    exact (Does.refl duck).reacts

theorem reacts_forwardPacket [LinearOrder S] (packet : CdpPacket) :
    Reacts duck (duck.forwardPacket packet).2 := by
  by_cases h : duck.Routes packet ∧ duck.Relays packet
  · exact ⟨_, _, duck.does_forwardPacket h.1 h.2, DuckLoRa.length_queued_le_one _ _⟩
  · exact (duck.does_forwardPacket_of_not h).reacts

theorem reacts_sendReservedTopicData (targetDevice : Duid) (topic : UInt8) (data : List UInt8) :
    Reacts duck (duck.sendReservedTopicData env targetDevice topic data).2 := by
  by_cases h : duck.Speaks topic
  · refine ⟨_, _, duck.does_sendReservedTopicData env h targetDevice data, ?_⟩
    split_ifs
    · exact DuckLoRa.length_queued_le_one _ _
    · exact Nat.zero_le 1
  · rw [duck.sendReservedTopicData_of_not_speaks env h]
    exact (Does.refl duck).reacts

end Duck
