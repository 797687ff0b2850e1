import MeshBeacon.MamaRelay
import MeshBeacon.Mesh

/-!
# What ducks emit

A frame that a duck queues is built of a packet: one of its own, which names it as the source and
has no hops, or one it has read, with one more hop. The requests for a route are the exception,
which a duck relays with itself added to the path.

Each operation of a duck is said to emit so many packets, of these two kinds, and operations
compose. A MamaDuck notes in its history what it emits, and a PapaDuck, which has every message in
its filter by the time it would relay it, emits packets of its own only.
-/

variable {S J : Type*} {g : BloomGeometry}

/-! ## Packets and messages -/

namespace CdpPacket

/-- **One packet is relayed as another**: with one more hop, and with the same data unless that
is the path of a request. -/
structure RelayedAs (rx tx : CdpPacket) : Prop where
  sduid : tx.sduid = rx.sduid
  dduid : tx.dduid = rx.dduid
  muid : tx.muid = rx.muid
  topic : tx.topic = rx.topic
  duckType : tx.duckType = rx.duckType
  hopCount : tx.hopCount = rx.hopCount + 1
  data : rx.topic ≠ ReservedTopic.rreq → tx.data = rx.data

theorem relayedAs_hop (packet : CdpPacket) : packet.RelayedAs packet.hop :=
  ⟨rfl, rfl, rfl, rfl, rfl, rfl, fun _ => rfl⟩

/-- A request with another path, and one more hop. -/
theorem relayedAs_rreq {packet : CdpPacket} (h : packet.topic = ReservedTopic.rreq)
    (data : List UInt8) : packet.RelayedAs ({ packet with data := data } : CdpPacket).hop :=
  ⟨rfl, rfl, rfl, rfl, rfl, rfl, fun hne => absurd h hne⟩

end CdpPacket

/-- A packet that is emitted. -/
inductive Emission where
  | own (packet : CdpPacket)
  | relay (packet : CdpPacket)

namespace Emission

/-- The packet it is built of. -/
def packet : Emission → CdpPacket
  | own packet => packet
  | relay packet => packet

/-- The frame: what the length in 16 bits takes of it. -/
def frame (e : Emission) : List UInt8 :=
  e.packet.frame.take (UInt16.ofNat e.packet.frame.length).toNat

/-- What a MamaDuck notes. -/
def deed : Emission → Deed
  | own packet => .assigned packet.muid
  | relay packet => .relayed packet.muid

theorem muid_deed (e : Emission) : e.deed.muid = e.packet.muid := by cases e <;> rfl

/-- **It is what the duck may emit**: a packet of its own, or one it has heard. -/
def Sound (duid : Duid) (heard : CdpPacket → Prop) : Emission → Prop
  | own packet => packet.sduid = duid ∧ packet.hopCount = 0
  | relay packet => ∃ rx, heard rx ∧ rx.RelayedAs packet

/-- A packet of its own, whatever it has heard. -/
def Own (duid : Duid) (e : Emission) : Prop :=
  ∃ packet, e = own packet ∧ packet.sduid = duid ∧ packet.hopCount = 0

theorem Own.sound {duid : Duid} {heard : CdpPacket → Prop} {e : Emission} (h : e.Own duid) :
    e.Sound duid heard := by
  obtain ⟨packet, rfl, hown⟩ := h
  exact hown

end Emission

/-- What the bridge queues of a packet is its frame, or nothing. -/
theorem DuckLoRa.payload_queued (radio : DuckLoRa S) (e : Emission) :
    ∃ es : List Emission, es.Sublist [e]
      ∧ (radio.queued e.packet.frame).map DownlinkPacket.payload = es.map Emission.frame := by
  unfold queued cdpBridgeEnqueueDownlinkExt
  dsimp only
  split_ifs
  · exact ⟨[], List.nil_sublist _, rfl⟩
  · exact ⟨[e], List.Sublist.refl _, rfl⟩
  · exact ⟨[], List.nil_sublist _, rfl⟩

/-! ## Ducks of all types -/

namespace Duck

/-- The frames a duck has queued. -/
def frames (duck : Duck S g) : List (List UInt8) :=
  duck.duckRadio.downlinkQueue.map DownlinkPacket.payload

/-- **The duck has emitted these packets**, and is otherwise the duck it was to its application. -/
structure Emits (es : List Emission) (duck duck' : Duck S g) : Prop where
  duid : duck'.duid = duck.duid
  received : duck'.received = duck.received
  frames : duck'.frames = duck.frames ++ es.map Emission.frame

namespace Emits

variable {es es' : List Emission} {duck duck' duck'' : Duck S g}

theorem refl (duck : Duck S g) : Emits [] duck duck :=
  ⟨rfl, rfl, (List.append_nil _).symm⟩

/-- **One operation after another.** -/
theorem trans (h : Emits es duck duck') (h' : Emits es' duck' duck'') :
    Emits (es ++ es') duck duck'' where
  duid := h'.duid.trans h.duid
  received := h'.received.trans h.received
  frames := by rw [h'.frames, h.frames, List.map_append, List.append_assoc]

end Emits

variable (env : DuckEnv) (duck : Duck S g)

theorem emits_withRoutes (routingTable : RoutingTable S) :
    Emits [] duck (duck.withRoutes routingTable) := ⟨rfl, rfl, (List.append_nil _).symm⟩

theorem emits_insertRoute (deviceID nextHop : Duid) :
    Emits [] duck (duck.insertRoute env deviceID nextHop) := duck.emits_withRoutes _

/-- **`sendToRadio`** emits the packet, or nothing. -/
theorem emits_sendToRadio (e : Emission) :
    ∃ es, es.Sublist [e] ∧ Emits es duck (duck.sendToRadio e.packet).2 := by
  by_cases h : e.packet.Sendable
  · obtain ⟨es, hsub, hframes⟩ := duck.duckRadio.payload_queued e
    have hdoes := duck.does_sendToRadio e.packet h
    refine ⟨es, hsub, hdoes.duid, ?_, ?_⟩
    · unfold sendToRadio
      dsimp only
      split_ifs <;> rfl
    · show (duck.sendToRadio e.packet).2.duckRadio.downlinkQueue.map _ = _
      rw [hdoes.downlinkQueue, List.map_append, hframes]
      rfl
  · rw [duck.sendToRadio_of_not_sendable e.packet h]
    exact ⟨[], List.nil_sublist _, Emits.refl duck⟩

/-- **`broadcastPacket`** emits the packet with one more hop, if its message is new. -/
theorem emits_broadcastPacket (packet : CdpPacket) :
    ∃ es, es.Sublist [.relay packet.hop] ∧ Emits es duck (duck.broadcastPacket packet).2 := by
  by_cases h : duck.router.filter.bloomCheck packet.muid.toList
  · rw [Duck.broadcastPacket_of_seen h]
    exact ⟨[], List.nil_sublist _, Emits.refl duck⟩
  · rw [Duck.broadcastPacket, if_neg h]
    exact duck.emits_sendToRadio (.relay packet.hop)

/-- **`forwardPacket`** likewise. -/
theorem emits_forwardPacket [LinearOrder S] (packet : CdpPacket) :
    ∃ es, es.Sublist [.relay packet.hop] ∧ Emits es duck (duck.forwardPacket packet).2 := by
  rw [forwardPacket_snd]
  split_ifs
  · obtain ⟨es, hsub, hemits⟩ := (duck.lookedUp packet).emits_broadcastPacket packet
    exact ⟨es, hsub, (duck.emits_withRoutes _).trans hemits⟩
  · exact ⟨[], List.nil_sublist _, duck.emits_withRoutes _⟩

/-- A packet whose message has been seen is not relayed. -/
theorem emits_forwardPacket_of_seen [LinearOrder S] {packet : CdpPacket}
    (h : duck.router.filter.bloomCheck packet.muid.toList) :
    Emits [] duck (duck.forwardPacket packet).2 := by
  rw [Duck.forwardPacket_of_seen h]
  exact duck.emits_withRoutes _

/-- **`sendReservedTopicData`** emits a packet of the duck, or nothing. -/
theorem emits_sendReservedTopicData (targetDevice : Duid) (topic : UInt8) (data : List UInt8) :
    ∃ es, es.Sublist [.own (duck.reservedPacket env targetDevice topic data)]
      ∧ Emits es duck (duck.sendReservedTopicData env targetDevice topic data).2 := by
  by_cases h : duck.Speaks topic
  · have hdoes := duck.does_sendReservedTopicData env h targetDevice data
    have hreceived : (duck.sendReservedTopicData env targetDevice topic data).2.received
        = duck.received := by
      unfold sendReservedTopicData
      dsimp only
      split_ifs <;> rfl
    dsimp only at hdoes
    split_ifs at hdoes
    · obtain ⟨es, hsub, hframes⟩ := duck.duckRadio.payload_queued
        (.own (duck.reservedPacket env targetDevice topic data))
      refine ⟨es, hsub, hdoes.duid, hreceived, ?_⟩
      show (duck.sendReservedTopicData env targetDevice topic data).2.duckRadio.downlinkQueue.map _
        = _
      rw [hdoes.downlinkQueue, List.map_append, ← hframes]
      rfl
    · exact ⟨[], List.nil_sublist _, hdoes.duid, hreceived, by
        show (duck.sendReservedTopicData env targetDevice topic data).2.duckRadio.downlinkQueue.map _
          = _
        rw [hdoes.downlinkQueue, List.append_nil]
        exact (List.append_nil _).symm⟩
  · rw [duck.sendReservedTopicData_of_not_speaks env h]
    exact ⟨[], List.nil_sublist _, Emits.refl duck⟩

theorem own_reservedPacket (targetDevice : Duid) (topic : UInt8) (data : List UInt8) :
    (Emission.own (duck.reservedPacket env targetDevice topic data)).Own duck.duid :=
  ⟨_, rfl, rfl, rfl⟩

end Duck

/-! ## What a PapaDuck emits -/

/-- The packet in the frame that is read next. -/
def DuckLoRa.Reads (radio : DuckLoRa S) (packet : CdpPacket) : Prop :=
  ∃ bytes, radio.readReceivedData.1 = some bytes ∧ packet = CdpPacket.ofBuffer bytes

/-- **The duck has emitted packets of its own.** -/
def Duck.EmitsOwn (duck duck' : Duck S g) : Prop :=
  ∃ es, duck.Emits es duck' ∧ ∀ e ∈ es, e.Own duck.duid

namespace Duck.EmitsOwn

variable {duck duck' duck'' : Duck S g}

theorem of_nil (h : duck.Emits [] duck') : duck.EmitsOwn duck' :=
  ⟨[], h, fun _ he => absurd he List.not_mem_nil⟩

theorem of_sublist {e : Emission} (he : e.Own duck.duid)
    (h : ∃ es, es.Sublist [e] ∧ duck.Emits es duck') : duck.EmitsOwn duck' := by
  obtain ⟨es, hsub, hemits⟩ := h
  refine ⟨es, hemits, fun e' he' => ?_⟩
  rw [List.mem_singleton.mp (hsub.subset he')]
  exact he

/-- **One operation after another.** -/
theorem trans (h : duck.EmitsOwn duck') (h' : duck'.EmitsOwn duck'') : duck.EmitsOwn duck'' := by
  obtain ⟨es, hemits, hown⟩ := h
  obtain ⟨es', hemits', hown'⟩ := h'
  refine ⟨es ++ es', hemits.trans hemits', fun e he => ?_⟩
  rcases List.mem_append.mp he with he | he
  · exact hown e he
  · exact hemits.duid ▸ hown' e he

end Duck.EmitsOwn

section Papa

variable (lib : ArduinoJson J) (env : DuckEnv) (millis : UInt64)

theorem Duck.emitsOwn_sendReservedTopicData (targetDevice : Duid) (topic : UInt8)
    (data : List UInt8) (duck : Duck S g) :
    duck.EmitsOwn (duck.sendReservedTopicData env targetDevice topic data).2 :=
  .of_sublist (duck.own_reservedPacket env targetDevice topic data)
    (duck.emits_sendReservedTopicData env targetDevice topic data)

theorem Duck.emitsOwn_insertRoute (deviceID nextHop : Duid) (duck : Duck S g) :
    duck.EmitsOwn (duck.insertRoute env deviceID nextHop) :=
  .of_nil (duck.emits_insertRoute env deviceID nextHop)

theorem Duck.emitsOwn_withRoutes (routingTable : RoutingTable S) (duck : Duck S g) :
    duck.EmitsOwn (duck.withRoutes routingTable) := .of_nil (duck.emits_withRoutes _)

namespace TimedDuck

/-- **Data that is sent** is a packet of the duck. -/
theorem emits_sendPacket {txPacket : CdpPacket} (node : TimedDuck S g) :
    ∃ es, es.Sublist [.own (node.assigned env txPacket)]
      ∧ node.duck.Emits es (node.sendPacket env txPacket).2.duck := by
  obtain ⟨es, hsub, hemits⟩ :=
    (node.duck.note (node.assigned env txPacket).muid).emits_sendToRadio
      (.own (node.assigned env txPacket))
  exact ⟨es, hsub, hemits.duid, hemits.received, hemits.frames⟩

theorem emitsOwn_requestRoute (targetDevice : Duid) (node : TimedDuck S g) :
    node.duck.EmitsOwn (node.requestRoute lib env millis targetDevice).duck := by
  unfold requestRoute
  split_ifs
  · exact node.duck.emitsOwn_sendReservedTopicData env _ _ _
  · exact .of_nil (Duck.Emits.refl _)

/-- **Sending data** emits a packet of the duck, or nothing. -/
theorem emitsOwn_sendData [LinearOrder S] (topic : UInt8) (data : List UInt8)
    (targetDevice : Duid) (node : TimedDuck S g) :
    node.duck.EmitsOwn (node.sendData lib env millis topic data targetDevice).2.duck := by
  unfold sendData sendDataWith
  dsimp only
  have hlooked := node.duck.emitsOwn_withRoutes
    (getBestNextHop targetDevice node.duck.router.routingTable).2
  set looked : TimedDuck S g := { node with
    duck := node.duck.withRoutes (getBestNextHop targetDevice node.duck.router.routingTable).2 }
  split_ifs
  · exact .of_nil (Duck.Emits.refl _)
  · refine hlooked.trans (.of_sublist ?_ (looked.emits_sendPacket env))
    exact ⟨_, rfl, rfl, rfl⟩
  · exact hlooked.trans (looked.emitsOwn_requestRoute lib env millis targetDevice)
  · exact .of_nil (Duck.Emits.refl _)

end TimedDuck

namespace PapaDuck

variable {rxPacket : CdpPacket} {duck duck' : Duck S g}

theorem emitsOwn_ifBroadcast (hseen : duck.router.filter.bloomCheck rxPacket.muid.toList) :
    duck.EmitsOwn (ifBroadcast lib env rxPacket duck) := by
  unfold ifBroadcast
  split_ifs
  · exact .of_nil (Duck.Emits.refl _)
  · exact (duck.emitsOwn_sendReservedTopicData env _ _ _).trans
      (Duck.emitsOwn_insertRoute env _ _ _)
  · exact .of_nil (Duck.Emits.refl _)
  · exact duck.emitsOwn_sendReservedTopicData env _ _ _
  · exact .of_nil (Duck.Emits.refl _)
  · rw [Duck.broadcastPacket_of_seen hseen]
    exact .of_nil (Duck.Emits.refl _)

variable [LinearOrder S]

theorem emitsOwn_ifRouteRequest {relay : Bool}
    (hseen : duck.router.filter.bloomCheck rxPacket.muid.toList)
    (h : ifRouteRequest lib env rxPacket relay duck = some duck') : duck.EmitsOwn duck' := by
  unfold ifRouteRequest at h
  split at h
  · exact absurd h nofun
  · split_ifs at h
    · obtain ⟨-, rfl⟩ := Duck.forward_eq_some.mp h
      exact .of_nil (duck.emits_forwardPacket_of_seen hseen)
    · cases h
      exact duck.emitsOwn_sendReservedTopicData env _ _ _

theorem emitsOwn_ifRouteResponse (h : ifRouteResponse lib env rxPacket duck = some duck') :
    duck.EmitsOwn duck' := by
  unfold ifRouteResponse at h
  split at h
  · exact absurd h nofun
  · dsimp only at h
    split_ifs at h
    · cases h
      exact .of_nil (Duck.Emits.refl _)
    · split at h <;> cases h
      exact ((duck.emitsOwn_withRoutes _).trans
        (Duck.emitsOwn_sendReservedTopicData env _ _ _ _)).trans
          (Duck.emitsOwn_insertRoute env _ _ _)
    · cases h
      exact (duck.emitsOwn_withRoutes _).trans (Duck.emitsOwn_insertRoute env _ _ _)

theorem emitsOwn_ifNotBroadcast {relay : Bool}
    (hseen : duck.router.filter.bloomCheck rxPacket.muid.toList)
    (h : ifNotBroadcast lib env rxPacket relay duck = some duck') : duck.EmitsOwn duck' := by
  unfold ifNotBroadcast at h
  split_ifs at h
  · exact emitsOwn_ifRouteRequest lib env hseen h
  · exact emitsOwn_ifRouteResponse lib env h
  · cases h
    exact duck.emitsOwn_sendReservedTopicData env _ _ _
  · cases h
    exact .of_nil (Duck.Emits.refl _)
  · obtain ⟨-, rfl⟩ := Duck.forward_eq_some.mp h
    exact .of_nil (duck.emits_forwardPacket_of_seen hseen)
  · cases h
    exact .of_nil (Duck.Emits.refl _)

/-- Handling a packet whose message is in the filter emits packets of the duck only. -/
theorem emitsOwn_handleByDestination
    (hseen : duck.router.filter.bloomCheck rxPacket.muid.toList)
    (h : handleByDestination lib env rxPacket duck = some duck') : duck.EmitsOwn duck' := by
  unfold handleByDestination at h
  split_ifs at h
  · cases h
    exact emitsOwn_ifBroadcast lib env hseen
  · exact emitsOwn_ifNotBroadcast lib env hseen h
  · exact emitsOwn_ifNotBroadcast lib env hseen h

/-- What the application has been given. -/
def Hears (duck duck' : Duck S g) : Prop :=
  ∀ packet ∈ duck'.received, packet ∈ duck.received ∨ duck.duckRadio.Reads packet

/-- **Handling what is received** emits packets of the duck only, and gives the application the
packet read. -/
theorem emitsOwn_handleReceivedPacket (h : handleReceivedPacket lib env duck = some duck') :
    duck'.duid = duck.duid
      ∧ (∃ es : List Emission, duck'.frames = duck.frames ++ es.map Emission.frame
        ∧ ∀ e ∈ es, e.Own duck.duid)
      ∧ Hears duck duck' := by
  have hread : ({ duck with duckRadio := duck.duckRadio.readReceivedData.2 } : Duck S g).frames
      = duck.frames :=
    congrArg (List.map _) (DuckLoRa.downlinkQueue_readReceivedData duck.duckRadio)
  have hnone : duck.frames = duck.frames ++ ([] : List Emission).map Emission.frame :=
    (List.append_nil _).symm
  unfold handleReceivedPacket at h
  dsimp only at h
  split at h
  · cases h
    exact ⟨rfl, ⟨[], hread.trans hnone, fun _ he => absurd he List.not_mem_nil⟩,
      fun _ hp => Or.inl hp⟩
  · next bytes hbytes =>
    split_ifs at h
    · cases h
      exact ⟨rfl, ⟨[], hread.trans hnone, fun _ he => absurd he List.not_mem_nil⟩,
        fun _ hp => Or.inl hp⟩
    · -- the packet has been noted before it is handled, and so it is not relayed
      obtain ⟨es, hemits, hown⟩ := emitsOwn_handleByDestination lib env
        (BloomFilter.bloomCheck_bloomAdd _ _) h
      refine ⟨hemits.duid, ⟨es, hemits.frames.trans (congrArg (· ++ _) hread), hown⟩, ?_⟩
      intro packet hpacket
      rw [hemits.received] at hpacket
      rcases List.mem_append.mp hpacket with hold | hnew
      · exact Or.inl hold
      · exact Or.inr ⟨bytes, hbytes, List.mem_singleton.mp hnew⟩

/-- The application is given at most the packet read, after those before. -/
theorem received_handleReceivedPacket (h : handleReceivedPacket lib env duck = some duck') :
    ∃ packets, duck'.received = duck.received ++ packets := by
  unfold handleReceivedPacket at h
  dsimp only at h
  split at h
  · cases h
    exact ⟨[], (List.append_nil _).symm⟩
  · next bytes _ =>
    split_ifs at h
    · cases h
      exact ⟨[], (List.append_nil _).symm⟩
    · obtain ⟨es, hemits, -⟩ := emitsOwn_handleByDestination lib env
        (BloomFilter.bloomCheck_bloomAdd _ _) h
      exact ⟨[CdpPacket.ofBuffer bytes], hemits.received⟩

end PapaDuck

end Papa

/-! ## What a MamaDuck emits -/

namespace MamaDuck

/-- **The duck has emitted packets**, each noted in what its history has become longer by. -/
structure Emits (heard : CdpPacket → Prop) (mama mama' : MamaDuck S g) : Prop where
  duid : mama'.duck.duid = mama.duck.duid
  received : mama'.duck.received = mama.duck.received
  emitted : ∃ (deeds : List Deed) (es : List Emission), mama'.history = mama.history ++ deeds
    ∧ mama'.duck.frames = mama.duck.frames ++ es.map Emission.frame
    ∧ (es.map Emission.deed).Sublist deeds ∧ ∀ e ∈ es, e.Sound mama.duck.duid heard

namespace Emits

variable {heard : CdpPacket → Prop} {mama mama' mama'' : MamaDuck S g}

theorem of_eq (hduid : mama'.duck.duid = mama.duck.duid)
    (hreceived : mama'.duck.received = mama.duck.received)
    (hhistory : mama'.history = mama.history) (hframes : mama'.duck.frames = mama.duck.frames) :
    Emits heard mama mama' :=
  ⟨hduid, hreceived, [], [], hhistory.trans (List.append_nil _).symm,
    hframes.trans (List.append_nil _).symm, List.Sublist.refl _,
    fun _ he => absurd he List.not_mem_nil⟩

theorem refl (mama : MamaDuck S g) : Emits heard mama mama := of_eq rfl rfl rfl rfl

/-- **One operation after another.** -/
theorem trans (h : Emits heard mama mama') (h' : Emits heard mama' mama'') :
    Emits heard mama mama'' := by
  obtain ⟨deeds, es, hhistory, hframes, hsub, hsound⟩ := h.emitted
  obtain ⟨deeds', es', hhistory', hframes', hsub', hsound'⟩ := h'.emitted
  refine ⟨h'.duid.trans h.duid, h'.received.trans h.received, deeds ++ deeds', es ++ es', ?_, ?_,
    ?_, ?_⟩
  · rw [hhistory', hhistory, List.append_assoc]
  · rw [hframes', hframes, List.map_append, List.append_assoc]
  · rw [List.map_append]
    exact hsub.append hsub'
  · intro e he
    rcases List.mem_append.mp he with he | he
    · exact hsound e he
    · exact h.duid ▸ hsound' e he

end Emits

variable {heard : CdpPacket → Prop} (mama : MamaDuck S g)

/-- What a duck emits, with what it notes of it. -/
theorem emits_doing {deeds : List Deed} {e : Emission} {duck : Duck S g}
    (h : ∃ es, es.Sublist [e] ∧ mama.duck.Emits es duck) (hdeed : e.deed ∈ deeds)
    (hsound : e.Sound mama.duck.duid heard) : Emits heard mama (mama.doing deeds duck) := by
  obtain ⟨es, hsub, hemits⟩ := h
  refine ⟨hemits.duid, hemits.received, deeds, es, rfl, hemits.frames,
    (hsub.map Emission.deed).trans (List.singleton_sublist.mpr hdeed), fun e' he' => ?_⟩
  rw [List.mem_singleton.mp (hsub.subset he')]
  exact hsound

theorem emits_doing_nil {duck : Duck S g} (deeds : List Deed) (h : mama.duck.Emits [] duck) :
    Emits heard mama (mama.doing deeds duck) :=
  ⟨h.duid, h.received, deeds, [], rfl, h.frames, List.nil_sublist _,
    fun _ he => absurd he List.not_mem_nil⟩

/-- A packet that is heard is relayed, if it is new. -/
theorem emits_broadcastPacket {packet : CdpPacket}
    (h : ∃ rx, heard rx ∧ rx.RelayedAs packet.hop) :
    Emits heard mama (mama.broadcastPacket packet) := by
  unfold broadcastPacket
  by_cases hrelays : mama.duck.Relays packet
  · rw [if_pos hrelays]
    exact mama.emits_doing (mama.duck.emits_broadcastPacket packet)
      (List.mem_singleton_self _) h
  · rw [mama.duck.broadcastPacket_of_not_relays packet hrelays]
    exact mama.emits_doing_nil _ (Duck.Emits.refl _)

/-- It is forwarded, if there is a route as well. -/
theorem emits_forwardPacket [LinearOrder S] {packet : CdpPacket}
    (h : ∃ rx, heard rx ∧ rx.RelayedAs packet.hop) :
    Emits heard mama (mama.forwardPacket packet) := by
  unfold forwardPacket
  by_cases hboth : mama.duck.Routes packet ∧ mama.duck.Relays packet
  · rw [if_pos hboth]
    exact mama.emits_doing (mama.duck.emits_forwardPacket packet) (List.mem_singleton_self _) h
  · refine mama.emits_doing_nil _ ?_
    rw [Duck.forwardPacket_snd]
    split_ifs with hroutes
    · rw [(mama.duck.lookedUp packet).broadcastPacket_of_not_relays packet fun hrelays =>
        hboth ⟨hroutes, hrelays.new, hrelays.sendable⟩]
      exact mama.duck.emits_withRoutes _
    · exact mama.duck.emits_withRoutes _

section Operations

variable (lib : ArduinoJson J) (env : DuckEnv) (millis : UInt64)

theorem emits_sendReservedTopicData (targetDevice : Duid) (topic : UInt8) (data : List UInt8) :
    Emits heard mama (mama.sendReservedTopicData env targetDevice topic data) := by
  unfold sendReservedTopicData
  by_cases h : mama.duck.Speaks topic
  · rw [if_pos h]
    exact mama.emits_doing (mama.duck.emits_sendReservedTopicData env targetDevice topic data)
      (List.mem_singleton_self _) (mama.duck.own_reservedPacket env targetDevice topic data).sound
  · rw [mama.duck.sendReservedTopicData_of_not_speaks env h]
    exact mama.emits_doing_nil _ (Duck.Emits.refl _)

theorem emits_insertRoute (deviceID nextHop : Duid) :
    Emits heard mama (mama.insertRoute env deviceID nextHop) :=
  mama.emits_doing_nil _ (mama.duck.emits_insertRoute env deviceID nextHop)

theorem emits_requestRoute (targetDevice : Duid) :
    Emits heard mama (mama.requestRoute lib env millis targetDevice) := by
  unfold requestRoute
  split_ifs
  · exact (mama.emits_sendReservedTopicData env _ _ _).trans (.of_eq rfl rfl rfl rfl)
  · exact .refl mama

theorem emits_sendPacket {txPacket : CdpPacket} (hduid : txPacket.sduid = mama.duck.duid)
    (hhops : txPacket.hopCount = 0) : Emits heard mama (mama.sendPacket env txPacket) :=
  mama.emits_doing (TimedDuck.emits_sendPacket env mama.toTimedDuck) List.mem_cons_self
    ⟨hduid, hhops⟩

theorem emits_sendData [LinearOrder S] (topic : UInt8) (data : List UInt8)
    (targetDevice : Duid) :
    Emits heard mama (mama.sendData lib env millis topic data targetDevice) := by
  unfold sendData
  dsimp only
  have hlooked : Emits heard mama (mama.doing [] (mama.duck.withRoutes
      (getBestNextHop targetDevice mama.duck.router.routingTable).2)) :=
    mama.emits_doing_nil _ (mama.duck.emits_withRoutes _)
  split_ifs
  · exact .refl mama
  · exact hlooked.trans (emits_sendPacket _ env rfl rfl)
  · exact hlooked.trans (emits_requestRoute _ lib env millis targetDevice)
  · exact .refl mama

variable {mama} {mama' : MamaDuck S g} {rxPacket : CdpPacket}

theorem emits_ifBroadcast (hheard : heard rxPacket) :
    Emits heard mama (mama.ifBroadcast lib env rxPacket) := by
  unfold ifBroadcast
  split_ifs
  · exact (mama.emits_sendReservedTopicData env _ _ _).trans (emits_insertRoute _ env _ _)
  · exact .refl mama
  · exact mama.emits_sendReservedTopicData env _ _ _
  · exact .refl mama
  · exact mama.emits_broadcastPacket ⟨rxPacket, hheard, rxPacket.relayedAs_hop⟩

variable [LinearOrder S]

theorem emits_ifRouteRequest {relay : Bool} (hheard : heard rxPacket)
    (hrreq : rxPacket.topic = ReservedTopic.rreq)
    (h : mama.ifRouteRequest lib env rxPacket relay = some mama') : Emits heard mama mama' := by
  unfold ifRouteRequest at h
  split at h
  · exact absurd h nofun
  · split_ifs at h
    · obtain ⟨-, rfl⟩ := forward_eq_some.mp h
      exact mama.emits_forwardPacket ⟨rxPacket, hheard, CdpPacket.relayedAs_rreq hrreq _⟩
    · cases h
      exact mama.emits_sendReservedTopicData env _ _ _

theorem emits_ifRouteResponse (h : mama.ifRouteResponse lib env rxPacket = some mama') :
    Emits heard mama mama' := by
  unfold ifRouteResponse at h
  split at h
  · exact absurd h nofun
  · dsimp only at h
    have hlooked (routingTable : RoutingTable S) :
        Emits heard mama (mama.doing [] (mama.duck.withRoutes routingTable)) :=
      mama.emits_doing_nil _ (mama.duck.emits_withRoutes routingTable)
    split_ifs at h
    · split at h <;> cases h
      exact ((hlooked _).trans (emits_sendReservedTopicData _ env _ _ _)).trans
        (emits_insertRoute _ env _ _)
    · cases h
      exact (hlooked _).trans (emits_insertRoute _ env _ _)

theorem emits_ifNotBroadcast {relay : Bool} (hheard : heard rxPacket)
    (h : mama.ifNotBroadcast lib env rxPacket relay = some mama') : Emits heard mama mama' := by
  have hrelayed : ∃ rx, heard rx ∧ rx.RelayedAs rxPacket.hop :=
    ⟨rxPacket, hheard, rxPacket.relayedAs_hop⟩
  unfold ifNotBroadcast at h
  split_ifs at h with hrreq
  · exact emits_ifRouteRequest lib env hheard hrreq h
  · exact emits_ifRouteResponse lib env h
  · cases h
    exact mama.emits_sendReservedTopicData env _ _ _
  · cases h
    exact .refl mama
  · cases h
    exact mama.emits_broadcastPacket hrelayed
  · obtain ⟨-, rfl⟩ := forward_eq_some.mp h
    exact mama.emits_forwardPacket hrelayed
  · cases h
    exact .refl mama

omit [LinearOrder S] in
theorem emits_read (mama : MamaDuck S g) :
    Emits heard mama (mama.withRadio mama.duck.duckRadio.readReceivedData.2) :=
  .of_eq rfl rfl rfl
    (congrArg (List.map _) (DuckLoRa.downlinkQueue_readReceivedData mama.duck.duckRadio))

/-- **Handling what is received** emits packets of the duck, or relays the one read. -/
theorem emits_handleReceivedPacket (h : mama.handleReceivedPacket lib env = some mama') :
    Emits mama.duck.duckRadio.Reads mama mama' := by
  unfold handleReceivedPacket at h
  dsimp only at h
  have hread : Emits mama.duck.duckRadio.Reads mama _ := mama.emits_read
  split at h
  · cases h
    exact hread
  · next bytes hbytes =>
    have hheard : mama.duck.duckRadio.Reads (CdpPacket.ofBuffer bytes) := ⟨bytes, hbytes, rfl⟩
    obtain ⟨handled, hhandled, rfl⟩ := Option.map_eq_some_iff.mp h
    refine (hread.trans ?_).trans (handled.emits_doing_nil _ ⟨rfl, rfl, (List.append_nil _).symm⟩)
    unfold handleByDestination at hhandled
    split_ifs at hhandled
    · cases hhandled
      exact emits_ifBroadcast lib env hheard
    · exact emits_ifNotBroadcast lib env hheard hhandled
    · exact emits_ifNotBroadcast lib env hheard hhandled

omit [LinearOrder S] in
theorem emits_checkForNetworks (mama : MamaDuck S g) :
    Emits heard mama mama.checkForNetworks.2 := by
  unfold checkForNetworks
  dsimp only
  split_ifs
  · split
    · exact mama.emits_read
    · split_ifs <;> exact mama.emits_read
  · exact .refl mama

omit [LinearOrder S] in
theorem emits_attemptNetworkJoin (mama : MamaDuck S g) :
    Emits heard mama (mama.attemptNetworkJoin lib env millis) := by
  unfold attemptNetworkJoin
  refine mama.emits_checkForNetworks.trans ?_
  generalize mama.checkForNetworks = checked
  obtain ⟨cdpNode, mama⟩ := checked
  cases cdpNode with
  | some cdpNode =>
    exact (mama.emits_insertRoute env cdpNode.sduid cdpNode.sduid).trans (.of_eq rfl rfl rfl rfl)
  | none =>
    dsimp only
    split_ifs
    · exact (mama.emits_sendReservedTopicData env _ _ _).trans (.of_eq rfl rfl rfl rfl)
    · exact .refl mama

/-- **The main loop** likewise. -/
theorem emits_main (h : mama.main lib env millis = some mama') :
    Emits mama.duck.duckRadio.Reads mama mama' := by
  unfold main at h
  dsimp only at h
  have hjoin : Emits mama.duck.duckRadio.Reads mama _ :=
    mama.emits_attemptNetworkJoin lib env millis
  split_ifs at h
  · exact emits_handleReceivedPacket lib env h
  · cases h
    exact .refl mama
  · cases h
    exact hjoin.trans (.of_eq rfl rfl rfl rfl)
  · cases h
    exact hjoin

end Operations

end MamaDuck
