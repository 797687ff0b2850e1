import MeshBeacon.CdpCodec
import MeshBeacon.RouteResponse

/-!
# The hub

The daemon runs one PapaDuck, the hub. It begins by setting the radio up and
joining the public network, which nothing undoes later, and then handles what it
receives and sends what `hub_send_data` is asked to.

A frame that is sent passes three more checks of its size on its way: the bridge
does not give the consumer more than its buffer holds, and the concentrator
library sends at most 255 bytes. The longest frame that is built passes the
first and fails the second; and a length whose lower byte is zero passes the
check of the packet.
-/

open Hal

variable {S J : Type*} {g : BloomGeometry} [LinearOrder S]

/-! ## What a PapaDuck does -/

namespace PapaDuck

variable (lib : ArduinoJson J) (env : DuckEnv)

omit [LinearOrder S] in
theorem reacts_ifBroadcast (rxPacket : CdpPacket) (duck : Duck S g) :
    duck.Reacts (ifBroadcast lib env rxPacket duck) := by
  unfold ifBroadcast
  split_ifs
  · exact (Duck.Does.refl duck).reacts
  · exact (duck.reacts_sendReservedTopicData env _ _ _).before (Duck.does_insertRoute env _ _ _)
  · exact (Duck.Does.refl duck).reacts
  · exact duck.reacts_sendReservedTopicData env _ _ _
  · exact (Duck.Does.refl duck).reacts
  · exact duck.reacts_broadcastPacket rxPacket

theorem reacts_ifRouteRequest {rxPacket : CdpPacket} {relay : Bool} {duck duck' : Duck S g}
    (h : ifRouteRequest lib env rxPacket relay duck = some duck') : duck.Reacts duck' := by
  unfold ifRouteRequest at h
  split at h
  · exact absurd h nofun
  · split_ifs at h
    · obtain ⟨-, rfl⟩ := Duck.forward_eq_some.mp h
      exact duck.reacts_forwardPacket _
    · cases h
      exact duck.reacts_sendReservedTopicData env _ _ _

theorem reacts_ifRouteResponse {rxPacket : CdpPacket} {duck duck' : Duck S g}
    (h : ifRouteResponse lib env rxPacket duck = some duck') : duck.Reacts duck' := by
  rw [ifRouteResponse_eq] at h
  obtain ⟨rrepDoc, -, h⟩ := Option.bind_eq_some_iff.mp h
  split_ifs at h
  · cases h
    exact (Duck.Does.refl duck).reacts
  · exact Duck.reacts_passOn h

theorem reacts_ifNotBroadcast {rxPacket : CdpPacket} {relay : Bool} {duck duck' : Duck S g}
    (h : ifNotBroadcast lib env rxPacket relay duck = some duck') : duck.Reacts duck' := by
  unfold ifNotBroadcast at h
  split_ifs at h
  · exact reacts_ifRouteRequest lib env h
  · exact reacts_ifRouteResponse lib env h
  · cases h
    exact duck.reacts_sendReservedTopicData env _ _ _
  · cases h
    exact (Duck.Does.refl duck).reacts
  · obtain ⟨-, rfl⟩ := Duck.forward_eq_some.mp h
    exact duck.reacts_forwardPacket rxPacket
  · cases h
    exact (Duck.Does.refl duck).reacts

/-- **Handling a packet is a reaction**: it queues at most one frame. -/
theorem reacts_handleByDestination {rxPacket : CdpPacket} {duck duck' : Duck S g}
    (h : handleByDestination lib env rxPacket duck = some duck') : duck.Reacts duck' := by
  unfold handleByDestination at h
  split_ifs at h
  · cases h
    exact reacts_ifBroadcast lib env rxPacket duck
  · exact reacts_ifNotBroadcast lib env h
  · exact reacts_ifNotBroadcast lib env h

/-- Handling what is received keeps the radio set up, the type and the state of the
network. -/
theorem handleReceivedPacket_keeps {duck duck' : Duck S g}
    (h : handleReceivedPacket lib env duck = some duck') :
    duck'.duckRadio.isSetup = duck.duckRadio.isSetup ∧ duck'.duckType = duck.duckType
      ∧ duck'.router.networkState = duck.router.networkState := by
  have hread : duck.duckRadio.readReceivedData.2.isSetup = duck.duckRadio.isSetup := by
    unfold DuckLoRa.readReceivedData DuckLoRa.popUplinkPacket
    split_ifs
    · cases duck.duckRadio.uplinkQueue <;> dsimp only <;> split_ifs <;> rfl
    · rfl
  unfold handleReceivedPacket at h
  dsimp only at h
  split at h
  · cases h
    exact ⟨hread, rfl, rfl⟩
  · split_ifs at h
    · cases h
      exact ⟨hread, rfl, rfl⟩
    · obtain ⟨_, _, hdoes, -⟩ := reacts_handleByDestination lib env h
      exact ⟨hdoes.isSetup.trans hread, hdoes.duckType, hdoes.networkState⟩

/-- `begin`, with the parameters of the radio by default. These pass the check, and
setting the radio up does nothing else that fails. -/
def begin (duck : Duck S g) : ℤ × Duck S g :=
  (duckErrNone,
    { duck with
      duckRadio := { duck.duckRadio with isSetup := true }
      router := { duck.router with networkState := .publicNetwork } })

end PapaDuck

/-! ## Sending from the hub -/

namespace Hub

section Send

variable (lib : ArduinoJson J) (env : DuckEnv) (millis : UInt64)

/-- `hub_send_data`. The message is what is in memory from a pointer on, unless the
pointer is null, and so is the target, which is every duck then. The call is taken to be
defined. -/
def hubSendData (topic : UInt8) (message : Option (ℕ → UInt8)) (length : ℤ)
    (targetDevice : Option Duid) (hub : TimedDuck S g) : ℤ × TimedDuck S g :=
  match message with
  | none => (-1, hub)
  | some message =>
    if length ≤ 0 ∨ 256 < length then (-1, hub)
    else
      let target := targetDevice.getD broadcastDuid
      let (err, hub) := hub.sendData lib env millis topic
        ((List.range length.toNat).map message) target
      if err ≠ duckErrNone then (err, hub) else (0, hub)

/-- **A call is refused for its arguments**: there is no message, its length is out of
range, or its topic is reserved. -/
def Refused (topic : UInt8) (message : Option (ℕ → UInt8)) (length : ℤ) : Prop :=
  message.isNone ∨ length ≤ 0 ∨ 256 < length ∨ topic < ReservedTopic.maxReserved

instance (topic : UInt8) (message : Option (ℕ → UInt8)) (length : ℤ) :
    Decidable (Refused topic message length) :=
  inferInstanceAs (Decidable (_ ∨ _))

/-- **A call is defined**: it is refused for its arguments, or what it asks of the duck is. -/
def CallDefined (topic : UInt8) (message : Option (ℕ → UInt8)) (length : ℤ)
    (targetDevice : Option Duid) (hub : TimedDuck S g) : Prop :=
  Refused topic message length ∨ hub.duck.SendDefined topic (targetDevice.getD broadcastDuid)

instance (topic : UInt8) (message : Option (ℕ → UInt8)) (length : ℤ)
    (targetDevice : Option Duid) (hub : TimedDuck S g) :
    Decidable (CallDefined topic message length targetDevice hub) :=
  inferInstanceAs (Decidable (_ ∨ _))

/-- `hub_send_data`, where it is defined. -/
def hubSend (topic : UInt8) (message : Option (ℕ → UInt8)) (length : ℤ)
    (targetDevice : Option Duid) (hub : TimedDuck S g) : Option (ℤ × TimedDuck S g) :=
  if CallDefined topic message length targetDevice hub then
    some (hubSendData lib env millis topic message length targetDevice hub)
  else none

/-- `lgw_send`, the check of the size. -/
def lgwSendSizeOk (pktData : LgwPktTx) : Bool :=
  if pktData.modulation = modLora ∨ pktData.modulation = modFsk then pktData.size ≤ 255 else true

/-- **A frame passes the later checks of its size**: wherever it is taken from the
bridge with a buffer that has room, a packet is built of it, and that packet is not
too long to be sent. -/
def Transmittable (pkt : DownlinkPacket) : Prop :=
  ∀ (loop : DownlinkLoop) (td : ThreadDown), td.bufCapacity = duckPayloadBufSize →
    ∃ p, (pollDownlink loop td [pkt]).2.2 = some p ∧ lgwSendSizeOk p

/-- **A call tells the truth**: it returns, when it returns 0 it has queued one frame,
which can be transmitted, and otherwise it has queued none. -/
structure TellsTruth (hub : TimedDuck S g) (call : Option (ℤ × TimedDuck S g)) : Prop where
  returns : call.isSome
  sent : ∀ hub', call = some (0, hub') → ∃ pkt,
    hub'.duck.duckRadio.downlinkQueue = hub.duck.duckRadio.downlinkQueue ++ [pkt]
      ∧ Transmittable pkt
  refused : ∀ err hub', call = some (err, hub') → err ≠ 0 →
    hub'.duck.duckRadio.downlinkQueue = hub.duck.duckRadio.downlinkQueue

/-! ## The states of the hub -/

/-- **The states of the hub** after it has begun: it handles what it receives, sends,
and the bridge brings and takes frames. -/
inductive Reached : TimedDuck S g → Prop where
  | begin (hub : TimedDuck S g) (htype : hub.duck.duckType = DuckType.papa) :
    Reached { hub with duck := (PapaDuck.begin hub.duck).2 }
  | receive (env : DuckEnv) {hub : TimedDuck S g} {duck : Duck S g} (h : Reached hub)
      (hduck : PapaDuck.handleReceivedPacket lib env hub.duck = some duck) :
    Reached { hub with duck := duck }
  | bridge (receivedFlag : Bool) (uplinkQueue : List (UplinkPacket S))
      (downlinkQueue : List DownlinkPacket) {hub : TimedDuck S g} (h : Reached hub) :
    Reached { hub with
      duck := { hub.duck with
        duckRadio := { hub.duck.duckRadio with
          receivedFlag := receivedFlag
          uplinkQueue := uplinkQueue
          downlinkQueue := downlinkQueue } } }
  | send (env : DuckEnv) (millis : UInt64) (topic : UInt8) (message : Option (ℕ → UInt8))
      (length : ℤ) (targetDevice : Option Duid) {hub : TimedDuck S g} {err : ℤ}
      {hub' : TimedDuck S g} (h : Reached hub)
      (hsend : hubSend lib env millis topic message length targetDevice hub = some (err, hub')) :
    Reached hub'

/-- The hub has begun: its radio is set up and it is in the public network. -/
structure Begun (duck : Duck S g) : Prop where
  isSetup : duck.duckRadio.isSetup
  duckType : duck.duckType = DuckType.papa
  networkState : duck.router.networkState = .publicNetwork

omit [LinearOrder S] in
theorem Begun.does {added : List Muid} {queued : List DownlinkPacket} {duck duck' : Duck S g}
    (h : Begun duck) (hdoes : Duck.Does added queued duck duck') : Begun duck' :=
  ⟨hdoes.isSetup ▸ h.isSetup, hdoes.duckType.trans h.duckType,
    hdoes.networkState.trans h.networkState⟩

/-- The packet of a message, before its identifier is assigned. -/
def messagePacket (topic : UInt8) (message : ℕ → UInt8) (length : ℕ) (target : Duid)
    (duck : Duck S g) : CdpPacket :=
  CdpPacket.forSending target topic ((List.range length).map message) duck.duid duck.duckType

/-- **A hub that has begun sends** what is not of a reserved topic. -/
theorem hubSendData_of_begun {topic : UInt8} {message : ℕ → UInt8} {length : ℤ}
    (targetDevice : Option Duid) {hub : TimedDuck S g} (h : Begun hub.duck)
    (hlength : ¬ (length ≤ 0 ∨ 256 < length)) (htopic : ¬ topic < ReservedTopic.maxReserved) :
    let target := targetDevice.getD broadcastDuid
    let looked := hub.duck.withRoutes (getBestNextHop target hub.duck.router.routingTable).2
    hubSendData lib env millis topic (some message) length targetDevice hub
      = TimedDuck.sendPacket env (messagePacket topic message length.toNat target hub.duck)
        { hub with duck := looked } := by
  intro target looked
  have hsend : hub.sendData lib env millis topic ((List.range length.toNat).map message) target
      = TimedDuck.sendPacket env (messagePacket topic message length.toNat target hub.duck)
        { hub with duck := looked } := by
    unfold TimedDuck.sendData TimedDuck.sendDataWith
    rw [if_neg htopic, if_pos h.networkState]
    exact if_pos (Or.inl (decide_eq_true h.duckType))
  unfold hubSendData
  dsimp only
  rw [if_neg hlength, hsend]
  split_ifs with herr
  · rfl
  · exact Prod.ext (not_not.mp herr).symm rfl

omit [LinearOrder S] in
/-- The packet of a message can be built when its length is at most 229, or is 256:
the lower byte of that is zero. -/
theorem sendable_messagePacket (topic : UInt8) (message : ℕ → UInt8) {length : ℕ} (target : Duid)
    (duck : Duck S g) (hpos : 0 < length) (hle : length ≤ 256) :
    (messagePacket topic message length target duck).Sendable
      ↔ length ≤ maxDataLength ∨ length = 256 := by
  have hdata : (messagePacket topic message length target duck).data.length = length := by
    show ((List.range length).map message).length = length
    rw [List.length_map, List.length_range]
  unfold CdpPacket.Sendable
  rw [hdata, UInt8.toNat_ofNat', ← List.length_pos_iff, hdata]
  show 0 < length ∧ length % 256 ≤ 229 ↔ length ≤ 229 ∨ length = 256
  omega

/-- **What the hub sends**: messages that are there, of topics that are not reserved,
of at most 229 bytes, or of 256. -/
def HubSends (topic : UInt8) (message : Option (ℕ → UInt8)) (length : ℤ) : Prop :=
  message.isSome ∧ ¬ topic < ReservedTopic.maxReserved ∧ 0 < length
    ∧ (length ≤ 229 ∨ length = 256)

theorem hubSends_iff {topic : UInt8} {message : Option (ℕ → UInt8)} {length : ℤ} :
    HubSends topic message length
      ↔ ¬ Refused topic message length ∧ (length ≤ 229 ∨ length = 256) := by
  unfold HubSends Refused
  rw [not_or, not_or, not_or, Bool.not_eq_true, Option.isNone_eq_false_iff]
  constructor
  · rintro ⟨hmessage, htopic, hpos, hlength⟩
    exact ⟨⟨hmessage, not_le.mpr hpos, by omega, htopic⟩, hlength⟩
  · rintro ⟨⟨hmessage, hpos, -, htopic⟩, hlength⟩
    exact ⟨hmessage, htopic, not_le.mp hpos, hlength⟩

/-- A call of a hub that has begun looks its target up unless it is refused. -/
theorem callDefined_iff {topic : UInt8} {message : Option (ℕ → UInt8)} {length : ℤ}
    {targetDevice : Option Duid} {hub : TimedDuck S g} (h : Begun hub.duck) :
    CallDefined topic message length targetDevice hub
      ↔ Refused topic message length ∨ hub.duck.LookupFits (targetDevice.getD broadcastDuid) := by
  constructor
  · rintro (hrefused | hreserved | hstate | hfits)
    · exact Or.inl hrefused
    · exact Or.inl (Or.inr (Or.inr (Or.inr hreserved)))
    · exact absurd h.networkState hstate
    · exact Or.inr hfits
  · exact Or.imp_right fun hfits => Or.inr (Or.inr hfits)

section Call

variable {topic : UInt8} {message : Option (ℕ → UInt8)} {length : ℤ} {hub : TimedDuck S g}

theorem hubSend_eq_some {targetDevice : Option Duid} {result : ℤ × TimedDuck S g} :
    hubSend lib env millis topic message length targetDevice hub = some result
      ↔ CallDefined topic message length targetDevice hub
        ∧ hubSendData lib env millis topic message length targetDevice hub = result := by
  rw [hubSend, Option.ite_none_right_eq_some, Option.some_inj]

/-- **What the hub sends is queued** as one frame, and the call returns 0. -/
theorem hubSendData_of_sends (targetDevice : Option Duid) (h : Begun hub.duck)
    (hsends : HubSends topic message length) :
    (hubSendData lib env millis topic message length targetDevice hub).1 = 0
      ∧ ∃ added frame, frame.length = headerLength + length.toNat
        ∧ Duck.Does added [⟨frame, DuckLoRa.downlinkInfo⟩] hub.duck
          (hubSendData lib env millis topic message length targetDevice hub).2.duck := by
  obtain ⟨hmessage, htopic, hpos, hlength⟩ := hsends
  obtain ⟨message, rfl⟩ := Option.isSome_iff_exists.mp hmessage
  have hbuilt := (sendable_messagePacket topic message (targetDevice.getD broadcastDuid) hub.duck
    (by omega : 0 < length.toNat) (by omega)).mpr
      (show length.toNat ≤ 229 ∨ length.toNat = 256 by omega)
  rw [hubSendData_of_begun lib env millis targetDevice h (by omega) htopic]
  -- the lookup of a route comes first, and leaves the packet as it is
  set looked := hub.duck.withRoutes
    (getBestNextHop (targetDevice.getD broadcastDuid) hub.duck.router.routingTable).2
  set node : TimedDuck S g := { hub with duck := looked }
  set txPacket :=
    messagePacket topic message length.toNat (targetDevice.getD broadcastDuid) hub.duck
  have hlen : (node.assigned env txPacket).frame.length = headerLength + length.toNat := by
    rw [CdpPacket.length_frame]
    show headerLength + ((List.range length.toNat).map message).length = _
    rw [List.length_map, List.length_range]
  have hqueued : looked.duckRadio.queued (node.assigned env txPacket).frame
      = [⟨(node.assigned env txPacket).frame, DuckLoRa.downlinkInfo⟩] := by
    refine DuckLoRa.queued_of_length h.isSetup ?_ ?_ <;> rw [hlen]
    · exact Nat.add_pos_left (by decide) _
    · show 27 + length.toNat < 2 ^ 16
      omega
  have hdoes := (hub.duck.does_withRoutes _).of_refl (node.does_sendPacket env hbuilt)
  rw [hqueued] at hdoes
  exact ⟨(TimedDuck.fst_sendPacket env hbuilt).trans (if_pos h.isSetup), _, _, hlen, hdoes⟩

/-- **What it does not send is not queued**, and the call does not return 0. -/
theorem hubSendData_of_not_sends (targetDevice : Option Duid) (h : Begun hub.duck)
    (hsends : ¬ HubSends topic message length) :
    (hubSendData lib env millis topic message length targetDevice hub).1 ≠ 0
      ∧ ∃ added, Duck.Does added [] hub.duck
        (hubSendData lib env millis topic message length targetDevice hub).2.duck := by
  cases message with
  | none => exact ⟨by show (-1 : ℤ) ≠ 0; decide, [], Duck.Does.refl hub.duck⟩
  | some message =>
    by_cases hlength : length ≤ 0 ∨ 256 < length
    · have hrefused : hubSendData lib env millis topic (some message) length targetDevice hub
          = (-1, hub) := if_pos hlength
      rw [hrefused]
      exact ⟨by show (-1 : ℤ) ≠ 0; decide, [], Duck.Does.refl hub.duck⟩
    by_cases htopic : topic < ReservedTopic.maxReserved
    · have hrefused : hubSendData lib env millis topic (some message) length targetDevice hub
          = (duckpacketErrTopicInvalid, hub) := by
        unfold hubSendData TimedDuck.sendData TimedDuck.sendDataWith
        dsimp only
        rw [if_neg hlength, if_pos htopic]
        exact if_pos (show duckpacketErrTopicInvalid ≠ duckErrNone by decide)
      rw [hrefused]
      exact ⟨by show (-4001 : ℤ) ≠ 0; decide, [], Duck.Does.refl hub.duck⟩
    · -- a length the hub lets through, and the packet cannot be built
      have hbuilt := mt (sendable_messagePacket topic message
        (targetDevice.getD broadcastDuid) hub.duck (by omega : 0 < length.toNat) (by omega)).mp
        fun hlen => hsends ⟨rfl, htopic, by omega, by
          rcases hlen with hlen | hlen
          · exact Or.inl (by unfold maxDataLength packetLength headerLength at hlen; omega)
          · exact Or.inr (by omega)⟩
      rw [hubSendData_of_begun lib env millis targetDevice h hlength htopic]
      rw [TimedDuck.sendPacket_of_not_sendable env hbuilt]
      exact ⟨by show (-4000 : ℤ) ≠ 0; decide, _, (hub.duck.does_withRoutes _).of_refl
        (Duck.does_note _ _)⟩

end Call

/-- The packet built of a frame that fits the buffer. -/
theorem pollDownlink_snd_of_le {loop : DownlinkLoop} {td : ThreadDown} {pkt : DownlinkPacket}
    (hpos : pkt.payload ≠ []) (hle : pkt.payload.length ≤ td.bufCapacity.toNat) :
    (pollDownlink loop td [pkt]).2.2 = some (loop.txpkt pkt.info
      (overwrite pkt.payload td.duckPayloadBuf) (UInt16.ofNat pkt.payload.length)) := by
  have hsize : (UInt16.ofNat pkt.payload.length).toNat = pkt.payload.length :=
    UInt16.toNat_ofNat_of_lt' (lt_of_le_of_lt hle td.bufCapacity.toNat_lt)
  have hpop : cdpBridgePopDownlink td.duckPayloadBuf td.bufCapacity td.dl [pkt]
      = ⟨0, overwrite pkt.payload td.duckPayloadBuf, UInt16.ofNat pkt.payload.length, pkt.info,
          []⟩ := if_neg (Nat.not_lt.mpr hle)
  unfold pollDownlink
  rw [hpop]
  refine congrArg (Prod.snd ∘ Prod.snd) (if_pos ⟨rfl, ?_⟩)
  rw [UInt16.lt_iff_toNat_lt, hsize]
  exact List.length_pos_iff.mpr hpos

/-- **A frame passes the later checks of its size** when it has at most 255 bytes. -/
theorem transmittable_iff {pkt : DownlinkPacket} (hpos : pkt.payload ≠ []) :
    Transmittable pkt ↔ pkt.payload.length ≤ 255 := by
  have hcheck : ∀ (loop : DownlinkLoop) dl payload size,
      lgwSendSizeOk (loop.txpkt dl payload size) ↔ size ≤ 255 := fun loop dl payload size => by
    cases loop <;> exact decide_eq_true_iff
  have hsize : pkt.payload.length ≤ 256 →
      (UInt16.ofNat pkt.payload.length ≤ 255 ↔ pkt.payload.length ≤ 255) := fun hle => by
    rw [UInt16.le_iff_toNat_le, UInt16.toNat_ofNat_of_lt' (lt_of_le_of_lt hle (by decide))]
    rfl
  refine ⟨fun h => ?_, fun h loop td hcap => ?_⟩
  · obtain ⟨p, hp, hok⟩ := h .outer (ThreadDown.init []) rfl
    by_cases hle : pkt.payload.length ≤ 256
    · cases hp.symm.trans (pollDownlink_snd_of_le hpos hle)
      exact (hsize hle).mp ((hcheck _ _ _ _).mp hok)
    · rw [pollDownlink_of_lt (Nat.not_le.mp hle)] at hp
      exact absurd hp nofun
  · have hle : pkt.payload.length ≤ 256 := Nat.le_succ_of_le h
    exact ⟨_, pollDownlink_snd_of_le hpos (hcap ▸ hle),
      (hcheck _ _ _ _).mpr ((hsize hle).mpr h)⟩

/-- A hub is begun in every state it reaches. -/
theorem Reached.begun {hub : TimedDuck S g} (h : Reached lib hub) : Begun hub.duck := by
  induction h with
  | begin hub htype => exact ⟨rfl, htype, rfl⟩
  | receive env h hduck ih =>
    obtain ⟨hsetup, htype, hstate⟩ := PapaDuck.handleReceivedPacket_keeps lib env hduck
    exact ⟨hsetup ▸ ih.isSetup, htype.trans ih.duckType, hstate.trans ih.networkState⟩
  | bridge receivedFlag uplinkQueue downlinkQueue h ih =>
    exact ⟨ih.isSetup, ih.duckType, ih.networkState⟩
  | @send env millis topic message length targetDevice _ _ hub' h hsend ih =>
    obtain ⟨-, heq⟩ := (hubSend_eq_some lib env millis).mp hsend
    rw [show hub' = _ from (congrArg Prod.snd heq).symm]
    by_cases hsends : HubSends topic message length
    · obtain ⟨-, _, _, -, hdoes⟩ := hubSendData_of_sends lib env millis targetDevice ih hsends
      exact ih.does hdoes
    · obtain ⟨-, _, hdoes⟩ := hubSendData_of_not_sends lib env millis targetDevice ih hsends
      exact ih.does hdoes

/-- What the hub sends, in a call that is defined, is transmitted unless its length is one
of two. -/
theorem tellsTruth_iff_of_sends {topic : UInt8} {message : Option (ℕ → UInt8)} {length : ℤ}
    {hub : TimedDuck S g} (targetDevice : Option Duid) (h : Begun hub.duck)
    (hdefined : CallDefined topic message length targetDevice hub)
    (hsends : HubSends topic message length) :
    TellsTruth hub (hubSend lib env millis topic message length targetDevice hub)
      ↔ length ≠ 229 ∧ length ≠ 256 := by
  obtain ⟨hcode, added, frame, hlen, hdoes⟩ :=
    hubSendData_of_sends lib env millis targetDevice h hsends
  have hcall : hubSend lib env millis topic message length targetDevice hub
      = some (hubSendData lib env millis topic message length targetDevice hub) :=
    if_pos hdefined
  rw [hcall]
  obtain ⟨-, -, hpos, hlength⟩ := hsends
  have hne : frame ≠ [] := List.ne_nil_of_length_pos (hlen ▸ Nat.add_pos_left (by decide) _)
  -- the concentrator takes 255 bytes, and 27 of them are the header
  have hshort : Transmittable ⟨frame, DuckLoRa.downlinkInfo⟩ ↔ length ≠ 229 ∧ length ≠ 256 := by
    rw [transmittable_iff hne]
    show frame.length ≤ 255 ↔ _
    rw [hlen]
    show 27 + length.toNat ≤ 255 ↔ _
    omega
  rw [← hshort]
  generalize hubSendData lib env millis topic message length targetDevice hub = result
    at hcode hdoes
  refine ⟨fun htruth => ?_, fun htransmit => ⟨rfl, ?_, ?_⟩⟩
  · obtain ⟨pkt, hpkt, htransmit⟩ := htruth.sent result.2 (hcode ▸ rfl)
    cases List.append_cancel_left (hdoes.downlinkQueue.symm.trans hpkt)
    exact htransmit
  · rintro hub' ⟨⟩
    exact ⟨_, hdoes.downlinkQueue, htransmit⟩
  · rintro err hub' ⟨⟩ herr
    exact absurd hcode herr

/-- What the hub does not send, in a call that is defined, is not reported as sent. -/
theorem tellsTruth_of_not_sends {topic : UInt8} {message : Option (ℕ → UInt8)} {length : ℤ}
    {hub : TimedDuck S g} (targetDevice : Option Duid) (h : Begun hub.duck)
    (hdefined : CallDefined topic message length targetDevice hub)
    (hsends : ¬ HubSends topic message length) :
    TellsTruth hub (hubSend lib env millis topic message length targetDevice hub) := by
  obtain ⟨hcode, added, hdoes⟩ :=
    hubSendData_of_not_sends lib env millis targetDevice h hsends
  have hcall : hubSend lib env millis topic message length targetDevice hub
      = some (hubSendData lib env millis topic message length targetDevice hub) :=
    if_pos hdefined
  rw [hcall]
  generalize hubSendData lib env millis topic message length targetDevice hub = result
    at hcode hdoes
  refine ⟨rfl, ?_, ?_⟩
  · rintro hub' ⟨⟩
    exact absurd rfl hcode
  · rintro err hub' ⟨⟩ -
    exact hdoes.downlinkQueue.trans (List.append_nil _)

/-- **Success is reported of frames that can be transmitted, but for two lengths and one
lookup.** In every state of the hub a call that is not refused for its arguments tells the
truth when the answer to looking its target up fits and the message is neither of 229
bytes, whose frame is one byte too long for the concentrator, nor of 256, whose length is
mistaken for zero; and otherwise it does not. -/
theorem hubSendData_tellsTruth_iff {hub : TimedDuck S g} (h : Reached lib hub) (topic : UInt8)
    (message : Option (ℕ → UInt8)) (length : ℤ) (targetDevice : Option Duid) :
    TellsTruth hub (hubSend lib env millis topic message length targetDevice hub)
      ↔ Refused topic message length
        ∨ (hub.duck.LookupFits (targetDevice.getD broadcastDuid)
          ∧ length ≠ 229 ∧ length ≠ 256) := by
  have hbegun := h.begun lib
  have hdefined : CallDefined topic message length targetDevice hub
      ↔ Refused topic message length
        ∨ hub.duck.LookupFits (targetDevice.getD broadcastDuid) := callDefined_iff hbegun
  by_cases hrefused : Refused topic message length
  · exact iff_of_true (tellsTruth_of_not_sends lib env millis targetDevice hbegun
      (Or.inl hrefused) fun hsends => (hubSends_iff.mp hsends).1 hrefused) (Or.inl hrefused)
  rw [or_iff_right hrefused] at hdefined ⊢
  by_cases hfits : hub.duck.LookupFits (targetDevice.getD broadcastDuid)
  · rw [and_iff_right hfits]
    by_cases hlength : length ≤ 229 ∨ length = 256
    · exact tellsTruth_iff_of_sends lib env millis targetDevice hbegun (hdefined.mpr hfits)
        (hubSends_iff.mpr ⟨hrefused, hlength⟩)
    · -- the packet refuses what it cannot hold
      exact iff_of_true (tellsTruth_of_not_sends lib env millis targetDevice hbegun
        (hdefined.mpr hfits) fun hsends => hlength (hubSends_iff.mp hsends).2) (by omega)
  · refine iff_of_false (fun htruth => hfits (hdefined.mp ?_)) fun hcond => hfits hcond.1
    obtain ⟨result, hcall⟩ := Option.isSome_iff_exists.mp htruth.returns
    exact ((hubSend_eq_some lib env millis).mp hcall).1

end Send

/-- The hub when it has just begun. -/
def newHub : TimedDuck ℤ BloomGeometry.default :=
  ⟨(PapaDuck.begin (PapaDuck.newPapaDuck [])).2, 0⟩

theorem reached_newHub : Reached ArduinoJson.text newHub :=
  Reached.begin ⟨PapaDuck.newPapaDuck [], 0⟩ rfl

/-- A message of 20 bytes is reported truthfully. -/
theorem hubSendData_tellsTruth_short :
    TellsTruth newHub (hubSend ArduinoJson.text PapaDuck.env₀ 0 0x20 (some fun _ => 0x41) 20
      none newHub) :=
  (hubSendData_tellsTruth_iff ArduinoJson.text PapaDuck.env₀ 0 reached_newHub 0x20
    (some fun _ => 0x41) 20 none).mpr (Or.inr (by decide +kernel))

/-- **The longest message is reported as sent and is not.** -/
theorem hubSendData_not_tellsTruth :
    ¬ ∀ (hub : TimedDuck ℤ BloomGeometry.default), Reached ArduinoJson.text hub →
      ∀ (topic : UInt8) (message : Option (ℕ → UInt8)) (length : ℤ) (targetDevice : Option Duid),
        TellsTruth hub (hubSend ArduinoJson.text PapaDuck.env₀ 0 topic message length
          targetDevice hub) := by
  intro h
  have hsends : HubSends 0x20 (some fun _ => 0x41) 229 :=
    ⟨rfl, by decide, by decide, Or.inl (by decide)⟩
  have hdefined : CallDefined 0x20 (some fun _ => 0x41) 229 none newHub := by decide +kernel
  have htruth := h newHub reached_newHub 0x20 (some fun _ => 0x41) 229 none
  rw [tellsTruth_iff_of_sends ArduinoJson.text PapaDuck.env₀ 0 none (reached_newHub.begun _)
    hdefined hsends] at htruth
  exact htruth.1 rfl

end Hub
