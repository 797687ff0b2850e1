import MeshBeacon.MamaDuck
import MeshBeacon.PapaDuck
import Mathlib.Data.List.Induction

/-!
# What a MamaDuck remembers

The filter of a MamaDuck is what its history makes of the filter at the start, and
every message it relayed was new to the filter when it did. Both are kept by every
operation, because they compose (`MamaDuck.Follows`).

As the filter never forgets recent messages, a history that is shorter than a
generation of the filter has no second entry about a message that is relayed
before it is: the duck relays no message twice, and none that it has assigned.
-/

variable {S J : Type*} {g : BloomGeometry}

/-! ## Histories and the filter -/

namespace Deed

/-- What a deed does to the filter. -/
def record (bf : BloomFilter g) (deed : Deed) : BloomFilter g := bf.bloomAdd deed.muid.toList

/-- **The deed is legal** with this filter: only what is new is relayed. -/
def Legal (bf : BloomFilter g) (deed : Deed) : Prop :=
  ∀ muid, deed = .relayed muid → ¬ bf.bloomCheck muid.toList

/-- Recording deeds is adding their messages. -/
theorem final_record (bf : BloomFilter g) (deeds : List Deed) : Run.final record bf deeds
    = Run.final BloomFilter.bloomAdd bf ((deeds.map muid).map Vector.toList) := by
  unfold Run.final
  rw [List.foldl_map, List.foldl_map]
  rfl

/-- **A message of a short history has been seen** at its end. -/
theorem bloomCheck_final_record (bf : BloomFilter g) {deeds : List Deed}
    (hfew : deeds.length ≤ g.maxMsgs) {deed : Deed} (hdeed : deed ∈ deeds) :
    (Run.final record bf deeds).bloomCheck deed.muid.toList := by
  obtain ⟨before, after, rfl⟩ := List.append_of_mem hdeed
  have hafter : ((after.map muid).map Vector.toList).length < g.maxMsgs := by
    rw [List.length_map, List.length_map]
    rw [List.length_append, List.length_cons] at hfew
    omega
  rw [Run.final_append, Run.final_cons, final_record]
  exact ((Run.final record bf before).remembers_final_bloomAdd deed.muid.toList _).bloomCheck
    (Generations.mem_final_add hafter _ _)

/-- **Only new messages are relayed** in a short history all of whose deeds are
legal: nothing before it is about the message. -/
theorem pairwise_of_guarded {bf : BloomFilter g} {deeds : List Deed}
    (hfew : deeds.length ≤ g.maxMsgs) (hlegal : Run.Guarded record Legal bf deeds) :
    deeds.Pairwise fun earlier later => ∀ muid, later = .relayed muid → earlier.muid ≠ muid := by
  -- from the end: the last deed is legal with the filter all others have made
  induction deeds using List.reverseRecOn with
  | nil => exact List.Pairwise.nil
  | append_singleton deeds deed ih =>
    rw [Run.guarded_append] at hlegal
    rw [List.length_append, List.length_singleton] at hfew
    refine List.pairwise_append.mpr
      ⟨ih (Nat.le_of_succ_le hfew) hlegal.1, List.pairwise_singleton _ _, ?_⟩
    intro earlier hearlier later hlater muid hrelayed hmuid
    rw [List.mem_singleton.mp hlater] at hrelayed
    have hseen := bloomCheck_final_record bf (Nat.le_of_succ_le hfew) hearlier
    exact hlegal.2.1 muid hrelayed (hmuid ▸ hseen)

end Deed

/-! ## What every operation keeps -/

namespace MamaDuck

/-- **One duck follows from another**: its history goes on with deeds that were
legal, and its filter is what they make of the other's. -/
def Follows (mama mama' : MamaDuck S g) : Prop :=
  ∃ deeds, mama'.history = mama.history ++ deeds
    ∧ mama'.duck.router.filter = Run.final Deed.record mama.duck.router.filter deeds
    ∧ Run.Guarded Deed.record Deed.Legal mama.duck.router.filter deeds

namespace Follows

variable {mama mama' mama'' : MamaDuck S g}

theorem of_eq (hhistory : mama'.history = mama.history)
    (hfilter : mama'.duck.router.filter = mama.duck.router.filter) : Follows mama mama' :=
  ⟨[], hhistory.trans (List.append_nil _).symm, hfilter, trivial⟩

theorem refl (mama : MamaDuck S g) : Follows mama mama := of_eq rfl rfl

/-- **One operation after another.** -/
theorem trans (h : Follows mama mama') (h' : Follows mama' mama'') : Follows mama mama'' := by
  obtain ⟨deeds, hhistory, hfilter, hlegal⟩ := h
  obtain ⟨deeds', hhistory', hfilter', hlegal'⟩ := h'
  rw [hfilter] at hfilter' hlegal'
  refine ⟨deeds ++ deeds', ?_, ?_, Run.guarded_append.mpr ⟨hlegal, hlegal'⟩⟩
  · rw [hhistory', hhistory, List.append_assoc]
  · rw [hfilter', Run.final_append]

end Follows

variable (mama : MamaDuck S g)

/-- What a duck does, recorded as deeds that are legal. -/
theorem follows_doing {deeds : List Deed} {queued : List DownlinkPacket} {duck : Duck S g}
    (hdoes : Duck.Does (deeds.map Deed.muid) queued mama.duck duck)
    (hlegal : Run.Guarded Deed.record Deed.Legal mama.duck.router.filter deeds) :
    Follows mama (mama.doing deeds duck) :=
  ⟨deeds, rfl, hdoes.filter.trans (Deed.final_record _ _).symm, hlegal⟩

theorem follows_doing_nil {queued : List DownlinkPacket} {duck : Duck S g}
    (hdoes : Duck.Does [] queued mama.duck duck) : Follows mama (mama.doing [] duck) :=
  mama.follows_doing hdoes trivial

theorem follows_broadcastPacket (packet : CdpPacket) :
    Follows mama (mama.broadcastPacket packet) := by
  unfold broadcastPacket
  by_cases h : mama.duck.Relays packet
  · rw [if_pos h]
    refine mama.follows_doing (mama.duck.does_broadcastPacket packet h) ⟨?_, trivial⟩
    rintro _ ⟨⟩
    exact h.new
  · rw [if_neg h, mama.duck.broadcastPacket_of_not_relays packet h]
    exact mama.follows_doing_nil (Duck.Does.refl mama.duck)

theorem follows_forwardPacket [LinearOrder S] (packet : CdpPacket) :
    Follows mama (mama.forwardPacket packet) := by
  unfold forwardPacket
  by_cases h : mama.duck.Routes packet ∧ mama.duck.Relays packet
  · rw [if_pos h]
    refine mama.follows_doing (mama.duck.does_forwardPacket h.1 h.2) ⟨?_, trivial⟩
    rintro _ ⟨⟩
    exact h.2.new
  · rw [if_neg h]
    exact mama.follows_doing_nil (mama.duck.does_forwardPacket_of_not h)

section Operations

variable (lib : ArduinoJson J) (env : DuckEnv) (millis : UInt64)

theorem follows_sendReservedTopicData (targetDevice : Duid) (topic : UInt8) (data : List UInt8) :
    Follows mama (mama.sendReservedTopicData env targetDevice topic data) := by
  unfold sendReservedTopicData
  by_cases h : mama.duck.Speaks topic
  · rw [if_pos h]
    exact mama.follows_doing (mama.duck.does_sendReservedTopicData env h targetDevice data)
      ⟨nofun, trivial⟩
  · rw [if_neg h, mama.duck.sendReservedTopicData_of_not_speaks env h]
    exact mama.follows_doing_nil (Duck.Does.refl mama.duck)

theorem follows_insertRoute (deviceID nextHop : Duid) :
    Follows mama (mama.insertRoute env deviceID nextHop) :=
  mama.follows_doing_nil (mama.duck.does_insertRoute env deviceID nextHop)

theorem follows_sendPacket (txPacket : CdpPacket) :
    Follows mama (mama.sendPacket env txPacket) := by
  unfold sendPacket
  dsimp only
  by_cases h : txPacket.Sendable
  · -- the identifier is added when it is assigned and again when the packet is sent
    rw [if_pos h]
    exact mama.follows_doing (TimedDuck.does_sendPacket env h) ⟨nofun, nofun, trivial⟩
  · rw [if_neg h, TimedDuck.sendPacket_of_not_sendable env h]
    exact mama.follows_doing (mama.duck.does_note _) ⟨nofun, trivial⟩

theorem follows_requestRoute (targetDevice : Duid) :
    Follows mama (mama.requestRoute lib env millis targetDevice) := by
  unfold requestRoute
  split_ifs
  · exact (mama.follows_sendReservedTopicData env _ _ _).trans (.of_eq rfl rfl)
  · exact .refl mama

theorem follows_sendData [LinearOrder S] (topic : UInt8) (data : List UInt8)
    (targetDevice : Duid) :
    Follows mama (mama.sendData lib env millis topic data targetDevice) := by
  unfold sendData
  dsimp only
  have hlooked := mama.follows_doing_nil (mama.duck.does_withRoutes
    (getBestNextHop targetDevice mama.duck.router.routingTable).2)
  split_ifs
  · exact .refl mama
  · exact hlooked.trans (follows_sendPacket _ env _)
  · exact hlooked.trans (follows_requestRoute _ lib env millis targetDevice)
  · exact .refl mama

theorem follows_ifBroadcast (rxPacket : CdpPacket) :
    Follows mama (mama.ifBroadcast lib env rxPacket) := by
  unfold ifBroadcast
  split_ifs
  · exact (mama.follows_sendReservedTopicData env _ _ _).trans (follows_insertRoute _ env _ _)
  · exact .refl mama
  · exact mama.follows_sendReservedTopicData env _ _ _
  · exact .refl mama
  · exact mama.follows_broadcastPacket rxPacket

variable {mama} {mama' : MamaDuck S g}

theorem follows_ifRouteRequest [LinearOrder S] {rxPacket : CdpPacket} {relay : Bool}
    (h : mama.ifRouteRequest lib env rxPacket relay = some mama') : Follows mama mama' := by
  unfold ifRouteRequest at h
  split at h
  · exact absurd h nofun
  · split_ifs at h
    · obtain ⟨-, rfl⟩ := forward_eq_some.mp h
      exact mama.follows_forwardPacket _
    · cases h
      exact mama.follows_sendReservedTopicData env _ _ _

theorem follows_ifRouteResponse [LinearOrder S] {rxPacket : CdpPacket}
    (h : mama.ifRouteResponse lib env rxPacket = some mama') : Follows mama mama' := by
  unfold ifRouteResponse at h
  split at h
  · exact absurd h nofun
  · dsimp only at h
    have hlooked := fun routingTable =>
      mama.follows_doing_nil (mama.duck.does_withRoutes routingTable)
    split_ifs at h
    · split at h <;> cases h
      exact ((hlooked _).trans (follows_sendReservedTopicData _ env _ _ _)).trans
        (follows_insertRoute _ env _ _)
    · cases h
      exact (hlooked _).trans (follows_insertRoute _ env _ _)

theorem follows_ifNotBroadcast [LinearOrder S] {rxPacket : CdpPacket} {relay : Bool}
    (h : mama.ifNotBroadcast lib env rxPacket relay = some mama') : Follows mama mama' := by
  unfold ifNotBroadcast at h
  split_ifs at h
  · exact follows_ifRouteRequest lib env h
  · exact follows_ifRouteResponse lib env h
  · cases h
    exact mama.follows_sendReservedTopicData env _ _ _
  · cases h
    exact .refl mama
  · cases h
    exact mama.follows_broadcastPacket rxPacket
  · obtain ⟨-, rfl⟩ := forward_eq_some.mp h
    exact mama.follows_forwardPacket rxPacket
  · cases h
    exact .refl mama

/-- **Handling what is received** is followed by its message being added to the
filter. -/
theorem follows_handleReceivedPacket [LinearOrder S]
    (h : mama.handleReceivedPacket lib env = some mama') : Follows mama mama' := by
  unfold handleReceivedPacket at h
  dsimp only at h
  have hread : Follows mama (mama.withRadio mama.duck.duckRadio.readReceivedData.2) :=
    .of_eq rfl rfl
  split at h
  · cases h
    exact hread
  · obtain ⟨handled, hhandled, rfl⟩ := Option.map_eq_some_iff.mp h
    refine (hread.trans ?_).trans
      (handled.follows_doing (handled.duck.does_note _) ⟨nofun, trivial⟩)
    unfold handleByDestination at hhandled
    split_ifs at hhandled
    · cases hhandled
      exact follows_ifBroadcast _ lib env _
    · exact follows_ifNotBroadcast lib env hhandled
    · exact follows_ifNotBroadcast lib env hhandled

variable (mama)

theorem follows_checkForNetworks : Follows mama mama.checkForNetworks.2 := by
  unfold checkForNetworks
  dsimp only
  split_ifs
  · split
    · exact .of_eq rfl rfl
    · split_ifs <;> exact .of_eq rfl rfl
  · exact .refl mama

/-- The state of the network is not that of the filter. -/
theorem filter_setNetworkState (newState : NetworkState) :
    (mama.setNetworkState newState).duck.router.filter = mama.duck.router.filter := by
  show (mama.duck.router.setNetworkState newState).filter = _
  unfold DuckRouter.setNetworkState
  split <;> rfl

theorem follows_setNetworkState (newState : NetworkState) :
    Follows mama (mama.setNetworkState newState) :=
  .of_eq rfl (mama.filter_setNetworkState newState)

theorem follows_attemptNetworkJoin : Follows mama (mama.attemptNetworkJoin lib env millis) := by
  unfold attemptNetworkJoin
  refine mama.follows_checkForNetworks.trans ?_
  generalize mama.checkForNetworks = checked
  obtain ⟨cdpNode, mama⟩ := checked
  cases cdpNode with
  | some cdpNode => exact (mama.follows_insertRoute env _ _).trans (follows_setNetworkState _ _)
  | none =>
    dsimp only
    split_ifs
    · exact (mama.follows_sendReservedTopicData env _ _ _).trans (.of_eq rfl rfl)
    · exact .refl mama

theorem follows_main [LinearOrder S] {mama'} (h : mama.main lib env millis = some mama') :
    Follows mama mama' := by
  unfold main at h
  dsimp only at h
  have hjoin := mama.follows_attemptNetworkJoin lib env millis
  split_ifs at h
  · exact follows_handleReceivedPacket lib env h
  · cases h
    exact .refl mama
  · cases h
    exact hjoin.trans (follows_setNetworkState _ _)
  · cases h
    exact hjoin

end Operations

/-! ## Runs -/

end MamaDuck

/-- What happens to a MamaDuck. -/
inductive MamaEvent (S : Type*) where
  /-- The bridge brings frames and takes frames. -/
  | bridge (receivedFlag : Bool) (uplinkQueue : List (UplinkPacket S))
    (downlinkQueue : List DownlinkPacket)
  /-- The main loop is run, which handles a frame that has been received. -/
  | main (env : DuckEnv) (millis : UInt64)
  /-- The application sends data. -/
  | sendData (env : DuckEnv) (millis : UInt64) (topic : UInt8) (data : List UInt8)
    (targetDevice : Duid)
  /-- The application sends a ping. -/
  | sendPing (env : DuckEnv) (targetDevice : Duid)

namespace MamaDuck

variable [LinearOrder S] (lib : ArduinoJson J)

/-- One event. Nothing is known of a duck after undefined behaviour. -/
def step (mama : Option (MamaDuck S g)) (event : MamaEvent S) : Option (MamaDuck S g) :=
  match mama, event with
  | none, _ => none
  | some mama, .bridge receivedFlag uplinkQueue downlinkQueue =>
    some (mama.withRadio
      { mama.duck.duckRadio with
        receivedFlag := receivedFlag
        uplinkQueue := uplinkQueue
        downlinkQueue := downlinkQueue })
  | some mama, .main env millis => mama.main lib env millis
  | some mama, .sendData env millis topic data targetDevice =>
    mama.send lib env millis topic data targetDevice
  | some mama, .sendPing env targetDevice => some (mama.sendPing env targetDevice)

/-- **The step lemma**: a duck follows from what it was before the event. -/
theorem follows_step {mama mama' : MamaDuck S g} {event : MamaEvent S}
    (h : step lib (some mama) event = some mama') : Follows mama mama' := by
  cases event with
  | bridge receivedFlag uplinkQueue downlinkQueue =>
    cases h
    exact .of_eq rfl rfl
  | main env millis => exact mama.follows_main lib env millis h
  | sendData env millis topic data targetDevice =>
    obtain ⟨-, rfl⟩ := (send_eq_some lib env millis).mp h
    exact mama.follows_sendData lib env millis topic data targetDevice
  | sendPing env targetDevice =>
    cases h
    exact mama.follows_sendReservedTopicData env _ _ _

/-- **The run lemma**: a duck follows from what it was at the start. -/
theorem follows_final {mama mama' : MamaDuck S g} (events : List (MamaEvent S))
    (h : Run.final (step lib) (some mama) events = some mama') : Follows mama mama' := by
  refine Run.invariant_some (P := Follows mama) (fun _ => rfl) ?_ events (.refl mama) h
  exact fun _ _ _ hstep hfollows => hfollows.trans (follows_step lib hstep)

end MamaDuck
