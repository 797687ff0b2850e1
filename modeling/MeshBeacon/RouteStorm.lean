import MeshBeacon.Mesh

/-!
# Route storms

Every route response that is passed on is a new message, with an identifier of its
own, so no filter recognizes it, and ducks that hear each other pass on what the
other has passed on. What there is instead is a condition on the ducks at the time:
as long as no duck hears a response that it would pass on again, every duck reacts
to every original once.

A duck that hears a response queues one frame at most, and no response unless it
reacts (`Duck.Answers`). The rest is counting.
-/

variable {ι S J : Type*} {g : BloomGeometry}

/-! ## The frames sent on hearing a response -/

/-- The topic of a frame that is queued is that of its packet, unless the frame is cut
short of it. -/
theorem DuckLoRa.topic_of_mem_queued {radio : DuckLoRa S} {packet : CdpPacket}
    {pkt : DownlinkPacket} (h : pkt ∈ radio.queued packet.frame) :
    (CdpPacket.ofBuffer pkt.payload).topic = packet.topic
      ∨ (CdpPacket.ofBuffer pkt.payload).topic = 0 := by
  have hread : pkt.payload = packet.frame.take (UInt16.ofNat packet.frame.length).toNat := by
    unfold queued cdpBridgeEnqueueDownlinkExt at h
    dsimp only at h
    split_ifs at h
    · exact absurd h List.not_mem_nil
    · rw [List.nil_append, List.mem_singleton] at h
      rw [h]
      rfl
    · exact absurd h List.not_mem_nil
  have htopic : byteAt packet.frame topicPos = packet.topic :=
    congrArg CdpPacket.topic packet.ofBuffer_frame
  show byteAt pkt.payload topicPos = _ ∨ byteAt pkt.payload topicPos = 0
  rw [hread, ← htopic]
  unfold byteAt
  rw [List.getD_eq_getElem?_getD, List.getElem?_take]
  split_ifs
  · exact Or.inl List.getD_eq_getElem?_getD.symm
  · exact Or.inr rfl

namespace Duck

/-- No route response is queued. -/
def NoResponse (duck : Duck S g) : Prop :=
  ∀ pkt ∈ duck.duckRadio.downlinkQueue, ¬ IsRrep pkt.payload

theorem noResponse_sendReservedTopicData (env : DuckEnv) {duck : Duck S g} (targetDevice : Duid)
    {topic : UInt8} (htopic : topic ≠ ReservedTopic.rrep) (data : List UInt8)
    (hduck : duck.NoResponse) :
    (duck.sendReservedTopicData env targetDevice topic data).2.NoResponse := by
  by_cases h : duck.Speaks topic
  · intro pkt hpkt
    rw [(duck.does_sendReservedTopicData env h targetDevice data).downlinkQueue,
      List.mem_append] at hpkt
    rcases hpkt with hpkt | hpkt
    · exact hduck pkt hpkt
    · split_ifs at hpkt
      · intro hrrep
        rcases DuckLoRa.topic_of_mem_queued hpkt with heq | heq
        · exact htopic (heq.symm.trans hrrep)
        · exact absurd (heq.symm.trans hrrep) (by decide)
      · exact absurd hpkt List.not_mem_nil
  · rw [duck.sendReservedTopicData_of_not_speaks env h]
    exact hduck

/-- **What the duck has answered**: one frame at most, and no route response unless it
reacts. -/
structure Answers (reacts : Prop) (duck : Duck S g) : Prop where
  one : duck.duckRadio.downlinkQueue.length ≤ 1
  quiet : ¬ reacts → duck.NoResponse

theorem noResponse_of_empty {duck : Duck S g} (hempty : duck.duckRadio.downlinkQueue = []) :
    duck.NoResponse := by
  unfold NoResponse
  rw [hempty]
  exact nofun

theorem answers_of_empty {reacts : Prop} {duck : Duck S g}
    (hempty : duck.duckRadio.downlinkQueue = []) : Answers reacts duck :=
  ⟨hempty ▸ Nat.zero_le 1, fun _ => noResponse_of_empty hempty⟩

/-- A reaction to start with queues one frame at most. -/
theorem Reacts.length_le_one {duck duck' : Duck S g} (h : duck.Reacts duck')
    (hempty : duck.duckRadio.downlinkQueue = []) : duck'.duckRadio.downlinkQueue.length ≤ 1 := by
  obtain ⟨_, _, hdoes, hlen⟩ := h
  rw [hdoes.downlinkQueue, hempty]
  exact hlen

/-- A reaction that does nothing when there is nothing to react to. -/
theorem answers_of_reacts {reacts : Prop} {duck duck' : Duck S g}
    (hempty : duck.duckRadio.downlinkQueue = []) (h : duck.Reacts duck')
    (hquiet : ¬ reacts → Does [] [] duck duck') : Answers reacts duck' where
  one := h.length_le_one hempty
  quiet hnot := noResponse_of_empty <| by
    rw [(hquiet hnot).downlinkQueue, hempty]
    rfl

end Duck

section Hearing

variable [LinearOrder S] {lib : ArduinoJson J} {env : DuckEnv} {millis : UInt64}
  {pkt : UplinkPacket S}

/-- **A PapaDuck that hears a response** answers as it reacts to it. -/
theorem PapaDuck.answers_handleReceivedPacket {duck duck' : Duck S g}
    (hrrep : IsRrep pkt.payload)
    (h : handleReceivedPacket lib env (duck.listening [pkt]) = some duck') :
    Duck.Answers (duck.duckRadio.isSetup ∧ DuckLoRa.acceptable pkt.payload
      ∧ ReactsTo lib (CdpPacket.ofBuffer pkt.payload) duck) duck' := by
  have hempty := DuckLoRa.downlinkQueue_readReceivedData (duck.listening [pkt]).duckRadio
  unfold handleReceivedPacket at h
  dsimp only at h
  split at h
  · cases h
    exact Duck.answers_of_empty hempty
  · next bytes hread =>
    obtain ⟨hsetup, rfl, hacc⟩ := DuckLoRa.readReceivedData_eq_some.mp hread
    split_ifs at h with hseen
    · cases h
      exact Duck.answers_of_empty hempty
    · refine Duck.answers_of_reacts hempty (reacts_handleByDestination lib env h) fun hnot => ?_
      exact does_handleByDestination_of_not hrrep (BloomFilter.bloomCheck_bloomAdd _ _)
        (fun hdirected hown hpass => hnot ⟨hsetup, hacc, hseen, hdirected, hown, hpass⟩) h

/-- A MamaDuck that hears a response in the public network likewise. -/
theorem MamaDuck.answers_handleReceivedPacket {mama mama' : MamaDuck S g}
    (hrrep : IsRrep pkt.payload)
    (h : handleReceivedPacket lib env { mama with duck := mama.duck.listening [pkt] }
      = some mama') :
    Duck.Answers (mama.duck.duckRadio.isSetup ∧ DuckLoRa.acceptable pkt.payload
      ∧ mama.ReactsTo lib (CdpPacket.ofBuffer pkt.payload)) mama'.duck := by
  have hempty := DuckLoRa.downlinkQueue_readReceivedData (mama.duck.listening [pkt]).duckRadio
  unfold handleReceivedPacket at h
  dsimp only at h
  split at h
  · cases h
    exact Duck.answers_of_empty hempty
  · next bytes hread =>
    obtain ⟨hsetup, rfl, hacc⟩ := DuckLoRa.readReceivedData_eq_some.mp hread
    obtain ⟨handled, hhandled, rfl⟩ := Option.map_eq_some_iff.mp h
    have hanswers : Duck.Answers (mama.ReactsTo lib (CdpPacket.ofBuffer pkt.payload))
        handled.duck :=
      Duck.answers_of_reacts hempty (reacts_handleByDestination_of_rrep hrrep hhandled)
        fun hnot => does_handleByDestination_of_not hrrep
          (fun hreacts => hnot (hreacts.congr rfl rfl)) hhandled
    exact ⟨hanswers.one, fun hnot => hanswers.quiet fun hreacts => hnot ⟨hsetup, hacc, hreacts⟩⟩

omit [LinearOrder S] in
/-- A MamaDuck that looks for a network sends a request at most. -/
theorem MamaDuck.answers_attemptNetworkJoin (lib : ArduinoJson J) (env : DuckEnv)
    (millis : UInt64) (mama : MamaDuck S g)
    (hempty : mama.duck.duckRadio.downlinkQueue = []) :
    Duck.Answers False (mama.attemptNetworkJoin lib env millis).duck := by
  have hchecked : mama.checkForNetworks.2.duck.duckRadio.downlinkQueue = [] := by
    have hread := (DuckLoRa.downlinkQueue_readReceivedData mama.duck.duckRadio).trans hempty
    unfold checkForNetworks
    dsimp only
    split_ifs
    · split
      · exact hread
      · split_ifs <;> exact hread
    · exact hempty
  unfold attemptNetworkJoin
  generalize mama.checkForNetworks = checked at hchecked ⊢
  obtain ⟨cdpNode, mama⟩ := checked
  cases cdpNode with
  | some cdpNode =>
    exact Duck.answers_of_empty hchecked
  | none =>
    dsimp only
    split_ifs
    · exact ⟨(mama.duck.reacts_sendReservedTopicData env _ _ _).length_le_one hchecked,
        fun _ => Duck.noResponse_sendReservedTopicData env _ (by decide) _
          (Duck.noResponse_of_empty hchecked)⟩
    · exact Duck.answers_of_empty hchecked

/-- **A MamaDuck that hears a response** answers as it reacts to it. -/
theorem MamaDuck.answers_main {mama mama' : MamaDuck S g} (hrrep : IsRrep pkt.payload)
    (h : main lib env millis { mama with duck := mama.duck.listening [pkt] } = some mama') :
    Duck.Answers ((MeshDuck.mama mama).ReactsTo lib pkt.payload) mama'.duck := by
  unfold main at h
  dsimp only at h
  by_cases hpublic : (mama.duck.listening [pkt]).router.networkState = .publicNetwork
  · rw [if_pos hpublic,
      if_pos (show (mama.duck.listening [pkt]).duckRadio.receivedFlag = true from rfl)] at h
    have hanswers := answers_handleReceivedPacket hrrep h
    exact ⟨hanswers.one, fun hnot => hanswers.quiet fun hreacts =>
      hnot ⟨hreacts.1, hreacts.2.1, hpublic, hreacts.2.2⟩⟩
  · -- a duck that is searching takes the response for an answer to its request
    rw [if_neg hpublic] at h
    have hanswers := answers_attemptNetworkJoin lib env millis
      { mama with duck := mama.duck.listening [pkt] } rfl
    split_ifs at h <;> cases h
    · exact ⟨hanswers.one, fun _ => hanswers.quiet not_false⟩
    · exact ⟨hanswers.one, fun _ => hanswers.quiet not_false⟩

/-- **A duck that hears a response** answers as it reacts to it. -/
theorem MeshDuck.answers_loop (pkt : UplinkPacket S) {node node' : MeshDuck S g}
    (hrrep : IsRrep pkt.payload)
    (h : (node.listening [pkt]).loop lib env millis = some node') :
    node'.duck.Answers (node.ReactsTo lib pkt.payload) := by
  cases node with
  | mama node =>
    obtain ⟨mama', hmama', rfl⟩ := Option.map_eq_some_iff.mp h
    exact MamaDuck.answers_main hrrep hmama'
  | papa node =>
    unfold listening loop at h
    dsimp only at h
    rw [if_pos (Or.inl (show (node.duck.listening [pkt]).duckRadio.receivedFlag = true from rfl))]
      at h
    obtain ⟨duck', hduck', rfl⟩ := Option.map_eq_some_iff.mp h
    exact PapaDuck.answers_handleReceivedPacket hrrep hduck'

end Hearing

/-! ## Counting -/

namespace Mesh

section Count

variable {mesh : Mesh ι S g} {i : ι} {node : MeshDuck S g}

/-- **The reactions are counted**: they are distinct, and all responses go back to an
original. -/
structure Counted (mesh : Mesh ι S g) : Prop where
  once : (mesh.reactions.map fun t => (t.sender, t.root)).Nodup
  rooted : ∀ t ∈ mesh.air, IsRrep t.frame → t.root ∈ mesh.originals.map Transmission.root

/-- With nothing on the air there is nothing to count. -/
theorem counted_nil (ducks : ι → MeshDuck S g) : Counted ⟨ducks, []⟩ := ⟨List.nodup_nil, nofun⟩

variable [DecidableEq ι]

theorem originals_subset_after (reaction : Bool) (root : ℕ) :
    mesh.originals ⊆ (mesh.after i reaction root node).originals := by
  unfold originals after
  rw [List.filter_append]
  exact List.subset_append_left _ _

/-- **What a duck sends of its own** is no reaction, and an original if it is a
response. -/
theorem Counted.afterOwn (h : Counted mesh) : Counted (mesh.afterOwn i node) where
  once := by
    have hnone : (node.sent.map fun frame =>
        (⟨i, frame, false, mesh.air.length⟩ : Transmission ι)).filter
          (fun t => t.reaction && decide (IsRrep t.frame)) = [] := by
      rw [List.filter_eq_nil_iff]
      intro t ht
      obtain ⟨frame, -, rfl⟩ := List.mem_map.mp ht
      exact Bool.false_ne_true
    unfold reactions Mesh.afterOwn after
    rw [List.filter_append, hnone, List.append_nil]
    exact h.once
  rooted t ht hrrep := by
    rcases List.mem_append.mp ht with hold | hnew
    · exact List.map_subset _ (originals_subset_after _ _) (h.rooted t hold hrrep)
    · refine List.mem_map_of_mem (List.mem_filter.mpr ⟨ht, ?_⟩)
      obtain ⟨frame, -, rfl⟩ := List.mem_map.mp hnew
      exact decide_eq_true hrrep

/-- **What it sends on hearing a response** is a reaction to the original of that, of
which there is none before if there is one now. -/
theorem Counted.after (h : Counted mesh) {heard : Transmission ι} (hheard : heard ∈ mesh.air)
    (hrrep : IsRrep heard.frame) (hone : node.sent.length ≤ 1)
    (hfirst : (∃ t ∈ mesh.reactions, t.sender = i ∧ t.root = heard.root) →
      ∀ frame ∈ node.sent, ¬ IsRrep frame) :
    Counted (mesh.after i true heard.root node) where
  once := by
    unfold reactions Mesh.after
    rw [List.filter_append]
    -- one frame at most is sent, and it counts if it is a response
    match hsent : node.sent with
    | [] => exact (List.append_nil mesh.reactions).symm ▸ h.once
    | frame :: _ :: _ => simp [hsent] at hone
    | [frame] =>
      by_cases hframe : IsRrep frame
      · have hnew : (i, heard.root) ∉ mesh.reactions.map fun t => (t.sender, t.root) := by
          intro hmem
          obtain ⟨t, ht, heq⟩ := List.mem_map.mp hmem
          rw [Prod.mk.injEq] at heq
          exact hfirst ⟨t, ht, heq⟩ frame (hsent ▸ List.mem_singleton_self frame) hframe
        rw [List.map_singleton, List.filter_singleton]
        simp only [hframe, decide_true, Bool.and_self, cond_true]
        rw [List.map_append, List.map_singleton]
        exact h.once.append (List.nodup_singleton _) (List.disjoint_singleton.mpr hnew)
      · rw [List.map_singleton, List.filter_singleton]
        simp only [hframe, decide_false, Bool.and_false, cond_false, List.append_nil]
        exact h.once
  rooted t ht ht' := by
    refine List.map_subset _ (originals_subset_after _ _) ?_
    rcases List.mem_append.mp ht with hold | hnew
    · exact h.rooted t hold ht'
    · obtain ⟨frame, -, rfl⟩ := List.mem_map.mp hnew
      exact h.rooted heard hheard hrrep

/-- **Counted reactions do not storm.** -/
theorem Counted.noStorm [Fintype ι] (h : Counted mesh) : NoStorm mesh where
  once := h.once
  few := by
    classical
    set reacted := mesh.reactions.map fun t => (t.sender, t.root)
    set roots := (mesh.originals.map Transmission.root).toFinset
    have hsubset : reacted.toFinset ⊆ Finset.univ ×ˢ roots := by
      intro pair hpair
      obtain ⟨t, ht, rfl⟩ := List.mem_map.mp (List.mem_toFinset.mp hpair)
      obtain ⟨hair, hreaction⟩ := List.mem_filter.mp ht
      have hrrep := of_decide_eq_true (Bool.and_eq_true_iff.mp hreaction).2
      exact Finset.mem_product.mpr
        ⟨Finset.mem_univ _, List.mem_toFinset.mpr (h.rooted t hair hrrep)⟩
    calc mesh.reactions.length = reacted.length := (List.length_map _).symm
      _ = reacted.toFinset.card := (List.toFinset_card_of_nodup h.once).symm
      _ ≤ (Finset.univ ×ˢ roots).card := Finset.card_le_card hsubset
      _ = Fintype.card ι * roots.card := Finset.card_product _ _
      _ ≤ Fintype.card ι * mesh.originals.length :=
        Nat.mul_le_mul_left _ ((List.toFinset_card_le _).trans_eq (List.length_map _))

end Count

/-! ## Runs -/

section Runs

variable [DecidableEq ι] [LinearOrder S] (lib : ArduinoJson J)

/-- **The step lemma**: an event in which no duck reacts again keeps the reactions
counted. -/
theorem counted_step {mesh mesh' : Mesh ι S g} {event : MeshEvent ι S}
    (hguard : NotAgain lib (some mesh) event) (h : step lib (some mesh) event = some mesh')
    (hcounted : Counted mesh) : Counted mesh' := by
  cases event with
  | hear i k freqHz datarateSf signalScore env millis =>
    unfold step at h
    dsimp only at h
    split at h
    · cases h
      exact hcounted
    · next heard hheard =>
      obtain ⟨node, hnode, rfl⟩ := Option.map_eq_some_iff.mp h
      split_ifs with hrrep
      · have hanswers := MeshDuck.answers_loop ⟨heard.frame, freqHz, datarateSf, signalScore⟩
          hrrep hnode
        have hone : node.sent.length ≤ 1 := (List.length_map _).trans_le hanswers.one
        have hair : heard ∈ mesh.air := List.mem_of_getElem? hheard
        -- a duck that has reacted to this response before does not do so again
        have hfirst : (∃ t ∈ mesh.reactions, t.sender = i ∧ t.root = heard.root) →
            ∀ frame ∈ node.sent, ¬ IsRrep frame := by
          intro hagain frame hframe
          have hnot := hguard heard (Option.mem_def.mpr hheard) hrrep hagain
          obtain ⟨pkt, hpkt, rfl⟩ := List.mem_map.mp hframe
          exact hanswers.quiet hnot pkt hpkt
        exact hcounted.after hair hrrep hone hfirst
      · exact hcounted.afterOwn
  | idle i env millis =>
    obtain ⟨node, -, rfl⟩ := Option.map_eq_some_iff.mp h
    exact hcounted.afterOwn
  | sendData i env millis topic data targetDevice =>
    obtain ⟨node, -, rfl⟩ := Option.map_eq_some_iff.mp h
    exact hcounted.afterOwn
  | sendPing i env targetDevice =>
    cases h
    exact hcounted.afterOwn

/-- **Route responses do not storm as long as no duck reacts again.** Whatever the ducks
are at the start and whatever they hear in whatever order: if no duck that has reacted
to a response hears one of the same original that it would react to, no duck sends
two responses in reaction to one original. -/
theorem noStorm_of_notAgain [Fintype ι] (ducks : ι → MeshDuck S g) (events : List (MeshEvent ι S))
    (hguard : Run.Guarded (step lib) (NotAgain lib) (some ⟨ducks, []⟩) events) {mesh : Mesh ι S g}
    (hrun : Run.final (step lib) (some ⟨ducks, []⟩) events = some mesh) : NoStorm mesh := by
  have hcounted : Counted mesh := hguard.invariant_some (P := Counted) (fun _ => rfl)
    (fun _ _ _ hok hstep => counted_step lib hok hstep) (counted_nil ducks) hrun
  exact hcounted.noStorm

end Runs

/-! ## A storm -/

/-- The surroundings of a duck whose random numbers are all the same. -/
def envOf (random : ℕ) : DuckEnv := ⟨fun _ => random, 0, 0⟩

/-- The identifiers of three ducks. -/
def duidD : Duid := letterDuid 0x44
def duidR : Duid := letterDuid 0x52
def duidP : Duid := letterDuid 0x50

/-- A new duck in the public network, with its radio set up. -/
def newDuck (duid : Duid) (duckType : UInt8) : Duck ℤ BloomGeometry.default :=
  { PapaDuck.newPapaDuck [] with duid := duid, duckType := duckType }

/-- Three ducks in reach of each other. The first knows no route; the second, and a
PapaDuck where `known`, know it as a neighbor. -/
def threeDucks (known : Bool) : Fin 3 → MeshDuck ℤ BloomGeometry.default
  | 0 => .mama ⟨⟨newDuck duidD 2, 0⟩, []⟩
  | 1 =>
    let duck := newDuck duidR 2
    .mama ⟨⟨if known then duck.insertRoute (envOf 0) duidD duidD else duck, 0⟩, []⟩
  | 2 => .papa ⟨(newDuck duidP 1).insertRoute (envOf 0) duidD duidD, 0⟩

/-- A duck hears a frame. -/
def hears (i : Fin 3) (k random : ℕ) : MeshEvent (Fin 3) ℤ :=
  .hear i k 922800000 7 0 (envOf random) 0

/-- The first duck asks the second for a route and is answered; the PapaDuck hears the
answer, the second what that sends, and so on. -/
def answered : List (MeshEvent (Fin 3) ℤ) :=
  [.sendData 0 (envOf 1) 40000 0x20 [0x41] duidR, hears 1 0 2, hears 2 1 3, hears 1 2 4,
    hears 2 3 5]

/-- If the second duck does not know the first, it does not send the response again. -/
theorem noStorm_of_notAgain_unknown : ∃ mesh,
    Run.final (step ArduinoJson.flat) (some ⟨threeDucks false, []⟩) answered = some mesh
      ∧ mesh.reactions.length = 1 ∧ NoStorm mesh := by
  have hlength : (Run.final (step ArduinoJson.flat) (some ⟨threeDucks false, []⟩) answered).map
      (fun mesh => mesh.reactions.length) = some 1 := by decide +kernel
  obtain ⟨mesh, hrun, hone⟩ := Option.map_eq_some_iff.mp hlength
  exact ⟨mesh, hrun, hone, noStorm_of_notAgain ArduinoJson.flat (threeDucks false) answered
    (by decide +kernel) hrun⟩

/-- **Two neighbors of a duck send a response to it to and fro.** -/
theorem routeResponses_storm :
    ¬ ∀ (ducks : Fin 3 → MeshDuck ℤ BloomGeometry.default) (events : List (MeshEvent (Fin 3) ℤ))
      (mesh : Mesh (Fin 3) ℤ BloomGeometry.default),
      Run.final (step ArduinoJson.flat) (some ⟨ducks, []⟩) events = some mesh → NoStorm mesh := by
  intro h
  have htwice : (Run.final (step ArduinoJson.flat) (some ⟨threeDucks true, []⟩) answered).map
      (fun mesh => mesh.reactions.map fun t => (t.sender, t.root))
        = some [(2, 1), (1, 1), (2, 1)] := by decide +kernel
  obtain ⟨mesh, hrun, hreactions⟩ := Option.map_eq_some_iff.mp htwice
  have honce := (h (threeDucks true) answered mesh hrun).once
  rw [hreactions] at honce
  exact absurd honce (by decide)

end Mesh
