import MeshBeacon.Emission
import MeshBeacon.RouteStorm

/-!
# Where the frames on the air come from

A frame on the air that ducks accept goes back to one that its source has built: the header of
each says the same, but for the hops, and so do the data, unless it is a request for a route, to
which each duck adds itself. The CRC that ducks check covers the data only; that nothing else
changes on the way is what the ducks do.

What is proved of a run goes through a **trace** of it: for every place on the air, what its
sender emitted there and what it had heard. The trace is not in the mesh, and a run determines it
only up to coincidences, so there is one after every step.
-/

variable {ι S J : Type*} {g : BloomGeometry}

/-! ## The message in a frame -/

/-- The bytes of a field lie in what is taken of a frame. -/
theorem bytesAt_take {m n i : ℕ} {buffer : List UInt8} (h : i + m ≤ (buffer.take n).length) :
    bytesAt m (buffer.take n) i = bytesAt m buffer i := by
  refine Vector.ext fun k hk => ?_
  have hlt : i + k < (buffer.take n).length := by omega
  have hlt' : i + k < buffer.length := lt_of_lt_of_le hlt (List.length_take_le' n buffer)
  unfold bytesAt byteAt
  rw [Vector.getElem_ofFn, Vector.getElem_ofFn, List.getD_eq_getElem _ _ hlt,
    List.getD_eq_getElem _ _ hlt', List.getElem_take]

theorem byteAt_take {n i : ℕ} {buffer : List UInt8} (h : i < (buffer.take n).length) :
    byteAt (buffer.take n) i = byteAt buffer i := by
  have hlt' : i < buffer.length := lt_of_lt_of_le h (List.length_take_le' n buffer)
  unfold byteAt
  rw [List.getD_eq_getElem _ _ h, List.getD_eq_getElem _ _ hlt', List.getElem_take]

namespace CdpPacket

/-- The headers say the same, but for the hops. -/
structure SameHeader (p q : CdpPacket) : Prop where
  sduid : q.sduid = p.sduid
  dduid : q.dduid = p.dduid
  muid : q.muid = p.muid
  topic : q.topic = p.topic
  duckType : q.duckType = p.duckType

/-- **It is the same message**: so do the data, unless it is a request for a route. -/
structure SameMessage (p q : CdpPacket) : Prop extends SameHeader p q where
  data : p.topic ≠ ReservedTopic.rreq → q.data = p.data

theorem SameMessage.refl (p : CdpPacket) : SameMessage p p :=
  ⟨⟨rfl, rfl, rfl, rfl, rfl⟩, fun _ => rfl⟩

theorem SameMessage.trans {p q r : CdpPacket} (h : SameMessage p q) (h' : SameMessage q r) :
    SameMessage p r where
  sduid := h'.sduid.trans h.sduid
  dduid := h'.dduid.trans h.dduid
  muid := h'.muid.trans h.muid
  topic := h'.topic.trans h.topic
  duckType := h'.duckType.trans h.duckType
  data hne := (h'.data (h.topic ▸ hne)).trans (h.data hne)

/-- **The header is read from what is taken of a frame**, when that is accepted. -/
theorem sameHeader_take {packet : CdpPacket} {n : ℕ}
    (h : DuckLoRa.acceptable (packet.frame.take n)) :
    SameHeader packet (ofBuffer (packet.frame.take n))
      ∧ (ofBuffer (packet.frame.take n)).hopCount = packet.hopCount := by
  have hlen : 27 ≤ (packet.frame.take n).length := (acceptable_iff.mp h).1
  have hwhole := packet.ofBuffer_frame
  have hfield {m i : ℕ} (hle : i + m ≤ 27) :
      bytesAt m (packet.frame.take n) i = bytesAt m packet.frame i := bytesAt_take (hle.trans hlen)
  have hbyte {i : ℕ} (hlt : i < 27) : byteAt (packet.frame.take n) i = byteAt packet.frame i :=
    byteAt_take (hlt.trans_le hlen)
  exact ⟨⟨(hfield (by decide)).trans (congrArg sduid hwhole),
    (hfield (by decide)).trans (congrArg dduid hwhole),
    (hfield (by decide)).trans (congrArg muid hwhole),
    (hbyte (by decide)).trans (congrArg topic hwhole),
    (hbyte (by decide)).trans (congrArg duckType hwhole)⟩,
    (hbyte (by decide)).trans (congrArg hopCount hwhole)⟩

end CdpPacket

namespace Emission

theorem length_frame_lt (e : Emission) : e.frame.length < 2 ^ 16 :=
  lt_of_le_of_lt (List.length_take_le _ _) (UInt16.toNat_lt _)

/-- A frame whose length fits 16 bits is whole. -/
theorem frame_of_length {e : Emission} (h : e.packet.frame.length < 2 ^ 16) :
    e.frame = e.packet.frame := by
  unfold frame
  rw [UInt16.toNat_ofNat_of_lt' h, List.take_length]

/-- **The relayed frame has the same message** and one more hop, if both are accepted. -/
theorem sameMessage_of_relayedAs {packet : CdpPacket} {heard : List UInt8}
    (hlen : heard.length < 2 ^ 16) (hheard : DuckLoRa.acceptable heard)
    (hrelay : (CdpPacket.ofBuffer heard).RelayedAs packet)
    (hacc : DuckLoRa.acceptable (relay packet).frame) :
    (CdpPacket.ofBuffer heard).SameMessage (CdpPacket.ofBuffer (relay packet).frame)
      ∧ (CdpPacket.ofBuffer (relay packet).frame).hopCount
        = (CdpPacket.ofBuffer heard).hopCount + 1 := by
  obtain ⟨hheader, hhops⟩ := CdpPacket.sameHeader_take hacc
  refine ⟨⟨⟨hheader.sduid.trans hrelay.sduid, hheader.dduid.trans hrelay.dduid,
    hheader.muid.trans hrelay.muid, hheader.topic.trans hrelay.topic,
    hheader.duckType.trans hrelay.duckType⟩, fun hne => ?_⟩, hhops.trans hrelay.hopCount⟩
  -- with the same data the frame has the length of the one that was heard
  have hdata := hrelay.data hne
  have hwhole : packet.frame.length < 2 ^ 16 := by
    have hheader := (CdpPacket.acceptable_iff.mp hheard).1
    rw [packet.length_frame, hdata]
    show headerLength + (heard.drop headerLength).length < _
    rw [List.length_drop]
    omega
  rw [frame_of_length (e := relay packet) hwhole]
  show (CdpPacket.ofBuffer packet.frame).data = _
  rw [packet.ofBuffer_frame]
  exact hdata

end Emission

/-! ## What a duck of the mesh emits -/

namespace MeshDuck

/-- **The duck has noted what it emitted.** A MamaDuck that goes on as it may has each packet in
its history; a PapaDuck has emitted packets of its own only. -/
def Notes (es : List Emission) : MeshDuck S g → MeshDuck S g → Prop
  | .mama node, .mama node' => node.Follows node'
      ∧ ∃ deeds, node'.history = node.history ++ deeds ∧ (es.map Emission.deed).Sublist deeds
  | .papa _, .papa _ => ∀ e ∈ es, ∃ packet, e = .own packet
  | _, _ => False

theorem notes_nil (node : MeshDuck S g) : Notes [] node node :=
  match node with
  | .mama node => ⟨.refl node, [], (List.append_nil _).symm, List.Sublist.refl _⟩
  | .papa _ => fun _ he => absurd he List.not_mem_nil

/-- **One operation after another.** -/
theorem Notes.trans {es es' : List Emission} {node node' node'' : MeshDuck S g}
    (h : Notes es node node') (h' : Notes es' node' node'') : Notes (es ++ es') node node'' := by
  cases node with
  | mama node =>
    cases node' with
    | papa => exact h.elim
    | mama node' =>
      cases node'' with
      | papa => exact h'.elim
      | mama node'' =>
        obtain ⟨hfollows, deeds, hhistory, hsub⟩ := h
        obtain ⟨hfollows', deeds', hhistory', hsub'⟩ := h'
        refine ⟨hfollows.trans hfollows', deeds ++ deeds', ?_, ?_⟩
        · rw [hhistory', hhistory, List.append_assoc]
        · rw [List.map_append]
          exact hsub.append hsub'
  | papa node =>
    cases node' with
    | mama => exact h.elim
    | papa node' =>
      cases node'' with
      | mama => exact h'.elim
      | papa node'' =>
        intro e he
        rcases List.mem_append.mp he with he | he
        · exact h e he
        · exact h' e he

/-- **What a duck has emitted** and what its application was given, having heard packets. -/
structure Emits (heard : CdpPacket → Prop) (node node' : MeshDuck S g) : Prop where
  duid : node'.duck.duid = node.duck.duid
  received : ∀ packet ∈ node'.duck.received, packet ∈ node.duck.received ∨ heard packet
  emitted : ∃ es : List Emission, node'.sent = node.sent ++ es.map Emission.frame
    ∧ (∀ e ∈ es, e.Sound node.duck.duid heard) ∧ Notes es node node'

variable {heard : CdpPacket → Prop}

theorem Emits.refl (node : MeshDuck S g) : Emits heard node node :=
  ⟨rfl, fun _ hp => Or.inl hp, [], (List.append_nil _).symm, fun _ he => absurd he List.not_mem_nil,
    notes_nil node⟩

theorem emits_mama {node node' : MamaDuck S g} (h : node.Emits heard node')
    (hfollows : node.Follows node') : Emits heard (.mama node) (.mama node') := by
  obtain ⟨deeds, es, hhistory, hframes, hsub, hsound⟩ := h.emitted
  exact ⟨h.duid, fun _ hp => Or.inl (h.received ▸ hp), es, hframes, hsound,
    hfollows, deeds, hhistory, hsub⟩

theorem emits_papa {node node' : TimedDuck S g} (hduid : node'.duck.duid = node.duck.duid)
    (hreceived : ∀ packet ∈ node'.duck.received, packet ∈ node.duck.received ∨ heard packet)
    (h : ∃ es : List Emission, node'.duck.frames = node.duck.frames ++ es.map Emission.frame
      ∧ ∀ e ∈ es, e.Own node.duck.duid) : Emits heard (.papa node) (.papa node') := by
  obtain ⟨es, hframes, hown⟩ := h
  refine ⟨hduid, hreceived, es, hframes, fun e he => (hown e he).sound, fun e he => ?_⟩
  obtain ⟨packet, rfl, -⟩ := hown e he
  exact ⟨packet, rfl⟩

theorem emits_papa_own {node node' : TimedDuck S g} (h : node.duck.EmitsOwn node'.duck) :
    Emits heard (.papa node) (.papa node') := by
  obtain ⟨es, hemits, hown⟩ := h
  exact emits_papa hemits.duid (fun _ hp => Or.inl (hemits.received ▸ hp)) ⟨es, hemits.frames, hown⟩

variable [LinearOrder S] (lib : ArduinoJson J) (env : DuckEnv) (millis : UInt64)

/-- **The main loop** emits packets of the duck, or relays the one it reads. -/
theorem emits_loop {node node' : MeshDuck S g} (h : node.loop lib env millis = some node') :
    Emits node.duck.duckRadio.Reads node node' := by
  match node with
  | .mama node =>
    obtain ⟨mama', hmama, rfl⟩ := Option.map_eq_some_iff.mp h
    exact emits_mama (MamaDuck.emits_main lib env millis hmama)
      (node.follows_main lib env millis hmama)
  | .papa node =>
    unfold loop at h
    dsimp only at h
    split_ifs at h
    · obtain ⟨duck', hduck, rfl⟩ := Option.map_eq_some_iff.mp h
      obtain ⟨hduid, hown, hhears⟩ := PapaDuck.emitsOwn_handleReceivedPacket lib env hduck
      exact (emits_papa hduid hhears hown :
        Emits _ (.papa node) (.papa { node with duck := duck' }))
    · cases h
      exact .refl _

theorem emits_sendData (topic : UInt8) (data : List UInt8) (targetDevice : Duid)
    (node : MeshDuck S g) :
    Emits heard node (node.sendData lib env millis topic data targetDevice) :=
  match node with
  | .mama node => emits_mama (node.emits_sendData lib env millis topic data targetDevice)
      (node.follows_sendData lib env millis topic data targetDevice)
  | .papa node => emits_papa_own (node.emitsOwn_sendData lib env millis topic data targetDevice)

omit [LinearOrder S] in
theorem emits_sendPing (targetDevice : Duid) (node : MeshDuck S g) :
    Emits heard node (node.sendPing env targetDevice) :=
  match node with
  | .mama node => emits_mama (node.emits_sendReservedTopicData env targetDevice _ _)
      (node.follows_sendReservedTopicData env targetDevice _ _)
  | .papa node => by
    have hown := node.duck.emitsOwn_sendReservedTopicData env targetDevice ReservedTopic.ping [0]
    exact (emits_papa_own hown : Emits heard (.papa node) (.papa { node with
      duck := (node.duck.sendReservedTopicData env targetDevice ReservedTopic.ping [0]).2 }))

omit [LinearOrder S] in
/-- A duck that listens reads the frame there is. -/
theorem reads_listening {uplinkQueue : List (UplinkPacket S)} {node : MeshDuck S g}
    {packet : CdpPacket} (h : (node.listening uplinkQueue).duck.duckRadio.Reads packet) :
    ∃ pkt ∈ uplinkQueue, DuckLoRa.acceptable pkt.payload
      ∧ packet = CdpPacket.ofBuffer pkt.payload := by
  obtain ⟨bytes, hread, rfl⟩ := h
  obtain ⟨-, hpop, hacc⟩ := DuckLoRa.readReceivedData_eq_some.mp hread
  have hqueue : (node.listening uplinkQueue).duck.duckRadio.uplinkQueue = uplinkQueue := by
    cases node <;> rfl
  unfold DuckLoRa.popUplinkPacket at hpop
  rw [hqueue] at hpop
  cases uplinkQueue with
  | nil =>
    rw [show bytes = [] from hpop.symm] at hacc
    exact absurd hacc (by decide)
  | cons pkt _ =>
    rw [show bytes = pkt.payload from hpop.symm] at hacc ⊢
    exact ⟨pkt, List.mem_cons_self, hacc, rfl⟩

omit [LinearOrder S] in
/-- Listening notes nothing, and nothing is queued. -/
theorem notes_listening (uplinkQueue : List (UplinkPacket S)) (node : MeshDuck S g) :
    Notes [] node (node.listening uplinkQueue) :=
  match node with
  | .mama _ => ⟨.of_eq rfl rfl, [], (List.append_nil _).symm, List.Sublist.refl _⟩
  | .papa _ => fun _ he => absurd he List.not_mem_nil

/-! ### What its application is given -/

/-- The main loop takes nothing back that the application has been given. -/
theorem received_loop {node node' : MeshDuck S g} (h : node.loop lib env millis = some node') :
    ∃ packets, node'.duck.received = node.duck.received ++ packets := by
  match node with
  | .mama node =>
    obtain ⟨mama', hmama, rfl⟩ := Option.map_eq_some_iff.mp h
    exact ⟨[], (MamaDuck.emits_main lib env millis hmama).received.trans (List.append_nil _).symm⟩
  | .papa node =>
    unfold loop at h
    dsimp only at h
    split_ifs at h
    · obtain ⟨duck', hduck, rfl⟩ := Option.map_eq_some_iff.mp h
      exact PapaDuck.received_handleReceivedPacket lib env hduck
    · cases h
      exact ⟨[], (List.append_nil _).symm⟩

theorem received_sendData (topic : UInt8) (data : List UInt8) (targetDevice : Duid)
    (node : MeshDuck S g) :
    (node.sendData lib env millis topic data targetDevice).duck.received = node.duck.received :=
  match node with
  | .mama node => (node.emits_sendData lib env millis topic data targetDevice :
      node.Emits (fun _ => False) _).received
  | .papa node =>
    let ⟨_, hemits, _⟩ := node.emitsOwn_sendData lib env millis topic data targetDevice
    hemits.received

omit [LinearOrder S] in
theorem received_sendPing (targetDevice : Duid) (node : MeshDuck S g) :
    (node.sendPing env targetDevice).duck.received = node.duck.received :=
  match node with
  | .mama node => (node.emits_sendReservedTopicData env targetDevice ReservedTopic.ping [0] :
      node.Emits (fun _ => False) _).received
  | .papa node =>
    let ⟨_, hemits, _⟩ := node.duck.emitsOwn_sendReservedTopicData env targetDevice
      ReservedTopic.ping [0]
    hemits.received

omit [LinearOrder S] in
@[simp]
theorem received_listening (uplinkQueue : List (UplinkPacket S)) (node : MeshDuck S g) :
    (node.listening uplinkQueue).duck.received = node.duck.received := by
  cases node <;> rfl

end MeshDuck

/-! ## The trace of the air -/

/-- What was done for a place on the air. -/
structure Sending (ι : Type*) where
  sender : ι
  emission : Emission
  /-- The place of the frame that the sender had heard. -/
  heard : ℕ

namespace Mesh

variable [DecidableEq ι]

/-- **A trace of the mesh**, from the ducks at the start. -/
structure Traced (start : ι → MeshDuck S g) (mesh : Mesh ι S g) (sendings : List (Sending ι)) :
    Prop where
  air : mesh.air.map (fun t => (t.sender, t.frame))
    = sendings.map fun s => (s.sender, s.emission.frame)
  duid : ∀ i, (mesh.ducks i).duck.duid = (start i).duck.duid
  /-- A packet of its own names its sender, and has no hops. -/
  own : ∀ s ∈ sendings, ∀ packet, s.emission = .own packet →
    packet.sduid = (start s.sender).duck.duid ∧ packet.hopCount = 0
  /-- One that is relayed was heard before. -/
  relayed : ∀ (k : ℕ) (s : Sending ι) packet, sendings[k]? = some s → s.emission = .relay packet →
    s.heard < k ∧ ∃ heard ∈ sendings[s.heard]?, DuckLoRa.acceptable heard.emission.frame
      ∧ (CdpPacket.ofBuffer heard.emission.frame).RelayedAs packet
  noted : ∀ i, (start i).Notes ((sendings.filter (·.sender = i)).map Sending.emission)
    (mesh.ducks i)
  /-- What an application was given was on the air. -/
  received : ∀ i, ∀ packet ∈ (mesh.ducks i).duck.received,
    packet ∈ (start i).duck.received ∨ ∃ t ∈ mesh.air, DuckLoRa.acceptable t.frame
      ∧ packet = CdpPacket.ofBuffer t.frame

variable {start : ι → MeshDuck S g} {mesh : Mesh ι S g} {sendings : List (Sending ι)}

/-- With nothing on the air there is nothing to trace. -/
theorem traced_nil (start : ι → MeshDuck S g) : Traced start ⟨start, []⟩ [] where
  air := rfl
  duid _ := rfl
  own _ hs := absurd hs List.not_mem_nil
  relayed _ _ _ hs := absurd hs.symm (Option.some_ne_none _)
  noted i := MeshDuck.notes_nil (start i)
  received _ _ hp := Or.inl hp

namespace Traced

/-- What is in a place on the air was emitted there. -/
theorem getElem?_trace (h : Traced start mesh sendings) {k : ℕ} {t : Transmission ι}
    (ht : mesh.air[k]? = some t) :
    ∃ s, sendings[k]? = some s ∧ s.sender = t.sender ∧ s.emission.frame = t.frame := by
  have hair := congrArg (fun l => l[k]?) h.air
  rw [List.getElem?_map, List.getElem?_map, ht] at hair
  obtain ⟨s, hs, heq⟩ := Option.map_eq_some_iff.mp hair.symm
  exact ⟨s, hs, congrArg Prod.fst heq, congrArg Prod.snd heq⟩

theorem mem_air (h : Traced start mesh sendings) {s : Sending ι} (hs : s ∈ sendings) :
    ∃ t ∈ mesh.air, t.sender = s.sender ∧ t.frame = s.emission.frame := by
  have hmem := List.mem_map_of_mem (f := fun s : Sending ι => (s.sender, s.emission.frame)) hs
  rw [← h.air] at hmem
  obtain ⟨t, ht, heq⟩ := List.mem_map.mp hmem
  exact ⟨t, ht, congrArg Prod.fst heq, congrArg Prod.snd heq⟩

/-- What a duck notes when it is another's turn. -/
theorem notes_after (h : Traced start mesh sendings) {i : ι} {node : MeshDuck S g}
    {es : List Emission} (hnotes : MeshDuck.Notes es (mesh.ducks i) node) (k : ℕ) (j : ι) :
    (start j).Notes (((sendings ++ es.map (Sending.mk i · k)).filter (·.sender = j)).map
      Sending.emission)
      (Function.update mesh.ducks i node j) := by
  rw [List.filter_append, List.map_append]
  by_cases hij : i = j
  · subst hij
    have hall : (es.map (Sending.mk i · k)).filter (·.sender = i) = es.map (Sending.mk i · k) := by
      refine List.filter_eq_self.mpr fun s hs => ?_
      obtain ⟨e, -, rfl⟩ := List.mem_map.mp hs
      exact decide_eq_true rfl
    have hemissions : (es.map (Sending.mk i · k)).map Sending.emission = es := by
      rw [List.map_map]
      exact List.map_id es
    rw [Function.update_self, hall, hemissions]
    exact (h.noted i).trans hnotes
  · have hnone : (es.map (Sending.mk i · k)).filter (·.sender = j) = [] := by
      refine List.filter_eq_nil_iff.mpr fun s hs => ?_
      obtain ⟨e, -, rfl⟩ := List.mem_map.mp hs
      exact fun hsender => hij (of_decide_eq_true hsender)
    rw [Function.update_of_ne (Ne.symm hij), hnone, List.map_nil, List.append_nil]
    exact h.noted j

/-- **A duck that has heard what is in a place on the air** leaves a trace that is longer. -/
theorem after (h : Traced start mesh sendings) {i : ι} {k : ℕ} {heard : CdpPacket → Prop}
    {uplinkQueue : List (UplinkPacket S)} {node : MeshDuck S g}
    (hemits : ((mesh.ducks i).listening uplinkQueue).Emits heard node)
    (hheard : ∀ packet, heard packet → ∃ t, mesh.air[k]? = some t
      ∧ DuckLoRa.acceptable t.frame ∧ packet = CdpPacket.ofBuffer t.frame)
    (reaction : Bool) (root : ℕ) :
    ∃ sendings', Traced start (mesh.after i reaction root node) sendings' := by
  obtain ⟨es, hsent, hsound, hnotes⟩ := hemits.emitted
  -- listening puts something into the queue of the radio and leaves the rest
  have hduid : ((mesh.ducks i).listening uplinkQueue).duck.duid = (mesh.ducks i).duck.duid := by
    cases mesh.ducks i <;> rfl
  have hreceived : ((mesh.ducks i).listening uplinkQueue).duck.received
      = (mesh.ducks i).duck.received := by
    cases mesh.ducks i <;> rfl
  have hempty : ((mesh.ducks i).listening uplinkQueue).sent = [] := by
    cases mesh.ducks i <;> rfl
  have hlen : sendings.length = mesh.air.length := by
    have := congrArg List.length h.air
    rwa [List.length_map, List.length_map, eq_comm] at this
  rw [hempty, List.nil_append] at hsent
  refine ⟨sendings ++ es.map (Sending.mk i · k), ?_, ?_, ?_, ?_, ?_, ?_⟩
  · show (mesh.air ++ _).map _ = _
    rw [List.map_append, List.map_append, h.air, hsent, List.map_map, List.map_map, List.map_map]
    rfl
  · intro j
    show (Function.update mesh.ducks i node j).duck.duid = _
    by_cases hij : j = i
    · subst hij
      rw [Function.update_self, hemits.duid, hduid, h.duid]
    · rw [Function.update_of_ne hij, h.duid]
  · intro s hs packet hown
    rcases List.mem_append.mp hs with hold | hnew
    · exact h.own s hold packet hown
    · obtain ⟨e, he, rfl⟩ := List.mem_map.mp hnew
      have hsound := hsound e he
      rw [show e = .own packet from hown, hduid, h.duid] at hsound
      exact hsound
  · -- an old frame still goes back to an older one; a new one to the one heard, at `k`
    intro k' s packet hs hrelay
    rcases Nat.lt_or_ge k' sendings.length with hold | hnew
    · rw [List.getElem?_append_left hold] at hs
      obtain ⟨hlt, heard, hmem, hacc⟩ := h.relayed k' s packet hs hrelay
      refine ⟨hlt, heard, ?_, hacc⟩
      rw [List.getElem?_append_left (hlt.trans hold)]
      exact hmem
    · rw [List.getElem?_append_right hnew] at hs
      obtain ⟨e, he, rfl⟩ := List.mem_map.mp (List.mem_of_getElem? hs)
      have hsound := hsound e he
      rw [show e = .relay packet from hrelay] at hsound
      obtain ⟨rx, hrx, hrelayed⟩ := hsound
      obtain ⟨t, ht, hacc, rfl⟩ := hheard rx hrx
      obtain ⟨s', hs', -, hframe⟩ := h.getElem?_trace ht
      have hk : k < sendings.length := (List.getElem?_eq_some_iff.mp hs').1
      refine ⟨hk.trans_le hnew, s', ?_, hframe ▸ hacc, hframe ▸ hrelayed⟩
      rw [List.getElem?_append_left hk]
      exact hs'
  · exact h.notes_after ((MeshDuck.notes_listening uplinkQueue _).trans hnotes) k
  · intro j packet hpacket
    change packet ∈ (Function.update mesh.ducks i node j).duck.received at hpacket
    -- what was on the air before is on it still
    have hkeep : (∃ t ∈ mesh.air, DuckLoRa.acceptable t.frame
          ∧ packet = CdpPacket.ofBuffer t.frame) →
        ∃ t ∈ (mesh.after i reaction root node).air, DuckLoRa.acceptable t.frame
          ∧ packet = CdpPacket.ofBuffer t.frame :=
      fun ⟨t, ht, hboth⟩ => ⟨t, List.mem_append_left _ ht, hboth⟩
    by_cases hij : j = i
    · subst hij
      rw [Function.update_self] at hpacket
      rcases hemits.received packet hpacket with hold | hnew
      · rw [hreceived] at hold
        exact (h.received j packet hold).imp_right hkeep
      · obtain ⟨t, ht, hboth⟩ := hheard packet hnew
        exact Or.inr (hkeep ⟨t, List.mem_of_getElem? ht, hboth⟩)
    · rw [Function.update_of_ne hij] at hpacket
      exact (h.received j packet hpacket).imp_right hkeep

end Traced

/-- What a duck has been given, when one has become another. -/
theorem received_after {i j : ι} {reaction : Bool} {root : ℕ} {node : MeshDuck S g}
    {mesh : Mesh ι S g}
    (h : ∃ packets, node.duck.received = (mesh.ducks i).duck.received ++ packets) :
    ∃ packets, ((mesh.after i reaction root node).ducks j).duck.received
      = (mesh.ducks j).duck.received ++ packets := by
  show ∃ packets, (Function.update mesh.ducks i node j).duck.received = _
  by_cases hij : j = i
  · subst hij
    rw [Function.update_self]
    exact h
  · rw [Function.update_of_ne hij]
    exact ⟨[], (List.append_nil _).symm⟩

/-- **An application is given packets after those before.** -/
theorem received_step [LinearOrder S] (lib : ArduinoJson J) {mesh mesh' : Mesh ι S g}
    {event : MeshEvent ι S} (hstep : step lib (some mesh) event = some mesh') (j : ι) :
    ∃ packets, (mesh'.ducks j).duck.received = (mesh.ducks j).duck.received ++ packets := by
  cases event with
  | hear i k freqHz datarateSf signalScore env millis =>
    unfold step at hstep
    dsimp only at hstep
    split at hstep
    · cases hstep
      exact ⟨[], (List.append_nil _).symm⟩
    · obtain ⟨node, hnode, rfl⟩ := Option.map_eq_some_iff.mp hstep
      have hreceived := MeshDuck.received_loop lib env millis hnode
      rw [MeshDuck.received_listening] at hreceived
      split_ifs
      · exact received_after hreceived
      · exact received_after hreceived
  | idle i env millis =>
    obtain ⟨node, hnode, rfl⟩ := Option.map_eq_some_iff.mp hstep
    have hreceived := MeshDuck.received_loop lib env millis hnode
    rw [MeshDuck.received_listening] at hreceived
    exact received_after hreceived
  | sendData i env millis topic data targetDevice =>
    obtain ⟨node, hnode, rfl⟩ := Option.map_eq_some_iff.mp hstep
    obtain ⟨-, rfl⟩ := (MeshDuck.send_eq_some lib env millis).mp hnode
    refine received_after ⟨[], ?_⟩
    rw [MeshDuck.received_sendData, MeshDuck.received_listening, List.append_nil]
  | sendPing i env targetDevice =>
    cases hstep
    refine received_after ⟨[], ?_⟩
    rw [MeshDuck.received_sendPing, MeshDuck.received_listening, List.append_nil]

section Runs

variable [LinearOrder S] (lib : ArduinoJson J)

/-- **The step lemma**: every event leaves a trace. -/
theorem traced_step {mesh' : Mesh ι S g} {event : MeshEvent ι S}
    (hstep : step lib (some mesh) event = some mesh')
    (h : ∃ sendings, Traced start mesh sendings) : ∃ sendings, Traced start mesh' sendings := by
  obtain ⟨sendings, h⟩ := h
  have hnothing (packet : CdpPacket) (hfalse : False) : ∃ t, mesh.air[0]? = some t
      ∧ DuckLoRa.acceptable t.frame ∧ packet = CdpPacket.ofBuffer t.frame := hfalse.elim
  cases event with
  | hear i k freqHz datarateSf signalScore env millis =>
    unfold step at hstep
    dsimp only at hstep
    split at hstep
    · cases hstep
      exact ⟨sendings, h⟩
    · next heard hheard =>
      obtain ⟨node, hnode, rfl⟩ := Option.map_eq_some_iff.mp hstep
      -- the duck reads the frame in its place, and nothing else
      have hreads (packet : CdpPacket)
          (hpacket : ((mesh.ducks i).listening [⟨heard.frame, freqHz, datarateSf,
            signalScore⟩]).duck.duckRadio.Reads packet) :
          ∃ t, mesh.air[k]? = some t ∧ DuckLoRa.acceptable t.frame
            ∧ packet = CdpPacket.ofBuffer t.frame := by
        obtain ⟨pkt, hpkt, hread⟩ := MeshDuck.reads_listening hpacket
        rw [List.mem_singleton.mp hpkt] at hread
        exact ⟨heard, hheard, hread⟩
      have hemits := MeshDuck.emits_loop lib env millis hnode
      split_ifs
      · exact h.after hemits hreads true heard.root
      · exact h.after hemits hreads false mesh.air.length
  | idle i env millis =>
    obtain ⟨node, hnode, rfl⟩ := Option.map_eq_some_iff.mp hstep
    refine h.after (k := 0) (MeshDuck.emits_loop lib env millis hnode) ?_ false mesh.air.length
    intro packet hpacket
    obtain ⟨pkt, hpkt, -⟩ := MeshDuck.reads_listening hpacket
    exact absurd hpkt List.not_mem_nil
  | sendData i env millis topic data targetDevice =>
    obtain ⟨node, hnode, rfl⟩ := Option.map_eq_some_iff.mp hstep
    obtain ⟨-, rfl⟩ := (MeshDuck.send_eq_some lib env millis).mp hnode
    exact h.after (MeshDuck.emits_sendData lib env millis topic data targetDevice _) hnothing
      false mesh.air.length
  | sendPing i env targetDevice =>
    cases hstep
    exact h.after (MeshDuck.emits_sendPing env targetDevice _) hnothing false mesh.air.length

/-- **The run lemma**: every run leaves a trace. -/
theorem exists_traced (ducks : ι → MeshDuck S g) (events : List (MeshEvent ι S))
    (hrun : Run.final (step lib) (some ⟨ducks, []⟩) events = some mesh) :
    ∃ sendings, Traced ducks mesh sendings :=
  Run.invariant_some (P := fun mesh => ∃ sendings, Traced ducks mesh sendings) (fun _ => rfl)
    (fun _ _ _ hstep h => traced_step lib hstep h) events ⟨[], traced_nil ducks⟩ hrun

end Runs

/-! ## Origins -/

/-- A frame on the air that its sender has built. -/
structure BuiltBySource (start : ι → MeshDuck S g) (t : Transmission ι) : Prop where
  acceptable : DuckLoRa.acceptable t.frame
  sduid : (CdpPacket.ofBuffer t.frame).sduid = (start t.sender).duck.duid
  hopCount : (CdpPacket.ofBuffer t.frame).hopCount = 0

/-- **The origin**: a frame that is accepted goes back to one that its source has built. By
induction on its place, through what was heard. -/
theorem Traced.origin (h : Traced start mesh sendings) (k : ℕ) :
    ∀ s, sendings[k]? = some s → DuckLoRa.acceptable s.emission.frame →
      ∃ t ∈ mesh.air, BuiltBySource start t
        ∧ (CdpPacket.ofBuffer t.frame).SameMessage (CdpPacket.ofBuffer s.emission.frame) := by
  induction k using Nat.strong_induction_on with
  | _ k ih =>
    intro s hs hacc
    have hmem := List.mem_of_getElem? hs
    cases hemission : s.emission with
    | own packet =>
      obtain ⟨t, ht, hsender, hframe⟩ := h.mem_air hmem
      obtain ⟨hduid, hhops⟩ := h.own s hmem packet hemission
      rw [hemission] at hacc hframe
      -- what the duck has built is cut to a frame that still has its header
      obtain ⟨hheader, hhop⟩ := CdpPacket.sameHeader_take hacc
      refine ⟨t, ht, ⟨hframe ▸ hacc, ?_, ?_⟩, hframe ▸ .refl _⟩
      · rw [hframe, hsender]
        exact hheader.sduid.trans hduid
      · rw [hframe]
        exact hhop.trans hhops
    | relay packet =>
      obtain ⟨hlt, heard, hheard, hacc', hrelayed⟩ := h.relayed k s packet hs hemission
      -- what was heard stands before it on the air
      obtain ⟨t, ht, hbuilt, hsame⟩ := ih s.heard hlt heard hheard hacc'
      rw [hemission] at hacc
      exact ⟨t, ht, hbuilt, hsame.trans (Emission.sameMessage_of_relayedAs
        heard.emission.length_frame_lt hacc' hrelayed hacc).1⟩

/-- **The mesh changes no message.** In every run of any number of ducks, which hear frames in any
order and any number of times, whatever JSON library they have: each frame on the air that ducks
accept goes back to one that the duck it names as the source has built without hops, with the same
source, destination, identifier, topic, duck type and, unless it is a request for a route, data; and
so does every packet that the application of a duck was given. -/
theorem mesh_integrity [LinearOrder S] (lib : ArduinoJson J) (ducks : ι → MeshDuck S g)
    (events : List (MeshEvent ι S))
    (hrun : Run.final (step lib) (some ⟨ducks, []⟩) events = some mesh) :
    (∀ t ∈ mesh.air, DuckLoRa.acceptable t.frame → ∃ t₀ ∈ mesh.air, BuiltBySource ducks t₀
      ∧ (CdpPacket.ofBuffer t₀.frame).SameMessage (CdpPacket.ofBuffer t.frame))
    ∧ ∀ i, ∀ packet ∈ (mesh.ducks i).duck.received, packet ∈ (ducks i).duck.received
      ∨ ∃ t₀ ∈ mesh.air, BuiltBySource ducks t₀
        ∧ (CdpPacket.ofBuffer t₀.frame).SameMessage packet := by
  obtain ⟨sendings, h⟩ := exists_traced lib ducks events hrun
  have horigin : ∀ t ∈ mesh.air, DuckLoRa.acceptable t.frame → ∃ t₀ ∈ mesh.air,
      BuiltBySource ducks t₀
        ∧ (CdpPacket.ofBuffer t₀.frame).SameMessage (CdpPacket.ofBuffer t.frame) := by
    intro t ht hacc
    obtain ⟨k, hk⟩ := List.getElem?_of_mem ht
    obtain ⟨s, hs, -, hframe⟩ := h.getElem?_trace hk
    rw [← hframe] at hacc ⊢
    exact h.origin k s hs hacc
  refine ⟨horigin, fun i packet hpacket => (h.received i packet hpacket).imp_right ?_⟩
  rintro ⟨t, ht, hacc, rfl⟩
  exact horigin t ht hacc

/-- A duck broadcasts data, another relays it, and a third hears what that sends. -/
def relayed (i j k : Fin 3) : List (MeshEvent (Fin 3) ℤ) :=
  [.sendData i (envOf 1) 40000 0x20 [0x41] broadcastDuid, hears j 0 2, hears k 1 3]

/-- What the PapaDuck is given was built by the first duck. -/
theorem mesh_integrity_relayed : ∃ mesh,
    Run.final (step ArduinoJson.flat) (some ⟨threeDucks false, []⟩) (relayed 0 1 2) = some mesh
      ∧ mesh.air.map (fun t => (t.sender, (CdpPacket.ofBuffer t.frame).hopCount)) = [(0, 0), (1, 1)]
      ∧ (mesh.ducks 2).duck.received.map CdpPacket.sduid = [duidD]
      ∧ ∀ packet ∈ (mesh.ducks 2).duck.received, packet ∈ (threeDucks false 2).duck.received
        ∨ ∃ t₀ ∈ mesh.air, BuiltBySource (threeDucks false) t₀
          ∧ (CdpPacket.ofBuffer t₀.frame).SameMessage packet := by
  have hmap : (Run.final (step ArduinoJson.flat) (some ⟨threeDucks false, []⟩) (relayed 0 1 2)).map
      (fun mesh => (mesh.air.map (fun t => (t.sender, (CdpPacket.ofBuffer t.frame).hopCount)),
        (mesh.ducks 2).duck.received.map CdpPacket.sduid))
      = some ([(0, 0), (1, 1)], [duidD]) := by decide +kernel
  obtain ⟨mesh, hrun, hboth⟩ := Option.map_eq_some_iff.mp hmap
  exact ⟨mesh, hrun, congrArg Prod.fst hboth, congrArg Prod.snd hboth,
    (mesh_integrity ArduinoJson.flat (threeDucks false) (relayed 0 1 2) hrun).2 2⟩

end Mesh
