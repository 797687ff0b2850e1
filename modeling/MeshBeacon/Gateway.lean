import MeshBeacon.MeshLineage
import MeshBeacon.MqttBooks
import MeshBeacon.Report

/-!
# From the air to the broker

The hub is a PapaDuck of the mesh with an MQTT client. Its application is given the
packets it receives, makes a document of each, and publishes the text of it on the
configured topic; responses to commands are queued besides, behind what the client
has stored. Frames are heard, the connection is lost and set up again, and messages
are stored and published, in any order.

What is published goes back, through the books of the client and the trace of the
air, to what a duck has sent: the consumer of the text recovers the data of a packet
that the duck it names as the source has built.
-/

variable {ι S J : Type*} {g : BloomGeometry}

/-! ## The hub -/

/-- The mesh, the MQTT client of one of its ducks, and what that has reported. -/
structure Gateway (ι S : Type*) (g : BloomGeometry) where
  mesh : Mesh ι S g
  account : MqttAccount
  /-- The packets its application was given, each with the number its document was submitted
  under. -/
  reports : List (ℕ × CdpPacket)

/-- What happens to the hub. -/
inductive GatewayEvent (ι S : Type*) where
  /-- Something happens in the mesh; `env` is what the system answers when the application of the
  hub is given a packet in it. The main loop of a duck reads at most one. -/
  | mesh (event : MeshEvent ι S) (env : PublishAttempt)
  /-- Something happens to the client. -/
  | mqtt (event : MqttEvent)
  /-- `mqtt_message_arrived` has a response to a command. -/
  | response (topic message : List UInt8) (malloc : Bool)

namespace Gateway

open Report

variable [LinearOrder S] (lib : ArduinoJson J) (proto : Protobuf) (json : JsonText)

/-- `handleDuckData`: the document is published under the empty topic. -/
def handleDuckData (env : PublishAttempt) (gateway : Gateway ι S g) (receivedPacket : CdpPacket) :
    Option (Gateway ι S g) :=
  (processMessageFromDucks lib proto receivedPacket).map fun doc =>
    { gateway with
      account := gateway.account.step (.publishMessage (some []) (json.serializeJson doc) env)
      reports := gateway.reports ++ [(gateway.account.submitted.length, receivedPacket)] }

variable [DecidableEq ι] (hub : ι)

/-- The packets the application of the hub was given in a step. -/
def newlyReceived (mesh mesh' : Mesh ι S g) : List CdpPacket :=
  (mesh'.ducks hub).duck.received.drop (mesh.ducks hub).duck.received.length

/-- One event. -/
def step (gateway : Option (Gateway ι S g)) (event : GatewayEvent ι S) :
    Option (Gateway ι S g) :=
  match gateway, event with
  | none, _ => none
  | some gateway, .mqtt event => some { gateway with account := gateway.account.step event }
  | some gateway, .response topic message malloc =>
    some { gateway with account := gateway.account.queueMessage topic message malloc }
  | some gateway, .mesh event env =>
    (Mesh.step lib (some gateway.mesh) event).bind fun mesh' =>
      (newlyReceived hub gateway.mesh mesh').foldlM (handleDuckData lib proto json env)
        { gateway with mesh := mesh' }

/-- Nothing is on the air, and the daemon has just started. -/
def start (ducks : ι → MeshDuck S g) (enabled : Bool) (pubTopic : List UInt8)
    (env : ConnectAttempt) : Gateway ι S g where
  mesh := ⟨ducks, []⟩
  account := .start enabled pubTopic env
  reports := []

end Gateway

/-! ## What the client leaves alone -/

namespace Mqtt

theorem pubTopic_publishQueued (outcome : ℕ → QueuedPublish) (m : Mqtt) :
    (m.publishQueued outcome).2.pubTopic = m.pubTopic := by
  unfold publishQueued
  split_ifs <;> rfl

theorem pubTopic_initAndConnect (env : ConnectAttempt) (m : Mqtt) :
    (m.initAndConnect env).2.2.pubTopic = m.pubTopic := by
  have hclean : m.cleanUp.pubTopic = m.pubTopic := by
    unfold cleanUp
    split_ifs <;> rfl
  unfold initAndConnect
  dsimp only
  split_ifs
  · exact (pubTopic_publishQueued env.outcome _).trans hclean
  · exact hclean
  · exact hclean
  · rfl

theorem pubTopic_reconnectWithBackoff (env : ReconnectAttempt) (m : Mqtt) :
    (m.reconnectWithBackoff env).2.2.pubTopic = m.pubTopic := by
  have hinit := pubTopic_initAndConnect env.toConnectAttempt
    { m with lastReconnectAttempt := env.now }
  unfold reconnectWithBackoff
  dsimp only
  split_ifs
  · rfl
  · exact hinit
  · exact (pubTopic_publishQueued env.again _).trans hinit

/-- **The topic stays the configured one.** -/
theorem pubTopic_step (m : Mqtt) (e : MqttEvent) : (m.step e).pubTopic = m.pubTopic := by
  cases e with
  | publishMessage topic message env =>
    show (m.publishMessage topic message env).2.pubTopic = _
    unfold publishMessage
    dsimp only
    split_ifs
    · rfl
    · rfl
    · rfl
    · exact pubTopic_reconnectWithBackoff env.reconnect _
    · rfl
  | connectionLost => rfl
  | reconnect env => exact pubTopic_reconnectWithBackoff env m
  | healthCheck env published =>
    show (m.threadDuck env published).2.pubTopic = _
    unfold threadDuck
    dsimp only
    split_ifs
    · exact pubTopic_reconnectWithBackoff env _
    · exact pubTopic_publishQueued published _
    · rfl
    · rfl
    · rfl

theorem pubTopic_startup (enabled : Bool) (pubTopic : List UInt8) (env : ConnectAttempt) :
    ((init enabled pubTopic).startup env).2.pubTopic = pubTopic := by
  have hinit := pubTopic_initAndConnect env (init enabled pubTopic)
  unfold startup
  dsimp only
  split_ifs <;> exact hinit

end Mqtt

theorem MqttAccount.submitted_step (account : MqttAccount) (e : MqttEvent) :
    ∃ more, (account.step e).submitted = account.submitted ++ more := by
  cases e with
  | publishMessage topic message env => exact ⟨_, rfl⟩
  | connectionLost => exact ⟨[], (List.append_nil _).symm⟩
  | reconnect env => exact ⟨[], (List.append_nil _).symm⟩
  | healthCheck env published => exact ⟨[], (List.append_nil _).symm⟩

/-! ## The invariant -/

namespace Gateway

open Report

variable [DecidableEq ι] (lib : ArduinoJson J) (proto : Protobuf) (json : JsonText) (hub : ι)
  (ducks : ι → MeshDuck S g) (pubTopic : List UInt8)

/-- A packet has been reported: its document is among the submissions. -/
def Reported (submitted : List (List UInt8 × List UInt8)) (report : ℕ × CdpPacket) : Prop :=
  ∃ doc, processMessageFromDucks lib proto report.2 = some doc
    ∧ submitted[report.1]? = some (pubTopic, json.serializeJson doc)

/-- **What every event keeps**; some packets are `waiting` to be reported. -/
structure Sound (waiting : List CdpPacket) (gateway : Gateway ι S g) : Prop where
  traced : ∃ sendings, Mesh.Traced ducks gateway.mesh sendings
  account : gateway.account.Sound
  topic : gateway.account.mqtt.pubTopic = pubTopic
  received : (gateway.mesh.ducks hub).duck.received
    = (ducks hub).duck.received ++ gateway.reports.map Prod.snd ++ waiting
  /-- The documents were submitted in the order of the packets. -/
  sorted : (gateway.reports.map Prod.fst).Pairwise (· < ·)
  reported : ∀ report ∈ gateway.reports,
    Reported lib proto json pubTopic gateway.account.submitted report

variable {lib proto json hub ducks pubTopic} {waiting : List CdpPacket} {gateway : Gateway ι S g}

omit [DecidableEq ι] in
theorem Reported.append {submitted : List (List UInt8 × List UInt8)} {report : ℕ × CdpPacket}
    (h : Reported lib proto json pubTopic submitted report)
    (more : List (List UInt8 × List UInt8)) :
    Reported lib proto json pubTopic (submitted ++ more) report := by
  obtain ⟨doc, hdoc, hnumber⟩ := h
  obtain ⟨hlt, -⟩ := List.getElem?_eq_some_iff.mp hnumber
  exact ⟨doc, hdoc, (List.getElem?_append_left hlt).trans hnumber⟩

namespace Sound

theorem withAccount (h : Sound lib proto json hub ducks pubTopic waiting gateway)
    {account' : MqttAccount} (haccount : account'.Sound)
    (htopic : account'.mqtt.pubTopic = gateway.account.mqtt.pubTopic)
    (hsubmitted : ∃ more, account'.submitted = gateway.account.submitted ++ more) :
    Sound lib proto json hub ducks pubTopic waiting { gateway with account := account' } where
  traced := h.traced
  account := haccount
  topic := htopic.trans h.topic
  received := h.received
  sorted := h.sorted
  reported report hreport := by
    obtain ⟨more, hmore⟩ := hsubmitted
    show Reported lib proto json pubTopic account'.submitted report
    rw [hmore]
    exact (h.reported report hreport).append more

theorem mqtt (h : Sound lib proto json hub ducks pubTopic waiting gateway) (e : MqttEvent) :
    Sound lib proto json hub ducks pubTopic waiting
      { gateway with account := gateway.account.step e } := by
  have hmqtt : (gateway.account.step e).mqtt = gateway.account.mqtt.step e := by
    cases e <;> rfl
  refine h.withAccount (h.account.step e) ?_ (gateway.account.submitted_step e)
  rw [hmqtt, Mqtt.pubTopic_step]

theorem response (h : Sound lib proto json hub ducks pubTopic waiting gateway)
    (topic message : List UInt8) (malloc : Bool) :
    Sound lib proto json hub ducks pubTopic waiting
      { gateway with account := gateway.account.queueMessage topic message malloc } :=
  h.withAccount (h.account.queueMessage topic message malloc) rfl ⟨_, rfl⟩

/-- **A packet that waits is reported.** -/
theorem handleDuckData {packet : CdpPacket} {env : PublishAttempt} {gateway' : Gateway ι S g}
    (h : Sound lib proto json hub ducks pubTopic (packet :: waiting) gateway)
    (hreport : Gateway.handleDuckData lib proto json env gateway packet = some gateway') :
    Sound lib proto json hub ducks pubTopic waiting gateway' := by
  obtain ⟨doc, hdoc, rfl⟩ := Option.map_eq_some_iff.mp hreport
  have hevent := h.mqtt (.publishMessage (some []) (json.serializeJson doc) env)
  refine ⟨hevent.traced, hevent.account, hevent.topic, ?_, ?_, fun report hmem => ?_⟩
  · show (gateway.mesh.ducks hub).duck.received = _
    rw [h.received, List.map_append, List.map_singleton, ← List.append_assoc,
      List.append_assoc _ [packet] waiting]
    rfl
  · rw [List.map_append, List.map_singleton]
    refine List.pairwise_append.mpr ⟨h.sorted, List.pairwise_singleton _ _, fun k hk n hn => ?_⟩
    obtain ⟨report, hmem, rfl⟩ := List.mem_map.mp hk
    obtain ⟨doc, -, hnumber⟩ := h.reported report hmem
    rw [List.mem_singleton.mp hn]
    exact (List.getElem?_eq_some_iff.mp hnumber).1
  · rcases List.mem_append.mp hmem with hold | hnew
    · exact hevent.reported report hold
    · rw [List.mem_singleton.mp hnew]
      refine ⟨doc, hdoc, List.getElem?_concat_length.trans ?_⟩
      rw [show gateway.account.mqtt.topicOf (some []) = gateway.account.mqtt.pubTopic from rfl,
        h.topic]

theorem foldlM_handleDuckData {env : PublishAttempt} :
    ∀ {packets : List CdpPacket} {gateway gateway' : Gateway ι S g},
      Sound lib proto json hub ducks pubTopic packets gateway →
      packets.foldlM (Gateway.handleDuckData lib proto json env) gateway = some gateway' →
      Sound lib proto json hub ducks pubTopic [] gateway' := by
  intro packets
  induction packets with
  | nil =>
    intro gateway gateway' h hfold
    cases hfold
    exact h
  | cons packet packets ih =>
    intro gateway gateway' h hfold
    rw [List.foldlM_cons] at hfold
    obtain ⟨next, hreport, hfold⟩ := Option.bind_eq_some_iff.mp hfold
    exact ih (h.handleDuckData hreport) hfold

variable [LinearOrder S]

/-- **The step lemma.** -/
theorem step {event : GatewayEvent ι S} {gateway' : Gateway ι S g}
    (h : Sound lib proto json hub ducks pubTopic [] gateway)
    (hstep : Gateway.step lib proto json hub (some gateway) event = some gateway') :
    Sound lib proto json hub ducks pubTopic [] gateway' := by
  cases event with
  | mqtt event =>
    cases hstep
    exact h.mqtt event
  | response topic message malloc =>
    cases hstep
    exact h.response topic message malloc
  | mesh event env =>
    obtain ⟨mesh', hmesh, hfold⟩ := Option.bind_eq_some_iff.mp hstep
    refine foldlM_handleDuckData ?_ hfold
    obtain ⟨packets, hpackets⟩ := Mesh.received_step lib hmesh hub
    have hnew : newlyReceived hub gateway.mesh mesh' = packets := by
      unfold newlyReceived
      rw [hpackets, List.drop_left]
    rw [hnew]
    refine ⟨Mesh.traced_step lib hmesh h.traced, h.account, h.topic, ?_, h.sorted, h.reported⟩
    show (mesh'.ducks hub).duck.received = _
    rw [hpackets, h.received, List.append_nil]

end Sound

theorem sound_start (ducks : ι → MeshDuck S g) (enabled : Bool) (pubTopic : List UInt8)
    (env : ConnectAttempt) :
    Sound lib proto json hub ducks pubTopic [] (start ducks enabled pubTopic env) where
  traced := ⟨[], Mesh.traced_nil ducks⟩
  account := MqttAccount.sound_start enabled pubTopic env
  topic := Mqtt.pubTopic_startup enabled pubTopic env
  received := by
    show (ducks hub).duck.received = (ducks hub).duck.received ++ [] ++ []
    rw [List.append_nil, List.append_nil]
  sorted := List.Pairwise.nil
  reported _ hreport := absurd hreport List.not_mem_nil

/-! ## From the air to the broker -/

omit [DecidableEq ι] in
/-- The consumer recovers the data of a packet that is no route packet and no message in
protocol buffers. -/
theorem recover_messageReport {packet : CdpPacket} (hlen : (sentData packet).length < 2 ^ 16)
    (hproto : legacyText proto packet.topic (sentData packet) = none)
    (hcarries : json.Carries (messageReport proto packet)) :
    recover json (json.serializeJson (messageReport proto packet)) = some (sentData packet) := by
  obtain ⟨hmessage, hnone⟩ := selectMessage_heading packet
  unfold messageReport at hcarries ⊢
  dsimp only at hcarries ⊢
  rw [hmessage, hproto, Option.getD_none] at hcarries ⊢
  refine recover_embedMessage json ?_ hnone hcarries
  unfold SafeBase64.safeB64EncodedLen
  omega

variable (lib proto json hub ducks pubTopic) in
/-- **What the hub hears reaches the broker**, or it is known why it does not. -/
structure Delivers (gateway : Gateway ι S g) : Prop where
  /-- Every packet its application was given has been submitted, in order and once. -/
  reports : gateway.reports.map Prod.snd = (gateway.mesh.ducks hub).duck.received
  sorted : (gateway.reports.map Prod.fst).Pairwise (· < ·)
  reported : ∀ report ∈ gateway.reports,
    Reported lib proto json pubTopic gateway.account.submitted report
  /-- Every submission is stored, or has one fate. -/
  balanced : (gateway.account.books.gone.map Prod.fst ++ gateway.account.books.stored).Perm
    (List.range gateway.account.submitted.length)
  /-- What is stored is what the store of the client holds, in order. -/
  stored : gateway.account.books.stored.map (Numbers.slotOf gateway.account.submitted)
    = gateway.account.mqtt.store.live.map some
  /-- The client has accepted a submission once, and once more only if it did not confirm it. -/
  accepted : (gateway.account.books.handovers.map Handover.number).Perm
    ((gateway.account.books.gone.filter (·.2.accepted)).map Prod.fst
      ++ gateway.account.books.unconfirmed)
  /-- What it has accepted was submitted. -/
  carries : ∀ h ∈ gateway.account.books.handovers, h.Carries gateway.account.submitted
  /-- What was reported was sent by the duck it names. -/
  origin : ∀ report ∈ gateway.reports, ∃ t ∈ gateway.mesh.air, Mesh.BuiltBySource ducks t
    ∧ (CdpPacket.ofBuffer t.frame).SameMessage report.2
  /-- The consumer of what the client has accepted recovers the data. -/
  recovered : ∀ h ∈ gateway.account.books.handovers, ∀ packet,
    (h.number, packet) ∈ gateway.reports → ¬ packet.IsRoute →
    legacyText proto packet.topic (sentData packet) = none →
    (∀ doc, processMessageFromDucks lib proto packet = some doc → json.Carries doc) →
    recover json h.message = some (sentData packet)

/-- **From the air to the broker.** In every run of any number of ducks, one of them the hub, and
of its MQTT client, with whatever frames are heard, responses queued, connections lost and set up,
messages stored and published, and answers of the client and of the memory: every packet the hub's
application was given is submitted once, in order, as the document of it; every submission is in
the store of the client or has met exactly one fate; what the client accepted is a submission, accepted once or, when it was not
confirmed in time, once more; and the consumer recovers from it the data of a packet that the duck
it names has built. -/
theorem gateway_delivers [LinearOrder S] (lib : ArduinoJson J) (proto : Protobuf)
    (json : JsonText) (hub : ι) (ducks : ι → MeshDuck S g) (enabled : Bool)
    (pubTopic : List UInt8) (env : ConnectAttempt) (events : List (GatewayEvent ι S))
    (hfresh : (ducks hub).duck.received = [])
    (hrun : Run.final (step lib proto json hub) (some (start ducks enabled pubTopic env)) events
      = some gateway) :
    Delivers lib proto json hub ducks pubTopic gateway := by
  have h : Sound lib proto json hub ducks pubTopic [] gateway :=
    Run.invariant_some (fun _ => rfl) (fun _ _ _ hstep h => h.step hstep) events
      (sound_start ducks enabled pubTopic env) hrun
  obtain ⟨sendings, htraced⟩ := h.traced
  have hreceived : (gateway.mesh.ducks hub).duck.received = gateway.reports.map Prod.snd := by
    rw [h.received, hfresh, List.append_nil, List.nil_append]
  -- what was reported was on the air
  have hair : ∀ report ∈ gateway.reports, ∃ t ∈ gateway.mesh.air, DuckLoRa.acceptable t.frame
      ∧ report.2 = CdpPacket.ofBuffer t.frame := by
    intro report hreport
    have hmem : report.2 ∈ (gateway.mesh.ducks hub).duck.received :=
      hreceived ▸ List.mem_map_of_mem hreport
    rcases htraced.received hub report.2 hmem with hold | hnew
    · rw [hfresh] at hold
      exact absurd hold List.not_mem_nil
    · exact hnew
  have hbalanced := h.account.balanced
  rw [List.append_nil] at hbalanced
  refine ⟨hreceived.symm, h.sorted, h.reported, hbalanced, h.account.tracks, h.account.accepted,
    h.account.carries, fun report hreport => ?_,
    fun hand hhand packet hreport hroute hproto hcarries => ?_⟩
  · obtain ⟨t, ht, hacc, hpacket⟩ := hair report hreport
    obtain ⟨k, hk⟩ := List.getElem?_of_mem ht
    obtain ⟨s, hs, -, hframe⟩ := htraced.getElem?_trace hk
    rw [hpacket, ← hframe]
    exact htraced.origin k s hs (hframe ▸ hacc)
  · obtain ⟨t, ht, -, hpacket⟩ := hair _ hreport
    obtain ⟨doc, hdoc, hnumber⟩ := h.reported _ hreport
    obtain ⟨topic, hnumber', -⟩ := h.account.carries hand hhand
    have hmessage : hand.message = json.serializeJson doc := by
      have hboth := Option.some.inj (hnumber'.symm.trans hnumber)
      exact congrArg Prod.snd hboth
    have hreport' : processMessageFromDucks lib proto packet = some (messageReport proto packet) :=
      if_neg hroute
    have hlen : (sentData packet).length < 2 ^ 16 := by
      obtain ⟨k, hk⟩ := List.getElem?_of_mem ht
      obtain ⟨s, -, -, hframe⟩ := htraced.getElem?_trace hk
      have hlt := s.emission.length_frame_lt
      rw [hframe] at hlt
      dsimp only at hpacket
      rw [hpacket]
      unfold sentData CdpPacket.ofBuffer
      dsimp only
      split_ifs <;> simp only [List.length_tail, List.length_drop] <;> omega
    rw [hmessage, ← Option.some.inj (hreport'.symm.trans hdoc)]
    exact recover_messageReport hlen hproto (hcarries _ hreport')

/-- Attempts to connect that succeed, with a client that accepts everything. -/
def acceptingAttempt (now : ℤ) : ReconnectAttempt where
  create := true
  connect := true
  outcome := fun _ => .published
  now := now
  again := fun _ => .published

/-- The connection is lost before the hub hears a relayed packet, and set up again after it and
after a response that found no memory. -/
def storedReport (i j k : Fin 3) : List (GatewayEvent (Fin 3) ℤ) :=
  .mqtt .connectionLost
    :: (Mesh.relayed i j k).map (.mesh · ⟨true, true, true, acceptingAttempt 0⟩)
    ++ [.response [0x72] [0x42] false, .mqtt (.reconnect (acceptingAttempt 10))]

/-- **The report goes through the store**, and the consumer has the data that was sent. -/
theorem gateway_delivers_stored : ∃ gateway,
    Run.final (step ArduinoJson.flat (fun _ _ => none) JsonText.plain 2)
        (some (start (Mesh.threeDucks false) true [0x74] (acceptingAttempt 0).toConnectAttempt))
        (storedReport 0 1 2) = some gateway
      ∧ gateway.account.books.gone = [(1, .unstored), (0, .published)]
      ∧ gateway.account.books.handovers.map (fun h => recover JsonText.plain h.message)
        = [some [0x41]]
      ∧ Delivers ArduinoJson.flat (fun _ _ => none) JsonText.plain 2 (Mesh.threeDucks false)
        [0x74] gateway := by
  have hmap : (Run.final (step ArduinoJson.flat (fun _ _ => none) JsonText.plain 2)
        (some (start (Mesh.threeDucks false) true [0x74] (acceptingAttempt 0).toConnectAttempt))
        (storedReport 0 1 2)).map (fun gateway => (gateway.account.books.gone,
          gateway.account.books.handovers.map fun h => recover JsonText.plain h.message))
      = some ([(1, .unstored), (0, .published)], [some [0x41]]) := by decide +kernel
  obtain ⟨gateway, hrun, hboth⟩ := Option.map_eq_some_iff.mp hmap
  exact ⟨gateway, hrun, congrArg Prod.fst hboth, congrArg Prod.snd hboth,
    gateway_delivers ArduinoJson.flat (fun _ _ => none) JsonText.plain 2 (Mesh.threeDucks false)
      true [0x74] (acceptingAttempt 0).toConnectAttempt (storedReport 0 1 2) rfl hrun⟩

end Gateway
