import MeshBeacon.Mqtt

/-!
# The order of MQTT messages

Messages reach the client on two ways, directly and through the store, and which
one `mqtt_publish_message` takes depends on the connection alone. As long as the
store is empty whenever it publishes directly, the messages are handed over in the
order they were submitted in. After a reconnection the store is empty – unless the
client refused a queued message: `mqtt_publish_queued_messages` then goes back and
leaves the rest, while nothing marks the client. (The direct way does mark it.) The
next message submitted overtakes the rest.

Messages may be equal, so the order is one of submission numbers. They are kept
beside the state of the daemon and follow what it does with messages; that each
stands for the message submitted under it is `Numbers.Tracked`.
-/

/-! ## Submission numbers -/

/-- The numbers of the messages in the store, and of those the client has accepted, in
the order it has. -/
structure Numbers where
  queued : List ℕ
  handed : List ℕ
deriving DecidableEq

namespace Numbers

/-- The numbers follow an action; a message put in has number `n`. -/
def act (n : ℕ) (o : Numbers) : MqttAction → Numbers
  | .inStore (.evict _ _) => { o with queued := o.queued.tail }
  | .inStore (.store _) => { o with queued := o.queued ++ [n] }
  | .inStore (.lose _) => { o with queued := o.queued.tail }
  | .inStore (.refuse _) => { o with queued := o.queued.tail }
  | .inStore (.publish _) => ⟨o.queued.tail, o.handed ++ o.queued.take 1⟩
  | .hand _ _ => { o with handed := o.handed ++ [n] }

/-- The numbers after some actions. -/
def after (n : ℕ) (o : Numbers) (actions : List MqttAction) : Numbers := actions.foldl (act n) o

theorem after_append (n : ℕ) (o : Numbers) (actions more : List MqttAction) :
    o.after n (actions ++ more) = (o.after n actions).after n more :=
  List.foldl_append

/-- **The messages accepted, and then those in the store, are in the order of their
submission.** -/
def InOrder (o : Numbers) : Prop := (o.handed ++ o.queued).Pairwise (· ≤ ·)

/-- The slot made of a submission. -/
def slotOf (submitted : List (List UInt8 × List UInt8)) (i : ℕ) : Option MqttQueuedMessage :=
  submitted[i]?.map fun p => .ofPublish p.1 p.2

/-- The numbers are those of the messages stored, and those of a submission each;
the messages stored are in order. -/
structure Tracked (submitted : List (List UInt8 × List UInt8)) (o : Numbers) (q : MqttStore) :
    Prop where
  valid : q.Valid
  tracks : o.queued.map (slotOf submitted) = q.live.map some
  handed_lt : ∀ i ∈ o.handed, i < submitted.length
  sorted : o.queued.Pairwise (· ≤ ·)

variable {submitted : List (List UInt8 × List UInt8)} {n : ℕ} {o : Numbers} {q q' q'' : MqttStore}

theorem slotOf_eq_some {i : ℕ} {m : MqttQueuedMessage} (h : slotOf submitted i = some m) :
    i < submitted.length := by
  obtain ⟨p, hp, -⟩ := Option.map_eq_some_iff.mp h
  exact (List.getElem?_eq_some_iff.mp hp).1

theorem Tracked.queued_lt (h : Tracked submitted o q) {i : ℕ} (hi : i ∈ o.queued) :
    i < submitted.length := by
  have hmem : slotOf submitted i ∈ q.live.map some := h.tracks ▸ List.mem_map_of_mem hi
  obtain ⟨m, -, hm⟩ := List.mem_map.mp hmem
  exact slotOf_eq_some hm.symm

/-- There are as many numbers as messages stored. -/
theorem Tracked.length_queued (h : Tracked submitted o q) : o.queued.length = q.count := by
  have hlength := congrArg List.length h.tracks
  rwa [List.length_map, List.length_map, RingBuffer.length_live] at hlength

/-- A later submission does not disturb the numbers. -/
theorem Tracked.submit (h : Tracked submitted o q) (p : List UInt8 × List UInt8) :
    Tracked (submitted ++ [p]) o q where
  valid := h.valid
  tracks := by
    rw [← h.tracks]
    refine List.map_congr_left fun i hi => ?_
    unfold slotOf
    rw [List.getElem?_append_left (h.queued_lt hi)]
  handed_lt := fun i hi => by
    rw [List.length_append]
    exact (h.handed_lt i hi).trans (Nat.lt_succ_self _)
  sorted := h.sorted

/-! ## What the functions do to the numbers -/

/-- The actions take a store to another, with the numbers following, and keep the
order. -/
def Moves (submitted : List (List UInt8 × List UInt8)) (n : ℕ) (actions : List MqttAction)
    (q q' : MqttStore) : Prop :=
  ∀ o, Tracked submitted o q →
    Tracked submitted (o.after n actions) q' ∧ (o.InOrder → (o.after n actions).InOrder)

theorem moves_nil (q : MqttStore) : Moves submitted n [] q q := fun _ h => ⟨h, id⟩

theorem Moves.append {actions more : List MqttAction} (h : Moves submitted n actions q q')
    (h' : Moves submitted n more q' q'') : Moves submitted n (actions ++ more) q q'' := by
  intro o ho
  rw [after_append]
  obtain ⟨htracked, horder⟩ := h o ho
  obtain ⟨htracked', horder'⟩ := h' _ htracked
  exact ⟨htracked', fun hin => horder' (horder hin)⟩

/-- Taking the oldest message out takes the first number. -/
theorem Tracked.dropOldest (h : Tracked submitted o q) (hpos : 0 < q.count) :
    ∃ i, o.queued = i :: o.queued.tail ∧ i < submitted.length
      ∧ Tracked submitted { o with queued := o.queued.tail } q.dropOldest := by
  have htracks := h.tracks
  rw [h.valid.live_eq hpos] at htracks
  cases hqueued : o.queued with
  | nil =>
    rw [hqueued] at htracks
    exact absurd htracks (List.cons_ne_nil _ _).symm
  | cons i rest =>
    rw [hqueued, List.map_cons, List.map_cons] at htracks
    have hsorted := h.sorted
    rw [hqueued] at hsorted
    refine ⟨i, rfl, h.queued_lt (hqueued ▸ List.mem_cons_self), h.valid.dropOldest hpos,
      (List.cons_eq_cons.mp htracks).2, h.handed_lt, hsorted.of_cons⟩

/-- A message that leaves without reaching the client. -/
theorem moves_drop (hpos : 0 < q.count) {a : MqttAction}
    (ha : ∀ o : Numbers, o.act n a = { o with queued := o.queued.tail }) :
    Moves submitted n [a] q q.dropOldest := by
  intro o h
  obtain ⟨i, -, -, hrest⟩ := h.dropOldest hpos
  have hafter : o.after n [a] = { o with queued := o.queued.tail } := ha o
  rw [hafter]
  refine ⟨hrest, fun hin => ?_⟩
  exact hin.sublist ((List.Sublist.refl _).append (List.tail_sublist _))

/-- A message that leaves the store for the client. -/
theorem moves_publish (hpos : 0 < q.count) (m : MqttQueuedMessage) :
    Moves submitted n [.inStore (.publish m)] q q.dropOldest := by
  intro o h
  obtain ⟨i, hqueued, hi, hrest⟩ := h.dropOldest hpos
  refine ⟨⟨hrest.valid, hrest.tracks, fun j hj => ?_, hrest.sorted⟩, fun hin => ?_⟩
  · obtain hj | hj := List.mem_append.mp hj
    · exact h.handed_lt j hj
    · rw [hqueued, List.take_succ_cons, List.take_zero, List.mem_singleton] at hj
      exact hj ▸ hi
  · show ((o.handed ++ o.queued.take 1) ++ o.queued.tail).Pairwise (· ≤ ·)
    rw [List.append_assoc, ← List.drop_one, List.take_append_drop]
    exact hin

theorem moves_turn (hpos : 0 < q.count) (m : MqttQueuedMessage) (outcome : QueuedPublish) :
    Moves submitted n [.inStore (outcome.action m)] q q.dropOldest := by
  cases outcome with
  | noMemory => exact moves_drop hpos fun _ => rfl
  | refused => exact moves_drop hpos fun _ => rfl
  | published => exact moves_publish hpos m

/-- **Publishing what is stored keeps the order.** -/
theorem moves_mqttPublishQueuedMessages (outcome : ℕ → QueuedPublish) (q : MqttStore) :
    Moves submitted n ((mqttPublishQueuedMessages outcome q).1.map .inStore) q
      (mqttPublishQueuedMessages outcome q).2 := by
  refine MqttStore.publishInduction (P := fun outcome q =>
    Moves submitted n ((mqttPublishQueuedMessages outcome q).1.map .inStore) q
      (mqttPublishQueuedMessages outcome q).2) ?_ ?_ outcome q
  · intro outcome q hcount
    rw [MqttStore.mqttPublishQueuedMessages_eq, if_pos hcount]
    exact moves_nil q
  · intro outcome q hpos ih
    rw [MqttStore.mqttPublishQueuedMessages_eq, if_neg (Nat.ne_of_gt hpos)]
    by_cases hrefused : outcome 0 = .refused
    · rw [if_pos hrefused]
      exact moves_turn hpos (q.slots q.tail) .refused
    · rw [if_neg hrefused]
      exact (moves_turn hpos (q.slots q.tail) (outcome 0)).append ih

/-- Making room takes the first number out of a full store. -/
theorem moves_makeRoom (stored : Bool) (q : MqttStore) :
    Moves submitted n
      ((if q.count ≥ mqttQueueSize then [.evict (q.slots q.tail) stored] else []).map .inStore) q
      q.makeRoom := by
  unfold MqttStore.makeRoom
  by_cases hfull : q.count ≥ mqttQueueSize
  · rw [if_pos hfull, if_pos hfull]
    exact moves_drop (Nat.lt_of_lt_of_le (by decide) hfull) fun _ => rfl
  · rw [if_neg hfull, if_neg hfull]
    exact moves_nil q

/-- The last number is not less than any other. -/
theorem Tracked.le_last (h : Tracked submitted o q) (hn : n + 1 = submitted.length) {i : ℕ}
    (hi : i ∈ o.handed ++ o.queued) : i ≤ n := by
  obtain hi | hi := List.mem_append.mp hi
  · exact Nat.le_of_lt_succ ((h.handed_lt i hi).trans_eq hn.symm)
  · exact Nat.le_of_lt_succ ((h.queued_lt hi).trans_eq hn.symm)

theorem pairwise_concat {l : List ℕ} (h : l.Pairwise (· ≤ ·)) (hle : ∀ i ∈ l, i ≤ n) :
    (l ++ [n]).Pairwise (· ≤ ·) := by
  refine List.pairwise_append.mpr ⟨h, List.pairwise_singleton _ _, fun i hi j hj => ?_⟩
  rw [List.mem_singleton.mp hj]
  exact hle i hi

/-- **Handing over the message last submitted** past the store. -/
theorem Tracked.hand (h : Tracked submitted o q) (hn : n + 1 = submitted.length) :
    Tracked submitted { o with handed := o.handed ++ [n] } q where
  valid := h.valid
  tracks := h.tracks
  handed_lt i hi := by
    obtain hi | hi := List.mem_append.mp hi
    · exact h.handed_lt i hi
    · rw [List.mem_singleton.mp hi, ← hn]
      exact Nat.lt_succ_self n
  sorted := h.sorted

theorem InOrder.hand (h : o.InOrder) (hqueued : o.queued = []) (hle : ∀ i ∈ o.handed, i ≤ n) :
    InOrder { o with handed := o.handed ++ [n] } := by
  show (o.handed ++ [n] ++ o.queued).Pairwise (· ≤ ·)
  unfold InOrder at h
  rw [hqueued, List.append_nil] at h ⊢
  exact pairwise_concat h hle

/-- **Queueing the message last submitted keeps the order.** -/
theorem moves_mqttQueueMessage {topic message : List UInt8}
    (hn : n + 1 = submitted.length) (hlast : submitted[n]? = some (topic, message))
    (malloc : Bool) (q : MqttStore) :
    Moves submitted n ((queueActions topic message malloc q).map .inStore) q
      (mqttQueueMessage topic message malloc q).2 := by
  intro o h
  obtain ⟨hroom, horder⟩ := moves_makeRoom (n := n) malloc q o h
  have hlive := h.valid.live_mqttQueueMessage topic message malloc
  have hvalid := h.valid.queueMessage topic message malloc
  unfold queueActions
  rw [List.map_append, after_append]
  generalize o.after n _ = o' at hroom horder ⊢
  cases malloc with
  | false =>
    -- room has been made for nothing
    rw [if_neg Bool.false_ne_true, List.append_nil] at hlive
    exact ⟨⟨hvalid, hroom.tracks.trans (congrArg _ hlive.symm), hroom.handed_lt, hroom.sorted⟩,
      horder⟩
  | true =>
    rw [if_pos rfl] at hlive
    -- the last number goes to the end of the queue, where the order stays
    have hslot : slotOf submitted n = some (.ofPublish topic message) := by
      rw [slotOf, hlast]
      rfl
    refine ⟨⟨hvalid, ?_, hroom.handed_lt, ?_⟩, fun hin => ?_⟩
    · show (o'.queued ++ [n]).map (slotOf submitted) = _
      rw [hlive, List.map_append, List.map_append, hroom.tracks, List.map_singleton, hslot]
      rfl
    · exact pairwise_concat hroom.sorted fun i hi => hroom.le_last hn (List.mem_append_right _ hi)
    · show (o'.handed ++ (o'.queued ++ [n])).Pairwise (· ≤ ·)
      rw [← List.append_assoc]
      exact pairwise_concat (horder hin) fun i hi => hroom.le_last hn hi

end Numbers

namespace Mqtt

open Numbers

variable {submitted : List (List UInt8 × List UInt8)} {n : ℕ}

theorem moves_publishQueued (outcome : ℕ → QueuedPublish) (m : Mqtt) :
    Moves submitted n (m.publishQueued outcome).1 m.store (m.publishQueued outcome).2.store := by
  unfold publishQueued
  by_cases hcount : m.store.count > 0
  · rw [if_pos hcount]
    exact moves_mqttPublishQueuedMessages outcome m.store
  · rw [if_neg hcount]
    exact moves_nil m.store

theorem store_cleanUp (m : Mqtt) : m.cleanUp.store = m.store := by
  unfold cleanUp
  split_ifs <;> rfl

theorem moves_initAndConnect (env : ConnectAttempt) (m : Mqtt) :
    Moves submitted n (m.initAndConnect env).2.1 m.store (m.initAndConnect env).2.2.store := by
  unfold initAndConnect
  rw [← store_cleanUp m]
  cases henabled : m.enabled with
  | false =>
    rw [store_cleanUp]
    exact moves_nil m.store
  | true =>
    cases hcreate : env.create with
    | false => exact moves_nil _
    | true =>
      cases hconnect : env.connect with
      | false => exact moves_nil _
      | true => exact moves_publishQueued env.outcome _

theorem moves_reconnectWithBackoff (env : ReconnectAttempt) (m : Mqtt) :
    Moves submitted n (m.reconnectWithBackoff env).2.1 m.store
      (m.reconnectWithBackoff env).2.2.store := by
  unfold reconnectWithBackoff
  by_cases hsoon : env.now - m.lastReconnectAttempt < m.reconnectDelay
  · rw [if_pos hsoon]
    exact moves_nil m.store
  · rw [if_neg hsoon]
    have hinit : Moves submitted n _ m.store _ := moves_initAndConnect env.toConnectAttempt
      { m with lastReconnectAttempt := env.now }
    generalize ({ m with lastReconnectAttempt := env.now }).initAndConnect env.toConnectAttempt
      = attempt at hinit ⊢
    obtain ⟨result, actions, m'⟩ := attempt
    by_cases hresult : result = 0
    · subst hresult
      exact hinit.append (moves_publishQueued env.again { m' with needsReconnect := false })
    · show Moves submitted n (if result ≠ 0 then _ else _ : ℤ × List MqttAction × Mqtt).2.1 m.store
        (if result ≠ 0 then _ else _ : ℤ × List MqttAction × Mqtt).2.2.store
      rw [if_pos hresult]
      exact hinit

theorem moves_threadDuck (env : ReconnectAttempt) (published : ℕ → QueuedPublish) (m : Mqtt) :
    Moves submitted n (m.threadDuck env published).1 m.store
      (m.threadDuck env published).2.store := by
  unfold threadDuck
  dsimp only
  split_ifs
  · exact moves_reconnectWithBackoff env _
  · exact moves_publishQueued published _
  · exact moves_nil m.store
  · exact moves_nil m.store
  · exact moves_nil m.store

/-- `mqtt_publish_message` publishes directly, and the client accepts. -/
def HandsDirectly (m : Mqtt) (env : PublishAttempt) : Prop :=
  m.enabled = true ∧ m.canPublish = true ∧ env.publish = true

instance (m : Mqtt) (env : PublishAttempt) : Decidable (m.HandsDirectly env) :=
  inferInstanceAs (Decidable (_ ∧ _ ∧ _))

/-- Unless it does, publishing only moves messages into the store and out of it. -/
theorem moves_publishMessage (topic : Option (List UInt8)) (message : List UInt8)
    (env : PublishAttempt) (m : Mqtt) (hdirect : ¬ m.HandsDirectly env)
    (hn : n + 1 = submitted.length)
    (hlast : submitted[n]? = some (m.topicOf topic, message)) :
    Moves submitted n (m.publishMessage topic message env).1 m.store
      (m.publishMessage topic message env).2.store := by
  have hqueue := moves_mqttQueueMessage hn hlast env.malloc m.store
  unfold publishMessage
  cases henabled : m.enabled with
  | false => exact moves_nil m.store
  | true =>
    cases hcan : m.canPublish with
    | false => exact hqueue.append (moves_reconnectWithBackoff env.reconnect _)
    | true =>
      cases hpublish : env.publish with
      | false => exact hqueue
      | true => exact absurd ⟨henabled, hcan, hpublish⟩ hdirect

/-- **A message handed directly goes first**; what happens after that moves it into
the store at most. -/
theorem publishMessage_of_handsDirectly (topic : Option (List UInt8)) (message : List UInt8)
    {env : PublishAttempt} {m : Mqtt} (hdirect : m.HandsDirectly env) :
    ∃ more, (m.publishMessage topic message env).1
        = .hand (m.topicOf topic) message :: more.map .inStore
      ∧ (more = [] ∧ (m.publishMessage topic message env).2.store = m.store
        ∨ more = queueActions (m.topicOf topic) message env.malloc m.store
          ∧ (m.publishMessage topic message env).2.store
            = (mqttQueueMessage (m.topicOf topic) message env.malloc m.store).2) := by
  obtain ⟨henabled, hcan, hpublish⟩ := hdirect
  unfold publishMessage
  rw [if_pos henabled, if_pos hcan, if_pos hpublish]
  cases hwait : env.wait with
  | true => exact ⟨[], rfl, .inl ⟨rfl, rfl⟩⟩
  | false => exact ⟨_, rfl, .inr ⟨rfl, rfl⟩⟩

/-! ## Clients that accept what is queued -/

/-- The store is empty whenever the client can be published to. -/
def Drained (m : Mqtt) : Prop := m.canPublish = true → m.store.count = 0

theorem count_publishQueued {outcome : ℕ → QueuedPublish}
    (houtcome : ∀ i, outcome i = .published) (m : Mqtt) :
    (m.publishQueued outcome).2.store.count = 0 := by
  unfold publishQueued
  by_cases hcount : m.store.count > 0
  · rw [if_pos hcount]
    exact MqttStore.count_publish_of_published outcome m.store houtcome
  · rw [if_neg hcount]
    exact Nat.eq_zero_of_not_pos hcount

/-- A failed attempt to connect leaves no client. -/
theorem client_of_initAndConnect_ne_zero {env : ConnectAttempt} {m : Mqtt}
    (h : (m.initAndConnect env).1 ≠ 0) : (m.initAndConnect env).2.2.client = none := by
  have hclean : m.cleanUp.client = none := by
    unfold cleanUp
    cases hc : m.client with
    | none => exact hc
    | some connected => rfl
  unfold initAndConnect at h ⊢
  cases henabled : m.enabled with
  | false =>
    rw [henabled] at h
    exact absurd rfl h
  | true =>
    rw [henabled] at h
    cases hcreate : env.create with
    | false => exact hclean
    | true =>
      rw [hcreate] at h
      cases hconnect : env.connect with
      | false => rfl
      | true =>
        rw [hconnect] at h
        exact absurd rfl h

theorem canPublish_of_client {m : Mqtt} (h : m.client ≠ some true) : m.canPublish = false := by
  unfold canPublish
  rw [Bool.and_eq_false_iff]
  exact .inl (beq_eq_false_iff_ne.mpr h)

theorem canPublish_of_needsReconnect {m : Mqtt} (h : m.needsReconnect = true) :
    m.canPublish = false := by
  unfold canPublish
  rw [h, Bool.not_true, Bool.and_false]

theorem Drained.of_not_canPublish {m : Mqtt} (h : m.canPublish = false) : m.Drained :=
  fun hcan => absurd (h.symm.trans hcan) Bool.false_ne_true

theorem Drained.reconnectWithBackoff {m : Mqtt} (h : m.Drained) {env : ReconnectAttempt}
    (hagain : ∀ i, env.again i = .published) : (m.reconnectWithBackoff env).2.2.Drained := by
  unfold Mqtt.reconnectWithBackoff
  by_cases hsoon : env.now - m.lastReconnectAttempt < m.reconnectDelay
  · rw [if_pos hsoon]
    exact h
  · rw [if_neg hsoon]
    have hfailed := @client_of_initAndConnect_ne_zero env.toConnectAttempt
      { m with lastReconnectAttempt := env.now }
    generalize ({ m with lastReconnectAttempt := env.now }).initAndConnect env.toConnectAttempt
      = attempt at hfailed ⊢
    obtain ⟨result, actions, m'⟩ := attempt
    by_cases hresult : result = 0
    · subst hresult
      exact fun _ => count_publishQueued hagain _
    · show (if result ≠ 0 then _ else _ : ℤ × List MqttAction × Mqtt).2.2.Drained
      rw [if_pos hresult]
      have hclient : m'.client ≠ some true := by
        rw [hfailed hresult]
        exact (Option.some_ne_none true).symm
      exact Drained.of_not_canPublish (canPublish_of_client hclient)

end Mqtt

namespace MqttEvent

/-- The client accepts every queued message it is given in the event. -/
def Accepting : MqttEvent → Prop
  | publishMessage _ _ env => ∀ i, env.reconnect.again i = .published
  | connectionLost => True
  | reconnect env => ∀ i, env.again i = .published
  | healthCheck env published =>
    (∀ i, env.again i = .published) ∧ ∀ i, published i = .published

end MqttEvent

/-- A client that accepts what is queued finds the store empty whenever it can be
published to. -/
theorem Mqtt.Drained.step {m : Mqtt} (h : m.Drained) {e : MqttEvent} (he : e.Accepting) :
    (m.step e).Drained := by
  cases e with
  | publishMessage topic message env =>
    show (m.publishMessage topic message env).2.Drained
    unfold Mqtt.publishMessage
    cases henabled : m.enabled with
    | false => exact h
    | true =>
      cases hcan : m.canPublish with
      | false =>
        -- what is queued waits until there is a connection, and then it is published
        have hqueued : (m.queueMessage (m.topicOf topic) message env.malloc).2.Drained :=
          Mqtt.Drained.of_not_canPublish hcan
        exact hqueued.reconnectWithBackoff he
      | true =>
        -- a failure marks the client, which cannot be published to until it is set up again
        have hmarked := Mqtt.Drained.of_not_canPublish (Mqtt.canPublish_of_needsReconnect
          (m := { (m.queueMessage (m.topicOf topic) message env.malloc).2 with
            needsReconnect := true }) rfl)
        cases hpublish : env.publish with
        | false => exact hmarked
        | true =>
          cases hwait : env.wait with
          | false => exact hmarked
          | true => exact h
  | connectionLost =>
    have hclient : m.loseConnection.client ≠ some true := by
      show m.client.map (fun _ => false) ≠ some true
      cases m.client with
      | none => exact (Option.some_ne_none true).symm
      | some connected => simp
    exact Mqtt.Drained.of_not_canPublish (Mqtt.canPublish_of_client hclient)
  | reconnect env => exact h.reconnectWithBackoff he
  | healthCheck env published =>
    have hcounter : { m with checkCounter := 0 }.Drained := h
    show (m.threadDuck env published).2.Drained
    unfold Mqtt.threadDuck
    dsimp only
    split_ifs
    · exact hcounter.reconnectWithBackoff he.1
    · exact fun _ => Mqtt.count_publishQueued he.2 _
    · exact h
    · exact h
    · exact h

/-! ## Runs -/

/-- The oldest message of a full store is pushed out. -/
def MqttAction.Evicts : MqttAction → Prop
  | .inStore (.evict _ _) => True
  | _ => False

instance : DecidablePred MqttAction.Evicts
  | .inStore (.evict _ _) => inferInstanceAs (Decidable True)
  | .inStore (.store _) => inferInstanceAs (Decidable False)
  | .inStore (.lose _) => inferInstanceAs (Decidable False)
  | .inStore (.refuse _) => inferInstanceAs (Decidable False)
  | .inStore (.publish _) => inferInstanceAs (Decidable False)
  | .hand _ _ => inferInstanceAs (Decidable False)

/-- The daemon, what has been submitted to it, and the submission numbers. -/
structure MqttHistory where
  mqtt : Mqtt
  /-- The topics and messages of the calls of `mqtt_publish_message`, in order. -/
  submitted : List (List UInt8 × List UInt8)
  numbers : Numbers

namespace MqttHistory

/-- The submissions after an event. -/
def submit (h : MqttHistory) : MqttEvent → List (List UInt8 × List UInt8)
  | .publishMessage topic message _ => h.submitted ++ [(h.mqtt.topicOf topic, message)]
  | _ => h.submitted

/-- One event. -/
def step (h : MqttHistory) (e : MqttEvent) : MqttHistory where
  mqtt := h.mqtt.step e
  submitted := h.submit e
  numbers := h.numbers.after h.submitted.length (h.mqtt.handle e).1

/-- The daemon has just started. -/
def start (enabled : Bool) (pubTopic : List UInt8) (env : ConnectAttempt) : MqttHistory where
  mqtt := ((Mqtt.init enabled pubTopic).startup env).2
  submitted := []
  numbers := ⟨[], []⟩

/-- **Messages reach the client in the order of their submission**: those accepted are
in order, and none was submitted later than one that is still stored. -/
structure Ordered (h : MqttHistory) : Prop where
  handed : h.numbers.handed.Pairwise (· ≤ ·)
  queued : ∀ i ∈ h.numbers.handed, ∀ j ∈ h.numbers.queued, i ≤ j

/-- No message handed over directly overtakes messages in the store: there are none. -/
def NoOvertaking (h : MqttHistory) : MqttEvent → Prop
  | .publishMessage _ _ env => h.mqtt.HandsDirectly env → h.mqtt.store.count = 0
  | _ => True

/-- The event pushes no message out of a full store. -/
def NoEviction (h : MqttHistory) (e : MqttEvent) : Prop :=
  ∀ a ∈ (h.mqtt.handle e).1, ¬ a.Evicts

instance (h : MqttHistory) (e : MqttEvent) : Decidable (h.NoEviction e) :=
  inferInstanceAs (Decidable (∀ a ∈ (h.mqtt.handle e).1, ¬ a.Evicts))

/-- What holds of the numbers in any case. -/
def Sound (h : MqttHistory) : Prop := h.numbers.Tracked h.submitted h.mqtt.store

variable {h : MqttHistory}

theorem Sound.ordered_iff (hs : h.Sound) : h.Ordered ↔ h.numbers.InOrder := by
  unfold Numbers.InOrder
  rw [List.pairwise_append]
  exact ⟨fun ho => ⟨ho.handed, hs.sorted, ho.queued⟩, fun ho => ⟨ho.1, ho.2.2⟩⟩

/-- The events that hand nothing over directly keep the numbers and the order. -/
theorem moves_handle (hs : h.Sound) (e : MqttEvent)
    (he : ∀ topic message env, e = .publishMessage topic message env
      → ¬ h.mqtt.HandsDirectly env) :
    Numbers.Tracked (h.submit e) h.numbers h.mqtt.store
      ∧ Numbers.Moves (h.submit e) h.submitted.length (h.mqtt.handle e).1 h.mqtt.store
          (h.mqtt.handle e).2.store := by
  cases e with
  | publishMessage topic message env =>
    refine ⟨Numbers.Tracked.submit hs _, ?_⟩
    refine Mqtt.moves_publishMessage topic message env h.mqtt (he topic message env rfl) ?_ ?_
    · show h.submitted.length + 1 = (h.submitted ++ [_]).length
      rw [List.length_append, List.length_singleton]
    · exact List.getElem?_concat_length
  | connectionLost => exact ⟨hs, Numbers.moves_nil _⟩
  | reconnect env => exact ⟨hs, Mqtt.moves_reconnectWithBackoff env h.mqtt⟩
  | healthCheck env published => exact ⟨hs, Mqtt.moves_threadDuck env published h.mqtt⟩

/-- Queueing a message pushes the first number out of a full store, and puts the new
number in. -/
theorem after_queueActions (n : ℕ) (o : Numbers) (topic message : List UInt8) (malloc : Bool)
    (q : MqttStore) :
    o.after n ((queueActions topic message malloc q).map .inStore)
      = { o with
          queued := (if q.count ≥ mqttQueueSize then o.queued.tail else o.queued)
            ++ (if malloc then [n] else []) } := by
  unfold queueActions Numbers.after
  split_ifs <;> simp [Numbers.act]

/-- The numbers after a direct hand-over: the new one first, then what the store does. -/
theorem numbers_step_eq {topic : Option (List UInt8)} {message : List UInt8}
    {env : PublishAttempt} {more : List StoreAction}
    (hactions : (h.mqtt.publishMessage topic message env).1
      = .hand (h.mqtt.topicOf topic) message :: more.map .inStore) :
    (h.step (.publishMessage topic message env)).numbers
      = Numbers.after h.submitted.length
          { h.numbers with handed := h.numbers.handed ++ [h.submitted.length] }
          (more.map .inStore) := by
  show h.numbers.after h.submitted.length (h.mqtt.publishMessage topic message env).1 = _
  rw [hactions]
  rfl

/-- A message handed over directly is the last one accepted; what it finds in the store
stays there, but for the oldest message of a full store. -/
theorem numbers_step_of_handsDirectly (topic : Option (List UInt8)) (message : List UInt8)
    {env : PublishAttempt} (hdirect : h.mqtt.HandsDirectly env) :
    (h.step (.publishMessage topic message env)).numbers.handed
        = h.numbers.handed ++ [h.submitted.length]
      ∧ ∀ j ∈ (if h.mqtt.store.count ≥ mqttQueueSize then h.numbers.queued.tail
          else h.numbers.queued),
        j ∈ (h.step (.publishMessage topic message env)).numbers.queued := by
  obtain ⟨more, hactions, hmore⟩ := Mqtt.publishMessage_of_handsDirectly topic message hdirect
  rw [numbers_step_eq hactions]
  obtain ⟨hmore, -⟩ | ⟨hmore, -⟩ := hmore
  · subst hmore
    refine ⟨rfl, fun j hj => ?_⟩
    split_ifs at hj
    · exact List.mem_of_mem_tail hj
    · exact hj
  · subst hmore
    rw [after_queueActions]
    exact ⟨rfl, fun j hj => List.mem_append_left _ hj⟩

/-- The store is not emptied by making room in it. -/
theorem Sound.exists_queued (hs : h.Sound) (hcount : h.mqtt.store.count ≠ 0) :
    ∃ j ∈ (if h.mqtt.store.count ≥ mqttQueueSize then h.numbers.queued.tail
      else h.numbers.queued), j < h.submitted.length := by
  have hlength := hs.length_queued
  by_cases hfull : h.mqtt.store.count ≥ mqttQueueSize
  · rw [if_pos hfull]
    have htail : 0 < h.numbers.queued.tail.length := by
      rw [List.length_tail, hlength]
      exact Nat.lt_of_lt_of_le (by decide) (Nat.sub_le_sub_right hfull 1)
    obtain ⟨j, hj⟩ := List.exists_mem_of_length_pos htail
    exact ⟨j, hj, hs.queued_lt (List.mem_of_mem_tail hj)⟩
  · rw [if_neg hfull]
    obtain ⟨j, hj⟩ := List.exists_mem_of_length_pos (hlength ▸ Nat.pos_of_ne_zero hcount)
    exact ⟨j, hj, hs.queued_lt hj⟩

/-- **A direct hand-over keeps the numbers, and the order if the store is empty.** -/
theorem Sound.step_of_handsDirectly (hs : h.Sound) (topic : Option (List UInt8))
    (message : List UInt8) {env : PublishAttempt} (hdirect : h.mqtt.HandsDirectly env) :
    (h.step (.publishMessage topic message env)).Sound
      ∧ (h.numbers.InOrder → h.mqtt.store.count = 0 →
          (h.step (.publishMessage topic message env)).numbers.InOrder) := by
  have hsubmit := Numbers.Tracked.submit hs (h.mqtt.topicOf topic, message)
  have hn : h.submitted.length + 1
      = (h.submitted ++ [(h.mqtt.topicOf topic, message)]).length := by
    rw [List.length_append, List.length_singleton]
  -- the numbers when the client has accepted the message
  have hhanded : Numbers.Tracked (h.submitted ++ [(h.mqtt.topicOf topic, message)])
      { h.numbers with handed := h.numbers.handed ++ [h.submitted.length] } h.mqtt.store :=
    hsubmit.hand hn
  have horder : h.numbers.InOrder → h.mqtt.store.count = 0 → Numbers.InOrder
      { h.numbers with handed := h.numbers.handed ++ [h.submitted.length] } := by
    intro hin hcount
    have hqueued : h.numbers.queued = [] :=
      List.eq_nil_of_length_eq_zero (hs.length_queued.trans hcount)
    exact hin.hand hqueued fun i hi => (hs.handed_lt i hi).le
  obtain ⟨more, hactions, hmore⟩ := Mqtt.publishMessage_of_handsDirectly topic message hdirect
  have hmoves : Numbers.Moves (h.submitted ++ [(h.mqtt.topicOf topic, message)])
      h.submitted.length (more.map .inStore) h.mqtt.store
      (h.mqtt.publishMessage topic message env).2.store := by
    obtain ⟨hmore, hstore⟩ | ⟨hmore, hstore⟩ := hmore
    · rw [hmore, hstore]
      exact Numbers.moves_nil _
    · rw [hmore, hstore]
      exact Numbers.moves_mqttQueueMessage hn List.getElem?_concat_length env.malloc _
  obtain ⟨htracked, hkept⟩ := hmoves _ hhanded
  refine ⟨?_, fun hin hcount => ?_⟩
  · show Numbers.Tracked _ (h.step (.publishMessage topic message env)).numbers _
    rw [numbers_step_eq hactions]
    exact htracked
  · rw [numbers_step_eq hactions]
    exact hkept (horder hin hcount)

/-- Whether an event hands a message over directly. -/
theorem handsDirectly_or (h : MqttHistory) (e : MqttEvent) :
    (∃ topic message env, e = .publishMessage topic message env ∧ h.mqtt.HandsDirectly env)
      ∨ ∀ topic message env, e = .publishMessage topic message env
          → ¬ h.mqtt.HandsDirectly env := by
  by_cases hdirect : ∃ topic message env,
      e = .publishMessage topic message env ∧ h.mqtt.HandsDirectly env
  · exact .inl hdirect
  · exact .inr fun topic message env he hd => hdirect ⟨topic, message, env, he, hd⟩

/-- The numbers stay those of the messages stored, whatever happens. -/
theorem Sound.step (hs : h.Sound) (e : MqttEvent) : (h.step e).Sound := by
  obtain ⟨topic, message, env, rfl, hdirect⟩ | hnot := h.handsDirectly_or e
  · exact (hs.step_of_handsDirectly topic message hdirect).1
  · obtain ⟨htracked, hmoves⟩ := moves_handle hs e hnot
    exact (hmoves _ htracked).1

/-- **The step lemma**: a step from an ordered state leads to an ordered one exactly
when no message handed over directly overtakes one in the store. -/
theorem Sound.ordered_step_iff (hs : h.Sound) (ho : h.Ordered) (e : MqttEvent) :
    (h.step e).Ordered ↔ h.NoOvertaking e := by
  have hin := hs.ordered_iff.mp ho
  obtain ⟨topic, message, env, rfl, hdirect⟩ | hnot := h.handsDirectly_or e
  · refine ⟨fun hordered _ => ?_, fun hno => ?_⟩
    · by_contra hcount
      obtain ⟨hhanded, hqueued⟩ := numbers_step_of_handsDirectly topic message hdirect
      obtain ⟨j, hj, hlt⟩ := hs.exists_queued hcount
      have hle := hordered.queued h.submitted.length
        (hhanded ▸ List.mem_append_right _ List.mem_cons_self) j (hqueued j hj)
      exact absurd hlt (Nat.not_lt.mpr hle)
    · obtain ⟨hsound, horder⟩ := hs.step_of_handsDirectly topic message hdirect
      exact hsound.ordered_iff.mpr (horder hin (hno hdirect))
  · have hno : h.NoOvertaking e := by
      cases e with
      | publishMessage topic message env =>
        exact fun hdirect => absurd hdirect (hnot topic message env rfl)
      | connectionLost => trivial
      | reconnect env => trivial
      | healthCheck env published => trivial
    refine iff_of_true ?_ hno
    obtain ⟨htracked, hmoves⟩ := moves_handle hs e hnot
    exact (hs.step e).ordered_iff.mpr ((hmoves _ htracked).2 hin)

/-- Starting up does nothing to the empty store. -/
theorem store_start (enabled : Bool) (pubTopic : List UInt8) (env : ConnectAttempt) :
    (start enabled pubTopic env).mqtt.store = MqttStore.init := by
  unfold start Mqtt.startup Mqtt.initAndConnect
  cases enabled with
  | false => rfl
  | true => cases hcreate : env.create <;> cases hconnect : env.connect <;> rfl

theorem sound_start (enabled : Bool) (pubTopic : List UInt8) (env : ConnectAttempt) :
    (start enabled pubTopic env).Sound := by
  unfold Sound
  rw [store_start]
  exact ⟨MqttStore.valid_init, rfl, List.forall_mem_nil _, List.Pairwise.nil⟩

/-- **Messages reach the client in the order of their submission exactly while no
message handed over directly overtakes one in the store.** -/
theorem ordered_iff_noOvertaking (enabled : Bool) (pubTopic : List UInt8)
    (env : ConnectAttempt) (es : List MqttEvent) :
    Run.Always step Ordered (start enabled pubTopic env) es
      ↔ Run.Guarded step NoOvertaking (start enabled pubTopic env) es := by
  have hstart : (start enabled pubTopic env).Ordered :=
    ⟨List.Pairwise.nil, List.forall_mem_nil _⟩
  refine Run.always_iff_guarded (P := fun h : MqttHistory => h.Sound ∧ h.Ordered)
    (fun _ h => h.2)
    (fun _ e h => h.1.ordered_step_iff h.2 e) (fun _ e h hok => ⟨h.1.step e, ?_⟩)
    ⟨sound_start enabled pubTopic env, hstart⟩
  exact (h.1.ordered_step_iff h.2 e).mpr hok

/-- **Nothing overtakes unless a queued message is not accepted.** In a run whose client
accepts every queued message it is given, messages are in order. -/
theorem ordered_of_accepting (enabled : Bool) (pubTopic : List UInt8) (env : ConnectAttempt)
    (es : List MqttEvent) (hes : ∀ e ∈ es, e.Accepting) :
    Run.Always step Ordered (start enabled pubTopic env) es := by
  refine (ordered_iff_noOvertaking enabled pubTopic env es).mpr ?_
  refine Run.guarded_of_invariant (P := fun h : MqttHistory => h.mqtt.Drained)
    (Q := MqttEvent.Accepting) (fun h e hd _ => ?_) (fun h e hd he => hd.step he) ?_ hes
  · cases e with
    | publishMessage topic message env => exact fun hdirect => hd hdirect.2.1
    | connectionLost => trivial
    | reconnect env => trivial
    | healthCheck env published => trivial
  · intro _
    have hstore : (start enabled pubTopic env).mqtt.store = MqttStore.init :=
      store_start enabled pubTopic env
    show (start enabled pubTopic env).mqtt.store.count = 0
    rw [hstore]
    rfl

/-- The attempts of the run below: one too soon after the last, and one that connects to
a client that refuses the first message of each round. -/
def refusingAttempt (now : ℤ) : ReconnectAttempt where
  create := true
  connect := true
  outcome := fun _ => .refused
  now := now
  again := fun _ => .refused

/-- The connection is lost, and three messages are stored. After the reconnection the
client refuses the first two, and the third stays. The fourth is handed over
directly. -/
def overtakingRun : List MqttEvent :=
  let publish := fun byte => MqttEvent.publishMessage none [byte]
    ⟨true, true, true, refusingAttempt 0⟩
  [.connectionLost, publish 0x61, publish 0x62, publish 0x63, .reconnect (refusingAttempt 10),
    publish 0x64]

/-- No message is pushed out of a full store, and yet the fourth message overtakes the
third. -/
theorem not_ordered_of_refused :
    ¬ ∀ es, Run.Guarded step NoEviction (start true [0x74] (refusingAttempt 0).toConnectAttempt) es
      → Run.Always step Ordered (start true [0x74] (refusingAttempt 0).toConnectAttempt) es := by
  intro h
  have hordered := Run.always_iff.mp (h overtakingRun (by decide)) overtakingRun []
    (List.append_nil _).symm
  exact absurd (hordered.queued 3 (by decide) 2 (by decide)) (by decide)

end MqttHistory
