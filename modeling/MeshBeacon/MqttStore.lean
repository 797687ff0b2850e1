import MeshBeacon.RingBuffer
import MeshBeacon.Run

/-!
# The store of unsent MQTT messages

Messages that cannot be published are kept in a ring of `MQTT_QUEUE_SIZE`
slots. Two functions use it: `mqtt_queue_message` puts a message in, dropping the
oldest when the ring is full, and `mqtt_publish_queued_messages` takes messages
out one by one and hands each to the MQTT client.

The second takes a message out of the ring – frees it and moves the tail –
*before* it knows whether the client accepts it, and goes back to the caller when
the client does not. The message is then in neither place. The results below say
what the two functions keep whatever the client does, and what they keep only
when it accepts everything: `StoreHistory.kept_iff`.
-/

/-- `MQTT_QUEUE_SIZE`. -/
abbrev mqttQueueSize : ℕ := 100

/-- The size of the array a topic is kept in. -/
def mqttTopicSize : ℕ := 128

/-- `mqtt_queued_message_t`. The topic is a string, given by its bytes; the message
is a block of memory, or `NULL`. -/
structure MqttQueuedMessage where
  topic : List UInt8
  message : Option (List UInt8)
  length : ℕ
deriving DecidableEq

namespace MqttQueuedMessage

/-- What `mqtt_queue_message` makes of a topic and a message: as much of the topic
as the array has room for, and a copy of the message. -/
def ofPublish (topic message : List UInt8) : MqttQueuedMessage :=
  ⟨topic.take (mqttTopicSize - 1), some message, message.length⟩

/-- The slot holds a message, and its length is that of the message. -/
def Holds (m : MqttQueuedMessage) : Prop := ∃ bytes ∈ m.message, m.length = bytes.length

theorem holds_ofPublish (topic message : List UInt8) : (ofPublish topic message).Holds :=
  ⟨message, rfl, rfl⟩

end MqttQueuedMessage

/-- `mqtt_message_queue` with `mqtt_queue_head`, `mqtt_queue_tail` and
`mqtt_queue_count`. -/
abbrev MqttStore := RingBuffer mqttQueueSize MqttQueuedMessage

/-- The store at startup: static memory, all zero. -/
def MqttStore.init : MqttStore := RingBuffer.empty mqttQueueSize ⟨[], none, 0⟩

/-! ## Putting a message in -/

/-- What happens to a message in the store. -/
inductive StoreAction
  /-- The oldest message is dropped, and the message it made room for is `stored`
  or not. -/
  | evict (m : MqttQueuedMessage) (stored : Bool)
  /-- A message is put in. -/
  | store (m : MqttQueuedMessage)
  /-- A message is taken out, cannot be copied, and is dropped. -/
  | lose (m : MqttQueuedMessage)
  /-- A message is taken out, and the client refuses it. -/
  | refuse (m : MqttQueuedMessage)
  /-- A message is taken out and handed to the client. -/
  | publish (m : MqttQueuedMessage)
deriving DecidableEq

/-- Drop the oldest message: free it and move the tail. -/
def MqttStore.dropOldest (q : MqttStore) : MqttStore :=
  (q.setTail { q.slots q.tail with message := none }).advanceTail

/-- The first half of `mqtt_queue_message`: a full store makes room. -/
def MqttStore.makeRoom (q : MqttStore) : MqttStore :=
  if q.count ≥ mqttQueueSize then q.dropOldest else q

/-- `mqtt_queue_message`: the code returned and the store. `malloc` is whether there
is memory for the copy of the message; when there is none the topic has been
written all the same, into a slot that does not count. -/
def mqttQueueMessage (topic message : List UInt8) (malloc : Bool) (q : MqttStore) :
    ℤ × MqttStore :=
  let room := q.makeRoom
  let slot := { room.slots room.head with topic := topic.take (mqttTopicSize - 1) }
  if malloc then
    (0, (room.setHead
      { slot with message := some message, length := message.length }).advanceHead)
  else (-1, room.setHead { slot with message := none })

/-- What a call of `mqtt_queue_message` does to the messages in the store. -/
def queueActions (topic message : List UInt8) (malloc : Bool) (q : MqttStore) :
    List StoreAction :=
  (if q.count ≥ mqttQueueSize then [.evict (q.slots q.tail) malloc] else [])
    ++ (if malloc then [.store (.ofPublish topic message)] else [])

/-! ## Publishing what is stored -/

/-- What becomes of a message `mqtt_publish_queued_messages` takes out. -/
inductive QueuedPublish
  /-- One of the two copies cannot be made. -/
  | noMemory
  /-- `MQTTClient_publishMessage` returns an error. -/
  | refused
  | published
deriving DecidableEq

/-- The action of taking a message out that becomes `outcome`. -/
def QueuedPublish.action (m : MqttQueuedMessage) : QueuedPublish → StoreAction
  | noMemory => .lose m
  | refused => .refuse m
  | published => .publish m

/-- The loop of `mqtt_publish_queued_messages`, for at most `fuel` turns: what
happens to the messages and the store. The outcomes are those of its turns. -/
def publishLoop : ℕ → (ℕ → QueuedPublish) → MqttStore → List StoreAction × MqttStore
  | 0, _, q => ([], q)
  | fuel + 1, outcome, q =>
    if q.count = 0 then ([], q)
    else
      let msg := q.slots q.tail
      -- the message is freed and the tail moved before anything is published
      let q := q.dropOldest
      match outcome 0 with
      | .noMemory =>
        let (actions, q) := publishLoop fuel (fun i => outcome (i + 1)) q
        (.lose msg :: actions, q)
      | .refused => ([.refuse msg], q)
      | .published =>
        let (actions, q) := publishLoop fuel (fun i => outcome (i + 1)) q
        (.publish msg :: actions, q)

/-- `mqtt_publish_queued_messages`. Every turn takes a message out, so the loop ends
within as many turns as there are messages: `mqttPublishQueuedMessages_eq`. -/
def mqttPublishQueuedMessages (outcome : ℕ → QueuedPublish) (q : MqttStore) :
    List StoreAction × MqttStore :=
  publishLoop q.count outcome q

/-! ## What enters the store and what leaves it -/

namespace StoreAction

/-- The message an action puts into the store. -/
def entered : StoreAction → Option MqttQueuedMessage
  | store m => some m
  | _ => none

/-- The message an action takes out of the store. -/
def left : StoreAction → Option MqttQueuedMessage
  | evict m _ => some m
  | store _ => none
  | lose m => some m
  | refuse m => some m
  | publish m => some m

/-- A message may leave because it has been published, or as the oldest one when
another has been queued into a full store. -/
def Allowed : StoreAction → Prop
  | evict _ stored => stored
  | store _ => True
  | lose _ => False
  | refuse _ => False
  | publish _ => True

/-- What is in the store, and then enters it, is what leaves it, and then is in
it – in this order. -/
def Conserves (actions : List StoreAction) (q q' : MqttStore) : Prop :=
  q.live ++ actions.filterMap entered = actions.filterMap left ++ q'.live

theorem Conserves.append {actions more : List StoreAction} {q q' q'' : MqttStore}
    (h : Conserves actions q q') (h' : Conserves more q' q'') :
    Conserves (actions ++ more) q q'' := by
  unfold Conserves at *
  rw [List.filterMap_append, List.filterMap_append, ← List.append_assoc, h, List.append_assoc, h',
    List.append_assoc]

end StoreAction

/-- The store is well formed: the ring invariant, and every slot that counts holds
its message and length. -/
structure MqttStore.Valid (q : MqttStore) : Prop where
  ring : q.Wf
  holds : ∀ m ∈ q.live, m.Holds

theorem MqttStore.valid_init : MqttStore.init.Valid where
  ring := RingBuffer.wf_empty _
  holds := fun _ hm => absurd hm List.not_mem_nil

namespace MqttStore

variable {q : MqttStore}

@[simp] theorem count_dropOldest (q : MqttStore) : q.dropOldest.count = q.count - 1 := rfl

/-- Dropping the oldest message leaves the others. -/
theorem Valid.live_eq (h : q.Valid) (hpos : 0 < q.count) :
    q.live = q.slots q.tail :: q.dropOldest.live :=
  RingBuffer.live_drop h.ring hpos _

theorem Valid.dropOldest (h : q.Valid) (hpos : 0 < q.count) : q.dropOldest.Valid where
  ring := (h.ring.setTail _).advanceTail hpos
  holds := fun m hm => h.holds m (by
    rw [h.live_eq hpos]
    exact List.mem_cons_of_mem _ hm)

theorem Valid.makeRoom (h : q.Valid) : q.makeRoom.Valid ∧ q.makeRoom.count < mqttQueueSize := by
  unfold MqttStore.makeRoom
  have hle : q.count ≤ mqttQueueSize := h.ring.count_le
  by_cases hfull : q.count ≥ mqttQueueSize
  · rw [if_pos hfull]
    have hpos : 0 < q.count := Nat.lt_of_lt_of_le (by decide) hfull
    refine ⟨h.dropOldest hpos, ?_⟩
    rw [count_dropOldest]
    exact Nat.lt_of_lt_of_le (Nat.sub_lt hpos Nat.one_pos) hle
  · rw [if_neg hfull]
    exact ⟨h, Nat.lt_of_not_ge hfull⟩

/-- What making room takes out, and what it leaves. -/
theorem Valid.conserves_makeRoom (h : q.Valid) (stored : Bool) :
    StoreAction.Conserves
      (if q.count ≥ mqttQueueSize then [.evict (q.slots q.tail) stored] else []) q q.makeRoom := by
  unfold StoreAction.Conserves MqttStore.makeRoom
  by_cases hfull : q.count ≥ mqttQueueSize
  · rw [if_pos hfull, if_pos hfull, h.live_eq (Nat.lt_of_lt_of_le (by decide) hfull)]
    exact List.append_nil _
  · rw [if_neg hfull, if_neg hfull]
    exact List.append_nil _

/-- What the second half of `mqtt_queue_message` leaves in a store with room. -/
theorem Valid.live_mqttQueueMessage (h : q.Valid) (topic message : List UInt8) (malloc : Bool) :
    (mqttQueueMessage topic message malloc q).2.live
      = q.makeRoom.live ++ (if malloc then [.ofPublish topic message] else []) := by
  obtain ⟨hroom, hlt⟩ := h.makeRoom
  cases malloc with
  | true => exact RingBuffer.live_push hroom.ring hlt _
  | false => exact (RingBuffer.live_setHead hroom.ring hlt _).trans (List.append_nil _).symm

theorem Valid.queueMessage (h : q.Valid) (topic message : List UInt8) (malloc : Bool) :
    (mqttQueueMessage topic message malloc q).2.Valid where
  ring := by
    obtain ⟨hroom, hlt⟩ := h.makeRoom
    cases malloc with
    | true => exact (hroom.ring.setHead _).advanceHead hlt
    | false => exact hroom.ring.setHead _
  holds := by
    rw [h.live_mqttQueueMessage]
    intro m hm
    obtain hm | hm := List.mem_append.mp hm
    · exact h.makeRoom.1.holds m hm
    · cases malloc with
      | true =>
        rw [List.mem_singleton.mp hm]
        exact MqttQueuedMessage.holds_ofPublish topic message
      | false => exact absurd hm List.not_mem_nil

/-- **A call of `mqtt_queue_message` conserves messages**: what leaves is the oldest
one of a full store, what enters is the new one. -/
theorem Valid.conserves_mqttQueueMessage (h : q.Valid) (topic message : List UInt8)
    (malloc : Bool) :
    StoreAction.Conserves (queueActions topic message malloc q) q
      (mqttQueueMessage topic message malloc q).2 := by
  have hroom := h.conserves_makeRoom malloc
  unfold StoreAction.Conserves queueActions at *
  rw [h.live_mqttQueueMessage]
  cases malloc with
  | true =>
    rw [if_pos rfl, List.filterMap_append, List.filterMap_append, ← List.append_assoc, hroom,
      List.append_assoc]
    simp [StoreAction.entered, StoreAction.left]
  | false =>
    rw [if_neg Bool.false_ne_true, if_neg Bool.false_ne_true, List.append_nil, List.append_nil]
    exact hroom

/-! ## The publishing loop -/

/-- **The loop turn by turn**: an empty store ends it, and so does a message the
client refuses; any other turn is followed by the same loop. -/
theorem mqttPublishQueuedMessages_eq (outcome : ℕ → QueuedPublish) (q : MqttStore) :
    mqttPublishQueuedMessages outcome q
      = if q.count = 0 then ([], q)
        else if outcome 0 = .refused then ([.refuse (q.slots q.tail)], q.dropOldest)
        else
          let next := mqttPublishQueuedMessages (fun i => outcome (i + 1)) q.dropOldest
          ((outcome 0).action (q.slots q.tail) :: next.1, next.2) := by
  unfold mqttPublishQueuedMessages
  rw [count_dropOldest]
  cases hcount : q.count with
  | zero =>
    rw [if_pos rfl]
    rfl
  | succ k =>
    rw [if_neg (Nat.succ_ne_zero k), publishLoop, if_neg (hcount ▸ Nat.succ_ne_zero k),
      Nat.succ_sub_one]
    cases outcome 0 with
    | noMemory => rfl
    | refused => rfl
    | published => rfl

/-- The induction on the turns of the publishing loop. -/
theorem publishInduction {P : (ℕ → QueuedPublish) → MqttStore → Prop}
    (hzero : ∀ outcome q, q.count = 0 → P outcome q)
    (hsucc : ∀ outcome q, 0 < q.count → P (fun i => outcome (i + 1)) q.dropOldest → P outcome q)
    (outcome : ℕ → QueuedPublish) (q : MqttStore) : P outcome q := by
  induction hcount : q.count generalizing outcome q with
  | zero => exact hzero outcome q hcount
  | succ k ih =>
    have hpos : 0 < q.count := hcount ▸ Nat.succ_pos k
    refine hsucc outcome q hpos (ih _ _ ?_)
    rw [count_dropOldest, hcount, Nat.succ_sub_one]

/-- **Publishing conserves messages**, and keeps the store well formed. -/
theorem Valid.publishQueuedMessages (outcome : ℕ → QueuedPublish) (q : MqttStore) :
    q.Valid → (mqttPublishQueuedMessages outcome q).2.Valid
      ∧ StoreAction.Conserves (mqttPublishQueuedMessages outcome q).1 q
          (mqttPublishQueuedMessages outcome q).2 := by
  refine publishInduction (P := fun outcome q =>
    q.Valid → (mqttPublishQueuedMessages outcome q).2.Valid
      ∧ StoreAction.Conserves (mqttPublishQueuedMessages outcome q).1 q
          (mqttPublishQueuedMessages outcome q).2) ?_ ?_ outcome q
  · intro outcome q hcount h
    rw [mqttPublishQueuedMessages_eq, if_pos hcount]
    exact ⟨h, List.append_nil _⟩
  · intro outcome q hpos ih h
    rw [mqttPublishQueuedMessages_eq, if_neg (Nat.ne_of_gt hpos)]
    by_cases hrefused : outcome 0 = .refused
    · rw [if_pos hrefused]
      exact ⟨h.dropOldest hpos, (List.append_nil _).trans (h.live_eq hpos)⟩
    · rw [if_neg hrefused]
      obtain ⟨hvalid, hconserves⟩ := ih (h.dropOldest hpos)
      refine ⟨hvalid, ?_⟩
      have hfirst : StoreAction.Conserves [(outcome 0).action (q.slots q.tail)] q q.dropOldest := by
        unfold StoreAction.Conserves
        rw [h.live_eq hpos]
        cases outcome 0 with
        | noMemory => exact List.append_nil _
        | refused => exact List.append_nil _
        | published => exact List.append_nil _
      exact hfirst.append hconserves

/-- **Every message leaves the store by being published exactly when every publish
succeeds.** -/
theorem publish_allowed_iff (outcome : ℕ → QueuedPublish) (q : MqttStore) :
    (∀ a ∈ (mqttPublishQueuedMessages outcome q).1, a.Allowed)
      ↔ ∀ i < q.count, outcome i = .published := by
  refine publishInduction (P := fun outcome q =>
    (∀ a ∈ (mqttPublishQueuedMessages outcome q).1, a.Allowed)
      ↔ ∀ i < q.count, outcome i = .published) ?_ ?_ outcome q
  · intro outcome q hcount
    rw [mqttPublishQueuedMessages_eq, if_pos hcount, hcount]
    exact ⟨fun _ i hi => absurd hi (Nat.not_lt_zero i), fun _ => List.forall_mem_nil _⟩
  · intro outcome q hpos ih
    -- the first outcome is that of the oldest message, the others those of what is left
    have hsplit : (∀ i < q.count, outcome i = .published)
        ↔ outcome 0 = .published ∧ ∀ i < q.dropOldest.count, outcome (i + 1) = .published := by
      rw [count_dropOldest]
      refine ⟨fun h => ⟨h 0 hpos, fun i hi => h (i + 1) (Nat.lt_sub_iff_add_lt.mp hi)⟩, ?_⟩
      rintro ⟨hfirst, hrest⟩ i hi
      cases i with
      | zero => exact hfirst
      | succ i => exact hrest i (Nat.lt_sub_iff_add_lt.mpr hi)
    rw [hsplit, ← ih, mqttPublishQueuedMessages_eq outcome, if_neg (Nat.ne_of_gt hpos)]
    cases houtcome : outcome 0 with
    | noMemory =>
      rw [if_neg (by simp)]
      simp [QueuedPublish.action, StoreAction.Allowed]
    | refused =>
      rw [if_pos rfl]
      simp [StoreAction.Allowed]
    | published =>
      rw [if_neg (by simp)]
      simp [QueuedPublish.action, StoreAction.Allowed]

/-- When every publish succeeds the store is empty afterwards. -/
theorem count_publish_of_published (outcome : ℕ → QueuedPublish) (q : MqttStore)
    (houtcome : ∀ i, outcome i = .published) :
    (mqttPublishQueuedMessages outcome q).2.count = 0 := by
  revert houtcome
  refine publishInduction (P := fun outcome q => (∀ i, outcome i = .published) →
    (mqttPublishQueuedMessages outcome q).2.count = 0) ?_ ?_ outcome q
  · intro outcome q hcount _
    rw [mqttPublishQueuedMessages_eq, if_pos hcount]
    exact hcount
  · intro outcome q hpos ih houtcome
    rw [mqttPublishQueuedMessages_eq, if_neg (Nat.ne_of_gt hpos), if_neg]
    · exact ih fun i => houtcome (i + 1)
    · rw [houtcome 0]
      simp

end MqttStore

/-! ## Runs -/

/-- A call of one of the two functions, and what the system answers in it. -/
inductive StoreCall
  | queueMessage (topic message : List UInt8) (malloc : Bool)
  | publishQueuedMessages (outcome : ℕ → QueuedPublish)

/-- The store, and what has happened to the messages in it. -/
structure StoreHistory where
  store : MqttStore
  actions : List StoreAction

namespace StoreHistory

/-- The history at startup. -/
def init : StoreHistory := ⟨MqttStore.init, []⟩

/-- What a call does to the messages. -/
def callActions (q : MqttStore) : StoreCall → List StoreAction
  | .queueMessage topic message malloc => queueActions topic message malloc q
  | .publishQueuedMessages outcome => (mqttPublishQueuedMessages outcome q).1

/-- The store after a call. -/
def callStore (q : MqttStore) : StoreCall → MqttStore
  | .queueMessage topic message malloc => (mqttQueueMessage topic message malloc q).2
  | .publishQueuedMessages outcome => (mqttPublishQueuedMessages outcome q).2

/-- One call, and what it does put into the record. -/
def step (h : StoreHistory) (call : StoreCall) : StoreHistory :=
  ⟨callStore h.store call, h.actions ++ callActions h.store call⟩

/-- What is asked of the store: the ring invariant; every live slot holds its message
and length; messages leave in the order they came in; and they leave only as they
are allowed to. -/
structure Contract (h : StoreHistory) : Prop where
  ring : h.store.Wf
  holds : ∀ m ∈ h.store.live, m.Holds
  fifo : h.actions.filterMap StoreAction.entered
    = h.actions.filterMap StoreAction.left ++ h.store.live
  kept : ∀ a ∈ h.actions, a.Allowed

/-- What the store keeps in any case. -/
structure Sound (h : StoreHistory) : Prop where
  valid : h.store.Valid
  fifo : StoreAction.Conserves h.actions MqttStore.init h.store

/-- The call meets no failure that costs a message: no publish of a queued message
fails, for want of memory or by the client, and no message pushed out makes room for
one that then cannot be stored. -/
def Lossless (h : StoreHistory) : StoreCall → Prop
  | .queueMessage _ _ malloc => malloc = true ∨ h.store.count < mqttQueueSize
  | .publishQueuedMessages outcome => ∀ i < h.store.count, outcome i = .published

theorem sound_init : init.Sound := ⟨MqttStore.valid_init, rfl⟩

/-- The step lemma: what the store keeps in any case. -/
theorem Sound.step {h : StoreHistory} (hs : h.Sound) (call : StoreCall) : (h.step call).Sound := by
  cases call with
  | queueMessage topic message malloc =>
    exact ⟨hs.valid.queueMessage topic message malloc,
      hs.fifo.append (hs.valid.conserves_mqttQueueMessage topic message malloc)⟩
  | publishQueuedMessages outcome =>
    obtain ⟨hvalid, hconserves⟩ := MqttStore.Valid.publishQueuedMessages outcome h.store hs.valid
    exact ⟨hvalid, hs.fifo.append hconserves⟩

/-- A call takes messages out only as it is allowed to exactly when it is lossless. -/
theorem allowed_callActions_iff (h : StoreHistory) (call : StoreCall) :
    (∀ a ∈ callActions h.store call, a.Allowed) ↔ h.Lossless call := by
  cases call with
  | queueMessage topic message malloc =>
    show (∀ a ∈ queueActions topic message malloc h.store, a.Allowed)
      ↔ malloc = true ∨ h.store.count < mqttQueueSize
    unfold queueActions
    by_cases hfull : h.store.count ≥ mqttQueueSize
    · cases malloc <;> simp [hfull, Nat.not_lt.mpr hfull, StoreAction.Allowed]
    · cases malloc <;> simp [hfull, Nat.lt_of_not_ge hfull, StoreAction.Allowed]
  | publishQueuedMessages outcome => exact MqttStore.publish_allowed_iff outcome h.store

/-- **A run takes messages out only as it is allowed to exactly when all its calls are
lossless.** -/
theorem kept_iff {h : StoreHistory} (calls : List StoreCall) :
    (∀ a ∈ (Run.final step h calls).actions, a.Allowed)
      ↔ (∀ a ∈ h.actions, a.Allowed) ∧ Run.Guarded step Lossless h calls := by
  refine Run.final_iff_guarded (I := fun _ => True)
    (P := fun h : StoreHistory => ∀ a ∈ h.actions, a.Allowed)
    (fun _ _ _ => trivial) ?_ trivial
  intro h call _
  rw [← allowed_callActions_iff]
  exact List.forall_mem_append

/-- **The store meets its contract exactly while no failure costs a message.** The ring
invariant, the contents of the slots and the order hold in every run. -/
theorem contract_iff_lossless (calls : List StoreCall) :
    (Run.final step init calls).Contract ↔ Run.Guarded step Lossless init calls := by
  have hsound : (Run.final step init calls).Sound :=
    Run.invariant (P := Sound) (fun _ call hs => hs.step call) calls sound_init
  have hkept := kept_iff (h := init) calls
  refine ⟨fun h => (hkept.mp h.kept).2, fun h => ?_⟩
  refine ⟨hsound.valid.ring, hsound.valid.holds, ?_, hkept.mpr ⟨List.forall_mem_nil _, h⟩⟩
  have hfifo := hsound.fifo
  unfold StoreAction.Conserves at hfifo
  exact hfifo

/-- A message is queued, and the client refuses it when the store is published: it is
in the store no longer. -/
theorem not_contract_of_refused :
    ¬ ∀ calls, (Run.final step init calls).Contract := by
  intro h
  have hkept :=
    (h [.queueMessage [0x74] [0x6d] true, .publishQueuedMessages fun _ => .refused]).kept
  exact hkept (.refuse (.ofPublish [0x74] [0x6d])) (by decide)

end StoreHistory
