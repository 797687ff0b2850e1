import MeshBeacon.MqttOrder
import Mathlib.Data.List.Perm.Basic
import Mathlib.Data.List.Range

/-!
# The books of the MQTT client

Every call of `mqtt_publish_message` submits a message, and so does every response
that goes straight to `mqtt_queue_message`. The message comes to something: the client
accepts it, at once or from the store, or it is still stored, or it is gone without
having been accepted. The books say which, by the number of the submission. A message the client accepts but does not confirm in time is stored
all the same, and may be accepted again; these are noted beside the books.

What the functions do to messages is said once: a submission hands the message over,
or puts it into the store, or drops it, and everything after that only publishes
what is stored (`Mqtt.Drains`).
-/

/-! ## Rounds of publishing -/

namespace Mqtt

/-- The actions are those of rounds of `mqtt_publish_queued_messages`. -/
inductive Drains : List MqttAction → MqttStore → MqttStore → Prop
  | nil (q : MqttStore) : Drains [] q q
  | round (outcome : ℕ → QueuedPublish) {actions : List MqttAction} {q q' : MqttStore} :
    Drains actions (mqttPublishQueuedMessages outcome q).2 q' →
    Drains ((mqttPublishQueuedMessages outcome q).1.map .inStore ++ actions) q q'

theorem Drains.append {actions more : List MqttAction} {q q' q'' : MqttStore}
    (h : Drains actions q q') (h' : Drains more q' q'') : Drains (actions ++ more) q q'' := by
  induction h with
  | nil => exact h'
  | round outcome _ ih =>
    rw [List.append_assoc]
    exact .round outcome (ih h')

theorem drains_publishQueued (outcome : ℕ → QueuedPublish) (m : Mqtt) :
    Drains (m.publishQueued outcome).1 m.store (m.publishQueued outcome).2.store := by
  unfold publishQueued
  by_cases hcount : m.store.count > 0
  · rw [if_pos hcount]
    have hround := Drains.round outcome (.nil (mqttPublishQueuedMessages outcome m.store).2)
    rwa [List.append_nil] at hround
  · rw [if_neg hcount]
    exact .nil m.store

theorem drains_initAndConnect (env : ConnectAttempt) (m : Mqtt) :
    Drains (m.initAndConnect env).2.1 m.store (m.initAndConnect env).2.2.store := by
  unfold initAndConnect
  rw [← store_cleanUp m]
  cases m.enabled with
  | false =>
    rw [store_cleanUp]
    exact .nil m.store
  | true =>
    cases env.create with
    | false => exact .nil _
    | true =>
      cases env.connect with
      | false => exact .nil _
      | true => exact drains_publishQueued env.outcome _

theorem drains_reconnectWithBackoff (env : ReconnectAttempt) (m : Mqtt) :
    Drains (m.reconnectWithBackoff env).2.1 m.store (m.reconnectWithBackoff env).2.2.store := by
  unfold reconnectWithBackoff
  by_cases hsoon : env.now - m.lastReconnectAttempt < m.reconnectDelay
  · rw [if_pos hsoon]
    exact .nil m.store
  · rw [if_neg hsoon]
    have hinit : Drains _ m.store _ := drains_initAndConnect env.toConnectAttempt
      { m with lastReconnectAttempt := env.now }
    generalize ({ m with lastReconnectAttempt := env.now }).initAndConnect env.toConnectAttempt
      = attempt at hinit ⊢
    obtain ⟨result, actions, m'⟩ := attempt
    dsimp only
    split_ifs
    · exact hinit
    · exact hinit.append (drains_publishQueued env.again { m' with needsReconnect := false })

theorem drains_threadDuck (env : ReconnectAttempt) (published : ℕ → QueuedPublish) (m : Mqtt) :
    Drains (m.threadDuck env published).1 m.store (m.threadDuck env published).2.store := by
  unfold threadDuck
  dsimp only
  split_ifs
  · exact drains_reconnectWithBackoff env _
  · exact drains_publishQueued published _
  · exact .nil m.store
  · exact .nil m.store
  · exact .nil m.store

/-- The message is handed over past the store, and confirmed. -/
def ConfirmsAtOnce (m : Mqtt) (env : PublishAttempt) : Prop :=
  m.HandsDirectly env ∧ env.wait = true

instance (m : Mqtt) (env : PublishAttempt) : Decidable (m.ConfirmsAtOnce env) :=
  inferInstanceAs (Decidable (_ ∧ _))

/-- A message that is confirmed is handed over, and that is all. -/
theorem publishMessage_of_confirmsAtOnce (topic : Option (List UInt8)) (message : List UInt8)
    {env : PublishAttempt} {m : Mqtt} (h : m.ConfirmsAtOnce env) :
    m.publishMessage topic message env = ([.hand (m.topicOf topic) message], m) := by
  obtain ⟨⟨henabled, hcan, hpublish⟩, hwait⟩ := h
  unfold publishMessage
  rw [if_pos henabled, if_pos hcan, if_pos hpublish, if_pos hwait]

/-- **Any other message is queued**, after it has been handed over or not, and after it
there are rounds of publishing at most. -/
theorem publishMessage_of_not_confirmsAtOnce (topic : Option (List UInt8)) (message : List UInt8)
    {env : PublishAttempt} {m : Mqtt} (henabled : m.enabled = true)
    (h : ¬ m.ConfirmsAtOnce env) :
    ∃ more, (m.publishMessage topic message env).1
        = (if m.HandsDirectly env then [.hand (m.topicOf topic) message] else [])
          ++ ((queueActions (m.topicOf topic) message env.malloc m.store).map .inStore ++ more)
      ∧ Drains more (mqttQueueMessage (m.topicOf topic) message env.malloc m.store).2
          (m.publishMessage topic message env).2.store := by
  by_cases hdirect : m.HandsDirectly env
  · have hwait : env.wait = false := Bool.eq_false_iff.mpr fun hwait => h ⟨hdirect, hwait⟩
    obtain ⟨-, hcan, hpublish⟩ := hdirect
    unfold publishMessage
    rw [if_pos henabled, if_pos hcan, if_pos hpublish, if_neg (Bool.eq_false_iff.mp hwait),
      if_pos ⟨henabled, hcan, hpublish⟩]
    refine ⟨[], ?_, .nil _⟩
    rw [List.append_nil]
    rfl
  · simp only [if_neg hdirect, List.nil_append]
    unfold publishMessage
    rw [if_pos henabled]
    cases hcan : m.canPublish with
    | false => exact ⟨_, rfl, drains_reconnectWithBackoff env.reconnect _⟩
    | true =>
      cases hpublish : env.publish with
      | false => exact ⟨[], (List.append_nil _).symm, .nil _⟩
      | true => exact absurd ⟨henabled, hcan, hpublish⟩ hdirect

end Mqtt

/-! ## The books -/

/-- What a message has come to. -/
inductive MessageFate
  /-- The client has accepted it at once, and confirmed it. -/
  | confirmed
  /-- The client has accepted it from the store. -/
  | published
  /-- It was the oldest one in a full store. -/
  | evicted
  /-- The client has refused it, from the store. -/
  | refused
  /-- It was taken out of the store, and there was no memory to publish it. -/
  | lost
  /-- There was no memory to store it. -/
  | unstored
  /-- MQTT is disabled. -/
  | ignored
deriving DecidableEq

/-- The client has accepted it. -/
def MessageFate.accepted : MessageFate → Bool
  | confirmed => true
  | published => true
  | _ => false

/-- A message the client has accepted, and the number it was submitted under. -/
structure Handover where
  number : ℕ
  topic : List UInt8
  message : List UInt8
deriving DecidableEq

/-- Where the messages are. -/
structure MessageBooks where
  stored : List ℕ
  gone : List (ℕ × MessageFate)
  /-- Those handed over at once, not confirmed, and so queued as well. -/
  unconfirmed : List ℕ
  handovers : List Handover
deriving DecidableEq

namespace MessageBooks

/-- Nothing has been submitted. -/
def empty : MessageBooks := ⟨[], [], [], []⟩

/-- The oldest message stored is gone. -/
def takeOut (fate : MessageFate) (b : MessageBooks) : MessageBooks :=
  { b with
    stored := b.stored.tail
    gone := b.gone ++ (b.stored.take 1).map (·, fate) }

/-- The books follow an action; a message put in has number `n`. -/
def act (n : ℕ) (b : MessageBooks) : MqttAction → MessageBooks
  | .inStore (.evict _ _) => b.takeOut .evicted
  | .inStore (.store _) => { b with stored := b.stored ++ [n] }
  | .inStore (.lose _) => b.takeOut .lost
  | .inStore (.refuse _) => b.takeOut .refused
  | .inStore (.publish m) =>
    { b.takeOut .published with
      handovers := b.handovers ++ (b.stored.take 1).map (⟨·, m.topic, m.message.getD []⟩) }
  | .hand topic message => { b with handovers := b.handovers ++ [⟨n, topic, message⟩] }

/-- The books after some actions. -/
def after (n : ℕ) (b : MessageBooks) (actions : List MqttAction) : MessageBooks :=
  actions.foldl (act n) b

theorem after_append (n : ℕ) (b : MessageBooks) (actions more : List MqttAction) :
    b.after n (actions ++ more) = (b.after n actions).after n more :=
  List.foldl_append

/-- What a submission comes to without having been in the store. -/
def fateAtOnce (m : Mqtt) (env : PublishAttempt) : Option MessageFate :=
  if m.enabled then
    if m.ConfirmsAtOnce env then some .confirmed
    else if env.malloc then none
    else some .unstored
  else some .ignored

/-- A submission is noted. -/
def note (n : ℕ) (m : Mqtt) (env : PublishAttempt) (b : MessageBooks) : MessageBooks :=
  { b with
    gone := b.gone ++ (fateAtOnce m env).toList.map (n, ·)
    unconfirmed := b.unconfirmed
      ++ if m.HandsDirectly env ∧ ¬ m.ConfirmsAtOnce env then [n] else [] }

/-- A submission to the store alone is noted. -/
def noteQueued (n : ℕ) (malloc : Bool) (b : MessageBooks) : MessageBooks :=
  { b with gone := b.gone ++ if malloc then [] else [(n, .unstored)] }

end MessageBooks

/-- The client of the daemon with its books. -/
structure MqttAccount where
  mqtt : Mqtt
  /-- The topics and messages of the calls of `mqtt_publish_message` and of the responses
  queued, in order. -/
  submitted : List (List UInt8 × List UInt8)
  books : MessageBooks

namespace MqttAccount

/-- One event. -/
def step (account : MqttAccount) (e : MqttEvent) : MqttAccount :=
  let n := account.submitted.length
  match e with
  | .publishMessage topic message env =>
    { mqtt := account.mqtt.step e
      submitted := account.submitted ++ [(account.mqtt.topicOf topic, message)]
      books := (account.books.note n account.mqtt env).after n (account.mqtt.handle e).1 }
  | e =>
    { account with
      mqtt := account.mqtt.step e
      books := account.books.after n (account.mqtt.handle e).1 }

/-- `mqtt_message_arrived` queues its response: nothing is published from the callback. -/
def queueMessage (account : MqttAccount) (topic message : List UInt8) (malloc : Bool) :
    MqttAccount :=
  let n := account.submitted.length
  { mqtt := (account.mqtt.queueMessage topic message malloc).2
    submitted := account.submitted ++ [(topic, message)]
    books := (account.books.noteQueued n malloc).after n
      (account.mqtt.queueMessage topic message malloc).1 }

/-- The daemon has just started. -/
def start (enabled : Bool) (pubTopic : List UInt8) (env : ConnectAttempt) : MqttAccount where
  mqtt := ((Mqtt.init enabled pubTopic).startup env).2
  submitted := []
  books := .empty

end MqttAccount

/-! ## What the books keep -/

namespace Handover

/-- **It is a message that was submitted**: the text is, and the topic, but for its end
when it went through the store. -/
def Carries (submitted : List (List UInt8 × List UInt8)) (h : Handover) : Prop :=
  ∃ topic, submitted[h.number]? = some (topic, h.message)
    ∧ (h.topic = topic ∨ h.topic = topic.take (mqttTopicSize - 1))

theorem Carries.submit {submitted : List (List UInt8 × List UInt8)} {h : Handover}
    (hcarries : h.Carries submitted) (p : List UInt8 × List UInt8) :
    h.Carries (submitted ++ [p]) := by
  obtain ⟨topic, hnumber, htopic⟩ := hcarries
  obtain ⟨hlt, -⟩ := List.getElem?_eq_some_iff.mp hnumber
  exact ⟨topic, (List.getElem?_append_left hlt).trans hnumber, htopic⟩

end Handover

namespace MessageBooks

/-- **The books are right.** Some submissions are `pending`: they are neither stored nor
gone yet. -/
structure Kept (submitted : List (List UInt8 × List UInt8)) (pending : List ℕ)
    (b : MessageBooks) (q : MqttStore) : Prop where
  valid : q.Valid
  tracks : b.stored.map (Numbers.slotOf submitted) = q.live.map some
  /-- Each submission is in one place, or has one fate. -/
  balanced : (b.gone.map Prod.fst ++ b.stored ++ pending).Perm (List.range submitted.length)
  /-- What the client has accepted, it has accepted once, and once more if that was not
  confirmed. -/
  accepted : (b.handovers.map Handover.number).Perm
    ((b.gone.filter (·.2.accepted)).map Prod.fst ++ b.unconfirmed)
  carries : ∀ h ∈ b.handovers, h.Carries submitted

variable {submitted : List (List UInt8 × List UInt8)} {pending : List ℕ} {n : ℕ}
  {b : MessageBooks} {q q' : MqttStore}

theorem kept_empty : Kept [] [] empty MqttStore.init where
  valid := MqttStore.valid_init
  tracks := rfl
  balanced := List.Perm.refl _
  accepted := List.Perm.refl _
  carries _ hh := absurd hh List.not_mem_nil

namespace Kept

theorem lt_of_mem_stored (h : Kept submitted pending b q) {i : ℕ} (hi : i ∈ b.stored) :
    i < submitted.length := by
  have hmem := h.balanced.subset (List.mem_append_left _ (List.mem_append_right _ hi))
  exact List.mem_range.mp hmem

/-- **A submission is pending at first.** -/
theorem submit (h : Kept submitted [] b q) (p : List UInt8 × List UInt8) :
    Kept (submitted ++ [p]) [submitted.length] b q where
  valid := h.valid
  tracks := by
    rw [← h.tracks]
    refine List.map_congr_left fun i hi => ?_
    unfold Numbers.slotOf
    rw [List.getElem?_append_left (h.lt_of_mem_stored hi)]
  balanced := by
    have hbalanced := h.balanced
    rw [List.append_nil] at hbalanced
    rw [List.length_append, List.length_singleton, List.range_succ]
    exact hbalanced.append_right _
  accepted := h.accepted
  carries hand hhand := (h.carries hand hhand).submit p

/-- A submission that is not accepted is gone at once. -/
theorem drop (h : Kept submitted [n] b q) {fate : MessageFate} (hfate : fate.accepted = false) :
    Kept submitted [] { b with gone := b.gone ++ [(n, fate)] } q where
  valid := h.valid
  tracks := h.tracks
  balanced := by
    refine List.Perm.trans ?_ h.balanced
    dsimp only
    rw [List.map_append, List.append_nil, List.append_assoc, List.append_assoc]
    exact List.perm_append_comm.append_left _
  accepted := by
    dsimp only
    rw [List.filter_append, List.filter_singleton, hfate, cond_false, List.append_nil]
    exact h.accepted
  carries := h.carries

/-- **A submission is handed over and confirmed.** -/
theorem confirm (h : Kept submitted [n] b q) {topic message : List UInt8}
    (hlast : submitted[n]? = some (topic, message)) :
    Kept submitted [] { b with
      gone := b.gone ++ [(n, .confirmed)]
      handovers := b.handovers ++ [⟨n, topic, message⟩] } q where
  valid := h.valid
  tracks := h.tracks
  balanced := by
    refine List.Perm.trans ?_ h.balanced
    dsimp only
    rw [List.map_append, List.append_nil, List.append_assoc, List.append_assoc]
    exact List.perm_append_comm.append_left _
  accepted := by
    dsimp only
    rw [List.filter_append, List.map_append, List.map_append, List.append_assoc]
    refine (h.accepted.append_right _).trans ?_
    rw [List.append_assoc]
    exact List.perm_append_comm.append_left _
  carries hand hhand := by
    rcases List.mem_append.mp hhand with hold | hnew
    · exact h.carries hand hold
    · rw [List.mem_singleton.mp hnew]
      exact ⟨topic, hlast, .inl rfl⟩

/-- A submission is handed over, and not confirmed. -/
theorem handOver (h : Kept submitted pending b q) {topic message : List UInt8}
    (hlast : submitted[n]? = some (topic, message)) :
    Kept submitted pending { b with
      unconfirmed := b.unconfirmed ++ [n]
      handovers := b.handovers ++ [⟨n, topic, message⟩] } q where
  valid := h.valid
  tracks := h.tracks
  balanced := h.balanced
  accepted := by
    dsimp only
    rw [List.map_append, ← List.append_assoc]
    exact h.accepted.append_right _
  carries hand hhand := by
    rcases List.mem_append.mp hhand with hold | hnew
    · exact h.carries hand hold
    · rw [List.mem_singleton.mp hnew]
      exact ⟨topic, hlast, .inl rfl⟩

/-- **The oldest message stored** is that of the first number. -/
theorem exists_oldest (h : Kept submitted pending b q) (hpos : 0 < q.count) :
    ∃ i rest, b.stored = i :: rest ∧ Numbers.slotOf submitted i = some (q.slots q.tail)
      ∧ rest.map (Numbers.slotOf submitted) = q.dropOldest.live.map some := by
  have htracks := h.tracks
  rw [h.valid.live_eq hpos] at htracks
  cases hstored : b.stored with
  | nil =>
    rw [hstored] at htracks
    exact absurd htracks (List.cons_ne_nil _ _).symm
  | cons i rest =>
    rw [hstored, List.map_cons, List.map_cons] at htracks
    obtain ⟨hslot, hrest⟩ := List.cons_eq_cons.mp htracks
    exact ⟨i, rest, rfl, hslot, hrest⟩

theorem takeOut (h : Kept submitted pending b q) (hpos : 0 < q.count) {fate : MessageFate}
    (hfate : fate.accepted = false) : Kept submitted pending (b.takeOut fate) q.dropOldest := by
  obtain ⟨i, rest, hstored, -, hrest⟩ := h.exists_oldest hpos
  unfold MessageBooks.takeOut
  rw [hstored]
  refine ⟨h.valid.dropOldest hpos, hrest, ?_, ?_, h.carries⟩
  · refine List.Perm.trans ?_ h.balanced
    rw [hstored]
    show ((b.gone ++ [(i, fate)]).map Prod.fst ++ rest ++ pending).Perm _
    rw [List.map_append, List.append_assoc (b.gone.map Prod.fst)]
    exact List.Perm.refl _
  · show (b.handovers.map Handover.number).Perm
      (((b.gone ++ [(i, fate)]).filter (·.2.accepted)).map Prod.fst ++ b.unconfirmed)
    rw [List.filter_append, List.filter_singleton, hfate, cond_false, List.append_nil]
    exact h.accepted

/-- **The oldest message stored is handed over**, as it was submitted. -/
theorem publish (h : Kept submitted pending b q) (hpos : 0 < q.count) :
    Kept submitted pending (b.act n (.inStore (.publish (q.slots q.tail)))) q.dropOldest := by
  obtain ⟨i, rest, hstored, hslot, hrest⟩ := h.exists_oldest hpos
  obtain ⟨⟨topic, message⟩, hnumber, hmessage⟩ := Option.map_eq_some_iff.mp hslot
  unfold MessageBooks.act MessageBooks.takeOut
  rw [hstored]
  refine ⟨h.valid.dropOldest hpos, hrest, ?_, ?_, fun hand hhand => ?_⟩
  · refine List.Perm.trans ?_ h.balanced
    rw [hstored]
    show ((b.gone ++ [(i, MessageFate.published)]).map Prod.fst ++ rest ++ pending).Perm _
    rw [List.map_append, List.append_assoc (b.gone.map Prod.fst)]
    exact List.Perm.refl _
  · show ((b.handovers ++ [_]).map Handover.number).Perm
      (((b.gone ++ [(i, MessageFate.published)]).filter
        fun p : ℕ × MessageFate => p.2.accepted).map Prod.fst
        ++ b.unconfirmed)
    rw [List.filter_append, List.map_append, List.map_append, List.append_assoc]
    refine (h.accepted.append_right _).trans ?_
    rw [List.append_assoc]
    exact List.perm_append_comm.append_left _
  · rcases List.mem_append.mp hhand with hold | hnew
    · exact h.carries hand hold
    · rw [List.mem_singleton.mp hnew, ← hmessage]
      exact ⟨topic, hnumber, .inr rfl⟩

theorem turn (h : Kept submitted pending b q) (hpos : 0 < q.count) (outcome : QueuedPublish) :
    Kept submitted pending (b.act n (.inStore (outcome.action (q.slots q.tail)))) q.dropOldest := by
  cases outcome with
  | noMemory => exact h.takeOut hpos rfl
  | refused => exact h.takeOut hpos rfl
  | published => exact h.publish hpos

/-- **A round of publishing keeps the books.** -/
theorem round (outcome : ℕ → QueuedPublish) (q : MqttStore) :
    ∀ b, Kept submitted pending b q →
      Kept submitted pending (b.after n ((mqttPublishQueuedMessages outcome q).1.map .inStore))
        (mqttPublishQueuedMessages outcome q).2 := by
  refine MqttStore.publishInduction (P := fun outcome q => ∀ b, Kept submitted pending b q →
    Kept submitted pending (b.after n ((mqttPublishQueuedMessages outcome q).1.map .inStore))
      (mqttPublishQueuedMessages outcome q).2) ?_ ?_ outcome q
  · intro outcome q hcount b h
    rw [MqttStore.mqttPublishQueuedMessages_eq, if_pos hcount]
    exact h
  · intro outcome q hpos ih b h
    rw [MqttStore.mqttPublishQueuedMessages_eq, if_neg (Nat.ne_of_gt hpos)]
    by_cases hrefused : outcome 0 = .refused
    · rw [if_pos hrefused]
      exact h.turn (n := n) hpos .refused
    · rw [if_neg hrefused]
      exact ih _ (h.turn hpos (outcome 0))

theorem drains {actions : List MqttAction} (hdrains : Mqtt.Drains actions q q') :
    ∀ {b}, Kept submitted pending b q → Kept submitted pending (b.after n actions) q' := by
  induction hdrains with
  | nil => exact id
  | round outcome _ ih =>
    intro b h
    rw [after_append]
    exact ih (round outcome _ b h)

theorem makeRoom (h : Kept submitted pending b q) (stored : Bool) :
    Kept submitted pending (b.after n
      ((if q.count ≥ mqttQueueSize then [.evict (q.slots q.tail) stored] else []).map .inStore))
      q.makeRoom := by
  unfold MqttStore.makeRoom
  by_cases hfull : q.count ≥ mqttQueueSize
  · rw [if_pos hfull, if_pos hfull]
    exact h.takeOut (Nat.lt_of_lt_of_le (by decide) hfull) rfl
  · rw [if_neg hfull, if_neg hfull]
    exact h

/-- **A submission is stored.** -/
theorem queue (h : Kept submitted [n] b q) {topic message : List UInt8}
    (hlast : submitted[n]? = some (topic, message)) :
    Kept submitted [] (b.after n ((queueActions topic message true q).map .inStore))
      (mqttQueueMessage topic message true q).2 := by
  have hroom := h.makeRoom (n := n) true
  have hlive := h.valid.live_mqttQueueMessage topic message true
  rw [if_pos rfl] at hlive
  unfold queueActions
  rw [List.map_append, after_append]
  generalize b.after n _ = b' at hroom ⊢
  refine ⟨h.valid.queueMessage topic message true, ?_, ?_, hroom.accepted, hroom.carries⟩
  · have hslot : Numbers.slotOf submitted n = some (.ofPublish topic message) := by
      rw [Numbers.slotOf, hlast]
      rfl
    show (b'.stored ++ [n]).map (Numbers.slotOf submitted) = _
    rw [hlive, List.map_append, List.map_append, hroom.tracks, List.map_singleton, hslot]
    rfl
  · show (b'.gone.map Prod.fst ++ (b'.stored ++ [n]) ++ []).Perm _
    rw [List.append_nil, ← List.append_assoc]
    exact hroom.balanced

theorem queueFails (h : Kept submitted pending b q) (topic message : List UInt8) :
    Kept submitted pending (b.after n ((queueActions topic message false q).map .inStore))
      (mqttQueueMessage topic message false q).2 := by
  have hroom := h.makeRoom (n := n) false
  have hlive := h.valid.live_mqttQueueMessage topic message false
  rw [if_neg Bool.false_ne_true, List.append_nil] at hlive
  unfold queueActions
  rw [if_neg Bool.false_ne_true, List.append_nil]
  exact ⟨h.valid.queueMessage topic message false, hroom.tracks.trans (congrArg _ hlive.symm),
    hroom.balanced, hroom.accepted, hroom.carries⟩

/-- **A submission goes to the store**, whether there is memory for it or not. -/
theorem queueMessage (h : Kept submitted [n] b q) {topic message : List UInt8}
    (hlast : submitted[n]? = some (topic, message)) (malloc : Bool) :
    Kept submitted [] ((b.noteQueued n malloc).after n
        ((queueActions topic message malloc q).map .inStore))
      (mqttQueueMessage topic message malloc q).2 := by
  unfold noteQueued
  cases malloc with
  | false => exact (h.drop rfl).queueFails topic message
  | true =>
    rw [if_pos rfl, List.append_nil]
    exact h.queue hlast

end Kept

end MessageBooks

namespace MqttAccount

open MessageBooks

variable {account : MqttAccount}

/-- The books of the client are right. -/
def Sound (account : MqttAccount) : Prop :=
  account.books.Kept account.submitted [] account.mqtt.store

/-- **A submission keeps the books right**, whichever way it goes. -/
theorem Sound.publishMessage (h : account.Sound) (topic : Option (List UInt8))
    (message : List UInt8) (env : PublishAttempt) :
    (account.step (.publishMessage topic message env)).Sound := by
  have hpending := Kept.submit h (account.mqtt.topicOf topic, message)
  have hlast : (account.submitted ++ [(account.mqtt.topicOf topic, message)])[account.submitted.length]?
      = some (account.mqtt.topicOf topic, message) := List.getElem?_concat_length
  show Kept _ [] ((account.books.note account.submitted.length account.mqtt env).after
    account.submitted.length (account.mqtt.publishMessage topic message env).1)
    (account.mqtt.publishMessage topic message env).2.store
  by_cases hconfirms : account.mqtt.ConfirmsAtOnce env
  · rw [Mqtt.publishMessage_of_confirmsAtOnce topic message hconfirms]
    unfold note fateAtOnce
    rw [if_pos hconfirms.1.1, if_pos hconfirms, if_neg fun hboth => hboth.2 hconfirms,
      List.append_nil]
    exact hpending.confirm hlast
  cases henabled : account.mqtt.enabled with
  | false =>
    have hdirect : ¬ account.mqtt.HandsDirectly env := fun hdirect =>
      absurd (henabled.symm.trans hdirect.1) Bool.false_ne_true
    unfold note fateAtOnce Mqtt.publishMessage
    rw [henabled, if_neg Bool.false_ne_true, if_neg Bool.false_ne_true,
      if_neg fun hboth => hdirect hboth.1, List.append_nil]
    exact hpending.drop rfl
  | true =>
    obtain ⟨more, hactions, hmore⟩ :=
      Mqtt.publishMessage_of_not_confirmsAtOnce topic message henabled hconfirms
    rw [hactions, after_append, after_append]
    refine Kept.drains hmore ?_
    -- what the store does with it does not depend on whether it was handed over before
    have hnote : account.books.note account.submitted.length account.mqtt env
        = { account.books.noteQueued account.submitted.length env.malloc with
            unconfirmed := account.books.unconfirmed
              ++ if account.mqtt.HandsDirectly env then [account.submitted.length] else [] } := by
      unfold note noteQueued fateAtOnce
      rw [if_pos henabled, if_neg hconfirms, if_congr (and_iff_left hconfirms) rfl rfl]
      cases env.malloc <;> rfl
    rw [hnote]
    by_cases hdirect : account.mqtt.HandsDirectly env
    · rw [if_pos hdirect, if_pos hdirect]
      exact (hpending.handOver hlast).queueMessage hlast env.malloc
    · rw [if_neg hdirect, if_neg hdirect, List.append_nil]
      exact hpending.queueMessage hlast env.malloc

theorem Sound.queueMessage (h : account.Sound) (topic message : List UInt8) (malloc : Bool) :
    (account.queueMessage topic message malloc).Sound :=
  (Kept.submit h (topic, message)).queueMessage List.getElem?_concat_length malloc

/-- **The step lemma.** -/
theorem Sound.step (h : account.Sound) (e : MqttEvent) : (account.step e).Sound := by
  cases e with
  | publishMessage topic message env => exact h.publishMessage topic message env
  | connectionLost => exact h
  | reconnect env => exact Kept.drains (Mqtt.drains_reconnectWithBackoff env _) h
  | healthCheck env published => exact Kept.drains (Mqtt.drains_threadDuck env published _) h

theorem sound_start (enabled : Bool) (pubTopic : List UInt8) (env : ConnectAttempt) :
    (start enabled pubTopic env).Sound := by
  have hstore : (start enabled pubTopic env).mqtt.store = MqttStore.init :=
    MqttHistory.store_start enabled pubTopic env
  unfold Sound
  rw [hstore]
  exact kept_empty

end MqttAccount
