import MeshBeacon.MqttStore
import Mathlib.Algebra.Order.Ring.Int

/-!
# The MQTT client of the daemon

Three things say whether the daemon can publish: the pointer to the client, which
is `NULL` until a connection has been set up; the connection state the client
library keeps; and a flag `mqtt_needs_reconnect` of the daemon's own. Four
functions change them. `mqtt_init_and_connect` sets up a new client;
`mqtt_reconnect_with_backoff` does so again, not more often than a delay allows
that doubles with every failure; `mqtt_publish_message` publishes or stores a
message; and the health check of `thread_duck` reconnects or publishes what is
stored.

The client library is outside: what its functions return is an argument of every
function below, and so is the time. The connection may be lost at any time, which
is an event of its own.
-/

/-- The variables of the MQTT client. -/
structure Mqtt where
  /-- `mqtt_enabled`. -/
  enabled : Bool
  /-- `mqtt_client`: `NULL`, or a client that the library says is connected or not. -/
  client : Option Bool
  /-- `mqtt_needs_reconnect`. -/
  needsReconnect : Bool
  /-- `mqtt_last_reconnect_attempt`. -/
  lastReconnectAttempt : ℤ
  /-- `mqtt_reconnect_delay`. -/
  reconnectDelay : ℤ
  /-- `mqtt_max_reconnect_delay`. -/
  maxReconnectDelay : ℤ
  /-- `mqtt_reconnect_attempts`. -/
  reconnectAttempts : ℕ
  /-- `mqtt_pub_topic`. -/
  pubTopic : List UInt8
  store : MqttStore
  /-- `mqtt_check_counter` of `thread_duck`. -/
  checkCounter : ℕ

/-- What happens to messages, in the store and past it. -/
inductive MqttAction
  | inStore (a : StoreAction)
  /-- The client accepts a message that has not been in the store. -/
  | hand (topic message : List UInt8)
deriving DecidableEq

/-- What the client library answers to one attempt to connect. -/
structure ConnectAttempt where
  /-- Whether `MQTTClient_create` succeeds. -/
  create : Bool
  /-- Whether `MQTTClient_connect` does. -/
  connect : Bool
  /-- What becomes of the messages stored, as they are published. -/
  outcome : ℕ → QueuedPublish

/-- What the system answers to one call of `mqtt_reconnect_with_backoff`. -/
structure ReconnectAttempt extends ConnectAttempt where
  /-- `time(NULL)`. -/
  now : ℤ
  /-- What becomes of the messages stored when they are published once more. -/
  again : ℕ → QueuedPublish

/-- What the system answers to one call of `mqtt_publish_message`. -/
structure PublishAttempt where
  /-- Whether there is memory to store the message. -/
  malloc : Bool
  /-- Whether `MQTTClient_publishMessage` succeeds. -/
  publish : Bool
  /-- Whether `MQTTClient_waitForCompletion` does. -/
  wait : Bool
  reconnect : ReconnectAttempt

namespace Mqtt

/-- `mqtt_queue_message` on the store of the daemon. -/
def queueMessage (topic message : List UInt8) (malloc : Bool) (m : Mqtt) :
    List MqttAction × Mqtt :=
  ((queueActions topic message malloc m.store).map .inStore,
    { m with store := (mqttQueueMessage topic message malloc m.store).2 })

/-- `mqtt_publish_queued_messages` on the store of the daemon, if there is anything
in it. -/
def publishQueued (outcome : ℕ → QueuedPublish) (m : Mqtt) : List MqttAction × Mqtt :=
  if m.store.count > 0 then
    ((mqttPublishQueuedMessages outcome m.store).1.map .inStore,
      { m with store := (mqttPublishQueuedMessages outcome m.store).2 })
  else ([], m)

/-! ## Connecting -/

/-- The client is marked, disconnected and destroyed, if there is one. -/
def cleanUp (m : Mqtt) : Mqtt :=
  if m.client.isSome then { m with needsReconnect := true, client := none } else m

/-- `mqtt_init_and_connect`: the code returned, what happens to messages, and the
variables. The topic of commands is subscribed to in passing; whether that works is
only logged. -/
def initAndConnect (env : ConnectAttempt) (m : Mqtt) : ℤ × List MqttAction × Mqtt :=
  if m.enabled then
    let m := m.cleanUp
    if env.create then
      -- the client is there from here on, and goes again when it cannot connect
      if env.connect then
        let m := { m with client := some true, reconnectAttempts := 0, reconnectDelay := 5 }
        (0, m.publishQueued env.outcome)
      else (-1, [], { m with client := none, reconnectAttempts := m.reconnectAttempts + 1 })
    else (-1, [], { m with reconnectAttempts := m.reconnectAttempts + 1 })
  else (0, [], m)

/-- The delay after an attempt that failed. -/
def nextDelay (m : Mqtt) : ℤ :=
  if m.reconnectDelay * 2 > m.maxReconnectDelay then m.maxReconnectDelay else m.reconnectDelay * 2

/-- `mqtt_reconnect_with_backoff`. -/
def reconnectWithBackoff (env : ReconnectAttempt) (m : Mqtt) : ℤ × List MqttAction × Mqtt :=
  if env.now - m.lastReconnectAttempt < m.reconnectDelay then (-1, [], m)
  else
    let (result, actions, m) :=
      initAndConnect env.toConnectAttempt { m with lastReconnectAttempt := env.now }
    if result ≠ 0 then (result, actions, { m with reconnectDelay := m.nextDelay })
    else
      let (more, m) := publishQueued env.again { m with needsReconnect := false }
      (result, actions ++ more, m)

/-! ## Publishing -/

/-- The topic a message goes to: the one given, unless it is missing or empty. -/
def topicOf (m : Mqtt) (topic : Option (List UInt8)) : List UInt8 :=
  if (topic.getD []).length > 0 then topic.getD [] else m.pubTopic

/-- The client is there, connected, and not marked. -/
def canPublish (m : Mqtt) : Bool := m.client == some true && !m.needsReconnect

/-- `mqtt_publish_message`. -/
def publishMessage (topic : Option (List UInt8)) (message : List UInt8) (env : PublishAttempt)
    (m : Mqtt) : List MqttAction × Mqtt :=
  if m.enabled then
    let pubTopic := m.topicOf topic
    if m.canPublish then
      if env.publish then
        if env.wait then ([.hand pubTopic message], m)
        else
          -- handed over, but not confirmed in time: it is stored as well
          let (actions, m) := m.queueMessage pubTopic message env.malloc
          (.hand pubTopic message :: actions, { m with needsReconnect := true })
      else
        let (actions, m) := m.queueMessage pubTopic message env.malloc
        (actions, { m with needsReconnect := true })
    else
      let (actions, m) := m.queueMessage pubTopic message env.malloc
      let (_, more, m) := m.reconnectWithBackoff env.reconnect
      (actions ++ more, m)
  else ([], m)

/-! ## The health check -/

/-- The condition the health check reconnects on. -/
def checkReconnects (m : Mqtt) : Bool := m.needsReconnect || m.client == some false

/-- The turns of `thread_duck` from one health check to the next. -/
def checkInterval (m : Mqtt) : ℕ := if m.store.count > 0 then 5 else 300

/-- One turn of `thread_duck`, as far as it is about the client. The messages it
publishes are `published`. -/
def threadDuck (env : ReconnectAttempt) (published : ℕ → QueuedPublish) (m : Mqtt) :
    List MqttAction × Mqtt :=
  if m.enabled then
    let m := { m with checkCounter := m.checkCounter + 1 }
    if m.checkCounter ≥ m.checkInterval then
      let m := { m with checkCounter := 0 }
      if m.checkReconnects then (m.reconnectWithBackoff env).2
      else if m.client == some true then m.publishQueued published
      else ([], m)
    else ([], m)
  else ([], m)

/-! ## Startup, and what happens after it -/

/-- The variables before the configuration is read, `enabled` and with a topic to
publish on after it. -/
def init (enabled : Bool) (pubTopic : List UInt8) : Mqtt where
  enabled := enabled
  client := none
  needsReconnect := false
  lastReconnectAttempt := 0
  reconnectDelay := 5
  maxReconnectDelay := 300
  reconnectAttempts := 0
  pubTopic := pubTopic
  store := MqttStore.init
  checkCounter := 0

/-- The part of `main` after the configuration is read: MQTT is disabled when the
first connection fails. -/
def startup (env : ConnectAttempt) (m : Mqtt) : List MqttAction × Mqtt :=
  let (x, actions, m) := m.initAndConnect env
  if x ≠ 0 then (actions, { m with enabled := false }) else (actions, m)

/-- The library loses the connection. -/
def loseConnection (m : Mqtt) : Mqtt := { m with client := m.client.map fun _ => false }

end Mqtt

/-- What can happen to the client once the daemon runs. -/
inductive MqttEvent
  | publishMessage (topic : Option (List UInt8)) (message : List UInt8) (env : PublishAttempt)
  | connectionLost
  | reconnect (env : ReconnectAttempt)
  | healthCheck (env : ReconnectAttempt) (published : ℕ → QueuedPublish)

/-- What an event does to messages, and the variables after it. -/
def Mqtt.handle (m : Mqtt) : MqttEvent → List MqttAction × Mqtt
  | .publishMessage topic message env => m.publishMessage topic message env
  | .connectionLost => ([], m.loseConnection)
  | .reconnect env => (m.reconnectWithBackoff env).2
  | .healthCheck env published => m.threadDuck env published

/-- The variables after an event. -/
def Mqtt.step (m : Mqtt) (e : MqttEvent) : Mqtt := (m.handle e).2
