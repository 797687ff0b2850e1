import MeshBeacon.Mqtt

/-!
# The MQTT client is never stranded

A client that is not connected has to be noticed, or the daemon never publishes
again. The health check notices a client the library says is not connected, and it
notices the flag. A missing client it does not notice: `NULL` has no connection
state, so a failed attempt to connect must leave the flag set.

It does, though the failing paths of `mqtt_init_and_connect` do not set it. They
leave no client behind, and there are two ways to have come there: with a client,
which was marked before it was destroyed, or without one, in which case the flag
was set already. The one place that clears the flag has just seen a connection
succeed. That is the invariant `Mqtt.Watched`, and it holds from the first
connection on (`Mqtt.never_stranded`).
-/

namespace Mqtt

/-- A missing client is marked, and the delay is between its initial value and the
largest delay `d`. -/
structure Watched (d : ℤ) (m : Mqtt) : Prop where
  enabled : m.enabled = true
  maxReconnectDelay : m.maxReconnectDelay = d
  flagged : m.client = none → m.needsReconnect = true
  delay_ge : 5 ≤ m.reconnectDelay
  delay_le : m.reconnectDelay ≤ d

variable {d : ℤ} {m : Mqtt}

/-- **What the health check looks at tells it of every client that cannot publish.** -/
theorem Watched.checkReconnects (h : m.Watched d) (hclient : m.client ≠ some true) :
    m.checkReconnects = true := by
  unfold Mqtt.checkReconnects
  cases hc : m.client with
  | none =>
    rw [h.flagged hc]
    rfl
  | some connected =>
    cases connected with
    | true => exact absurd hc hclient
    | false => simp

/-! ## What the operations on the store leave alone -/

theorem Watched.withStore (h : m.Watched d) (q : MqttStore) : { m with store := q }.Watched d :=
  ⟨h.enabled, h.maxReconnectDelay, h.flagged, h.delay_ge, h.delay_le⟩

theorem Watched.queueMessage (h : m.Watched d) (topic message : List UInt8) (malloc : Bool) :
    (m.queueMessage topic message malloc).2.Watched d :=
  h.withStore _

theorem Watched.publishQueued (h : m.Watched d) (outcome : ℕ → QueuedPublish) :
    (m.publishQueued outcome).2.Watched d := by
  unfold Mqtt.publishQueued
  by_cases hcount : m.store.count > 0
  · rw [if_pos hcount]
    exact h.withStore _
  · rw [if_neg hcount]
    exact h

theorem Watched.mark (h : m.Watched d) : { m with needsReconnect := true }.Watched d :=
  ⟨h.enabled, h.maxReconnectDelay, fun _ => rfl, h.delay_ge, h.delay_le⟩

/-! ## Connecting -/

/-- Once a client has been cleaned up there is none, and that is marked. -/
theorem Watched.cleanUp (h : m.Watched d) :
    m.cleanUp.Watched d ∧ m.cleanUp.client = none ∧ m.cleanUp.needsReconnect = true := by
  unfold Mqtt.cleanUp
  cases hc : m.client with
  | none => exact ⟨h, hc, h.flagged hc⟩
  | some connected =>
    exact ⟨⟨h.enabled, h.maxReconnectDelay, fun _ => rfl, h.delay_ge, h.delay_le⟩, rfl, rfl⟩

/-- A connection that succeeds leaves a client and the initial delay. -/
theorem Watched.connected (h : m.Watched d) (hd : 5 ≤ d) :
    { m with client := some true, reconnectAttempts := 0, reconnectDelay := 5 }.Watched d :=
  ⟨h.enabled, h.maxReconnectDelay, fun hc => absurd hc (Option.some_ne_none true), le_refl 5, hd⟩

/-- Publishing what is stored does not touch the client. -/
@[simp] theorem client_publishQueued (outcome : ℕ → QueuedPublish) (m : Mqtt) :
    (m.publishQueued outcome).2.client = m.client := by
  unfold Mqtt.publishQueued
  split_ifs <;> rfl

/-- **An attempt to connect leaves a connected client, or none and the flag set.** -/
theorem Watched.initAndConnect (h : m.Watched d) (hd : 5 ≤ d) (env : ConnectAttempt) :
    (m.initAndConnect env).2.2.Watched d
      ∧ ((m.initAndConnect env).1 = 0 → (m.initAndConnect env).2.2.client = some true) := by
  obtain ⟨hclean, hnone, hflag⟩ := h.cleanUp
  unfold Mqtt.initAndConnect
  rw [if_pos h.enabled]
  cases hcreate : env.create with
  | false =>
    refine ⟨⟨hclean.enabled, hclean.maxReconnectDelay, fun _ => hflag, hclean.delay_ge,
      hclean.delay_le⟩, fun hzero => absurd (show (-1 : ℤ) = 0 from hzero) (by decide)⟩
  | true =>
    cases hconnect : env.connect with
    | false =>
      refine ⟨⟨hclean.enabled, hclean.maxReconnectDelay, fun _ => hflag, hclean.delay_ge,
        hclean.delay_le⟩, fun hzero => absurd (show (-1 : ℤ) = 0 from hzero) (by decide)⟩
    | true =>
      refine ⟨(hclean.connected hd).publishQueued env.outcome, fun _ => ?_⟩
      exact client_publishQueued _ _

theorem Watched.nextDelay (h : m.Watched d) (hd : 5 ≤ d) :
    { m with reconnectDelay := m.nextDelay }.Watched d := by
  have hge := h.delay_ge
  have hmax := h.maxReconnectDelay
  refine ⟨h.enabled, hmax, h.flagged, ?_, ?_⟩
  · show 5 ≤ m.nextDelay
    unfold Mqtt.nextDelay
    by_cases hlt : m.reconnectDelay * 2 > m.maxReconnectDelay
    · rw [if_pos hlt, hmax]
      exact hd
    · rw [if_neg hlt]
      omega
  · show m.nextDelay ≤ d
    unfold Mqtt.nextDelay
    by_cases hlt : m.reconnectDelay * 2 > m.maxReconnectDelay
    · rw [if_pos hlt, hmax]
    · rw [if_neg hlt, ← hmax]
      exact not_lt.mp hlt

/-- **Reconnecting keeps the client watched**: the flag is cleared only with a
connected client. -/
theorem Watched.reconnectWithBackoff (h : m.Watched d) (hd : 5 ≤ d) (env : ReconnectAttempt) :
    (m.reconnectWithBackoff env).2.2.Watched d := by
  unfold Mqtt.reconnectWithBackoff
  by_cases hsoon : env.now - m.lastReconnectAttempt < m.reconnectDelay
  · rw [if_pos hsoon]
    exact h
  · rw [if_neg hsoon]
    have hlast : { m with lastReconnectAttempt := env.now }.Watched d :=
      ⟨h.enabled, h.maxReconnectDelay, h.flagged, h.delay_ge, h.delay_le⟩
    obtain ⟨hwatched, hclient⟩ := hlast.initAndConnect hd env.toConnectAttempt
    generalize ({ m with lastReconnectAttempt := env.now }).initAndConnect env.toConnectAttempt
      = attempt at hwatched hclient ⊢
    obtain ⟨result, actions, m'⟩ := attempt
    by_cases hresult : result = 0
    · have hcleared : { m' with needsReconnect := false }.Watched d := by
        refine ⟨hwatched.enabled, hwatched.maxReconnectDelay, fun hc => ?_, hwatched.delay_ge,
          hwatched.delay_le⟩
        exact absurd ((hclient hresult).symm.trans hc) (Option.some_ne_none true)
      show (if result ≠ 0 then _ else _ : ℤ × List MqttAction × Mqtt).2.2.Watched d
      rw [if_neg (not_not_intro hresult)]
      exact hcleared.publishQueued env.again
    · show (if result ≠ 0 then _ else _ : ℤ × List MqttAction × Mqtt).2.2.Watched d
      rw [if_pos hresult]
      exact hwatched.nextDelay hd

/-! ## Every event -/

theorem Watched.publishMessage (h : m.Watched d) (hd : 5 ≤ d) (topic : Option (List UInt8))
    (message : List UInt8) (env : PublishAttempt) :
    (m.publishMessage topic message env).2.Watched d := by
  unfold Mqtt.publishMessage
  have hqueued := h.queueMessage (m.topicOf topic) message env.malloc
  rw [if_pos h.enabled]
  cases hcan : m.canPublish with
  | false => exact hqueued.reconnectWithBackoff hd env.reconnect
  | true =>
    cases hpublish : env.publish with
    | false => exact hqueued.mark
    | true =>
      cases hwait : env.wait with
      | false => exact hqueued.mark
      | true => exact h

theorem Watched.threadDuck (h : m.Watched d) (hd : 5 ≤ d) (env : ReconnectAttempt)
    (published : ℕ → QueuedPublish) : (m.threadDuck env published).2.Watched d := by
  have hcounter : ∀ k, { m with checkCounter := k }.Watched d := fun k =>
    ⟨h.enabled, h.maxReconnectDelay, h.flagged, h.delay_ge, h.delay_le⟩
  unfold Mqtt.threadDuck
  rw [if_pos h.enabled]
  dsimp only
  split_ifs
  · exact (hcounter 0).reconnectWithBackoff hd env
  · exact (hcounter 0).publishQueued published
  · exact hcounter 0
  · exact hcounter _

theorem Watched.loseConnection (h : m.Watched d) : m.loseConnection.Watched d := by
  refine ⟨h.enabled, h.maxReconnectDelay, fun hc => h.flagged ?_, h.delay_ge, h.delay_le⟩
  exact Option.map_eq_none_iff.mp hc

/-- The step lemma. -/
theorem Watched.step (h : m.Watched d) (hd : 5 ≤ d) (e : MqttEvent) : (m.step e).Watched d := by
  cases e with
  | publishMessage topic message env => exact h.publishMessage hd topic message env
  | connectionLost => exact h.loseConnection
  | reconnect env => exact h.reconnectWithBackoff hd env
  | healthCheck env published => exact h.threadDuck hd env published

/-- The first connection, when it succeeds, starts the invariant. -/
theorem watched_startup (hd : 5 ≤ d) (pubTopic : List UInt8) (env : ConnectAttempt)
    (hstart : ({ init true pubTopic with maxReconnectDelay := d }.initAndConnect env).1 = 0) :
    ({ init true pubTopic with maxReconnectDelay := d }.startup env).2.Watched d := by
  have hconnects : env.create = true ∧ env.connect = true := by
    cases hcreate : env.create with
    | false => simp [Mqtt.initAndConnect, init, cleanUp, hcreate] at hstart
    | true =>
      cases hconnect : env.connect with
      | false => simp [Mqtt.initAndConnect, init, cleanUp, hcreate, hconnect] at hstart
      | true => exact ⟨rfl, rfl⟩
  obtain ⟨hcreate, hconnect⟩ := hconnects
  have hwatched : ({ init true pubTopic with
      maxReconnectDelay := d, client := some true, reconnectAttempts := 0,
      reconnectDelay := 5 } : Mqtt).Watched d :=
    ⟨rfl, rfl, fun hc => absurd hc (Option.some_ne_none true), le_refl 5, hd⟩
  unfold Mqtt.startup
  simp only [Mqtt.initAndConnect, init, cleanUp, hcreate, hconnect]
  exact hwatched.publishQueued env.outcome

/-- **The client is never stranded.** After a first connection that succeeds, whatever
is published, lost and reconnected: a missing client is marked, so the condition of
the health check holds whenever there is no connected client, and the delay stays
between 5 and the largest delay. -/
theorem never_stranded (hd : 5 ≤ d) (pubTopic : List UInt8) (env : ConnectAttempt)
    (hstart : ({ init true pubTopic with maxReconnectDelay := d }.initAndConnect env).1 = 0)
    (es : List MqttEvent) :
    let m := Run.final step ({ init true pubTopic with maxReconnectDelay := d }.startup env).2 es
    (m.client = none → m.needsReconnect = true)
      ∧ (m.client ≠ some true → m.checkReconnects = true)
      ∧ 5 ≤ m.reconnectDelay ∧ m.reconnectDelay ≤ d := by
  have hwatched := Run.invariant (P := Watched d) (fun _ e h => h.step hd e) es
    (watched_startup hd pubTopic env hstart)
  exact ⟨hwatched.flagged, hwatched.checkReconnects, hwatched.delay_ge, hwatched.delay_le⟩

/-- The largest delay is 300 s; a publish times out, the connection is lost, and the
client cannot be created again. -/
theorem never_stranded_timeout :
    let refused : ℕ → QueuedPublish := fun _ => .refused
    let attempt : ReconnectAttempt := ⟨⟨false, false, refused⟩, 1000, refused⟩
    let m := Run.final step (startup ⟨true, true, refused⟩ (init true [])).2
      [.publishMessage none [0x6d] ⟨true, true, false, attempt⟩, .connectionLost, .reconnect attempt]
    (m.client = none → m.needsReconnect = true)
      ∧ (m.client ≠ some true → m.checkReconnects = true)
      ∧ 5 ≤ m.reconnectDelay ∧ m.reconnectDelay ≤ 300 :=
  never_stranded (by decide) [] ⟨true, true, fun _ => .refused⟩ (by decide) _

end Mqtt
