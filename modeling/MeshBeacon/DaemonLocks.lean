import MeshBeacon.LockScopes

/-!
# The mutexes of the daemon

The threads of the daemon share a concentrator, the queues of packets and of messages, and what
they measure, each behind a mutex of its own. What a thread does with the mutexes in an iteration
of its loop depends on what it reads on the way, so an iteration is given with the outcomes of its
branches.

Two mutexes are held while another is taken: the one of the downlink queue of the bridge, inside
which a frame is counted, and the one of reconnections, inside which messages are queued. So
whatever the threads do there is no deadlock, as long as nobody calls `cdp_bridge_get_stats`,
which nobody does (`daemon_completes`).

The functions that speak to the concentrator have no lock of their own. Where a thread is in one of
them is followed too: every thread has a mutex for that which no other takes. The library has other
functions, which only compute, such as the time on air that `jit_enqueue` asks for, or which speak
to the GPS module; these are left out.

All threads speak to the concentrator under its mutex, but for `main`, which stops it at its end
without. It has waited for the other threads by then, except for that of the GPS, which it has
only cancelled.
-/

/-- The mutexes of the daemon, of the queues and of the bridge; and for every thread, that it
speaks to the concentrator. -/
inductive DaemonMutex (τ : Type*)
  | mqttQueue
  | mqttReconnect
  | mxConcent
  | mxXcorr
  | mxTimeref
  | mxMeasUp
  | mxMeasDw
  | mxMeasGps
  | mxJitQueue
  /-- `uplink_mutex` of the bridge. -/
  | uplink
  /-- `downlink_mutex`. -/
  | downlink
  /-- `stats_mutex`. -/
  | stats
  /-- The thread speaks to the concentrator. -/
  | hal (t : τ)
deriving DecidableEq

namespace Daemon

open LockScopes DaemonMutex

variable {τ : Type*} (t : τ)

/-! ## Functions -/

/-- A call of the library under the mutex of the concentrator. -/
def concent : LockScopes (DaemonMutex τ) := held mxConcent (held (hal t) done)

/-- `mqtt_queue_message`. -/
def mqttQueueMessage : LockScopes (DaemonMutex τ) := held mqttQueue done

/-- `mqtt_publish_queued_messages`: the mutex is taken for each message that is taken out, and once
more when there is none, unless the client refuses one before. -/
def mqttPublishQueuedMessages (messages : ℕ) (refused : Bool) : LockScopes (DaemonMutex τ) :=
  times messages (held mqttQueue done) ++ onlyIf (!refused) (held mqttQueue done)

/-- What an attempt to connect comes to. -/
structure Connecting where
  /-- The client is connected, and there are messages in the store. -/
  publishes : Bool
  messages : ℕ
  refused : Bool

/-- `mqtt_init_and_connect`. -/
def mqttInitAndConnect (attempt : Connecting) : LockScopes (DaemonMutex τ) :=
  onlyIf attempt.publishes (mqttPublishQueuedMessages attempt.messages attempt.refused)

/-- What a call of `mqtt_reconnect_with_backoff` comes to. -/
structure Reconnecting extends Connecting where
  /-- Enough time has passed. -/
  due : Bool
  /-- Messages are still there after the connection. -/
  publishesAgain : Bool
  messagesAgain : ℕ
  refusedAgain : Bool

/-- `mqtt_reconnect_with_backoff`. -/
def mqttReconnectWithBackoff (attempt : Reconnecting) : LockScopes (DaemonMutex τ) :=
  held mqttReconnect <| onlyIf attempt.due <|
    mqttInitAndConnect attempt.toConnecting
      ++ onlyIf attempt.publishesAgain
        (mqttPublishQueuedMessages attempt.messagesAgain attempt.refusedAgain)

/-- What a call of `mqtt_publish_message` comes to. -/
inductive Publishing
  /-- MQTT is disabled. -/
  | disabled
  /-- The client is not connected: the message is queued. -/
  | queued (attempt : Reconnecting)
  /-- The client does not accept or deliver the message: it is queued. -/
  | failed
  | published

/-- `mqtt_publish_message`. -/
def mqttPublishMessage : Publishing → LockScopes (DaemonMutex τ)
  | .disabled => done
  | .queued attempt =>
    held mqttReconnect mqttQueueMessage ++ mqttReconnectWithBackoff attempt
  | .failed => held mqttReconnect mqttQueueMessage
  | .published => held mqttReconnect done

/-- `cdp_bridge_handle_uplink`, of a packet that is not empty, whichever way the packet goes. -/
def cdpBridgeHandleUplink : LockScopes (DaemonMutex τ) := held stats done ++ held uplink done

/-- `cdp_bridge_enqueue_downlink_ext`, of a frame that is not empty. -/
def cdpBridgeEnqueueDownlinkExt : LockScopes (DaemonMutex τ) := held downlink (held stats done)

/-- `cdp_bridge_pop_downlink`. -/
def cdpBridgePopDownlink : LockScopes (DaemonMutex τ) := held downlink done

/-- `has_uplink_packet` and `pop_uplink_packet`. -/
def uplinkPacket : LockScopes (DaemonMutex τ) := held uplink done

/-- `jit_enqueue`, `jit_dequeue`, `jit_peek` and `jit_queue_init`. -/
def jitQueue : LockScopes (DaemonMutex τ) := held mxJitQueue done

/-- An update of the downstream measurements. -/
def measDw : LockScopes (DaemonMutex τ) := held mxMeasDw done

/-! ## Iterations -/

/-- `thread_up`: the packets received go to the bridge. -/
def threadUp (handed : ℕ) : LockScopes (DaemonMutex τ) := concent t ++ times handed cdpBridgeHandleUplink

/-- `thread_down`, the beginning of its outer loop. -/
structure DownOuter where
  /-- A downlink has been popped, and its frequency is supported. -/
  enqueued : Bool

/-- The outer loop of `thread_down`. -/
def threadDownOuter (it : DownOuter) : LockScopes (DaemonMutex τ) :=
  cdpBridgePopDownlink ++ onlyIf it.enqueued (jitQueue ++ measDw)

/-- `thread_down`, an iteration of its inner loop. -/
structure DownInner where
  /-- The beacons tried. -/
  beacons : ℕ
  /-- The time was not GPS time when the next was to be tried. -/
  notReady : Bool
  /-- A downlink has been popped. -/
  popped : Bool
  /-- It has been accepted by the queue. -/
  accepted : Bool

/-- One beacon is tried: its time is computed, and it is enqueued. -/
def tryBeacon : LockScopes (DaemonMutex τ) := held mxTimeref done ++ concent t ++ jitQueue ++ measDw

/-- The inner loop of `thread_down`. -/
def threadDownInner (it : DownInner) : LockScopes (DaemonMutex τ) :=
  times it.beacons (tryBeacon t) ++ onlyIf it.notReady (held mxTimeref done)
    ++ cdpBridgePopDownlink
    ++ onlyIf it.popped (concent t ++ jitQueue ++ onlyIf it.accepted measDw)

/-- `thread_jit`, a turn of an RF chain. -/
inductive JitTurn
  /-- Nothing is due, or peeking or dequeueing fails. -/
  | nothing (dequeued : Bool)
  /-- A packet is dequeued, but the concentrator is emitting. -/
  | emitting (beacon : Bool)
  | sent (beacon : Bool)

/-- A packet is peeked and dequeued; a beacon is corrected and counted; and the concentrator is
asked whether it is free. -/
def jitDequeue (beacon : Bool) : LockScopes (DaemonMutex τ) :=
  concent t ++ jitQueue ++ jitQueue ++ onlyIf beacon (held mxXcorr done ++ measDw) ++ concent t

/-- `thread_jit`. -/
def threadJit : JitTurn → LockScopes (DaemonMutex τ)
  | .nothing dequeued => concent t ++ jitQueue ++ onlyIf dequeued jitQueue
  | .emitting beacon => jitDequeue t beacon
  | .sent beacon => jitDequeue t beacon ++ concent t ++ measDw

/-- `thread_gps`, a message that is processed. -/
inductive GpsMessage
  /-- `gps_process_sync`: the time is there, and then the timestamp of the pulse. -/
  | sync (time timestamp : Bool)
  /-- `gps_process_coords`. -/
  | coords

/-- `thread_gps`. -/
def threadGps : GpsMessage → LockScopes (DaemonMutex τ)
  | .sync time timestamp => onlyIf time (concent t ++ onlyIf timestamp (held mxTimeref done))
  | .coords => held mxMeasGps done

/-- `thread_valid`. The correction is left alone while the first errors are accumulated. -/
def threadValid (accumulates : Bool) : LockScopes (DaemonMutex τ) :=
  held mxTimeref done ++ onlyIf (!accumulates) (held mxXcorr done)

/-- `thread_spectral_scan`, an iteration. -/
structure ScanIteration where
  /-- The status of each enabled chain is asked for, up to one that is not free. -/
  statuses : ℕ
  /-- A scan is started, or it cannot be. -/
  starts : Bool
  /-- How often its status is asked for. -/
  polls : ℕ
  completed : Bool

/-- `thread_spectral_scan`. -/
def threadSpectralScan (it : ScanIteration) : LockScopes (DaemonMutex τ) :=
  held mxConcent (times it.statuses (held (hal t) done) ++ onlyIf it.starts (held (hal t) done))
    ++ times it.polls (concent t) ++ onlyIf it.completed (concent t)

/-- What `thread_duck` and the ducks in it do. -/
inductive DuckTask
  /-- `has_uplink_packet` or `pop_uplink_packet`. -/
  | uplinkPacket
  /-- A frame is sent. -/
  | enqueueDownlink
  /-- The document of a packet is published. -/
  | publish (publishing : Publishing)
  /-- The health check reconnects. -/
  | reconnect (attempt : Reconnecting)
  /-- The health check publishes what is stored. -/
  | publishQueued (messages : ℕ) (refused : Bool)

/-- `thread_duck`: any number of these, in any order. -/
def threadDuck (tasks : List DuckTask) : LockScopes (DaemonMutex τ) :=
  seq <| tasks.map fun
    | .uplinkPacket => uplinkPacket
    | .enqueueDownlink => cdpBridgeEnqueueDownlinkExt
    | .publish publishing => mqttPublishMessage publishing
    | .reconnect attempt => mqttReconnectWithBackoff attempt
    | .publishQueued messages refused => mqttPublishQueuedMessages messages refused

/-- `mqtt_message_arrived`, on the thread of the MQTT client: the command is sent, and the response
is queued. -/
def mqttMessageArrived (frames : ℕ) (responds : Bool) : LockScopes (DaemonMutex τ) :=
  times frames cdpBridgeEnqueueDownlinkExt ++ onlyIf responds mqttQueueMessage

/-- The statistics of `main`. -/
def mainStatistics (gpsEnabled : Bool) : LockScopes (DaemonMutex τ) :=
  held mxMeasUp done ++ measDw ++ onlyIf gpsEnabled (held mxMeasGps done)

/-- An iteration of a thread of the daemon. -/
inductive Iteration
  | up (handed : ℕ)
  | downStart
  | downOuter (it : DownOuter)
  | downInner (it : DownInner)
  | jit (turn : JitTurn)
  | gps (message : GpsMessage)
  | valid (accumulates : Bool)
  | spectralScan (it : ScanIteration)
  | duck (tasks : List DuckTask)
  | messageArrived (frames : ℕ) (responds : Bool)
  /-- `main` connects the MQTT client before it starts the threads. -/
  | connect (attempt : Connecting)
  | statistics (gpsEnabled : Bool)
  /-- `main` at its end: it empties the store of messages, if MQTT is enabled, and stops the
  concentrator. -/
  | cleanUp (mqtt : Bool)

/-- What a thread does with the mutexes. -/
def locks : Iteration → LockScopes (DaemonMutex τ)
  | .up handed => threadUp t handed
  | .downStart => jitQueue ++ jitQueue
  | .downOuter it => threadDownOuter it
  | .downInner it => threadDownInner t it
  | .jit turn => threadJit t turn
  | .gps message => threadGps t message
  | .valid accumulates => threadValid accumulates
  | .spectralScan it => threadSpectralScan t it
  | .duck tasks => threadDuck tasks
  | .messageArrived frames responds => mqttMessageArrived frames responds
  | .connect attempt => mqttInitAndConnect attempt
  | .statistics gpsEnabled => mainStatistics gpsEnabled
  -- the mutex of the concentrator is not taken
  | .cleanUp mqtt => onlyIf mqtt (held mqttQueue done) ++ held (hal t) done

/-- What a thread does in some iterations. -/
def program (its : List Iteration) : LockScopes (DaemonMutex τ) := seq (its.map (locks t))

/-! ## The order of the mutexes -/

/-- The mutexes in which others are taken come first. -/
def rank : DaemonMutex τ → ℕ
  | mqttReconnect => 0
  | downlink => 0
  | mxConcent => 0
  | _ => 1

omit t in
theorem rank_lt (l : DaemonMutex τ) : rank l < 2 := by
  cases l <;> exact Nat.lt_of_sub_eq_succ rfl

/-- The mutex is not that of the concentrator, and does not stand for speaking to it. -/
def IsOther : DaemonMutex τ → Bool
  | mxConcent => false
  | hal _ => false
  | _ => true

variable [DecidableEq τ]

/-- A program that takes its mutexes in order, those of a rank at least, and speaks to the
concentrator only with the mutex of the concentrator. -/
structure Ordered (n : ℕ) (p : LockScopes (DaemonMutex τ)) : Prop where
  rising : p.Rising rank n
  inside : p.Inside mxConcent (hal t) false

namespace Ordered

variable {t} {n : ℕ} {p q : LockScopes (DaemonMutex τ)}

theorem append (hp : Ordered t n p) (hq : Ordered t n q) : Ordered t n (p ++ q) :=
  ⟨hp.rising.append hq.rising, hp.inside.append hq.inside⟩

theorem seq {ps : List (LockScopes (DaemonMutex τ))} (h : ∀ p ∈ ps, Ordered t n p) :
    Ordered t n (LockScopes.seq ps) :=
  ⟨Rising.seq fun p hp => (h p hp).rising, Inside.seq fun p hp => (h p hp).inside⟩

theorem times (h : Ordered t n p) (k : ℕ) : Ordered t n (LockScopes.times k p) :=
  ⟨h.rising.times k, h.inside.times k⟩

theorem onlyIf (b : Bool) (h : Ordered t n p) : Ordered t n (LockScopes.onlyIf b p) :=
  ⟨Rising.onlyIf b fun _ => h.rising, Inside.onlyIf b h.inside⟩

theorem done : Ordered t n done := ⟨trivial, trivial⟩

theorem held {l : DaemonMutex τ} (hother : IsOther l = true) (hl : n ≤ rank l)
    (hp : Ordered t (rank l + 1) p) : Ordered t n (held l p) := by
  have hconcent : l ≠ mxConcent := by
    rintro rfl
    exact Bool.false_ne_true hother
  refine ⟨rising_held.mpr ⟨hl, hp.rising⟩, inside_held.mpr ⟨?_, ?_⟩⟩
  · rintro rfl
    exact absurd hother Bool.false_ne_true
  · rw [decide_eq_false hconcent]
    exact hp.inside

/-- The mutex of the concentrator taken for speaking to it. -/
theorem held_mxConcent {p : LockScopes (DaemonMutex τ)} (hrising : p.Rising rank 1)
    (hinside : p.Inside mxConcent (hal t) true) :
    Ordered t 0 (LockScopes.held mxConcent p) := by
  refine ⟨rising_held.mpr ⟨le_rfl, hrising⟩, inside_held.mpr ⟨?_, ?_⟩⟩
  · exact fun h => DaemonMutex.noConfusion rfl (heq_of_eq h)
  · rw [decide_eq_true rfl]
    exact hinside

end Ordered

/-! ## The functions are in order -/

variable {t}

theorem ordered_concent : Ordered t 0 (concent t) :=
  .held_mxConcent (rising_held.mpr ⟨le_rfl, trivial⟩) (inside_held.mpr ⟨fun _ => rfl, trivial⟩)

theorem ordered_jitQueue : Ordered t 0 jitQueue := .held rfl (Nat.zero_le _) .done

theorem ordered_measDw : Ordered t 0 measDw := .held rfl (Nat.zero_le _) .done

/-- Messages are queued and published with the mutex of the store only, so also inside another. -/
theorem ordered_mqttQueueMessage {n : ℕ} (hn : n ≤ 1) : Ordered t n mqttQueueMessage :=
  .held rfl hn .done

theorem ordered_mqttPublishQueuedMessages {n : ℕ} (hn : n ≤ 1) (messages : ℕ) (refused : Bool) :
    Ordered t n (mqttPublishQueuedMessages messages refused) := by
  have hqueue : Ordered t n (held mqttQueue done) := .held rfl hn .done
  exact (hqueue.times messages).append (hqueue.onlyIf _)

theorem ordered_mqttInitAndConnect {n : ℕ} (hn : n ≤ 1) (attempt : Connecting) :
    Ordered t n (mqttInitAndConnect attempt) :=
  (ordered_mqttPublishQueuedMessages hn _ _).onlyIf _

theorem ordered_mqttReconnectWithBackoff (attempt : Reconnecting) :
    Ordered t 0 (mqttReconnectWithBackoff attempt) := by
  refine .held rfl (Nat.zero_le _) (.onlyIf _ (.append ?_ (.onlyIf _ ?_)))
  · exact ordered_mqttInitAndConnect le_rfl attempt.toConnecting
  · exact ordered_mqttPublishQueuedMessages le_rfl _ _

theorem ordered_mqttPublishMessage (publishing : Publishing) :
    Ordered t 0 (mqttPublishMessage publishing) := by
  have hqueue : Ordered t 0 (held mqttReconnect mqttQueueMessage) :=
    .held rfl (Nat.zero_le _) (ordered_mqttQueueMessage le_rfl)
  cases publishing with
  | disabled => exact .done
  | queued attempt => exact hqueue.append (ordered_mqttReconnectWithBackoff attempt)
  | failed => exact hqueue
  | published => exact .held rfl (Nat.zero_le _) .done

theorem ordered_cdpBridgeHandleUplink : Ordered t 0 cdpBridgeHandleUplink :=
  .append (.held rfl (Nat.zero_le _) .done)
    (.held rfl (Nat.zero_le _) .done)

/-- A frame is counted inside the mutex of the queue. -/
theorem ordered_cdpBridgeEnqueueDownlinkExt : Ordered t 0 cdpBridgeEnqueueDownlinkExt :=
  .held rfl (Nat.zero_le _) (.held rfl le_rfl .done)

theorem ordered_cdpBridgePopDownlink : Ordered t 0 cdpBridgePopDownlink :=
  .held rfl (Nat.zero_le _) .done

theorem ordered_threadDownInner (it : DownInner) : Ordered t 0 (threadDownInner t it) := by
  have htimeref : Ordered t 0 (held mxTimeref done) :=
    .held rfl (Nat.zero_le _) .done
  have hbeacon : Ordered t 0 (tryBeacon t) :=
    ((htimeref.append ordered_concent).append ordered_jitQueue).append ordered_measDw
  refine (((hbeacon.times _).append (htimeref.onlyIf _)).append ordered_cdpBridgePopDownlink).append
    (.onlyIf _ ?_)
  exact (ordered_concent.append ordered_jitQueue).append (ordered_measDw.onlyIf _)

theorem ordered_threadJit (turn : JitTurn) : Ordered t 0 (threadJit t turn) := by
  have hdequeue : ∀ beacon, Ordered t 0 (jitDequeue t beacon) := fun beacon =>
    (((ordered_concent.append ordered_jitQueue).append ordered_jitQueue).append
      (.onlyIf _ (.append (.held rfl (Nat.zero_le _) .done) ordered_measDw))).append
      ordered_concent
  cases turn with
  | nothing dequeued =>
    exact (ordered_concent.append ordered_jitQueue).append (ordered_jitQueue.onlyIf _)
  | emitting beacon => exact hdequeue beacon
  | sent beacon => exact ((hdequeue beacon).append ordered_concent).append ordered_measDw

theorem ordered_threadGps (message : GpsMessage) : Ordered t 0 (threadGps t message) := by
  cases message with
  | sync time timestamp =>
    exact .onlyIf _ (ordered_concent.append
      (.onlyIf _ (.held rfl (Nat.zero_le _) .done)))
  | coords => exact .held rfl (Nat.zero_le _) .done

/-- The statuses are asked for, and the scan is started, with the mutex held all the time. -/
theorem ordered_threadSpectralScan (it : ScanIteration) : Ordered t 0 (threadSpectralScan t it) := by
  have hrising : (held (hal t) done).Rising rank 1 := rising_held.mpr ⟨le_rfl, trivial⟩
  have hinside : (held (hal t) done).Inside mxConcent (hal t) true :=
    inside_held.mpr ⟨fun _ => rfl, trivial⟩
  refine .append (.append (.held_mxConcent ?_ ?_) (ordered_concent.times _))
    (ordered_concent.onlyIf _)
  · exact (hrising.times _).append (Rising.onlyIf _ fun _ => hrising)
  · exact (hinside.times _).append (Inside.onlyIf _ hinside)

theorem ordered_threadDuck (tasks : List DuckTask) : Ordered t 0 (threadDuck tasks) := by
  refine Ordered.seq fun p hp => ?_
  obtain ⟨task, -, rfl⟩ := List.mem_map.mp hp
  cases task with
  | uplinkPacket => exact .held rfl (Nat.zero_le _) .done
  | enqueueDownlink => exact ordered_cdpBridgeEnqueueDownlinkExt
  | publish publishing => exact ordered_mqttPublishMessage publishing
  | reconnect attempt => exact ordered_mqttReconnectWithBackoff attempt
  | publishQueued messages refused =>
    exact ordered_mqttPublishQueuedMessages (Nat.zero_le 1) messages refused

/-- The iteration stops the concentrator. -/
def Iteration.stops : Iteration → Bool
  | .cleanUp _ => true
  | _ => false

/-- **Every iteration is in order**, but for the one that stops the concentrator. -/
theorem ordered_locks {it : Iteration} (hit : it.stops = false) : Ordered t 0 (locks t it) := by
  cases it with
  | up handed => exact ordered_concent.append (ordered_cdpBridgeHandleUplink.times handed)
  | downStart => exact ordered_jitQueue.append ordered_jitQueue
  | downOuter it =>
    exact ordered_cdpBridgePopDownlink.append (.onlyIf _ (ordered_jitQueue.append ordered_measDw))
  | downInner it => exact ordered_threadDownInner it
  | jit turn => exact ordered_threadJit turn
  | gps message => exact ordered_threadGps message
  | valid accumulates =>
    exact .append (.held rfl (Nat.zero_le _) .done)
      (.onlyIf _ (.held rfl (Nat.zero_le _) .done))
  | spectralScan it => exact ordered_threadSpectralScan it
  | duck tasks => exact ordered_threadDuck tasks
  | messageArrived frames responds =>
    exact (ordered_cdpBridgeEnqueueDownlinkExt.times frames).append
      ((ordered_mqttQueueMessage (Nat.zero_le 1)).onlyIf _)
  | connect attempt => exact ordered_mqttInitAndConnect (Nat.zero_le 1) attempt
  | statistics gpsEnabled =>
    exact .append (.append (.held rfl (Nat.zero_le _) .done) ordered_measDw)
      (.onlyIf _ (.held rfl (Nat.zero_le _) .done))
  | cleanUp mqtt => exact absurd hit.symm Bool.false_ne_true

/-- **Every iteration takes its mutexes in order.** -/
theorem rising_locks (it : Iteration) : (locks t it).Rising rank 0 := by
  by_cases hit : it.stops = false
  · exact (ordered_locks hit).rising
  · cases it with
    | cleanUp mqtt =>
      have hrising (l : DaemonMutex τ) : (held l done).Rising rank 0 :=
        rising_held.mpr ⟨Nat.zero_le _, trivial⟩
      exact (Rising.onlyIf mqtt fun _ => hrising mqttQueue).append (hrising (hal t))
    | _ => exact absurd rfl hit

variable (t)

theorem rising_program (its : List Iteration) : (program t its).Rising rank 0 := by
  refine Rising.seq fun p hp => ?_
  obtain ⟨it, -, rfl⟩ := List.mem_map.mp hp
  exact rising_locks it

theorem inside_program {its : List Iteration} (hits : ∀ it ∈ its, it.stops = false) :
    (program t its).Inside mxConcent (hal t) false := by
  refine Inside.seq fun p hp => ?_
  obtain ⟨it, hit, rfl⟩ := List.mem_map.mp hp
  exact (ordered_locks (hits it hit)).inside

end Daemon

/-- **The daemon does not lock itself up**: however many threads of each kind there are, whatever
they do in their iterations, and in whatever order they take their steps, there is no deadlock, all
of them can be brought to their ends, and if a thread is about to speak to the concentrator while
one speaks to it, one of the two stops it. -/
theorem daemon_completes {τ : Type*} [Fintype τ] [DecidableEq τ]
    (its : τ → List Daemon.Iteration) (schedule : List τ) :
    let start := LockState.start fun t => (Daemon.program t (its t)).steps
    let s := Run.final LockState.step start schedule
    ¬ s.Deadlock
      ∧ (∃ more, ∀ t, (Run.final LockState.step start (schedule ++ more)).todo t = [])
      ∧ ∀ t t', s.Wants t (.hal t) → s.owner (.hal t') = some t' →
        ∃ it ∈ its t ++ its t', it.stops = true := by
  have hrising := fun t => Daemon.rising_program t (its t)
  obtain ⟨hdeadlock, hcompletes⟩ := LockScopes.completes Daemon.rank_lt hrising schedule
  refine ⟨hdeadlock, hcompletes, fun t t' hwants howner => ?_⟩
  by_contra hnone
  push Not at hnone
  have hstops (it : Daemon.Iteration) (hit : it ∈ its t ++ its t') : it.stops = false :=
    Bool.eq_false_iff.mpr (hnone it hit)
  -- both have the mutex of the concentrator, so they are the same thread
  refine LockScopes.not_owner_of_inside hrising (fun h => by cases h)
    (Daemon.inside_program t fun it hit => hstops it (List.mem_append_left _ hit))
    (Daemon.inside_program t' fun it hit => hstops it (List.mem_append_right _ hit))
    (fun hsame => by rw [hsame]) schedule hwants howner

/-- The thread of the GPS asks for the timestamp of the pulse while `main` stops the
concentrator. -/
example :
    let s := Run.final LockState.step (LockState.start fun t => (Daemon.program t
      (if t then [.gps (.sync true true)] else [.cleanUp false])).steps) [true, true]
    s.Wants false (.hal false) ∧ s.owner (.hal true) = some true :=
  ⟨⟨_, rfl⟩, rfl⟩
