import MeshBeacon.Hub
import MeshBeacon.MqttStore
import MeshBeacon.SafeBase64
import Mathlib.Data.Rat.Floor

/-!
# Commands

An operator sends a command to a duck as a JSON object: a target, a topic, which
is a number, a message, and an encoding if the message is not plain. The daemon
checks the command, passes it on to the hub and queues a response.

The topic is a `double`. It is compared with 20 as such, converted to eight bits
for another comparison, and once more when it is passed on; and the hub compares
what it gets with the topics that are reserved. C leaves open what converting a
number gives that does not fit, so that is a parameter.

The JSON library reads the payload: what it has found is given here. A string
ends at the first zero byte for C, so it has none.
-/

/-- The bytes of a string, up to its zero. -/
abbrev CString := { bytes : List UInt8 // (0 : UInt8) ∉ bytes }

/-- What the JSON library finds in a command. A topic that is missing or not a number is
0, and the others are missing when they are no strings. -/
structure MqttCommand where
  target : Option CString
  topic : ℚ
  message : Option CString
  encoding : Option CString

/-- A command that has passed the checks, as it is passed on. -/
structure AcceptedCommand where
  topic : UInt8
  targetDevice : Duid
  cmdMessage : CString
  /-- The message as it is sent: decoded, if it has an encoding. -/
  sendMessage : List UInt8
deriving DecidableEq

namespace MqttCommand

open DuckUtils SafeBase64

/-! ## The checks -/

/-- `tolower`, in the C locale. -/
def tolower (c : UInt8) : UInt8 := if 0x41 ≤ c ∧ c ≤ 0x5A then c + 0x20 else c

/-- `strcasecmp` finds no difference. -/
def sameText (s : CString) (text : String) : Bool := s.val.map tolower = (ascii text).map tolower

/-- The conversion of a `double` to `uint8_t`: the fraction is dropped. Of a number that
does not fit C says nothing. -/
def toUInt8 (undefinedCast : ℚ → UInt8) (topicNum : ℚ) : UInt8 :=
  if -1 < topicNum ∧ topicNum < 256 then UInt8.ofNat ⌊topicNum⌋₊ else undefinedCast topicNum

/-- `topicAllowed`. -/
def topicAllowed (undefinedCast : ℚ → UInt8) (topicNum : ℚ) : Bool :=
  20 ≤ topicNum || toUInt8 undefinedCast topicNum = 8

/-- `useDecoded`. -/
def useDecoded (encoding : Option CString) : Bool := encoding.any (sameText · "base64")

/-- The size of `decoded_message`. -/
def decodedMessageSize : ℕ := 512

/-- `send_message` with its length, unless it cannot be decoded. -/
def sendMessage (encoding : Option CString) (cmdMessage : CString) : Option (List UInt8) :=
  if useDecoded encoding then
    let (decodedLen, written) := safeB64Decode false false cmdMessage.val decodedMessageSize
    if decodedLen < 0 then none else some (written.take decodedLen.toNat)
  else some cmdMessage.val

/-- `target_device`: a short name is filled up with spaces. -/
def targetDevice (target : CString) : Duid :=
  if sameText target "BROADCAST" || sameText target "ALL" then broadcastDuid
  else Vector.ofFn fun i => target.val.getD i.val 0x20

/-- `mqtt_message_arrived`, up to the call of `hub_send_data`. -/
def accept (undefinedCast : ℚ → UInt8) (c : MqttCommand) : Option AcceptedCommand :=
  match c.target, c.message with
  | some target, some cmdMessage =>
    -- the topic is checked before the message is decoded
    if topicAllowed undefinedCast c.topic then
      (sendMessage c.encoding cmdMessage).map fun bytes =>
        ⟨toUInt8 undefinedCast c.topic, targetDevice target, cmdMessage, bytes⟩
    else none
  | _, _ => none

end MqttCommand

/-! ## Passing it on -/

namespace AcceptedCommand

open DuckUtils

variable {S J : Type*} {g : BloomGeometry} [LinearOrder S]

/-- The call of `hub_send_data`, which is taken to be defined. -/
def send (lib : ArduinoJson J) (env : DuckEnv) (millis : UInt64) (a : AcceptedCommand)
    (hub : TimedDuck S g) : ℤ × TimedDuck S g :=
  Hub.hubSendData lib env millis a.topic (some fun i => a.sendMessage.getD i 0)
    a.sendMessage.length (some a.targetDevice) hub

/-- A number as `%d` prints it. -/
def decimal (n : ℤ) : List UInt8 := ascii n.repr

/-- The response before the name of the target. -/
def responseHead (result : ℤ) : List UInt8 :=
  if result = 0 then ascii "\x7b\"status\":\"success\",\"target\":\""
  else ascii "\x7b\"status\":\"error\",\"code\":" ++ decimal result ++ ascii ",\"target\":\""

/-- The response as it is formatted: the name of the target has eight characters, the
message all it has. -/
def response (a : AcceptedCommand) (result : ℤ) : List UInt8 :=
  responseHead result ++ a.targetDevice.toList ++ ascii "\",\"topic\":" ++ decimal a.topic.toNat
    ++ ascii ",\"message\":\"" ++ a.cmdMessage.val ++ ascii "\"\x7d"

/-- The size of `response`. -/
def responseSize : ℕ := 512

end AcceptedCommand

/-- What a command leaves behind: what `hub_send_data` was called with, if it was, the
hub, and the store of messages with what has happened to it. -/
structure MqttArrival (S : Type*) (g : BloomGeometry) where
  call : Option AcceptedCommand
  hub : TimedDuck S g
  actions : List StoreAction
  store : MqttStore

section Arrival

variable {S J : Type*} {g : BloomGeometry} [LinearOrder S] (lib : ArduinoJson J) (env : DuckEnv)
  (millis : UInt64) (undefinedCast : ℚ → UInt8)

/-- `mqtt_message_arrived`. There is no command when the payload is empty, cannot be
copied or is not JSON. A response that has no room is not queued. -/
def mqttMessageArrived (responseTopic : List UInt8) (malloc : Bool) (command : Option MqttCommand)
    (hub : TimedDuck S g) (store : MqttStore) : MqttArrival S g :=
  match command.bind (MqttCommand.accept undefinedCast) with
  | none => ⟨none, hub, [], store⟩
  | some a =>
    let (result, hub) := a.send lib env millis hub
    let response := a.response result
    -- snprintf returns the length the whole response would have
    if 0 < response.length ∧ response.length < AcceptedCommand.responseSize then
      ⟨some a, hub, queueActions responseTopic response malloc store,
        (mqttQueueMessage responseTopic response malloc store).2⟩
    else ⟨some a, hub, [], store⟩

end Arrival

/-! ## Topics -/

namespace MqttCommand

open SafeBase64

variable (undefinedCast : ℚ → UInt8)

/-- **The documented topics**: 8, and the whole numbers from 20 to 255. -/
def Documented (topicNum : ℚ) : Prop := topicNum = 8 ∨ ∃ n : ℕ, 20 ≤ n ∧ n ≤ 255 ∧ topicNum = n

/-- **The message decodes**: if it is said to be Base64, it is, and it fits. -/
def Decodes (encoding : Option CString) (cmdMessage : CString) : Prop :=
  useDecoded encoding → IsBase64 (stripped cmdMessage.val)
    ∧ decodedLen (stripped cmdMessage.val) ≤ decodedMessageSize

variable {undefinedCast} {topicNum : ℚ}

theorem toNat_toUInt8 (hlow : -1 < topicNum) (hhigh : topicNum < 256) :
    (toUInt8 undefinedCast topicNum).toNat = ⌊topicNum⌋₊ := by
  have hlt : ⌊topicNum⌋₊ < 256 := Nat.floor_lt' (by decide) |>.mpr hhigh
  unfold toUInt8
  rw [if_pos ⟨hlow, hhigh⟩, UInt8.toNat_ofNat', Nat.mod_eq_of_lt hlt]

theorem floor_eq_eight_iff : ⌊topicNum⌋₊ = 8 ↔ 8 ≤ topicNum ∧ topicNum < 9 := by
  rw [Nat.floor_eq_iff' (by decide)]
  norm_num

/-- The conversion gives 8 for 8 and what is between 8 and 9, and for whatever C says
nothing of where it gives that. -/
theorem toUInt8_eq_eight_iff (h : topicNum < 20) : toUInt8 undefinedCast topicNum = 8
    ↔ (8 ≤ topicNum ∧ topicNum < 9) ∨ (topicNum ≤ -1 ∧ undefinedCast topicNum = 8) := by
  by_cases hlow : -1 < topicNum
  · rw [← UInt8.toNat_inj, toNat_toUInt8 hlow (h.trans (by norm_num))]
    show ⌊topicNum⌋₊ = 8 ↔ _
    rw [floor_eq_eight_iff]
    exact ⟨Or.inl, fun h => h.resolve_right fun hneg => absurd hlow (not_lt.mpr hneg.1)⟩
  · -- a number that does not fit, from below
    have hneg := not_lt.mp hlow
    unfold toUInt8
    rw [if_neg fun hfits => hlow hfits.1]
    refine ⟨fun hcast => Or.inr ⟨hneg, hcast⟩, fun h => (h.resolve_left fun hfloor => ?_).2⟩
    linarith [hfloor.1]

/-- **The topics that are allowed**: those from 20 on, and those that become 8. -/
theorem topicAllowed_iff : topicAllowed undefinedCast topicNum
    ↔ 20 ≤ topicNum ∨ (8 ≤ topicNum ∧ topicNum < 9)
      ∨ (topicNum ≤ -1 ∧ undefinedCast topicNum = 8) := by
  unfold topicAllowed
  rw [Bool.or_eq_true, decide_eq_true_iff, decide_eq_true_iff]
  by_cases h : 20 ≤ topicNum
  · exact iff_of_true (Or.inl h) (Or.inl h)
  · rw [toUInt8_eq_eight_iff (not_le.mp h)]

/-- **A topic that is passed on as it is** is a documented one, and the other way
round. -/
theorem documented_iff (undefinedCast : ℚ → UInt8) :
    Documented topicNum ↔ topicAllowed undefinedCast topicNum
      ∧ ((toUInt8 undefinedCast topicNum).toNat : ℚ) = topicNum := by
  constructor
  · rintro (rfl | ⟨n, hlow, hhigh, rfl⟩)
    · exact ⟨topicAllowed_iff.mpr (Or.inr (Or.inl ⟨le_refl _, by norm_num⟩)),
        congrArg Nat.cast ((toNat_toUInt8 (by norm_num) (by norm_num)).trans (by norm_num))⟩
    · have hlow' : (20 : ℚ) ≤ n := by exact_mod_cast hlow
      have hhigh' : (n : ℚ) < 256 := by exact_mod_cast Nat.lt_succ_of_le hhigh
      refine ⟨topicAllowed_iff.mpr (Or.inl hlow'), ?_⟩
      rw [toNat_toUInt8 (by linarith) hhigh', Nat.floor_natCast]
  · rintro ⟨hallowed, hsame⟩
    have hbyte := (toUInt8 undefinedCast topicNum).toNat_lt
    rw [topicAllowed_iff] at hallowed
    obtain hlow | hfloor | hneg := hallowed
    · refine Or.inr ⟨_, ?_, Nat.lt_succ_iff.mp hbyte, hsame.symm⟩
      rw [← hsame] at hlow
      exact_mod_cast hlow
    · refine Or.inl (hsame.symm.trans ?_)
      rw [toNat_toUInt8 (by linarith [hfloor.1]) (by linarith [hfloor.2]),
        floor_eq_eight_iff.mpr hfloor]
      norm_num
    · -- no byte is negative, whatever the conversion gives
      have hpos : (0 : ℚ) ≤ (toUInt8 undefinedCast topicNum).toNat := Nat.cast_nonneg _
      linarith [hneg.1]

/-! ## Messages and calls -/

/-- What is decoded is shorter than an `int` can say. -/
theorem sendMessage_isSome_iff (encoding : Option CString) (cmdMessage : CString) :
    (sendMessage encoding cmdMessage).isSome ↔ Decodes encoding cmdMessage := by
  unfold sendMessage Decodes
  by_cases huse : useDecoded encoding
  · rw [if_pos huse]
    dsimp only
    by_cases h : IsBase64 (stripped cmdMessage.val)
        ∧ decodedLen (stripped cmdMessage.val) ≤ decodedMessageSize
    · -- at most 512 bytes are decoded, so the length is returned as it is
      obtain ⟨bytes, hdecode, hlen⟩ := safeB64Decode_of_isBase64 h.1 h.2
      have hint : toInt bytes.length = bytes.length :=
        (toInt_eq_iff _).mpr ((hlen.trans_le h.2).trans_lt (by decide))
      rw [hdecode, hint, if_neg (Int.not_lt.mpr (Int.natCast_nonneg _))]
      exact iff_of_true rfl fun _ => h
    · rw [(safeB64Decode_of_not h).1, if_pos (by decide)]
      exact iff_of_false nofun fun hall => h (hall huse)
  · rw [if_neg huse]
    exact iff_of_true rfl fun h => absurd h huse

end MqttCommand

namespace Hub

variable {S J : Type*} {g : BloomGeometry} [LinearOrder S] (lib : ArduinoJson J) (env : DuckEnv)
  (millis : UInt64)

omit [LinearOrder S] in
theorem fst_sendPacket_ne (txPacket : CdpPacket) (node : TimedDuck S g) :
    (node.sendPacket env txPacket).1 ≠ duckpacketErrTopicInvalid := by
  by_cases h : txPacket.Sendable
  · rw [TimedDuck.fst_sendPacket env h]
    split_ifs <;> decide
  · rw [TimedDuck.sendPacket_of_not_sendable env h]
    show (-4000 : ℤ) ≠ -4001
    decide

/-- Data of a topic that is not reserved is not refused for its topic. -/
theorem fst_sendData_ne {topic : UInt8} (h : ¬ topic < ReservedTopic.maxReserved)
    (data : List UInt8) (targetDevice : Duid) (node : TimedDuck S g) :
    (node.sendData lib env millis topic data targetDevice).1 ≠ duckpacketErrTopicInvalid := by
  unfold TimedDuck.sendData TimedDuck.sendDataWith
  rw [if_neg h]
  dsimp only
  split_ifs
  · exact fst_sendPacket_ne env _ _
  all_goals
    show (0 : ℤ) ≠ -4001
    decide

/-- **What is refused as reserved**: a message of a length that is taken, of a reserved
topic. -/
theorem hubSendData_eq_topicInvalid_iff (topic : UInt8) (message : ℕ → UInt8) (length : ℤ)
    (targetDevice : Option Duid) (hub : TimedDuck S g) :
    (hubSendData lib env millis topic (some message) length targetDevice hub).1
        = duckpacketErrTopicInvalid
      ↔ (0 < length ∧ length ≤ 256) ∧ topic < ReservedTopic.maxReserved := by
  unfold hubSendData
  dsimp only
  by_cases hlength : length ≤ 0 ∨ 256 < length
  · rw [if_pos hlength]
    exact iff_of_false (show (-1 : ℤ) ≠ -4001 by decide) fun h => by omega
  · rw [if_neg hlength]
    by_cases htopic : topic < ReservedTopic.maxReserved
    · refine iff_of_true ?_ ⟨by omega, htopic⟩
      unfold TimedDuck.sendData TimedDuck.sendDataWith
      rw [if_pos htopic]
      exact congrArg Prod.fst (if_pos (show duckpacketErrTopicInvalid ≠ duckErrNone by decide))
    · refine iff_of_false ?_ fun h => htopic h.2
      have hne := fst_sendData_ne lib env millis htopic ((List.range length.toNat).map message)
        (targetDevice.getD broadcastDuid) hub
      split_ifs
      · exact hne
      · show (0 : ℤ) ≠ -4001
        decide

end Hub

namespace MqttCommand

variable {S J : Type*} {g : BloomGeometry} [LinearOrder S] (lib : ArduinoJson J) (env : DuckEnv)
  (millis : UInt64) (undefinedCast : ℚ → UInt8) (responseTopic : List UInt8) (malloc : Bool)

/-! ## Which topics are treated as documented -/

/-- **A topic is treated as documented**: it reaches the hub as it is exactly when it is
a documented one with a message that decodes, the hub does not refuse a documented topic
as reserved, and any other is rejected: the hub is not called, and nothing is changed. -/
structure TopicRight (topicNum : ℚ) (target cmdMessage : CString) (encoding : Option CString)
    (hub : TimedDuck S g) (store : MqttStore) : Prop where
  called :
    (∃ a, (mqttMessageArrived lib env millis undefinedCast responseTopic malloc
        (some ⟨some target, topicNum, some cmdMessage, encoding⟩) hub store).call = some a
      ∧ (a.topic.toNat : ℚ) = topicNum) ↔ Documented topicNum ∧ Decodes encoding cmdMessage
  notReserved : Documented topicNum → ∀ a,
    (mqttMessageArrived lib env millis undefinedCast responseTopic malloc
        (some ⟨some target, topicNum, some cmdMessage, encoding⟩) hub store).call = some a →
      (a.send lib env millis hub).1 ≠ duckpacketErrTopicInvalid
  rejected : ¬ Documented topicNum →
    mqttMessageArrived lib env millis undefinedCast responseTopic malloc
        (some ⟨some target, topicNum, some cmdMessage, encoding⟩) hub store
      = ⟨none, hub, [], store⟩

/-- The call of a command is what is accepted of it. -/
theorem call_mqttMessageArrived (command : Option MqttCommand) (hub : TimedDuck S g)
    (store : MqttStore) :
    (mqttMessageArrived lib env millis undefinedCast responseTopic malloc command hub store).call
      = command.bind (accept undefinedCast) := by
  unfold mqttMessageArrived
  cases command.bind (accept undefinedCast) with
  | none => rfl
  | some a =>
    dsimp only
    split_ifs <;> rfl

/-- A command that is not accepted leaves everything as it is. -/
theorem mqttMessageArrived_of_none {command : Option MqttCommand} (hub : TimedDuck S g)
    (store : MqttStore) (h : command.bind (accept undefinedCast) = none) :
    mqttMessageArrived lib env millis undefinedCast responseTopic malloc command hub store
      = ⟨none, hub, [], store⟩ := by
  unfold mqttMessageArrived
  rw [h]

section Topics

variable {undefinedCast} {topicNum : ℚ} {target cmdMessage : CString} {encoding : Option CString}

/-- **What is accepted** is what has been checked: the topic converted and the message as
it is sent. -/
theorem accept_eq_some_iff {a : AcceptedCommand} :
    accept undefinedCast ⟨some target, topicNum, some cmdMessage, encoding⟩ = some a
      ↔ topicAllowed undefinedCast topicNum ∧ ∃ bytes, sendMessage encoding cmdMessage = some bytes
        ∧ a = ⟨toUInt8 undefinedCast topicNum, targetDevice target, cmdMessage, bytes⟩ := by
  show (if topicAllowed undefinedCast topicNum then _ else none) = some a ↔ _
  by_cases hallowed : topicAllowed undefinedCast topicNum
  · rw [if_pos hallowed, Option.map_eq_some_iff]
    exact ⟨fun ⟨bytes, hbytes, ha⟩ => ⟨hallowed, bytes, hbytes, ha.symm⟩,
      fun ⟨_, bytes, hbytes, ha⟩ => ⟨bytes, hbytes, ha.symm⟩⟩
  · rw [if_neg hallowed]
    exact iff_of_false (Option.some_ne_none a).symm fun h => hallowed h.1

/-- Nothing is accepted when the topic is not allowed or the message does not decode. -/
theorem accept_eq_none_iff :
    accept undefinedCast ⟨some target, topicNum, some cmdMessage, encoding⟩ = none
      ↔ ¬ (topicAllowed undefinedCast topicNum ∧ Decodes encoding cmdMessage) := by
  rw [← sendMessage_isSome_iff, Option.isSome_iff_exists, Option.eq_none_iff_forall_not_mem]
  refine ⟨fun h ⟨hallowed, bytes, hbytes⟩ => h _ (accept_eq_some_iff.mpr
    ⟨hallowed, bytes, hbytes, rfl⟩), fun h a ha => ?_⟩
  obtain ⟨hallowed, bytes, hbytes, -⟩ := accept_eq_some_iff.mp ha
  exact h ⟨hallowed, bytes, hbytes⟩

variable (undefinedCast encoding cmdMessage topicNum) in
/-- **The topics that are treated as documented**: the whole numbers from 20 to 255; 8
with a message that is not of a length that is taken; and the numbers below 20 that do
not become 8. With a message that does not decode all of them are. -/
def TreatedRight : Prop :=
  ¬ Decodes encoding cmdMessage ∨ (∃ n : ℕ, 20 ≤ n ∧ n ≤ 255 ∧ topicNum = n)
    ∨ (topicNum = 8 ∧ ∀ bytes, sendMessage encoding cmdMessage = some bytes →
        bytes.length = 0 ∨ 256 < bytes.length)
    ∨ (topicNum < 20 ∧ ¬ (8 ≤ topicNum ∧ topicNum < 9)
        ∧ (topicNum ≤ -1 → undefinedCast topicNum ≠ 8))

/-- A documented topic that decodes is called as it is, and nothing else. -/
theorem called_iff : (∃ a,
      accept undefinedCast ⟨some target, topicNum, some cmdMessage, encoding⟩ = some a
        ∧ (a.topic.toNat : ℚ) = topicNum) ↔ Documented topicNum ∧ Decodes encoding cmdMessage := by
  rw [documented_iff undefinedCast, ← sendMessage_isSome_iff,
    Option.isSome_iff_exists]
  constructor
  · rintro ⟨a, ha, hsame⟩
    obtain ⟨hallowed, bytes, hbytes, rfl⟩ := accept_eq_some_iff.mp ha
    exact ⟨⟨hallowed, hsame⟩, bytes, hbytes⟩
  · rintro ⟨⟨hallowed, hsame⟩, bytes, hbytes⟩
    exact ⟨_, accept_eq_some_iff.mpr ⟨hallowed, bytes, hbytes, rfl⟩, hsame⟩

/-- The reserved topic that is documented is refused, and no other documented one. -/
theorem send_eq_topicInvalid_iff (hdoc : Documented topicNum) {a : AcceptedCommand}
    (ha : accept undefinedCast ⟨some target, topicNum, some cmdMessage, encoding⟩ = some a)
    (hub : TimedDuck S g) : (a.send lib env millis hub).1 = duckpacketErrTopicInvalid
      ↔ topicNum = 8 ∧ 0 < a.sendMessage.length ∧ a.sendMessage.length ≤ 256 := by
  obtain ⟨-, bytes, -, rfl⟩ := accept_eq_some_iff.mp ha
  have hsame := (documented_iff undefinedCast).mp hdoc |>.2
  have hreserved :
      toUInt8 undefinedCast topicNum < ReservedTopic.maxReserved ↔ topicNum = 8 := by
    rw [UInt8.lt_iff_toNat_lt]
    show (toUInt8 undefinedCast topicNum).toNat < 15 ↔ _
    obtain rfl | ⟨n, hlow, -, rfl⟩ := hdoc
    · have height : (toUInt8 undefinedCast 8).toNat = 8 := by exact_mod_cast hsame
      rw [height]
      exact iff_of_true (by decide) rfl
    · have hn : (toUInt8 undefinedCast n).toNat = n := by exact_mod_cast hsame
      rw [hn]
      refine iff_of_false (by omega) fun h => ?_
      have : n = 8 := by exact_mod_cast h
      omega
  unfold AcceptedCommand.send
  rw [Hub.hubSendData_eq_topicInvalid_iff, hreserved]
  show (0 < (bytes.length : ℤ) ∧ (bytes.length : ℤ) ≤ 256) ∧ topicNum = 8
    ↔ topicNum = 8 ∧ 0 < bytes.length ∧ bytes.length ≤ 256
  rw [and_comm]
  exact and_congr_right' (and_congr (by omega) (by omega))

/-- What that comes to: an undocumented topic is not allowed, and 8 is not sent, unless the
message does not decode. -/
theorem treatedRight_iff : TreatedRight undefinedCast topicNum cmdMessage encoding ↔
    (¬ Documented topicNum → ¬ (topicAllowed undefinedCast topicNum ∧ Decodes encoding cmdMessage))
      ∧ (topicNum = 8 → ∀ bytes, sendMessage encoding cmdMessage = some bytes →
        bytes.length = 0 ∨ 256 < bytes.length) := by
  have hdecodes : ∀ bytes, sendMessage encoding cmdMessage = some bytes →
      Decodes encoding cmdMessage := fun bytes hbytes =>
    (sendMessage_isSome_iff _ _).mp (Option.isSome_iff_exists.mpr ⟨bytes, hbytes⟩)
  constructor
  · rintro (hnot | hwhole | ⟨height, hunsent⟩ | ⟨hlow, hfloor, hcast⟩)
    · exact ⟨fun _ h => hnot h.2, fun _ bytes hbytes => absurd (hdecodes bytes hbytes) hnot⟩
    · refine ⟨fun hdoc => absurd (Or.inr hwhole) hdoc, ?_⟩
      rintro rfl
      obtain ⟨n, hlow, -, hn⟩ := hwhole
      have height : 8 = n := by exact_mod_cast hn
      omega
    · exact ⟨fun hdoc => absurd (Or.inl height) hdoc, fun _ => hunsent⟩
    · refine ⟨fun _ ⟨hallowed, _⟩ => ?_, ?_⟩
      · obtain hhigh | hin | ⟨hneg, heq⟩ := topicAllowed_iff.mp hallowed
        · exact absurd hlow (not_lt.mpr hhigh)
        · exact hfloor hin
        · exact hcast hneg heq
      · rintro rfl
        exact absurd ⟨le_refl _, by norm_num⟩ hfloor
  · rintro ⟨hreject, hunsent⟩
    -- of a message that does not decode nothing is asked
    by_cases hdec : Decodes encoding cmdMessage
    swap
    · exact Or.inl hdec
    by_cases hdoc : Documented topicNum
    · obtain height | hwhole := hdoc
      · exact Or.inr (Or.inr (Or.inl ⟨height, hunsent height⟩))
      · exact Or.inr (Or.inl hwhole)
    · have hallowed := fun hallowed => hreject hdoc ⟨hallowed, hdec⟩
      rw [topicAllowed_iff] at hallowed
      obtain ⟨hlow, hfloor, hcast⟩ := not_or.mp hallowed |>.imp_right not_or.mp
      exact Or.inr (Or.inr (Or.inr ⟨not_le.mp hlow, hfloor, fun hneg h => hcast ⟨hneg, h⟩⟩))

/-- **A topic is treated as documented exactly when** it is a whole number from 20 to
255, or is 8 and the message is of a length the hub does not take, or does not become 8
from below 20, or the message does not decode. -/
theorem topicRight_iff (topicNum : ℚ) (target cmdMessage : CString) (encoding : Option CString)
    (hub : TimedDuck S g) (store : MqttStore) :
    TopicRight lib env millis undefinedCast responseTopic malloc topicNum target cmdMessage
        encoding hub store
      ↔ TreatedRight undefinedCast topicNum cmdMessage encoding := by
  have hcall := call_mqttMessageArrived lib env millis undefinedCast responseTopic malloc
    (some ⟨some target, topicNum, some cmdMessage, encoding⟩) hub store
  rw [treatedRight_iff]
  constructor
  · intro h
    refine ⟨fun hdoc => ?_, fun height bytes hbytes => ?_⟩
    · exact accept_eq_none_iff.mp
        (hcall.symm.trans (congrArg MqttArrival.call (h.rejected hdoc)))
    · have hdoc : Documented topicNum := Or.inl height
      -- topic 8 is documented, and such a command is accepted
      have ha : accept undefinedCast ⟨some target, topicNum, some cmdMessage, encoding⟩
          = some ⟨toUInt8 undefinedCast topicNum, targetDevice target, cmdMessage, bytes⟩ :=
        accept_eq_some_iff.mpr ⟨((documented_iff undefinedCast).mp hdoc).1, bytes, hbytes, rfl⟩
      have hne := h.notReserved hdoc _ (hcall.trans ha)
      rw [ne_eq, send_eq_topicInvalid_iff lib env millis hdoc ha] at hne
      have hlength : ¬ (0 < bytes.length ∧ bytes.length ≤ 256) := fun h => hne ⟨height, h⟩
      omega
  · rintro ⟨hreject, hunsent⟩
    refine ⟨?_, fun hdoc a ha => ?_, fun hdoc => ?_⟩
    · rw [hcall]
      exact called_iff
    · rw [hcall] at ha
      rw [ne_eq, send_eq_topicInvalid_iff lib env millis hdoc ha]
      obtain ⟨-, bytes, hbytes, rfl⟩ := accept_eq_some_iff.mp ha
      rintro ⟨height, hpos, hle⟩
      obtain hzero | hlong := hunsent height bytes hbytes
      · exact hpos.ne' hzero
      · exact not_lt.mpr hle hlong
    · exact mqttMessageArrived_of_none lib env millis undefinedCast responseTopic malloc hub store
        (accept_eq_none_iff.mpr (hreject hdoc))

end Topics

/-- **A topic with a fraction is not rejected**: 20.5 is passed on as 20. -/
theorem topicRight_not_forall : ¬ ∀ (undefinedCast : ℚ → UInt8) (topicNum : ℚ)
    (target cmdMessage : CString), TopicRight ArduinoJson.text PapaDuck.env₀ 0 undefinedCast [] true
      topicNum target cmdMessage none Hub.newHub MqttStore.init := by
  intro h
  have hdoc : ¬ Documented (41 / 2) := by
    rintro (h8 | ⟨n, -, -, hn⟩)
    · norm_num at h8
    · have htwice : 2 * (n : ℚ) = 41 := by
        rw [← hn]
        norm_num
      have : 2 * n = 41 := by exact_mod_cast htwice
      omega
  have hnone := congrArg MqttArrival.call
    ((h (fun _ => 0) (41 / 2) ⟨[0x41], by decide⟩ ⟨[0x42], by decide⟩).rejected hdoc)
  rw [call_mqttMessageArrived] at hnone
  refine (@accept_eq_none_iff (fun _ => 0) _ _ _ _).mp hnone ⟨?_, ?_⟩
  · exact topicAllowed_iff.mpr (Or.inl (by norm_num))
  · exact fun huse => absurd huse Bool.false_ne_true

end MqttCommand
