import MeshBeacon.RouteHandlers
import MeshBeacon.SafeBase64

/-!
# What the hub publishes

Of every packet the hub gets it publishes a document. Of a route packet it has the
path, of any other the message: the data of the packet, or the text of it when the
data is a known message in protocol buffers. The data of the encrypted topics begins
with the topic that the message is really about, which is taken off.

Data that is no text is put into the document in Base64, and the member `encoding`
says so. The consumer of the document looks at that member, and has the data again.

The libraries for JSON and for protocol buffers are parameters. What is needed of
the one for JSON is that the two members are read as they were assigned.
-/

variable {J : Type*}

/-! ## Topics -/

namespace Topics

def status : UInt8 := 0x10
def cpm : UInt8 := 0x11
def sensor : UInt8 := 0x13
def alert : UInt8 := 0x14
def health : UInt8 := 0x15
def dcmd : UInt8 := 0x16
def encryptedCmd : UInt8 := 0x1B
def sealedUplink : UInt8 := 0x1C
def identityAnnounce : UInt8 := 0x1D
def encryptedData : UInt8 := 0x1E
def groupBroadcast : UInt8 := 0x1F
def gps : UInt8 := 0xEA
def mq7 : UInt8 := 0xEF
def gp2y : UInt8 := 0xFA
def bmp280 : UInt8 := 0xFB
def dht11 : UInt8 := 0xFC
def pir : UInt8 := 0xFD
def bmp180 : UInt8 := 0xFE

end Topics

/-- The names of `topicToString`. -/
def topicNames : List (UInt8 × String) :=
  [(ReservedTopic.rreq, "rreq"), (ReservedTopic.rrep, "rrep"), (Topics.status, "status"),
    (Topics.cpm, "cpm"), (Topics.gps, "gps"), (Topics.sensor, "sensor"), (Topics.alert, "alert"),
    (Topics.health, "health"), (Topics.dcmd, "dcmd"), (Topics.mq7, "mq7"), (Topics.gp2y, "gp2y"),
    (Topics.bmp280, "bmp280"), (Topics.dht11, "dht11"), (Topics.pir, "pir"),
    (Topics.bmp180, "bmp180"), (ReservedTopic.ping, "ping"), (ReservedTopic.pong, "pong"),
    (Topics.encryptedCmd, "encrypted_cmd"), (Topics.sealedUplink, "sealed_uplink"),
    (Topics.identityAnnounce, "identity_announce"), (Topics.encryptedData, "encrypted_data"),
    (Topics.groupBroadcast, "group_broadcast")]

/-- `topicToString`. -/
def topicToString (topic : UInt8) : List UInt8 :=
  DuckUtils.ascii ((topicNames.lookup topic).getD "unknown")

namespace Report

open DuckUtils SafeBase64

/-! ## Documents -/

/-- The value of a member. -/
inductive JsonValue where
  | text (value : List UInt8)
  | number (value : ℕ)
  | boolean (value : Bool)
  | array (elements : List (List UInt8))
deriving DecidableEq

/-- The members of an object, in order. -/
abbrev JsonMembers := List (String × JsonValue)

/-- Assigning to a member, which stays in its place, or comes behind the others. -/
def assign (key : String) (value : JsonValue) : JsonMembers → JsonMembers
  | [] => [(key, value)]
  | (key', value') :: members =>
    if key' = key then (key, value) :: members else (key', value') :: assign key value members

/-- `JsonDocument`: the members of the document, and those of its member `payload`, which
comes last. -/
structure JsonDocument where
  members : JsonMembers
  payload : JsonMembers
deriving DecidableEq

/-- Assigning to a member of `payload`. -/
def JsonDocument.setPayload (doc : JsonDocument) (key : String) (value : JsonValue) :
    JsonDocument :=
  { doc with payload := assign key value doc.payload }

/-- The text a member of `payload` holds. -/
def JsonDocument.payloadText (doc : JsonDocument) (key : String) : Option (List UInt8) :=
  match doc.payload.lookup key with
  | some (.text value) => some value
  | _ => none

/-! ## The message -/

/-- `is_safe_json_text`, with whether the pointer is null. -/
def isSafeJsonText (dataNull : Bool) (data : List UInt8) : Bool :=
  if dataNull then data.length = 0
  else data.all fun c =>
    if c = 0x09 ∨ c = 0x0A ∨ c = 0x0D then true
    else !(c < 0x20 || c = 0x7F || 0x80 ≤ c)

/-- The messages in protocol buffers. -/
inductive PayloadKind where
  | gpsReading | sosAlert | statusReport | healthStatus | mTalk | opText
deriving DecidableEq

/-- The message of a topic. -/
def payloadKind (topic : UInt8) : Option PayloadKind :=
  if topic = Topics.gps then some .gpsReading
  else if topic = Topics.alert then some .sosAlert
  else if topic = Topics.status then some .statusReport
  else if topic = Topics.health then some .healthStatus
  else if topic = 26 then some .mTalk
  else if topic = 22 ∨ topic = 23 ∨ topic = 24 ∨ topic = 25 then some .opText
  else none

/-- What the library for protocol buffers makes of a message: its text, if it is one. -/
abbrev Protobuf := PayloadKind → List UInt8 → Option (List UInt8)

/-- `isProtobuf`: the data begins with `Format::kProtobuf`. -/
def isProtobuf (data : List UInt8) : Bool := data.head? = some 0x01

/-- `decodeWithMarker`, and the text of what it reads. -/
def decodeWithMarker (proto : Protobuf) (kind : PayloadKind) (data : List UInt8) :
    Option (List UInt8) :=
  if isProtobuf data then proto kind data.tail else none

/-- The text of a message in protocol buffers. -/
def legacyText (proto : Protobuf) (topic : UInt8) (message : List UInt8) :
    Option (List UInt8) :=
  if isProtobuf message then
    (payloadKind topic).bind fun kind => decodeWithMarker proto kind message
  else none

/-- The message is put into the document. -/
def embedMessage (message : List UInt8) (doc : JsonDocument) : JsonDocument :=
  if isSafeJsonText false message then doc.setPayload "Message" (.text (cText message))
  else
    let (encodedLen, encoded) :=
      safeB64Encode false false message (safeB64EncodedLen message.length + 1)
    if encodedLen < 0 then doc.setPayload "Message" (.text [])
    else
      (doc.setPayload "Message" (.text (cText encoded))).setPayload "encoding"
        (.text (ascii "base64"))

/-- The topic of the packet is one of those that go before the real one. -/
def IsEncrypted (cdpPacket : CdpPacket) : Prop :=
  cdpPacket.topic = Topics.sealedUplink ∨ cdpPacket.topic = Topics.encryptedData

instance (cdpPacket : CdpPacket) : Decidable (IsEncrypted cdpPacket) :=
  inferInstanceAs (Decidable (_ ∨ _))

/-- The message of a packet, and the document with its real topic. -/
def selectMessage (cdpPacket : CdpPacket) (doc : JsonDocument) : List UInt8 × JsonDocument :=
  match cdpPacket.data with
  | realTopic :: rest =>
    if IsEncrypted cdpPacket then
      (rest, { doc with
        members := assign "eventType" (.text (topicToString realTopic)) doc.members }.setPayload
          "transport" (.text (topicToString cdpPacket.topic)))
    else (cdpPacket.data, doc)
  | [] => ([], doc)

/-! ## The report -/

/-- What every document has. -/
def heading (cdpPacket : CdpPacket) : JsonDocument where
  members :=
    [("from", .text (ascii "hub")), ("to", .text (ascii "controller")), ("RE", .boolean false),
      ("eventType", .text (topicToString cdpPacket.topic)),
      ("MessageID", .text (cText cdpPacket.muid.toList))]
  payload :=
    [("hops", .number cdpPacket.hopCount.toNat), ("duckType", .number cdpPacket.duckType.toNat),
      ("DeviceID", .text (cText cdpPacket.sduid.toList))]

/-- The document of a packet that is no route packet. -/
def messageReport (proto : Protobuf) (cdpPacket : CdpPacket) : JsonDocument :=
  let (message, doc) := selectMessage cdpPacket (heading cdpPacket)
  embedMessage ((legacyText proto cdpPacket.topic message).getD message) doc

/-- `processMessageFromDucks`: the document that is published. -/
def processMessageFromDucks (lib : ArduinoJson J) (proto : Protobuf) (cdpPacket : CdpPacket) :
    Option JsonDocument :=
  if cdpPacket.IsRoute then
    (routePayload lib cdpPacket).map fun route =>
      (((heading cdpPacket).setPayload "origin" (.text route.origin)).setPayload "destination"
        (.text route.destination)).setPayload "path" (.array route.path)
  else some (messageReport proto cdpPacket)

/-! ## The consumer -/

/-- The texts of documents: how the library writes one, and how the consumer reads a
member of the payload. -/
structure JsonText where
  serializeJson : JsonDocument → List UInt8
  payloadText : List UInt8 → String → Option (List UInt8)

/-- **The text carries the document**: the consumer reads the message and its encoding as
they were assigned. -/
def JsonText.Carries (json : JsonText) (doc : JsonDocument) : Prop :=
  ∀ key ∈ ["Message", "encoding"],
    json.payloadText (json.serializeJson doc) key = doc.payloadText key

/-- The bytes of a text in Base64. -/
def fromBase64 (text : List UInt8) : Option (List UInt8) :=
  let (length, bytes) := safeB64Decode false false text text.length
  if 0 ≤ length then some bytes else none

/-- **The data the consumer recovers** from a published text. -/
def recover (json : JsonText) (text : List UInt8) : Option (List UInt8) :=
  (json.payloadText text "Message").bind fun message =>
    if json.payloadText text "encoding" = some (ascii "base64") then fromBase64 message
    else some message

/-- **What the consumer should have**: the data, without the topic before it. -/
def sentData (cdpPacket : CdpPacket) : List UInt8 :=
  if IsEncrypted cdpPacket then cdpPacket.data.tail else cdpPacket.data

/-! ## Members -/

/-- A member holds what was assigned to it, and the others what they have held. -/
theorem lookup_assign (key key' : String) (value : JsonValue) (members : JsonMembers) :
    (assign key value members).lookup key'
      = if key' = key then some value else members.lookup key' := by
  induction members with
  | nil =>
    unfold assign
    by_cases h : key' = key
    · rw [if_pos h, h, List.lookup_cons_self]
    · rw [if_neg h, List.lookup_cons, beq_false_of_ne h]
  | cons member members ih =>
    obtain ⟨k, v⟩ := member
    unfold assign
    by_cases hk : k = key
    · rw [if_pos hk, hk]
      by_cases h : key' = key
      · rw [if_pos h, h, List.lookup_cons_self]
      · rw [if_neg h, List.lookup_cons, List.lookup_cons, beq_false_of_ne h]
    · rw [if_neg hk, List.lookup_cons, List.lookup_cons, ih]
      by_cases h : key' = key
      · rw [h, beq_false_of_ne (Ne.symm hk), if_pos rfl]
      · rw [if_neg h, if_neg h]

@[simp]
theorem payloadText_setPayload_self (doc : JsonDocument) (key : String) (value : List UInt8) :
    (doc.setPayload key (.text value)).payloadText key = some value := by
  unfold JsonDocument.payloadText JsonDocument.setPayload
  rw [lookup_assign, if_pos rfl]

theorem payloadText_setPayload_of_ne (doc : JsonDocument) {key key' : String} (value : JsonValue)
    (h : key' ≠ key) : (doc.setPayload key value).payloadText key' = doc.payloadText key' := by
  unfold JsonDocument.payloadText JsonDocument.setPayload
  rw [lookup_assign, if_neg h]

/-! ## The message is recovered -/

/-- What is safe text has no zero, so it is not cut off. -/
theorem cText_of_isSafeJsonText {message : List UInt8} (h : isSafeJsonText false message) :
    cText message = message := by
  refine List.takeWhile_eq_self_iff.mpr fun c hc => ?_
  have hsafe := List.all_eq_true.mp h c hc
  rw [decide_eq_true_eq]
  rintro rfl
  exact absurd hsafe (by decide)

theorem cText_encodeQuanta (message : List UInt8) :
    cText (encodeQuanta message ++ [0]) = encodeQuanta message := by
  have hnonzero : ∀ c ∈ encodeQuanta message, c ≠ 0 := by
    intro c hc
    obtain hchar | hpad := (padded_encodeQuanta message).mem hc
    · rintro rfl
      exact absurd hchar (by decide +kernel)
    · rw [hpad]
      decide
  unfold cText
  rw [List.takeWhile_append_of_pos fun c hc => decide_eq_true (hnonzero c hc),
    List.takeWhile_cons_of_neg (by decide), List.append_nil]

theorem fromBase64_encodeQuanta {message : List UInt8}
    (h : safeB64EncodedLen message.length < 2 ^ 31) :
    fromBase64 (encodeQuanta message) = some message := by
  have hlen := length_encodeQuanta message
  unfold safeB64EncodedLen at h hlen
  unfold fromBase64
  rw [safeB64Decode_encodeQuanta (by omega), (toInt_eq_iff _).mpr (by omega)]
  exact if_pos (Int.natCast_nonneg _)

theorem embedMessage_of_text {message : List UInt8} (doc : JsonDocument)
    (h : isSafeJsonText false message) :
    embedMessage message doc = doc.setPayload "Message" (.text message) := by
  unfold embedMessage
  rw [if_pos h, cText_of_isSafeJsonText h]

theorem embedMessage_of_binary {message : List UInt8} (doc : JsonDocument)
    (h : ¬ isSafeJsonText false message) (hlen : safeB64EncodedLen message.length < 2 ^ 31) :
    embedMessage message doc = (doc.setPayload "Message" (.text (encodeQuanta message))).setPayload
      "encoding" (.text (ascii "base64")) := by
  rw [← length_encodeQuanta] at hlen
  unfold embedMessage
  rw [if_neg h, safeB64Encode_of_le (Nat.le_refl _), (toInt_eq_iff _).mpr hlen]
  dsimp only
  rw [if_neg (Int.not_lt.mpr (Int.natCast_nonneg _)), cText_encodeQuanta]

/-- **What is embedded is recovered**, in a document that has no encoding before. -/
theorem recover_embedMessage (json : JsonText) {message : List UInt8} {doc : JsonDocument}
    (h : safeB64EncodedLen message.length < 2 ^ 31) (hnone : doc.payloadText "encoding" = none)
    (hjson : json.Carries (embedMessage message doc)) :
    recover json (json.serializeJson (embedMessage message doc)) = some message := by
  have hmessage := hjson "Message" (by decide)
  have hencoding := hjson "encoding" (by decide)
  have hne : ("encoding" : String) ≠ "Message" := by decide
  by_cases htext : isSafeJsonText false message
  · rw [embedMessage_of_text doc htext] at hmessage hencoding ⊢
    rw [payloadText_setPayload_self] at hmessage
    rw [payloadText_setPayload_of_ne _ _ hne, hnone] at hencoding
    unfold recover
    rw [hmessage, hencoding, Option.bind_some, if_neg (Option.some_ne_none _).symm]
  · rw [embedMessage_of_binary doc htext h] at hmessage hencoding ⊢
    rw [payloadText_setPayload_of_ne _ _ hne.symm, payloadText_setPayload_self] at hmessage
    rw [payloadText_setPayload_self] at hencoding
    unfold recover
    rw [hmessage, hencoding, Option.bind_some, if_pos rfl, fromBase64_encodeQuanta h]

/-- The message of a packet is what the consumer should have, and the document has no
encoding. -/
theorem selectMessage_heading (cdpPacket : CdpPacket) :
    (selectMessage cdpPacket (heading cdpPacket)).1 = sentData cdpPacket
      ∧ (selectMessage cdpPacket (heading cdpPacket)).2.payloadText "encoding" = none := by
  unfold selectMessage sentData
  cases hdata : cdpPacket.data with
  | nil => exact ⟨by split_ifs <;> rfl, rfl⟩
  | cons realTopic rest =>
    dsimp only
    split_ifs
    · exact ⟨rfl, rfl⟩
    · exact ⟨rfl, rfl⟩

/-- **The report is lossless**: of every packet read from a frame whose size is of 16
bits, except for those of routes and for messages in protocol buffers, the consumer
recovers the data. -/
theorem recover_processMessageFromDucks (lib : ArduinoJson J) (proto : Protobuf) (json : JsonText)
    (frame : List UInt8) (hsize : frame.length < 2 ^ 16)
    (hroute : ¬ (CdpPacket.ofBuffer frame).IsRoute)
    (hproto : legacyText proto (CdpPacket.ofBuffer frame).topic
      (sentData (CdpPacket.ofBuffer frame)) = none)
    (hjson : ∀ doc, processMessageFromDucks lib proto (CdpPacket.ofBuffer frame) = some doc →
      json.Carries doc) :
    ∃ doc, processMessageFromDucks lib proto (CdpPacket.ofBuffer frame) = some doc
      ∧ recover json (json.serializeJson doc) = some (sentData (CdpPacket.ofBuffer frame)) := by
  have hdoc : processMessageFromDucks lib proto (CdpPacket.ofBuffer frame)
      = some (messageReport proto (CdpPacket.ofBuffer frame)) := if_neg hroute
  have hcarries := hjson _ hdoc
  have hlen : (sentData (CdpPacket.ofBuffer frame)).length ≤ frame.length := by
    unfold sentData CdpPacket.ofBuffer
    dsimp only
    split_ifs <;> simp only [List.length_tail, List.length_drop] <;> omega
  obtain ⟨hmessage, hnone⟩ := selectMessage_heading (CdpPacket.ofBuffer frame)
  refine ⟨_, hdoc, ?_⟩
  unfold messageReport at hcarries ⊢
  dsimp only at hcarries ⊢
  rw [hmessage, hproto, Option.getD_none] at hcarries ⊢
  refine recover_embedMessage json ?_ hnone hcarries
  unfold safeB64EncodedLen
  omega

/-! ## A library for JSON -/

/-- The character in a string, as the library escapes it. -/
def escape (c : UInt8) : List UInt8 :=
  if c = 0x22 ∨ c = 0x5C then [0x5C, c]
  else if c = 0x09 then ascii "\\t"
  else if c = 0x0A then ascii "\\n"
  else if c = 0x0D then ascii "\\r"
  else [c]

/-- The character after a backslash. -/
def unescape (c : UInt8) : UInt8 :=
  if c = 0x74 then 0x09 else if c = 0x6E then 0x0A else if c = 0x72 then 0x0D else c

/-- The JSON of a value. -/
def writeValue : JsonValue → List UInt8
  | .text value => FlatJson.quoted (value.flatMap escape)
  | .number value => ascii (Nat.repr value)
  | .boolean value => ascii (if value then "true" else "false")
  | .array elements =>
    ascii "[" ++ FlatJson.separated (elements.map fun text => FlatJson.quoted (text.flatMap escape))
      ++ ascii "]"

/-- The JSON of an object whose members have been written. -/
def writeObject (members : List (String × List UInt8)) : List UInt8 :=
  ascii "\x7b"
    ++ FlatJson.separated (members.map fun member =>
      FlatJson.quoted (ascii member.1) ++ ascii ":" ++ member.2)
    ++ ascii "\x7d"

/-- A string up to its closing quote. -/
def readString : List UInt8 → Option (List UInt8)
  | 0x5C :: c :: rest => (readString rest).map (unescape c :: ·)
  | c :: rest => if c = 0x22 then some [] else (readString rest).map (c :: ·)
  | [] => none

/-- The string behind the first member of a name. -/
def readMember (opening : List UInt8) : List UInt8 → Option (List UInt8)
  | [] => none
  | c :: rest =>
    if opening.isPrefixOf (c :: rest) then readString ((c :: rest).drop opening.length)
    else readMember opening rest

/-- A library that is good enough for the members of the payload, whose names are not
those of other members. -/
def JsonText.plain : JsonText where
  serializeJson doc :=
    writeObject ((doc.members.map fun member => (member.1, writeValue member.2))
      ++ [("payload", writeObject (doc.payload.map fun member => (member.1, writeValue member.2)))])
  payloadText text key := readMember (FlatJson.quoted (ascii key) ++ ascii ":\"") text

/-- The frame of a sealed alert, with zeros in it. -/
def sealedFrame : List UInt8 :=
  List.replicate 20 0x41 ++ [Topics.sealedUplink, 0x04, 0x02, 0x00, 0x00, 0x00, 0x00]
    ++ [Topics.alert, 0x00, 0x22, 0xFF, 0x00]

/-- What is sealed is recovered without its topic. -/
theorem recover_processMessageFromDucks_sealed :
    ∃ doc, processMessageFromDucks ArduinoJson.flat (fun _ _ => none)
        (CdpPacket.ofBuffer sealedFrame) = some doc
      ∧ recover JsonText.plain (JsonText.plain.serializeJson doc)
        = some (sentData (CdpPacket.ofBuffer sealedFrame)) :=
  recover_processMessageFromDucks ArduinoJson.flat (fun _ _ => none) JsonText.plain sealedFrame
    (by decide) (by decide) (by decide) fun doc hdoc => by
      have hreport : messageReport (fun _ _ => none) (CdpPacket.ofBuffer sealedFrame) = doc :=
        Option.some.inj ((if_neg (by decide)).symm.trans hdoc)
      rw [← hreport]
      unfold JsonText.Carries
      decide +kernel

end Report
