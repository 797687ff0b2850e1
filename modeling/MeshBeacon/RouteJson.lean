import MeshBeacon.DuckUtils

/-!
# Route documents

The data of a route request or response is a JSON document with an origin, a
destination and a path. `RouteJSON` keeps the parsed document and, beside it,
copies of the three, and writes the path back when it changes.

The JSON library is a parameter. Building a string from a member that is not
there is undefined in C++, and so is dropping the last element of an empty path;
the operations that do so have no result where they do.
-/

/-- What a route document needs of the JSON library. -/
structure ArduinoJson (J : Type*) where
  empty : J
  /-- `deserializeJson`. The document of a text that is not JSON is what the
  library leaves. -/
  deserialize : List UInt8 → J
  /-- `as<const char*>` of a member, `none` for a null pointer. -/
  getString : J → String → Option (List UInt8)
  /-- The elements of `as<JsonArray>` of a member. -/
  getArray : J → String → List (List UInt8)
  /-- Assigning a string to a member. -/
  setString : J → String → List UInt8 → J
  /-- `to<JsonArray>` of a member, and adding the elements. -/
  setArray : J → String → List (List UInt8) → J
  serialize : J → List UInt8

/-- `RouteJSON`. -/
structure RouteJson (J : Type*) where
  json : J
  objPath : List (List UInt8)
  origin : List UInt8
  destination : List UInt8

namespace RouteJson

variable {J : Type*} (lib : ArduinoJson J)

/-- The document of a new route. The copies of origin and destination stay
empty. -/
def ofDuids (targetDevice sourceDevice : Duid) : RouteJson J where
  json :=
    lib.setString (lib.setString lib.empty "origin" (DuckUtils.arrayToHexString sourceDevice))
      "destination" (DuckUtils.arrayToHexString targetDevice)
  objPath := []
  origin := []
  destination := []

/-- The document of received data. -/
def ofPacket (packetData : List UInt8) : Option (RouteJson J) :=
  let json := lib.deserialize packetData
  match lib.getString json "origin", lib.getString json "destination" with
  | some origin, some destination => some ⟨json, lib.getArray json "path", origin, destination⟩
  | _, _ => none

/-- `asString`. -/
def asString (doc : RouteJson J) : List UInt8 := lib.serialize doc.json

/-- `updateJsonPath`. -/
def updateJsonPath (doc : RouteJson J) : RouteJson J :=
  { doc with json := lib.setArray doc.json "path" doc.objPath }

/-- `addToPath`. -/
def addToPath (deviceId : Duid) (doc : RouteJson J) : RouteJson J :=
  updateJsonPath lib { doc with objPath := doc.objPath ++ [DuckUtils.arrayToHexString deviceId] }

/-- `popFromPath`. -/
def popFromPath (doc : RouteJson J) : Option (RouteJson J) :=
  if doc.objPath = [] then none
  else some (updateJsonPath lib { doc with objPath := doc.objPath.dropLast })

/-- `convertReqToRep`: origin and destination change places. -/
def convertReqToRep (doc : RouteJson J) : RouteJson J where
  json := lib.setString (lib.setString doc.json "origin" doc.destination) "destination" doc.origin
  objPath := doc.objPath
  origin := doc.destination
  destination := doc.origin

/-- `getOrigin`. -/
def getOrigin (doc : RouteJson J) : Duid := DuckUtils.hexStringToArray doc.origin

/-- `getDestination`. -/
def getDestination (doc : RouteJson J) : Duid := DuckUtils.hexStringToArray doc.destination

/-- `getlastInPath`. -/
def getlastInPath (doc : RouteJson J) : Option Duid :=
  doc.objPath.getLast?.map DuckUtils.hexStringToArray

end RouteJson

/-! ## Flat documents -/

/-- The value of a member of a flat document. -/
inductive FlatValue where
  | text (value : List UInt8)
  | array (elements : List (List UInt8))
deriving DecidableEq

/-- A document of texts and arrays of texts, which contain no quotes. -/
abbrev FlatJson := List (List UInt8 × FlatValue)

namespace FlatJson

open DuckUtils

/-- A text between quotes. -/
def quoted (text : List UInt8) : List UInt8 := 0x22 :: text ++ [0x22]

/-- Values separated by commas. -/
def separated (values : List (List UInt8)) : List UInt8 := (ascii ",").intercalate values

/-- The JSON of a value. -/
def writeValue : FlatValue → List UInt8
  | .text value => quoted value
  | .array elements => ascii "[" ++ separated (elements.map quoted) ++ ascii "]"

/-- The JSON of a document. -/
def write (doc : FlatJson) : List UInt8 :=
  ascii "\x7b"
    ++ separated (doc.map fun member => quoted member.1 ++ ascii ":" ++ writeValue member.2)
    ++ ascii "\x7d"

/-- What is read with one more text, by the punctuation before it. The last member comes
first. -/
def readText (punctuation text : List UInt8) : FlatJson → FlatJson
  | (key, value) :: doc =>
    if punctuation = ascii ":" then (key, .text text) :: doc
    else if punctuation = ascii ":[" then (key, .array [text]) :: doc
    else
      match value with
      | .array elements =>
        if punctuation = ascii "," then (key, .array (elements ++ [text])) :: doc
        else (text, .array []) :: (key, value) :: doc
      | .text _ => (text, .array []) :: (key, value) :: doc
  | [] => [(text, .array [])]

/-- What is read with more punctuation and texts, which alternate. -/
def readTexts : List (List UInt8) → FlatJson → FlatJson
  | punctuation :: text :: rest, doc => readTexts rest (readText punctuation text doc)
  | _, doc => doc

/-- The document of a JSON text. -/
def read (text : List UInt8) : FlatJson := (readTexts (text.splitOn 0x22) []).reverse

/-- The document with a member assigned to. -/
def assign (key : List UInt8) (value : FlatValue) (doc : FlatJson) : FlatJson :=
  if doc.any (fun member => member.1 = key) then
    doc.map fun member => if member.1 = key then (key, value) else member
  else doc ++ [(key, value)]

end FlatJson

/-- A JSON library that is good enough for the documents of routes. -/
def ArduinoJson.flat : ArduinoJson FlatJson where
  empty := []
  deserialize := FlatJson.read
  getString doc key :=
    match doc.lookup (DuckUtils.ascii key) with
    | some (.text value) => some value
    | _ => none
  getArray doc key :=
    match doc.lookup (DuckUtils.ascii key) with
    | some (.array elements) => elements
    | _ => []
  setString doc key value := FlatJson.assign (DuckUtils.ascii key) (.text value) doc
  setArray doc key elements := FlatJson.assign (DuckUtils.ascii key) (.array elements) doc
  serialize := FlatJson.write
