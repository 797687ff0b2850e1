import MeshBeacon.RouteJson
import Mathlib.Data.List.Induction
import Mathlib.Logic.Function.Basic

/-!
# The round trip of a route document

A route document is built of two identifiers, gets identifiers appended to its
path, is sent as text and read from it. The reader keeps copies of what it has
found in the document, and changes both.

What is needed of the JSON library is that a member holds what was assigned to it
last, that other members stay as they are, and that parsing a text that the
library has written gives the document it was written of. This is needed of objects only,
and of texts without a zero byte: the library assigns nothing to the members of an array
or a number, and takes a text up to its first zero.
-/

variable {J : Type*}

/-- The members of a route document, in the order they are assigned in. -/
def routeMembers : List String := ["origin", "destination", "path"]

/-- **A text that the library keeps**: without a zero byte, and as long as it can count. -/
structure IsText (text : List UInt8) : Prop where
  noZero : 0 ∉ text
  length_le : text.length ≤ 65535

namespace ArduinoJson

/-- **Members of objects are assigned to as documented**: a member holds what was assigned to
it last, assigning what is there changes nothing, and members that are there are assigned
to in any order. The objects are those whose strings are texts, and the document that is
still empty counts as one. -/
structure Lawful (lib : ArduinoJson J) (IsObject : J → Prop) : Prop where
  isObject_empty : IsObject lib.empty
  isObject_setString : ∀ json, IsObject json → ∀ key ∈ routeMembers, ∀ value, IsText value →
    IsObject (lib.setString json key value)
  isObject_setArray : ∀ json, IsObject json → ∀ key ∈ routeMembers,
    ∀ elements, (∀ element ∈ elements, IsText element) → IsObject (lib.setArray json key elements)
  getString_setString : ∀ json, IsObject json → ∀ key ∈ routeMembers, ∀ value, IsText value →
    lib.getString (lib.setString json key value) key = some value
  getString_setString_of_ne : ∀ json, IsObject json → ∀ key ∈ routeMembers, ∀ key' ∈ routeMembers,
    ∀ value, IsText value → key' ≠ key →
      lib.getString (lib.setString json key value) key' = lib.getString json key'
  getArray_setString_of_ne : ∀ json, IsObject json → ∀ key ∈ routeMembers, ∀ key' ∈ routeMembers,
    ∀ value, IsText value → key' ≠ key →
      lib.getArray (lib.setString json key value) key' = lib.getArray json key'
  getArray_setArray : ∀ json, IsObject json → ∀ key ∈ routeMembers,
    ∀ elements, (∀ element ∈ elements, IsText element) →
      lib.getArray (lib.setArray json key elements) key = elements
  getString_setArray_of_ne : ∀ json, IsObject json → ∀ key ∈ routeMembers, ∀ key' ∈ routeMembers,
    ∀ elements, (∀ element ∈ elements, IsText element) → key' ≠ key →
      lib.getString (lib.setArray json key elements) key' = lib.getString json key'
  getArray_empty : ∀ key ∈ routeMembers, lib.getArray lib.empty key = []
  setString_getString : ∀ json, IsObject json → ∀ key ∈ routeMembers, ∀ value, IsText value →
    lib.getString json key = some value → lib.setString json key value = json
  setString_setString : ∀ json, IsObject json → ∀ key ∈ routeMembers, ∀ value, IsText value →
    ∀ value', IsText value' →
      lib.setString (lib.setString json key value) key value' = lib.setString json key value'
  setString_comm : ∀ json, IsObject json → ∀ key ∈ routeMembers, ∀ key' ∈ routeMembers,
    ∀ value, IsText value → ∀ value', IsText value' → key' ≠ key →
      (lib.getString json key).isSome → (lib.getString json key').isSome →
        lib.setString (lib.setString json key value) key' value'
          = lib.setString (lib.setString json key' value') key value

end ArduinoJson

theorem DuckUtils.isText_arrayToHexString (arr : Duid) : IsText (arrayToHexString arr) := by
  constructor
  · intro hzero
    obtain ⟨val, -, hdigit⟩ := List.mem_flatMap.mp hzero
    have hval := val.toNat_lt
    have hdigits {k : ℕ} (hk : k < 16) : hexDigits.getD k 0 ≠ 0 := fun hnone => by
      have hsome := hexDigit_getD hk
      rw [hnone] at hsome
      exact absurd hsome (Option.some_ne_none k).symm
    rcases List.mem_cons.mp hdigit with hhigh | hlow
    · exact hdigits (by omega) hhigh.symm
    · exact hdigits (Nat.mod_lt _ (by decide)) (List.mem_singleton.mp hlow).symm
  · have hlength : (arrayToHexString arr).length = arr.toList.length * 2 := by
      unfold arrayToHexString
      rw [List.length_flatMap]
      show (arr.toList.map fun _ => 2).sum = _
      rw [List.map_const', List.sum_replicate_nat]
    rw [hlength, Vector.length_toList]
    decide

namespace RouteJson

open DuckUtils

variable (lib : ArduinoJson J)

/-! ## Document and copies -/

/-- **The copies are those of the document.** -/
structure InStep (doc : RouteJson J) : Prop where
  origin : lib.getString doc.json "origin" = some doc.origin
  destination : lib.getString doc.json "destination" = some doc.destination
  path : lib.getArray doc.json "path" = doc.objPath

/-- The document of a new route, with so many identifiers appended to its path. -/
def ofPath (targetDevice sourceDevice : Duid) (path : List Duid) : RouteJson J :=
  path.foldl (fun doc deviceId => doc.addToPath lib deviceId)
    (ofDuids lib targetDevice sourceDevice)

theorem inStep_ofPacket {packetData : List UInt8} {doc : RouteJson J}
    (h : ofPacket lib packetData = some doc) : doc.InStep lib := by
  unfold ofPacket at h
  dsimp only at h
  split at h
  · cases h
    exact ⟨‹_›, ‹_›, rfl⟩
  · exact absurd h.symm (Option.some_ne_none doc)

/-- **The library keeps the document**: it is an object, and what may be assigned to its
members is a text. -/
structure Kept (IsObject : J → Prop) (doc : RouteJson J) : Prop where
  isObject : IsObject doc.json
  origin : IsText doc.origin
  destination : IsText doc.destination
  objPath : ∀ element ∈ doc.objPath, IsText element

section Lawful

variable {lib} {IsObject : J → Prop} (hlib : lib.Lawful IsObject)

/-- A path with an identifier more is one of texts. -/
theorem isText_append {path : List (List UInt8)} (h : ∀ element ∈ path, IsText element)
    (deviceId : Duid) : ∀ element ∈ path ++ [arrayToHexString deviceId], IsText element := by
  intro element helement
  rcases List.mem_append.mp helement with hold | hnew
  · exact h element hold
  · rw [List.mem_singleton.mp hnew]
    exact isText_arrayToHexString deviceId

include hlib

/-- A new document has the identifiers, and an empty path. -/
theorem ofDuids_members (targetDevice sourceDevice : Duid) :
    let doc := ofDuids lib targetDevice sourceDevice
    IsObject doc.json
      ∧ lib.getString doc.json "origin" = some (arrayToHexString sourceDevice)
      ∧ lib.getString doc.json "destination" = some (arrayToHexString targetDevice)
      ∧ lib.getArray doc.json "path" = doc.objPath := by
  have hsource := isText_arrayToHexString sourceDevice
  have htarget := isText_arrayToHexString targetDevice
  have hfirst := hlib.isObject_setString _ hlib.isObject_empty "origin" (by decide) _ hsource
  refine ⟨hlib.isObject_setString _ hfirst _ (by decide) _ htarget, ?_,
    hlib.getString_setString _ hfirst _ (by decide) _ htarget, ?_⟩
  · exact (hlib.getString_setString_of_ne _ hfirst _ (by decide) _ (by decide) _ htarget
      (by decide)).trans (hlib.getString_setString _ hlib.isObject_empty _ (by decide) _ hsource)
  · exact (hlib.getArray_setString_of_ne _ hfirst _ (by decide) _ (by decide) _ htarget
      (by decide)).trans ((hlib.getArray_setString_of_ne _ hlib.isObject_empty _ (by decide) _
        (by decide) _ hsource (by decide)).trans (hlib.getArray_empty _ (by decide)))

/-- `updateJsonPath` writes the path and keeps the identifiers. -/
theorem updateJsonPath_members (doc : RouteJson J) (hobject : IsObject doc.json)
    (hpath : ∀ element ∈ doc.objPath, IsText element) :
    IsObject (updateJsonPath lib doc).json
      ∧ lib.getString (updateJsonPath lib doc).json "origin" = lib.getString doc.json "origin"
      ∧ lib.getString (updateJsonPath lib doc).json "destination"
        = lib.getString doc.json "destination"
      ∧ lib.getArray (updateJsonPath lib doc).json "path" = doc.objPath :=
  ⟨hlib.isObject_setArray _ hobject _ (by decide) _ hpath,
    hlib.getString_setArray_of_ne _ hobject _ (by decide) _ (by decide) _ hpath (by decide),
    hlib.getString_setArray_of_ne _ hobject _ (by decide) _ (by decide) _ hpath (by decide),
    hlib.getArray_setArray _ hobject _ (by decide) _ hpath⟩

/-- Appending keeps the identifiers and appends to the path. -/
theorem addToPath_members (deviceId : Duid) (doc : RouteJson J) (hobject : IsObject doc.json)
    (hpath : ∀ element ∈ doc.objPath, IsText element) :
    IsObject (doc.addToPath lib deviceId).json
      ∧ lib.getString (doc.addToPath lib deviceId).json "origin" = lib.getString doc.json "origin"
      ∧ lib.getString (doc.addToPath lib deviceId).json "destination"
        = lib.getString doc.json "destination"
      ∧ lib.getArray (doc.addToPath lib deviceId).json "path"
        = doc.objPath ++ [arrayToHexString deviceId] :=
  updateJsonPath_members hlib { doc with objPath := doc.objPath ++ [arrayToHexString deviceId] }
    hobject (isText_append hpath deviceId)

/-- **A document built of a path** has the identifiers and the path. -/
theorem ofPath_members (targetDevice sourceDevice : Duid) (path : List Duid) :
    let doc := ofPath lib targetDevice sourceDevice path
    IsObject doc.json
      ∧ lib.getString doc.json "origin" = some (arrayToHexString sourceDevice)
      ∧ lib.getString doc.json "destination" = some (arrayToHexString targetDevice)
      ∧ lib.getArray doc.json "path" = doc.objPath
      ∧ doc.objPath = path.map arrayToHexString := by
  -- from the end of the path, where `addToPath` appends
  induction path using List.reverseRecOn with
  | nil =>
    obtain ⟨hobject, horigin, hdestination, hpath⟩ :=
      ofDuids_members hlib targetDevice sourceDevice
    exact ⟨hobject, horigin, hdestination, hpath, rfl⟩
  | append_singleton path deviceId ih =>
    obtain ⟨hobject, horigin, hdestination, -, hobjPath⟩ := ih
    unfold ofPath at hobject horigin hdestination hobjPath ⊢
    rw [List.foldl_append, List.foldl_cons, List.foldl_nil, List.map_append, List.map_singleton]
    have htexts : ∀ element ∈ (path.foldl (fun doc deviceId => doc.addToPath lib deviceId)
        (ofDuids lib targetDevice sourceDevice)).objPath, IsText element := by
      intro element helement
      rw [hobjPath] at helement
      obtain ⟨duid, -, rfl⟩ := List.mem_map.mp helement
      exact isText_arrayToHexString duid
    obtain ⟨hobj, ho, hd, hp⟩ := addToPath_members hlib deviceId _ hobject htexts
    exact ⟨hobj, ho.trans horigin, hd.trans hdestination, hp, congrArg (· ++ _) hobjPath⟩

/-! ## Changing what has been read -/

variable {doc : RouteJson J}

/-- Turning a request into a response exchanges the identifiers of the document. -/
theorem convertReqToRep_members (h : doc.Kept IsObject) :
    lib.getString (doc.convertReqToRep lib).json "origin" = some doc.destination
      ∧ lib.getString (doc.convertReqToRep lib).json "destination" = some doc.origin
      ∧ lib.getArray (doc.convertReqToRep lib).json "path" = lib.getArray doc.json "path" := by
  have hfirst := hlib.isObject_setString _ h.isObject "origin" (by decide) _ h.destination
  refine ⟨?_, hlib.getString_setString _ hfirst _ (by decide) _ h.origin, ?_⟩
  · exact (hlib.getString_setString_of_ne _ hfirst _ (by decide) _ (by decide) _ h.origin
      (by decide)).trans (hlib.getString_setString _ h.isObject _ (by decide) _ h.destination)
  · exact (hlib.getArray_setString_of_ne _ hfirst _ (by decide) _ (by decide) _ h.origin
      (by decide)).trans (hlib.getArray_setString_of_ne _ h.isObject _ (by decide) _ (by decide) _
        h.destination (by decide))

theorem InStep.convertReqToRep (h : doc.InStep lib) (hkept : doc.Kept IsObject) :
    (doc.convertReqToRep lib).InStep lib := by
  obtain ⟨horigin, hdestination, hpath⟩ := convertReqToRep_members hlib hkept
  exact ⟨horigin, hdestination, hpath.trans h.path⟩

/-- **Exchanging two members twice** restores the document. -/
theorem setString_exchange {json : J} {origin destination : List UInt8} (hobject : IsObject json)
    (ho : IsText origin) (hd : IsText destination)
    (horigin : lib.getString json "origin" = some origin)
    (hdestination : lib.getString json "destination" = some destination) :
    let swapped :=
      lib.setString (lib.setString json "origin" destination) "destination" origin
    lib.setString (lib.setString swapped "origin" origin) "destination" destination = json := by
  intro swapped
  have hfirst : IsObject (lib.setString json "origin" destination) :=
    hlib.isObject_setString _ hobject _ (by decide) _ hd
  have hthere : (lib.getString (lib.setString json "origin" destination) "origin").isSome := by
    rw [hlib.getString_setString _ hobject _ (by decide) _ hd]
    rfl
  have hthere' :
      (lib.getString (lib.setString json "origin" destination) "destination").isSome := by
    rw [hlib.getString_setString_of_ne _ hobject _ (by decide) _ (by decide) _ hd (by decide),
      hdestination]
    rfl
  -- both members are there by now, so that the two assignments to each can be brought together
  calc lib.setString (lib.setString swapped "origin" origin) "destination" destination
      = lib.setString (lib.setString (lib.setString (lib.setString json "origin" destination)
          "origin" origin) "destination" origin) "destination" destination := by
        rw [hlib.setString_comm _ hfirst "origin" (by decide) "destination" (by decide) origin ho
          origin ho (by decide) hthere hthere']
    _ = lib.setString (lib.setString (lib.setString json "origin" origin) "destination" origin)
          "destination" destination := by
        rw [hlib.setString_setString _ hobject _ (by decide) _ hd _ ho]
    _ = lib.setString (lib.setString json "destination" origin) "destination" destination := by
        rw [hlib.setString_getString _ hobject _ (by decide) _ ho horigin]
    _ = lib.setString json "destination" destination :=
        hlib.setString_setString _ hobject _ (by decide) _ ho _ hd
    _ = json := hlib.setString_getString _ hobject _ (by decide) _ hd hdestination

/-- **Turning a request into a response twice** restores it. -/
theorem InStep.convertReqToRep_twice (h : doc.InStep lib) (hkept : doc.Kept IsObject) :
    (doc.convertReqToRep lib).convertReqToRep lib = doc := by
  have hjson := setString_exchange hlib hkept.isObject hkept.origin hkept.destination h.origin
    h.destination
  exact congrArg (fun json => { doc with json := json }) hjson

/-- **Dropping what has been appended** restores the path. -/
theorem InStep.popFromPath_addToPath (h : doc.InStep lib) (hkept : doc.Kept IsObject)
    (deviceId : Duid) :
    ∃ restored, (doc.addToPath lib deviceId).popFromPath lib = some restored
      ∧ restored.objPath = doc.objPath ∧ restored.InStep lib
      ∧ restored.origin = doc.origin ∧ restored.destination = doc.destination := by
  have hlast : (doc.objPath ++ [arrayToHexString deviceId]).dropLast = doc.objPath :=
    List.dropLast_concat
  refine ⟨_, if_neg (List.append_ne_nil_of_right_ne_nil _ (List.cons_ne_nil _ _)), hlast, ?_,
    rfl, rfl⟩
  obtain ⟨hobject, ho, hd, -⟩ := addToPath_members hlib deviceId doc hkept.isObject hkept.objPath
  obtain ⟨-, ho', hd', hp'⟩ := updateJsonPath_members hlib
    { doc.addToPath lib deviceId with
      objPath := (doc.addToPath lib deviceId).objPath.dropLast } hobject
    (fun element helement => hkept.objPath element (hlast ▸ helement))
  exact ⟨(ho'.trans ho).trans h.origin, (hd'.trans hd).trans h.destination, hp'⟩

/-! ## The round trip -/

/-- **The document tells the route**: the two identifiers, the path and its last
identifier. -/
structure Tells (targetDevice sourceDevice : Duid) (path : List Duid) (doc : RouteJson J) :
    Prop where
  origin : doc.getOrigin = sourceDevice
  destination : doc.getDestination = targetDevice
  objPath : doc.objPath = path.map arrayToHexString
  last : doc.getlastInPath = path.getLast?

omit hlib in
/-- It does when its copies are the hexadecimal digits of the route. -/
theorem tells_of_hex {targetDevice sourceDevice : Duid} {path : List Duid} {doc : RouteJson J}
    (horigin : doc.origin = arrayToHexString sourceDevice)
    (hdestination : doc.destination = arrayToHexString targetDevice)
    (hpath : doc.objPath = path.map arrayToHexString) :
    Tells targetDevice sourceDevice path doc := by
  refine ⟨?_, ?_, hpath, ?_⟩
  · unfold getOrigin
    rw [horigin, hexStringToArray_arrayToHexString]
  · unfold getDestination
    rw [hdestination, hexStringToArray_arrayToHexString]
  · unfold getlastInPath
    rw [hpath, List.getLast?_map, Option.map_map]
    refine (congrArg (Option.map · path.getLast?) (funext fun d => ?_)).trans Option.map_id_apply
    exact hexStringToArray_arrayToHexString d

/-- **The document can be changed back**: turned into a response it has the identifiers
exchanged and the path as it was, turned once more it is itself, and an identifier
appended to its path can be dropped again. -/
structure Reversible (lib : ArduinoJson J) (doc : RouteJson J) : Prop where
  origin : (doc.convertReqToRep lib).getOrigin = doc.getDestination
  destination : (doc.convertReqToRep lib).getDestination = doc.getOrigin
  path : (doc.convertReqToRep lib).objPath = doc.objPath
  inStep : (doc.convertReqToRep lib).InStep lib
  twice : (doc.convertReqToRep lib).convertReqToRep lib = doc
  restores : ∀ deviceId, ∃ restored, (doc.addToPath lib deviceId).popFromPath lib = some restored
    ∧ restored.objPath = doc.objPath ∧ restored.InStep lib
    ∧ restored.origin = doc.origin ∧ restored.destination = doc.destination

theorem InStep.reversible (h : doc.InStep lib) (hkept : doc.Kept IsObject) :
    Reversible lib doc where
  origin := rfl
  destination := rfl
  path := rfl
  inStep := h.convertReqToRep hlib hkept
  twice := h.convertReqToRep_twice hlib hkept
  restores := h.popFromPath_addToPath hlib hkept

/-- **The round trip.** A route document that is parsed as it was written is read from its
text: it tells the route, its copies are those of the document, and it can be changed
back. -/
theorem ofPacket_asString (targetDevice sourceDevice : Duid) (path : List Duid)
    (hparse : lib.deserialize ((ofPath lib targetDevice sourceDevice path).asString lib)
      = (ofPath lib targetDevice sourceDevice path).json) :
    ∃ doc, ofPacket lib ((ofPath lib targetDevice sourceDevice path).asString lib) = some doc
      ∧ Tells targetDevice sourceDevice path doc ∧ doc.InStep lib ∧ Reversible lib doc := by
  obtain ⟨hobject, horigin, hdestination, hpath, hobjPath⟩ :=
    ofPath_members hlib targetDevice sourceDevice path
  have hread : ofPacket lib ((ofPath lib targetDevice sourceDevice path).asString lib)
      = some ⟨(ofPath lib targetDevice sourceDevice path).json,
        (ofPath lib targetDevice sourceDevice path).objPath, arrayToHexString sourceDevice,
        arrayToHexString targetDevice⟩ := by
    unfold ofPacket
    dsimp only
    rw [hparse, horigin, hdestination, hpath]
  have hstep := inStep_ofPacket lib hread
  refine ⟨_, hread, tells_of_hex rfl rfl hobjPath, hstep, hstep.reversible hlib
    ⟨hobject, isText_arrayToHexString sourceDevice, isText_arrayToHexString targetDevice, ?_⟩⟩
  intro element helement
  obtain ⟨duid, -, rfl⟩ := List.mem_map.mp (hobjPath ▸ helement)
  exact isText_arrayToHexString duid

end Lawful

end RouteJson

/-! ## Documents by member -/

/-- A JSON library for the members of routes, whose texts contain no quotes. -/
def ArduinoJson.members : ArduinoJson (String → Option FlatValue) where
  empty _ := none
  deserialize text key :=
    if key ∈ routeMembers then (FlatJson.read text).lookup (DuckUtils.ascii key) else none
  getString json key :=
    match json key with
    | some (.text value) => some value
    | _ => none
  getArray json key :=
    match json key with
    | some (.array elements) => elements
    | _ => []
  setString json key value := Function.update json key (some (.text value))
  setArray json key elements := Function.update json key (some (.array elements))
  serialize json := FlatJson.write (routeMembers.filterMap fun key =>
    (json key).map fun value => (DuckUtils.ascii key, value))

/-- Its members are assigned to as documented, whatever is in them. -/
theorem ArduinoJson.lawful_members : ArduinoJson.members.Lawful fun _ => True where
  isObject_empty := trivial
  isObject_setString _ _ _ _ _ _ := trivial
  isObject_setArray _ _ _ _ _ _ := trivial
  getString_setString json _ key _ value _ := by simp [ArduinoJson.members]
  getString_setString_of_ne json _ key _ key' _ value _ h := by simp [ArduinoJson.members, h]
  getArray_setString_of_ne json _ key _ key' _ value _ h := by simp [ArduinoJson.members, h]
  getArray_setArray json _ key _ elements _ := by simp [ArduinoJson.members]
  getString_setArray_of_ne json _ key _ key' _ elements _ h := by simp [ArduinoJson.members, h]
  getArray_empty key _ := rfl
  setString_getString json _ key _ value _ h := by
    refine Function.update_eq_self_iff.mpr ?_
    unfold ArduinoJson.members at h
    dsimp only at h
    split at h
    · rename_i found
      rw [found, Option.some.inj h]
    · exact absurd h.symm (Option.some_ne_none value)
  setString_setString json _ key _ value _ value' _ := Function.update_idem _ _ _
  setString_comm json _ key _ key' _ value _ value' _ h _ _ := Function.update_comm h.symm _ _ _

/-- The route document of an application that has been relayed once. -/
theorem RouteJson.ofPacket_asString_relayed :
    let source : Duid := Vector.replicate 8 0x41
    let target : Duid := Vector.replicate 8 0x42
    let path : List Duid := [source, Vector.replicate 8 0x00]
    ∃ doc, ofPacket ArduinoJson.members
        ((ofPath ArduinoJson.members target source path).asString ArduinoJson.members) = some doc
      ∧ Tells target source path doc ∧ doc.InStep ArduinoJson.members
      ∧ Reversible ArduinoJson.members doc := by
  refine ofPacket_asString ArduinoJson.lawful_members _ _ _ (funext fun key => ?_)
  by_cases hkey : key ∈ routeMembers
  · simp only [routeMembers, List.mem_cons, List.not_mem_nil, or_false] at hkey
    obtain rfl | rfl | rfl := hkey <;> decide +kernel
  · refine (if_neg hkey).trans ?_
    simp only [routeMembers, List.mem_cons, List.not_mem_nil, or_false, not_or] at hkey
    simp [ofPath, addToPath, updateJsonPath, ofDuids, ArduinoJson.members, hkey]
