import MeshBeacon.DuckLink
import MeshBeacon.RouteStorm

/-!
# What reads route documents

The data of a request or response comes from the air, and four readers take it for a
route document: the handlers of the three types of ducks, and the hub when it
publishes what it receives. A document may lack its origin, its destination or its
path, or have something else in their place.

None of the four looks whether there is an origin and a destination, and what is built
of a member that is not there is not defined. The path is another matter: all of them
look whether it is empty, but for a DuckLink that takes a response and for the two
that pass one on, and a DuckLink sends documents without one.

The two that pass responses on and relay requests look a duck up in their table. Its
answer is copied into eight bytes, and one that is longer is written past them, which is
not defined either.

Nothing is assumed of the JSON library: the conditions are on what it finds in the
document.
-/

variable {S J : Type*} {g : BloomGeometry}

/-! ## Documents that can be read -/

namespace RouteJson

variable {lib : ArduinoJson J} {packetData : List UInt8} {doc : RouteJson J}

/-- The document names its origin and its destination. -/
def NamesEnds (lib : ArduinoJson J) (packetData : List UInt8) : Prop :=
  (lib.getString (lib.deserialize packetData) "origin").isSome
    ∧ (lib.getString (lib.deserialize packetData) "destination").isSome

/-- The document has a path. -/
def HasPath (lib : ArduinoJson J) (packetData : List UInt8) : Prop :=
  lib.getArray (lib.deserialize packetData) "path" ≠ []

instance : Decidable (NamesEnds lib packetData) := inferInstanceAs (Decidable (_ ∧ _))

instance : Decidable (HasPath lib packetData) := inferInstanceAs (Decidable (_ ≠ _))

/-- **The document can be read** exactly when it names both ends. -/
theorem isSome_ofPacket : (ofPacket lib packetData).isSome ↔ NamesEnds lib packetData := by
  unfold ofPacket NamesEnds
  dsimp only
  cases lib.getString (lib.deserialize packetData) "origin" with
  | none => simp
  | some origin => cases lib.getString (lib.deserialize packetData) "destination" <;> simp

/-- What is read then has the path of the document. -/
theorem objPath_ofPacket (h : ofPacket lib packetData = some doc) :
    doc.objPath = lib.getArray (lib.deserialize packetData) "path" := by
  unfold ofPacket at h
  dsimp only at h
  split at h
  · cases h
    rfl
  · exact absurd h.symm (Option.some_ne_none doc)

/-- There is a last duck in a path that is not empty. -/
theorem isSome_getlastInPath (h : ofPacket lib packetData = some doc) :
    doc.getlastInPath.isSome ↔ HasPath lib packetData := by
  unfold getlastInPath HasPath
  rw [Option.isSome_map, List.getLast?_isSome, objPath_ofPacket h]

theorem isSome_popFromPath (h : ofPacket lib packetData = some doc) :
    (doc.popFromPath lib).isSome ↔ HasPath lib packetData := by
  unfold popFromPath HasPath
  rw [objPath_ofPacket h]
  split_ifs with hpath <;> simp [hpath]

end RouteJson

/-! ## The readers -/

/-- The packet is a route request or a route response. -/
def CdpPacket.IsRoute (packet : CdpPacket) : Prop :=
  packet.topic = ReservedTopic.rreq ∨ packet.topic = ReservedTopic.rrep

instance (packet : CdpPacket) : Decidable packet.IsRoute := inferInstanceAs (Decidable (_ ∨ _))

/-- What a route packet adds to the payload that `processMessageFromDucks` publishes. -/
structure RoutePayload where
  origin : List UInt8
  destination : List UInt8
  path : List (List UInt8)
deriving DecidableEq

/-- The text of a `c_str`: it ends at the first zero. -/
def cText (text : List UInt8) : List UInt8 := text.takeWhile (· ≠ 0)

/-- `processMessageFromDucks`, a route packet. A path that is empty is replaced by the
sender. A string made of a null pointer is not an exception: it is not what is caught
there. -/
def routePayload (lib : ArduinoJson J) (cdpPacket : CdpPacket) : Option RoutePayload :=
  match RouteJson.ofPacket lib cdpPacket.data with
  | none => none
  | some routeDoc =>
    some {
      origin := cText (DuckUtils.toString routeDoc.getOrigin.toList)
      destination := cText (DuckUtils.toString routeDoc.getDestination.toList)
      path :=
        if routeDoc.objPath = [] then [cText cdpPacket.sduid.toList] else routeDoc.objPath }

/-- **A reader of route packets**: the handler of a duck, in some state, or the hub as
it publishes. -/
inductive RouteReader (S : Type*) (g : BloomGeometry) where
  | papa (duck : Duck S g)
  | mama (node : MamaDuck S g)
  | link (duck : Duck S g)
  | hub

/-- **A response can be handled** by the ducks that pass it on: the answer to looking its
destination up fits, and there is a path if it is passed on. -/
structure Duck.CanPassOn [LinearOrder S] (lib : ArduinoJson J) (rxPacket : CdpPacket)
    (duck : Duck S g) : Prop where
  fits : ∀ rrepDoc ∈ RouteJson.ofPacket lib rxPacket.data, duck.LookupFits rrepDoc.getDestination
  hasPath : duck.PassesOn lib rxPacket → RouteJson.HasPath lib rxPacket.data

instance [LinearOrder S] (lib : ArduinoJson J) (rxPacket : CdpPacket) (duck : Duck S g) :
    Decidable (duck.CanPassOn lib rxPacket) :=
  decidable_of_iff
    ((∀ rrepDoc ∈ RouteJson.ofPacket lib rxPacket.data, duck.LookupFits rrepDoc.getDestination)
      ∧ (duck.PassesOn lib rxPacket → RouteJson.HasPath lib rxPacket.data))
    ⟨fun h => ⟨h.1, h.2⟩, fun h => ⟨h.fits, h.hasPath⟩⟩

namespace RouteReader

variable [LinearOrder S]

/-- **Reading is well defined**: no string is made of a null pointer, nothing is dropped
of an empty path, no value taken of an empty optional, and nothing written past the
answer to a lookup. -/
def isDefined (lib : ArduinoJson J) (env : DuckEnv) (rxPacket : CdpPacket) :
    RouteReader S g → Bool
  | papa duck => (PapaDuck.handleByDestination lib env rxPacket duck).isSome
  | mama node => (node.handleByDestination lib env rxPacket).isSome
  | link duck => (DuckLink.handleByDestination lib env rxPacket duck).isSome
  | hub => (routePayload lib rxPacket).isSome

/-- **What the reader takes for granted.** A packet for every duck is not read by the
handlers; of any other the document names both ends, the answer to looking up the
destination of a request that is relayed fits, and a response can be handled by a duck
that passes it on, or has a path if it is for a DuckLink to take. -/
def Expects (lib : ArduinoJson J) (rxPacket : CdpPacket) : RouteReader S g → Prop
  | papa duck => broadcastDuid ≠ rxPacket.dduid →
      RouteJson.NamesEnds lib rxPacket.data
        ∧ (rxPacket.topic = ReservedTopic.rreq →
          ¬ (duck.duid = rxPacket.dduid ∨ rxPacket.dduid = papaduckDuid) →
          duck.LookupFits rxPacket.dduid)
        ∧ (rxPacket.topic = ReservedTopic.rrep → rxPacket.sduid ≠ duck.duid →
          duck.CanPassOn lib rxPacket)
  | mama node => broadcastDuid ≠ rxPacket.dduid →
      RouteJson.NamesEnds lib rxPacket.data
        ∧ (rxPacket.topic = ReservedTopic.rreq → node.duck.duid ≠ rxPacket.dduid →
          node.duck.LookupFits rxPacket.dduid)
        ∧ (rxPacket.topic = ReservedTopic.rrep → node.duck.CanPassOn lib rxPacket)
  | link _ => broadcastDuid ≠ rxPacket.dduid →
      RouteJson.NamesEnds lib rxPacket.data
        ∧ (rxPacket.topic = ReservedTopic.rrep → RouteJson.HasPath lib rxPacket.data)
  | hub => RouteJson.NamesEnds lib rxPacket.data

instance (lib : ArduinoJson J) (rxPacket : CdpPacket) :
    (reader : RouteReader S g) → Decidable (reader.Expects lib rxPacket)
  | papa _ => inferInstanceAs (Decidable (_ → _))
  | mama _ => inferInstanceAs (Decidable (_ → _))
  | link _ => inferInstanceAs (Decidable (_ → _))
  | hub => inferInstanceAs (Decidable (_ ∧ _))

end RouteReader

/-! ## When reading is well defined -/

/-- Something is there at once, or after a test that fails. -/
theorem isSome_ite_some {α : Type*} {p : Prop} [Decidable p] {a : α} {o : Option α} :
    (if p then some a else o).isSome ↔ (¬ p → o.isSome) := by
  by_cases hp : p
  · rw [if_pos hp]
    exact iff_of_true rfl fun hnot => absurd hp hnot
  · rw [if_neg hp]
    exact ⟨fun h _ => h, fun h => h hp⟩

section Readers

variable {lib : ArduinoJson J} {env : DuckEnv} {rxPacket : CdpPacket}

/-- **Reading a document** is well defined exactly when it names both ends and the rest
is well defined for what is read. -/
theorem RouteJson.isSome_bind_ofPacket {α : Type*} {packetData : List UInt8}
    {read : RouteJson J → Option α} {P : Prop}
    (hread : ∀ doc, ofPacket lib packetData = some doc → ((read doc).isSome ↔ P)) :
    ((ofPacket lib packetData).bind read).isSome ↔ NamesEnds lib packetData ∧ P := by
  rw [← isSome_ofPacket]
  cases hdoc : ofPacket lib packetData with
  | none => simp
  | some doc => simpa using hread doc hdoc

/-- **The handlers share their shape**: a packet for every duck is not read, and any other
needs its ends and what this duck needs of requests or of responses. -/
theorem isSome_iff_of_route {α : Type*} {handled : Option α} {P Q : Prop}
    (hroute : rxPacket.IsRoute)
    (hrreq : rxPacket.topic = ReservedTopic.rreq → (handled.isSome ↔
      (broadcastDuid ≠ rxPacket.dduid → RouteJson.NamesEnds lib rxPacket.data ∧ P)))
    (hrrep : rxPacket.topic = ReservedTopic.rrep → (handled.isSome ↔
      (broadcastDuid ≠ rxPacket.dduid → RouteJson.NamesEnds lib rxPacket.data ∧ Q))) :
    handled.isSome ↔ (broadcastDuid ≠ rxPacket.dduid → RouteJson.NamesEnds lib rxPacket.data
      ∧ (rxPacket.topic = ReservedTopic.rreq → P) ∧ (rxPacket.topic = ReservedTopic.rrep → Q)) := by
  have hother : ReservedTopic.rreq ≠ ReservedTopic.rrep := by decide
  rcases hroute with htopic | htopic
  · rw [hrreq htopic, htopic]
    simp only [hother, true_implies, false_implies, and_true]
  · rw [hrrep htopic, htopic]
    simp only [hother.symm, true_implies, false_implies, true_and]

theorem isSome_routePayload :
    (routePayload lib rxPacket).isSome ↔ RouteJson.NamesEnds lib rxPacket.data := by
  unfold routePayload
  rw [← RouteJson.isSome_ofPacket]
  cases RouteJson.ofPacket lib rxPacket.data <;> rfl

/-- What is not JSON names nothing. -/
example : routePayload ArduinoJson.flat (CdpPacket.forSending papaduckDuid ReservedTopic.rrep
    (DuckUtils.ascii "route") papaduckDuid 0) = none := by decide +kernel

/-- **Passing on needs a path**, and noting a response does not. -/
theorem Duck.isSome_passOn [LinearOrder S] {rrepDoc : RouteJson J} {duck : Duck S g}
    (hdoc : RouteJson.ofPacket lib rxPacket.data = some rrepDoc) :
    (duck.passOn lib env rxPacket rrepDoc).isSome ↔ duck.CanPassOn lib rxPacket := by
  have hpasses : duck.PassesOn lib rxPacket ↔ _ :=
    ⟨fun ⟨_, hdoc', h⟩ => Option.some.inj (hdoc.symm.trans hdoc') ▸ h,
      fun h => ⟨rrepDoc, hdoc, h⟩⟩
  have hcan : duck.CanPassOn lib rxPacket ↔ duck.LookupFits rrepDoc.getDestination
      ∧ (duck.PassesOn lib rxPacket → RouteJson.HasPath lib rxPacket.data) :=
    ⟨fun h => ⟨h.fits rrepDoc hdoc, h.hasPath⟩,
      fun h => ⟨fun _ hdoc' => Option.some.inj (hdoc.symm.trans hdoc') ▸ h.1, h.2⟩⟩
  rw [hcan, hpasses, ← RouteJson.isSome_popFromPath hdoc]
  unfold passOn
  dsimp only
  split_ifs with hfits hpass
  · rw [and_iff_right hfits]
    cases rrepDoc.popFromPath lib <;> exact ⟨fun h _ => h, fun h => h hpass⟩
  · exact iff_of_true rfl ⟨hfits, fun h => absurd h hpass⟩
  · exact iff_of_false Bool.false_ne_true fun h => hfits h.1

namespace PapaDuck

variable [LinearOrder S] {duck : Duck S g}

theorem isSome_ifRouteRequest {relay : Bool} :
    (ifRouteRequest lib env rxPacket relay duck).isSome
      ↔ RouteJson.NamesEnds lib rxPacket.data
        ∧ (relay = true → duck.LookupFits rxPacket.dduid) := by
  unfold ifRouteRequest
  rw [← RouteJson.isSome_ofPacket]
  cases RouteJson.ofPacket lib rxPacket.data with
  | none => exact iff_of_false Bool.false_ne_true fun h => Bool.false_ne_true h.1
  | some rreqDoc =>
    cases relay with
    | true => exact Duck.isSome_forward.trans ⟨fun h => ⟨rfl, fun _ => h⟩, fun h => h.2 rfl⟩
    | false => exact iff_of_true rfl ⟨rfl, fun h => absurd h Bool.false_ne_true⟩

theorem isSome_ifRouteResponse :
    (ifRouteResponse lib env rxPacket duck).isSome
      ↔ RouteJson.NamesEnds lib rxPacket.data
        ∧ (rxPacket.sduid ≠ duck.duid → duck.CanPassOn lib rxPacket) := by
  rw [ifRouteResponse_eq]
  refine RouteJson.isSome_bind_ofPacket fun rrepDoc hdoc => ?_
  rw [isSome_ite_some, Duck.isSome_passOn hdoc]

/-- **A PapaDuck reads a route packet** well exactly when it finds what it expects. -/
theorem isSome_handleByDestination (hroute : rxPacket.IsRoute) :
    (handleByDestination lib env rxPacket duck).isSome
      ↔ (RouteReader.papa duck).Expects lib rxPacket := by
  unfold RouteReader.Expects
  refine isSome_iff_of_route hroute (fun hrreq => ?_) fun hrrep => ?_
  · unfold handleByDestination ifNotBroadcast
    rw [isSome_ite_some, if_pos hrreq, if_pos hrreq]
    refine imp_congr_right fun _ => ?_
    split_ifs with hmine <;> rw [isSome_ifRouteRequest]
    · simp only [hmine, not_true_eq_false, Bool.false_eq_true, false_implies]
    · simp only [hmine, not_false_eq_true, true_implies]
  · rw [handleByDestination_of_rrep hrrep, isSome_ite_some, isSome_ifRouteResponse]

end PapaDuck

namespace MamaDuck

variable [LinearOrder S] {mama : MamaDuck S g}

theorem isSome_ifRouteRequest {relay : Bool} :
    (mama.ifRouteRequest lib env rxPacket relay).isSome
      ↔ RouteJson.NamesEnds lib rxPacket.data
        ∧ (relay = true → mama.duck.LookupFits rxPacket.dduid) := by
  unfold ifRouteRequest
  rw [← RouteJson.isSome_ofPacket]
  cases RouteJson.ofPacket lib rxPacket.data with
  | none => exact iff_of_false Bool.false_ne_true fun h => Bool.false_ne_true h.1
  | some rreqDoc =>
    cases relay with
    | true => exact isSome_forward.trans ⟨fun h => ⟨rfl, fun _ => h⟩, fun h => h.2 rfl⟩
    | false => exact iff_of_true rfl ⟨rfl, fun h => absurd h Bool.false_ne_true⟩

theorem isSome_ifRouteResponse :
    (mama.ifRouteResponse lib env rxPacket).isSome
      ↔ RouteJson.NamesEnds lib rxPacket.data ∧ mama.duck.CanPassOn lib rxPacket := by
  rw [← Option.isSome_map, ifRouteResponse_eq]
  exact RouteJson.isSome_bind_ofPacket fun rrepDoc hdoc => Duck.isSome_passOn hdoc

/-- **A MamaDuck reads a route packet** well exactly when it finds what it expects. -/
theorem isSome_handleByDestination (hroute : rxPacket.IsRoute) :
    (mama.handleByDestination lib env rxPacket).isSome
      ↔ (RouteReader.mama mama).Expects lib rxPacket := by
  unfold RouteReader.Expects
  refine isSome_iff_of_route hroute (fun hrreq => ?_) fun hrrep => ?_
  · unfold handleByDestination ifNotBroadcast
    rw [isSome_ite_some, if_pos hrreq, if_pos hrreq]
    refine imp_congr_right fun _ => ?_
    split_ifs with hmine <;> rw [isSome_ifRouteRequest]
    · simp only [hmine, ne_eq, not_true_eq_false, Bool.false_eq_true, false_implies]
    · simp only [hmine, ne_eq, not_false_eq_true, true_implies]
  · rw [handleByDestination_of_rrep hrrep, isSome_ite_some, isSome_ifRouteResponse]

end MamaDuck

namespace DuckLink

variable {duck : Duck S g}

theorem isSome_ifRouteRequest {relay : Bool} :
    (ifRouteRequest lib env rxPacket relay duck).isSome
      ↔ RouteJson.NamesEnds lib rxPacket.data := by
  unfold ifRouteRequest
  rw [← RouteJson.isSome_ofPacket]
  cases RouteJson.ofPacket lib rxPacket.data with
  | none => rfl
  | some rreqDoc => cases relay <;> rfl

/-- A DuckLink needs the path of any response. -/
theorem isSome_ifRouteResponse :
    (ifRouteResponse lib env rxPacket duck).isSome
      ↔ RouteJson.NamesEnds lib rxPacket.data ∧ RouteJson.HasPath lib rxPacket.data := by
  unfold ifRouteResponse
  rw [← RouteJson.isSome_ofPacket]
  cases hdoc : RouteJson.ofPacket lib rxPacket.data with
  | none => simp
  | some rrepDoc =>
    rw [← RouteJson.isSome_getlastInPath hdoc]
    cases hlast : rrepDoc.getlastInPath <;> simp [hlast]

/-- **A DuckLink reads a route packet** well exactly when it finds what it expects. -/
theorem isSome_handleByDestination [LinearOrder S] (hroute : rxPacket.IsRoute) :
    (handleByDestination lib env rxPacket duck).isSome
      ↔ (RouteReader.link duck).Expects lib rxPacket := by
  have hshape : (handleByDestination lib env rxPacket duck).isSome
      ↔ (broadcastDuid ≠ rxPacket.dduid → RouteJson.NamesEnds lib rxPacket.data
        ∧ (rxPacket.topic = ReservedTopic.rreq → True)
        ∧ (rxPacket.topic = ReservedTopic.rrep → RouteJson.HasPath lib rxPacket.data)) := by
    refine isSome_iff_of_route hroute (fun hrreq => ?_) fun hrrep => ?_
    · unfold handleByDestination ifNotBroadcast
      rw [isSome_ite_some, if_pos hrreq, if_pos hrreq, and_true]
      refine imp_congr_right fun _ => ?_
      split_ifs <;> exact isSome_ifRouteRequest
    · unfold handleByDestination ifNotBroadcast
      have hrreq : rxPacket.topic ≠ ReservedTopic.rreq := (topic_of_rrep hrrep).1
      rw [isSome_ite_some, if_neg hrreq, if_neg hrreq, if_pos hrrep, ite_self,
        isSome_ifRouteResponse]
  rw [hshape]
  simp only [implies_true, true_and]
  rfl

end DuckLink

end Readers

/-! ## For every reader -/

namespace RouteReader

/-- **When reading a route packet is well defined.** Whatever the bytes of its data, and
for every reader in every state: exactly when the reader finds what it expects. -/
theorem isDefined_iff_expects [LinearOrder S] (lib : ArduinoJson J) (env : DuckEnv)
    {rxPacket : CdpPacket} (hroute : rxPacket.IsRoute) (reader : RouteReader S g) :
    reader.isDefined lib env rxPacket ↔ reader.Expects lib rxPacket := by
  cases reader with
  | papa duck => exact PapaDuck.isSome_handleByDestination hroute
  | mama node => exact MamaDuck.isSome_handleByDestination hroute
  | link duck => exact DuckLink.isSome_handleByDestination hroute
  | hub => exact isSome_routePayload

section Complete

variable [LinearOrder S] {lib : ArduinoJson J} {env : DuckEnv} {rxPacket : CdpPacket}

/-- **No lookup of the reader overflows**, whatever it looks up. -/
def AnswersFit : RouteReader S g → Prop
  | papa duck => ∀ target, duck.LookupFits target
  | mama node => ∀ target, node.duck.LookupFits target
  | link _ => True
  | hub => True

/-- A document that names both ends and has a path can be read by all these. -/
theorem isDefined_of_complete (hroute : rxPacket.IsRoute)
    (hends : RouteJson.NamesEnds lib rxPacket.data)
    (hpath : RouteJson.HasPath lib rxPacket.data) :
    ∀ reader : RouteReader S g, reader.AnswersFit → reader.isDefined lib env rxPacket
  | papa _, hfits => (PapaDuck.isSome_handleByDestination hroute).mpr fun _ =>
      ⟨hends, fun _ _ => hfits _, fun _ _ => ⟨fun _ _ => hfits _, fun _ => hpath⟩⟩
  | mama _, hfits => (MamaDuck.isSome_handleByDestination hroute).mpr fun _ =>
      ⟨hends, fun _ _ => hfits _, fun _ => ⟨fun _ _ => hfits _, fun _ => hpath⟩⟩
  | link _, _ => (DuckLink.isSome_handleByDestination hroute).mpr fun _ => ⟨hends, fun _ => hpath⟩
  | hub, _ => isSome_routePayload.mpr hends

/-- **The data that is safe for all** is that of the documents which name both ends and
have a path, where no lookup overflows: of any other there is a packet that a DuckLink
cannot read. -/
theorem isDefined_forall_iff (lib : ArduinoJson J) (env : DuckEnv) (duck : Duck S g)
    (data : List UInt8) :
    (∀ rxPacket : CdpPacket, rxPacket.data = data → rxPacket.IsRoute →
        ∀ reader : RouteReader S g, reader.AnswersFit → reader.isDefined lib env rxPacket)
      ↔ RouteJson.NamesEnds lib data ∧ RouteJson.HasPath lib data := by
  constructor
  · intro h
    let response := CdpPacket.forSending papaduckDuid ReservedTopic.rrep data duck.duid 0
    have hroute : response.IsRoute := Or.inr rfl
    obtain ⟨hends, hpath⟩ := (DuckLink.isSome_handleByDestination hroute).mp
      (h response rfl hroute (link duck) trivial) (show broadcastDuid ≠ papaduckDuid by decide)
    exact ⟨hends, hpath rfl⟩
  · rintro ⟨hends, hpath⟩ rxPacket rfl hroute
    exact isDefined_of_complete hroute hends hpath

end Complete

/-! ## The answer of a DuckLink -/

open Mesh

/-- The answer of a DuckLink to the request of another. -/
def linkAnswer : CdpPacket :=
  DuckLink.answer ArduinoJson.flat (envOf 1) duidR (newDuck duidD DuckType.link)

theorem isRoute_linkAnswer : linkAnswer.IsRoute := Or.inr rfl

/-- The hub can read it, and publishes the sender as its path. -/
theorem isDefined_iff_expects_hub :
    (hub : RouteReader ℤ BloomGeometry.default).isDefined ArduinoJson.flat (envOf 0) linkAnswer :=
  (isDefined_iff_expects ArduinoJson.flat (envOf 0) isRoute_linkAnswer hub).mpr
    (by decide +kernel)

/-- **The DuckLink that has asked cannot read it**: the path is empty. -/
theorem isDefined_not_forall :
    ¬ ∀ (rxPacket : CdpPacket) (reader : RouteReader ℤ BloomGeometry.default), rxPacket.IsRoute →
      reader.isDefined ArduinoJson.flat (envOf 0) rxPacket := by
  intro h
  have hanswer := h linkAnswer (link (newDuck duidR DuckType.link)) isRoute_linkAnswer
  exact absurd hanswer (by decide +kernel)

end RouteReader
