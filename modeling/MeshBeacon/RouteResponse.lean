import MeshBeacon.MamaDuck
import MeshBeacon.PapaDuck

/-!
# Route responses

A route response is passed on by any duck that hears it, the ones it is addressed
to and the others: a duck with a route to the destination of the document, other
than through the duck it hears, sends the response again as a message of its own.
PapaDucks and MamaDucks share this (`Duck.passOn`), but only a PapaDuck drops what
it has seen before and what it has sent itself.
-/

variable {S J : Type*} {g : BloomGeometry} [LinearOrder S]

/-- The frame is a route response. -/
def IsRrep (frame : List UInt8) : Prop := (CdpPacket.ofBuffer frame).topic = ReservedTopic.rrep

instance (frame : List UInt8) : Decidable (IsRrep frame) := inferInstanceAs (Decidable (_ = _))

/-- A route response is none of the other frames of the protocol. -/
theorem topic_of_rrep {topic : UInt8} (h : topic = ReservedTopic.rrep) :
    topic ≠ ReservedTopic.rreq ∧ topic ≠ ReservedTopic.ping ∧ topic ≠ ReservedTopic.pong := by
  rw [h]
  decide

namespace Duck

variable (lib : ArduinoJson J) (env : DuckEnv)

/-- **The response is passed on**: its document has a destination, which is not this
duck and which it has a route to other than through the sender. -/
def PassesOn (rxPacket : CdpPacket) (duck : Duck S g) : Prop :=
  ∃ rrepDoc, RouteJson.ofPacket lib rxPacket.data = some rrepDoc
    ∧ rrepDoc.getDestination ≠ duck.duid
    ∧ (getBestNextHop rrepDoc.getDestination duck.router.routingTable).1.isSome
    ∧ (getBestNextHop rrepDoc.getDestination duck.router.routingTable).1
      ≠ some rxPacket.sduid.toList

instance (rxPacket : CdpPacket) (duck : Duck S g) : Decidable (duck.PassesOn lib rxPacket) :=
  match hdoc : RouteJson.ofPacket lib rxPacket.data with
  | none => isFalse fun h => by
      obtain ⟨_, hsome, -⟩ := h
      exact absurd (hdoc.symm.trans hsome) nofun
  | some rrepDoc =>
    decidable_of_iff
      (rrepDoc.getDestination ≠ duck.duid
        ∧ (getBestNextHop rrepDoc.getDestination duck.router.routingTable).1.isSome
        ∧ (getBestNextHop rrepDoc.getDestination duck.router.routingTable).1
          ≠ some rxPacket.sduid.toList)
      ⟨fun h => ⟨rrepDoc, hdoc, h⟩, fun ⟨_, hsome, h⟩ =>
        Option.some.inj (hdoc.symm.trans hsome) ▸ h⟩

/-- What the ducks share of handling a route response. -/
def passOn (rxPacket : CdpPacket) (rrepDoc : RouteJson J) (duck : Duck S g) : Option (Duck S g) :=
  let lastInPath := rrepDoc.getlastInPath.getD rxPacket.sduid
  if ¬ duck.LookupFits rrepDoc.getDestination then none
  else
    let (nextHop, routingTable) := getBestNextHop rrepDoc.getDestination duck.router.routingTable
    let duck := duck.withRoutes routingTable
    if rrepDoc.getDestination ≠ duck.duid ∧ nextHop.isSome
        ∧ nextHop ≠ some rxPacket.sduid.toList then
      match rrepDoc.popFromPath lib with
      | none => none
      | some doc =>
        some ((duck.sendRouteResponse env rrepDoc.getDestination
          ((doc.addToPath lib duck.duid).asString lib)).2.insertRoute env rxPacket.sduid lastInPath)
    else some (duck.insertRoute env rrepDoc.getOrigin lastInPath)

variable {lib env} {rxPacket : CdpPacket} {rrepDoc : RouteJson J} {duck duck' : Duck S g}

/-- **Passing on is a reaction**: at most one frame is queued. -/
theorem reacts_passOn (h : duck.passOn lib env rxPacket rrepDoc = some duck') :
    duck.Reacts duck' := by
  unfold passOn at h
  dsimp only at h
  split_ifs at h
  · split at h <;> cases h
    exact ((reacts_sendReservedTopicData env _ _ _ _).before (does_insertRoute env _ _ _)).after
      (duck.does_withRoutes _)
  · cases h
    exact ((duck.does_withRoutes _).then_refl (does_insertRoute env _ _ _)).reacts

/-- A response that is not passed on is noted in the routes. -/
theorem does_passOn_of_not (hdoc : RouteJson.ofPacket lib rxPacket.data = some rrepDoc)
    (hnot : ¬ duck.PassesOn lib rxPacket) (h : duck.passOn lib env rxPacket rrepDoc = some duck') :
    Does [] [] duck duck' := by
  unfold passOn at h
  dsimp only at h
  split_ifs at h with hfits hpass
  · exact absurd ⟨rrepDoc, hdoc, hpass⟩ hnot
  · cases h
    exact (duck.does_withRoutes _).then_refl (does_insertRoute env _ _ _)

end Duck

/-! ## Of PapaDucks -/

namespace PapaDuck

variable {lib : ArduinoJson J} {env : DuckEnv} {frame : List UInt8} {duck duck' : Duck S g}

/-- **A PapaDuck reacts to a route response** that is new, neither for every duck nor
its own, and to be passed on. -/
structure ReactsTo (lib : ArduinoJson J) (rxPacket : CdpPacket) (duck : Duck S g) : Prop where
  new : ¬ duck.router.filter.bloomCheck rxPacket.muid.toList
  directed : broadcastDuid ≠ rxPacket.dduid
  notOwn : rxPacket.sduid ≠ duck.duid
  passesOn : duck.PassesOn lib rxPacket

instance (rxPacket : CdpPacket) (duck : Duck S g) : Decidable (ReactsTo lib rxPacket duck) :=
  decidable_of_iff
    (¬ duck.router.filter.bloomCheck rxPacket.muid.toList ∧ broadcastDuid ≠ rxPacket.dduid
      ∧ rxPacket.sduid ≠ duck.duid ∧ duck.PassesOn lib rxPacket)
    ⟨fun h => ⟨h.1, h.2.1, h.2.2.1, h.2.2.2⟩, fun h => ⟨h.new, h.directed, h.notOwn, h.passesOn⟩⟩

/-- A PapaDuck handles a response of its own as none, and passes on others. -/
theorem ifRouteResponse_eq (rxPacket : CdpPacket) (duck : Duck S g) :
    ifRouteResponse lib env rxPacket duck
      = (RouteJson.ofPacket lib rxPacket.data).bind fun rrepDoc =>
        if rxPacket.sduid = duck.duid then some duck
        else duck.passOn lib env rxPacket rrepDoc := by
  unfold ifRouteResponse
  cases RouteJson.ofPacket lib rxPacket.data <;> rfl

/-- A response that the duck does not react to is handled without a frame. -/
theorem does_ifRouteResponse_of_not {rxPacket : CdpPacket}
    (hnot : rxPacket.sduid ≠ duck.duid → ¬ duck.PassesOn lib rxPacket)
    (h : ifRouteResponse lib env rxPacket duck = some duck') : Duck.Does [] [] duck duck' := by
  rw [ifRouteResponse_eq] at h
  obtain ⟨rrepDoc, hdoc, h⟩ := Option.bind_eq_some_iff.mp h
  split_ifs at h with hown
  · cases h
    exact Duck.Does.refl duck
  · exact Duck.does_passOn_of_not hdoc (hnot hown) h

/-- **A route response is handled by destination** alone: it is broadcast or passed
on. -/
theorem handleByDestination_of_rrep {rxPacket : CdpPacket}
    (hrrep : rxPacket.topic = ReservedTopic.rrep) :
    handleByDestination lib env rxPacket duck =
      if broadcastDuid = rxPacket.dduid then some (duck.broadcastPacket rxPacket).2
      else ifRouteResponse lib env rxPacket duck := by
  obtain ⟨hrreq, hping, hpong⟩ := topic_of_rrep hrrep
  unfold handleByDestination ifBroadcast ifNotBroadcast
  simp only [if_neg hrreq, if_neg hping, if_neg hpong, if_pos hrrep, ite_self]

/-- By the time a response is handled it has been seen, so it is not broadcast. -/
theorem does_handleByDestination_of_not {rxPacket : CdpPacket}
    (hrrep : rxPacket.topic = ReservedTopic.rrep)
    (hseen : duck.router.filter.bloomCheck rxPacket.muid.toList)
    (hnot : broadcastDuid ≠ rxPacket.dduid → rxPacket.sduid ≠ duck.duid →
      ¬ duck.PassesOn lib rxPacket)
    (h : handleByDestination lib env rxPacket duck = some duck') :
    Duck.Does [] [] duck duck' := by
  rw [handleByDestination_of_rrep hrrep] at h
  split_ifs at h with hall
  · rw [Duck.broadcastPacket_of_seen hseen] at h
    cases h
    exact Duck.Does.refl duck
  · exact does_ifRouteResponse_of_not (hnot hall) h

end PapaDuck

/-! ## Of MamaDucks -/

namespace MamaDuck

variable {lib : ArduinoJson J} {env : DuckEnv} {mama mama' : MamaDuck S g}

/-- **A MamaDuck reacts to a route response** that is for every duck and is relayed,
or is not and is passed on. -/
def ReactsTo (lib : ArduinoJson J) (rxPacket : CdpPacket) (mama : MamaDuck S g) : Prop :=
  if broadcastDuid = rxPacket.dduid then mama.duck.Relays rxPacket
  else mama.duck.PassesOn lib rxPacket

instance (rxPacket : CdpPacket) (mama : MamaDuck S g) : Decidable (mama.ReactsTo lib rxPacket) :=
  inferInstanceAs (Decidable (ite _ _ _))

/-- This depends on the router and the identifier only. -/
theorem ReactsTo.congr {rxPacket : CdpPacket} (h : mama.ReactsTo lib rxPacket)
    (hrouter : mama'.duck.router = mama.duck.router) (hduid : mama'.duck.duid = mama.duck.duid) :
    mama'.ReactsTo lib rxPacket := by
  unfold ReactsTo at h ⊢
  split_ifs at h ⊢
  · exact ⟨hrouter ▸ h.new, h.sendable⟩
  · unfold Duck.PassesOn at h ⊢
    rwa [hrouter, hduid]

theorem ifRouteResponse_eq (lib : ArduinoJson J) (env : DuckEnv) (rxPacket : CdpPacket)
    (mama : MamaDuck S g) :
    (mama.ifRouteResponse lib env rxPacket).map (fun mama => mama.duck)
      = (RouteJson.ofPacket lib rxPacket.data).bind fun rrepDoc =>
        mama.duck.passOn lib env rxPacket rrepDoc := by
  unfold ifRouteResponse
  cases RouteJson.ofPacket lib rxPacket.data with
  | none => rfl
  | some rrepDoc =>
    show Option.map _ (ite _ _ (ite _ _ _)) = ite _ _ (ite _ _ _)
    rw [apply_ite (Option.map fun mama : MamaDuck S g => mama.duck),
      apply_ite (Option.map fun mama : MamaDuck S g => mama.duck)]
    refine if_congr Iff.rfl rfl (if_congr Iff.rfl ?_ rfl)
    cases rrepDoc.popFromPath lib <;> rfl

/-- **A route response is handled by destination** alone: it is broadcast or passed
on. -/
theorem handleByDestination_of_rrep {rxPacket : CdpPacket}
    (hrrep : rxPacket.topic = ReservedTopic.rrep) :
    mama.handleByDestination lib env rxPacket =
      if broadcastDuid = rxPacket.dduid then some (mama.broadcastPacket rxPacket)
      else mama.ifRouteResponse lib env rxPacket := by
  obtain ⟨hrreq, hping, hpong⟩ := topic_of_rrep hrrep
  unfold handleByDestination ifBroadcast ifNotBroadcast
  simp only [if_neg hrreq, if_neg hping, if_neg hpong, if_pos hrrep, ite_self]

theorem reacts_handleByDestination_of_rrep {rxPacket : CdpPacket}
    (hrrep : rxPacket.topic = ReservedTopic.rrep)
    (h : mama.handleByDestination lib env rxPacket = some mama') :
    mama.duck.Reacts mama'.duck := by
  rw [handleByDestination_of_rrep hrrep] at h
  split_ifs at h
  · cases h
    exact mama.duck.reacts_broadcastPacket rxPacket
  · have hpass := (ifRouteResponse_eq lib env rxPacket mama).symm
    rw [h] at hpass
    obtain ⟨rrepDoc, -, hpass⟩ := Option.bind_eq_some_iff.mp hpass
    exact Duck.reacts_passOn hpass

theorem does_handleByDestination_of_not {rxPacket : CdpPacket}
    (hrrep : rxPacket.topic = ReservedTopic.rrep) (hnot : ¬ mama.ReactsTo lib rxPacket)
    (h : mama.handleByDestination lib env rxPacket = some mama') :
    Duck.Does [] [] mama.duck mama'.duck := by
  unfold ReactsTo at hnot
  rw [handleByDestination_of_rrep hrrep] at h
  split_ifs at h hnot with hall
  · cases h
    show Duck.Does [] [] mama.duck (mama.duck.broadcastPacket rxPacket).2
    rw [mama.duck.broadcastPacket_of_not_relays rxPacket hnot]
    exact Duck.Does.refl mama.duck
  · have hpass := (ifRouteResponse_eq lib env rxPacket mama).symm
    rw [h] at hpass
    obtain ⟨rrepDoc, hdoc, hpass⟩ := Option.bind_eq_some_iff.mp hpass
    exact Duck.does_passOn_of_not hdoc hnot hpass

end MamaDuck
