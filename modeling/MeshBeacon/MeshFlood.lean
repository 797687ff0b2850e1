import MeshBeacon.MeshLineage

/-!
# How far a message goes

While the filters remember, no duck sends a message of another twice. So what goes back to one
frame is a tree whose branches visit no duck twice: a message is relayed by every duck at most
once, and its hops are fewer than the ducks.

The filters of the ducks remember what they have been given since the start as long as that is not
more than a generation. The history of a MamaDuck says how much it is; a PapaDuck relays nothing.
-/

variable {ι S J : Type*} {g : BloomGeometry}

/-- What is pairwise so of the elements of each kind. -/
theorem List.pairwise_of_filter {α β : Type*} [DecidableEq β] {kind : α → β} {R : α → α → Prop}
    {l : List α} (h : ∀ b, (l.filter (kind · = b)).Pairwise R) :
    l.Pairwise fun a a' => kind a = kind a' → R a a' := by
  induction l with
  | nil => exact List.Pairwise.nil
  | cons a l ih =>
    refine List.pairwise_cons.mpr ⟨fun a' ha' hkind => ?_,
      ih fun b => (h b).sublist ((List.sublist_cons_self a l).filter _)⟩
    have hfirst := h (kind a)
    rw [List.filter_cons_of_pos (p := (kind · = kind a)) (decide_eq_true rfl)] at hfirst
    exact (List.pairwise_cons.mp hfirst).1 a'
      (List.mem_filter.mpr ⟨ha', decide_eq_true hkind.symm⟩)

namespace Emission

/-- **The later does not relay** what the earlier was about. -/
def Fresh (earlier later : Emission) : Prop :=
  ∀ packet, later = .relay packet → earlier.packet.muid ≠ packet.muid

/-- What is noted among deeds that relay only what is new is fresh. -/
theorem pairwise_fresh {deeds : List Deed} {es : List Emission}
    (hnew : deeds.Pairwise fun earlier later =>
      ∀ muid, later = .relayed muid → earlier.muid ≠ muid)
    (hnoted : (es.map deed).Sublist deeds) : es.Pairwise Fresh := by
  refine (List.pairwise_map.mp (hnew.sublist hnoted)).imp fun {earlier later} h packet hrelay => ?_
  subst hrelay
  rw [← earlier.muid_deed]
  exact h packet.muid rfl

end Emission

namespace MeshDuck

/-- **The filter remembers** everything since the start: that is not more than a generation. -/
def Remembers : MeshDuck S g → Prop
  | .mama node => node.history.length ≤ g.maxMsgs
  | .papa _ => True

instance (node : MeshDuck S g) : Decidable node.Remembers :=
  match node with
  | .mama node => inferInstanceAs (Decidable (node.history.length ≤ g.maxMsgs))
  | .papa _ => inferInstanceAs (Decidable True)

/-- It has done nothing about messages yet. -/
def Untold : MeshDuck S g → Prop
  | .mama node => node.history = []
  | .papa _ => True

/-- **A duck that remembers relays what is fresh** to it. -/
theorem Notes.pairwise {es : List Emission} {node node' : MeshDuck S g} (h : Notes es node node')
    (hstart : node.Untold) (hfew : node'.Remembers) : es.Pairwise Emission.Fresh := by
  cases node with
  | mama node =>
    cases node' with
    | papa => exact h.elim
    | mama node' =>
      obtain ⟨⟨deeds, hhistory, -, hlegal⟩, deeds', hhistory', hsub⟩ := h
      have hempty : node.history = [] := hstart
      have hlen : node'.history.length ≤ g.maxMsgs := hfew
      rw [hempty, List.nil_append] at hhistory hhistory'
      rw [hhistory] at hlen
      rw [← hhistory', hhistory] at hsub
      exact Emission.pairwise_fresh (Deed.pairwise_of_guarded hlen hlegal) hsub
  | papa node =>
    cases node' with
    | mama => exact h.elim
    | papa node' =>
      refine List.pairwise_of_forall_mem_list ?_
      intro earlier _ later hlater packet hrelay
      obtain ⟨packet', hown⟩ := h later hlater
      rw [hrelay] at hown
      exact absurd hown Emission.noConfusion

end MeshDuck

namespace Mesh

variable [DecidableEq ι] {start : ι → MeshDuck S g} {mesh : Mesh ι S g}
  {sendings : List (Sending ι)}

/-- **What a duck emits is fresh to it.** -/
theorem Traced.pairwise (h : Traced start mesh sendings) (hstart : ∀ i, (start i).Untold)
    (hfew : ∀ i, (mesh.ducks i).Remembers) :
    sendings.Pairwise fun s s' => s.sender = s'.sender → s.emission.Fresh s'.emission :=
  List.pairwise_of_filter fun i =>
    List.pairwise_map.mp ((h.noted i).pairwise (hstart i) (hfew i))

/-- The message in a frame that is accepted is that of its packet. -/
theorem muid_frame {e : Emission} (h : DuckLoRa.acceptable e.frame) :
    (CdpPacket.ofBuffer e.frame).muid = e.packet.muid :=
  (CdpPacket.sameHeader_take h).1.muid

/-- **The way of a message**: the ducks that have sent it on are different, and one more than the
hops. By induction on the place, through what was heard. -/
theorem Traced.way (h : Traced start mesh sendings) (hstart : ∀ i, (start i).Untold)
    (hfew : ∀ i, (mesh.ducks i).Remembers) (k : ℕ) :
    ∀ s, sendings[k]? = some s → DuckLoRa.acceptable s.emission.frame →
      ∃ way : List ι, way.Nodup
        ∧ (CdpPacket.ofBuffer s.emission.frame).hopCount = UInt8.ofNat (way.length - 1)
        ∧ 0 < way.length
        ∧ ∀ i ∈ way, ∃ j ≤ k, ∃ s' ∈ sendings[j]?, s'.sender = i
          ∧ s'.emission.packet.muid = s.emission.packet.muid := by
  have hpairwise := h.pairwise hstart hfew
  induction k using Nat.strong_induction_on with
  | _ k ih =>
    intro s hs hacc
    cases hemission : s.emission with
    | own packet =>
      rw [hemission] at hacc
      obtain ⟨-, hhops⟩ := h.own s (List.mem_of_getElem? hs) packet hemission
      refine ⟨[s.sender], List.nodup_singleton _,
        (CdpPacket.sameHeader_take hacc).2.trans hhops, Nat.one_pos, ?_⟩
      intro i hi
      rw [List.mem_singleton.mp hi]
      exact ⟨k, le_rfl, s, hs, rfl, by rw [hemission]⟩
    | relay packet =>
      obtain ⟨hlt, heard, hheard, hacc', hrelayed⟩ := h.relayed k s packet hs hemission
      obtain ⟨way, hnodup, hhops, hpos, hway⟩ := ih s.heard hlt heard hheard hacc'
      rw [hemission] at hacc
      have hmuid : packet.muid = heard.emission.packet.muid :=
        hrelayed.muid.trans (muid_frame hacc')
      have hnew : s.sender ∉ way := by
        -- it would have sent the message before, and would not have relayed it now
        intro hmem
        obtain ⟨j, hj, s', hs', hsender, hmuid'⟩ := hway s.sender hmem
        obtain ⟨hk, rfl⟩ := List.getElem?_eq_some_iff.mp hs
        obtain ⟨hj', rfl⟩ := List.getElem?_eq_some_iff.mp hs'
        have hfresh := List.pairwise_iff_getElem.mp hpairwise j k hj' hk (hj.trans_lt hlt) hsender
        exact hfresh packet hemission (hmuid'.trans hmuid.symm)
      refine ⟨s.sender :: way, List.nodup_cons.mpr ⟨hnew, hnodup⟩, ?_, Nat.succ_pos _, ?_⟩
      · rw [(Emission.sameMessage_of_relayedAs heard.emission.length_frame_lt hacc' hrelayed
          hacc).2, hhops, List.length_cons, Nat.add_sub_cancel]
        have hone : way.length = way.length - 1 + 1 := (Nat.sub_add_cancel hpos).symm
        conv_rhs => rw [hone, UInt8.ofNat_add]
        rfl
      · intro i hi
        rcases List.mem_cons.mp hi with rfl | hold
        · exact ⟨k, le_rfl, s, hs, rfl, by rw [hemission]⟩
        · obtain ⟨j, hj, s', hs', hsender, hmuid'⟩ := hway i hold
          exact ⟨j, hj.trans hlt.le, s', hs', hsender, hmuid'.trans hmuid.symm⟩

/-! ## Bounds -/

/-- The message in a frame. -/
def messageOf (t : Transmission ι) : Muid := (CdpPacket.ofBuffer t.frame).muid

/-- **A frame sent for another**: ducks accept it, and it does not name its sender as the
source. -/
def SentForAnother (start : ι → MeshDuck S g) (t : Transmission ι) : Prop :=
  DuckLoRa.acceptable t.frame ∧ (CdpPacket.ofBuffer t.frame).sduid ≠ (start t.sender).duck.duid

instance (t : Transmission ι) : Decidable (SentForAnother start t) :=
  inferInstanceAs (Decidable (_ ∧ _))

/-- **The flood is bounded.** -/
structure FloodsOnce [Fintype ι] (start : ι → MeshDuck S g) (mesh : Mesh ι S g) : Prop where
  /-- No duck sends a message of another twice. -/
  once : ((mesh.air.filter (SentForAnother start ·)).map fun t => (t.sender, messageOf t)).Nodup
  /-- So a message is sent for another at most as often as there are ducks. -/
  few : ∀ muid, (mesh.air.filter fun t => SentForAnother start t ∧ messageOf t = muid).length
    ≤ Fintype.card ι
  /-- Its hops are fewer than the ducks. -/
  hops : ∀ t ∈ mesh.air, DuckLoRa.acceptable t.frame →
    (CdpPacket.ofBuffer t.frame).hopCount.toNat < Fintype.card ι

/-- No duck sends a message of another twice: the second time it would not be fresh. -/
theorem Traced.nodup (h : Traced start mesh sendings) (hstart : ∀ i, (start i).Untold)
    (hfew : ∀ i, (mesh.ducks i).Remembers) :
    ((mesh.air.filter (SentForAnother start ·)).map fun t => (t.sender, messageOf t)).Nodup := by
  -- both lists are what there is of senders and frames
  let another (x : ι × List UInt8) : Bool :=
    DuckLoRa.acceptable x.2 ∧ (CdpPacket.ofBuffer x.2).sduid ≠ (start x.1).duck.duid
  let message (x : ι × List UInt8) : ι × Muid := (x.1, (CdpPacket.ofBuffer x.2).muid)
  have hair : (mesh.air.filter (SentForAnother start ·)).map (fun t => (t.sender, messageOf t))
      = ((mesh.air.map fun t => (t.sender, t.frame)).filter another).map message := by
    rw [List.filter_map, List.map_map]
    rfl
  rw [hair, h.air, List.Nodup, List.pairwise_map, List.pairwise_filter, List.pairwise_map]
  refine (h.pairwise hstart hfew).imp_of_mem fun {s s'} _ hs' hfresh hs hlater heq => ?_
  obtain ⟨hacc, -⟩ := of_decide_eq_true hs
  obtain ⟨hacc', hanother⟩ := of_decide_eq_true hlater
  obtain ⟨hsender, hmuid⟩ := Prod.mk.inj heq
  cases hemission : s'.emission with
  | own packet =>
    dsimp only at hacc' hanother
    rw [hemission] at hacc' hanother
    exact hanother ((CdpPacket.sameHeader_take hacc').1.sduid.trans (h.own s' hs' packet hemission).1)
  | relay packet =>
    rw [muid_frame hacc, muid_frame hacc', hemission] at hmuid
    exact hfresh hsender packet hemission hmuid

/-- **A message floods the mesh once.** In every run of any number of ducks in which no MamaDuck
adds more messages to its filter than a generation takes, from whatever filters and routes, which
hear frames in any order and any number of times: no duck sends a message of another twice, so a
message is sent for another at most as often as there are ducks, and its hops are fewer than the
ducks. -/
theorem mesh_floodsOnce [Fintype ι] [LinearOrder S] (lib : ArduinoJson J)
    (ducks : ι → MeshDuck S g) (events : List (MeshEvent ι S)) (hstart : ∀ i, (ducks i).Untold)
    (hrun : Run.final (step lib) (some ⟨ducks, []⟩) events = some mesh)
    (hfew : ∀ i, (mesh.ducks i).Remembers) : FloodsOnce ducks mesh := by
  obtain ⟨sendings, h⟩ := exists_traced lib ducks events hrun
  have honce := h.nodup hstart hfew
  refine ⟨honce, fun muid => ?_, fun t ht hacc => ?_⟩
  · set sent := mesh.air.filter fun t => SentForAnother ducks t ∧ messageOf t = muid
    have hsub : sent.Sublist (mesh.air.filter (SentForAnother ducks ·)) :=
      List.monotone_filter_right _ fun t ht => by
        rw [decide_eq_true_iff] at ht ⊢
        exact ht.1
    have hpairs : sent.map (fun t => (t.sender, messageOf t))
        = (sent.map Transmission.sender).map (·, muid) := by
      rw [List.map_map]
      refine List.map_congr_left fun t ht => ?_
      exact congrArg (t.sender, ·) (of_decide_eq_true (List.mem_filter.mp ht).2).2
    have hnodup : (sent.map Transmission.sender).Nodup :=
      List.Nodup.of_map (·, muid) (hpairs ▸ honce.sublist (hsub.map _))
    exact (List.length_map _).symm.trans_le hnodup.length_le_card
  · obtain ⟨k, hk⟩ := List.getElem?_of_mem ht
    obtain ⟨s, hs, -, hframe⟩ := h.getElem?_trace hk
    rw [← hframe] at hacc ⊢
    obtain ⟨way, hnodup, hhops, hpos, -⟩ := h.way hstart hfew k s hs hacc
    have hcard := hnodup.length_le_card
    rw [hhops, UInt8.toNat_ofNat']
    exact (Nat.mod_le _ _).trans_lt (by omega)

/-- A broadcast that is relayed once. -/
theorem mesh_floodsOnce_relayed : ∃ mesh,
    Run.final (step ArduinoJson.flat) (some ⟨threeDucks false, []⟩) (relayed 0 1 2) = some mesh
      ∧ (mesh.air.filter (SentForAnother (threeDucks false) ·)).length = 1
      ∧ FloodsOnce (threeDucks false) mesh := by
  have hmap : (Run.final (step ArduinoJson.flat) (some ⟨threeDucks false, []⟩) (relayed 0 1 2)).map
      (fun mesh => ((mesh.air.filter (SentForAnother (threeDucks false) ·)).length,
        decide (∀ i, (mesh.ducks i).Remembers))) = some (1, true) := by decide +kernel
  obtain ⟨mesh, hrun, hboth⟩ := Option.map_eq_some_iff.mp hmap
  have hstart : ∀ i, (threeDucks false i).Untold
    | 0 => rfl
    | 1 => rfl
    | 2 => trivial
  exact ⟨mesh, hrun, congrArg Prod.fst hboth, mesh_floodsOnce ArduinoJson.flat (threeDucks false)
    (relayed 0 1 2) hstart hrun (of_decide_eq_true (congrArg Prod.snd hboth))⟩

end Mesh
