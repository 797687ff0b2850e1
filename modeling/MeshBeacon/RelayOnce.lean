import MeshBeacon.MeshFlood

/-!
# Relaying once

What a MamaDuck relays is seen in the frames it queues. Along a run the packets it reads and the
frames it queues are written down, beside its history; every frame is then accounted for by a
packet of its own, which it has assigned, or by one it has read, with one more hop.

As the history says what was new when it was relayed, a frame that relays a message comes after no
other frame of that message, whether that was relayed too or was the duck's own.
-/

variable {S J : Type*} {g : BloomGeometry}

/-! ## The log of a run -/

/-- A MamaDuck, the packets it has read and the frames it has queued. -/
structure MamaLog (S : Type*) (g : BloomGeometry) where
  mama : MamaDuck S g
  heard : List CdpPacket
  queued : List (List UInt8)

namespace MamaLog

/-- The log of a duck that has done nothing yet. -/
def start (mama : TimedDuck S g) : MamaLog S g := ⟨{ mama with history := [] }, [], []⟩

/-- **The duck has become another**, and has queued the frames by which its queue is longer. -/
def after (packets : List CdpPacket) (mama' : MamaDuck S g) (log : MamaLog S g) : MamaLog S g where
  mama := mama'
  heard := log.heard ++ packets
  queued := log.queued ++ mama'.duck.frames.drop log.mama.duck.frames.length

/-- One event. What the bridge does to the queue is not what the duck queues. -/
def step [LinearOrder S] (lib : ArduinoJson J) (log : Option (MamaLog S g)) (event : MamaEvent S) :
    Option (MamaLog S g) :=
  log.bind fun log =>
    (MamaDuck.step lib (some log.mama) event).map fun mama' =>
      match event with
      | .bridge .. => { log with mama := mama' }
      | .main .. =>
        log.after (log.mama.duck.duckRadio.readReceivedData.1.map CdpPacket.ofBuffer).toList mama'
      | .sendData .. => log.after [] mama'
      | .sendPing .. => log.after [] mama'

/-- The frame is none that the duck builds of a message of its own: it has another source, or has
hops. -/
def Relays (duid : Duid) (frame : List UInt8) : Prop :=
  DuckLoRa.acceptable frame
    ∧ ((CdpPacket.ofBuffer frame).sduid ≠ duid ∨ (CdpPacket.ofBuffer frame).hopCount ≠ 0)

instance (duid : Duid) (frame : List UInt8) : Decidable (Relays duid frame) :=
  inferInstanceAs (Decidable (_ ∧ _))

/-- **The log accounts for its frames**: these emissions, each noted in the history. -/
structure Accounts (es : List Emission) (log : MamaLog S g) : Prop where
  queued : log.queued = es.map Emission.frame
  sound : ∀ e ∈ es, e.Sound log.mama.duck.duid (· ∈ log.heard)
  noted : (es.map Emission.deed).Sublist log.mama.history

/-! ## What every event keeps -/

variable {log : MamaLog S g} {es : List Emission}

/-- What is sound of what has been heard stays so. -/
theorem sound_mono {duid : Duid} {heard heard' : CdpPacket → Prop}
    (h : ∀ packet, heard packet → heard' packet) {e : Emission} (he : e.Sound duid heard) :
    e.Sound duid heard' := by
  cases e with
  | own packet => exact he
  | relay packet => exact he.imp fun rx hrx => ⟨h rx hrx.1, hrx.2⟩

/-- **What a duck emits is accounted for**, when it emits of what it has just read. -/
theorem Accounts.after (h : log.Accounts es) {packets : List CdpPacket} {mama' : MamaDuck S g}
    (hemits : MamaDuck.Emits (· ∈ packets) log.mama mama') :
    ∃ es', (log.after packets mama').Accounts es' := by
  obtain ⟨deeds, es', hhistory, hframes, hnoted, hsound⟩ := hemits.emitted
  refine ⟨es ++ es', ?_, ?_, ?_⟩
  · show log.queued ++ mama'.duck.frames.drop log.mama.duck.frames.length = _
    rw [hframes, List.drop_left, h.queued, List.map_append]
  · intro e he
    show e.Sound mama'.duck.duid (· ∈ log.heard ++ packets)
    rw [hemits.duid]
    rcases List.mem_append.mp he with he | he
    · exact sound_mono (fun _ => List.mem_append_left _) (h.sound e he)
    · exact sound_mono (fun _ => List.mem_append_right _) (hsound e he)
  · show (List.map Emission.deed (es ++ es')).Sublist mama'.history
    rw [List.map_append, hhistory]
    exact h.noted.append hnoted

section Runs

variable [LinearOrder S] (lib : ArduinoJson J)

/-- **The step lemma**: every event keeps the frames accounted for. -/
theorem accounts_step {log' : MamaLog S g} {event : MamaEvent S}
    (hstep : step lib (some log) event = some log') (h : ∃ es, log.Accounts es) :
    ∃ es, log'.Accounts es := by
  obtain ⟨es, h⟩ := h
  obtain ⟨mama', hmama, rfl⟩ := Option.map_eq_some_iff.mp hstep
  cases event with
  | bridge receivedFlag uplinkQueue downlinkQueue =>
    cases hmama
    exact ⟨es, h.queued, h.sound, h.noted⟩
  | main env millis =>
    refine h.after ?_
    -- what the radio reads is the packet noted as heard
    have hreads : log.mama.duck.duckRadio.Reads
        = (· ∈ (log.mama.duck.duckRadio.readReceivedData.1.map CdpPacket.ofBuffer).toList) := by
      funext packet
      refine propext ⟨?_, ?_⟩
      · rintro ⟨bytes, hbytes, rfl⟩
        rw [hbytes]
        exact List.mem_singleton_self _
      · intro hmem
        obtain ⟨bytes, hbytes, rfl⟩ := Option.map_eq_some_iff.mp (Option.mem_toList.mp hmem)
        exact ⟨bytes, hbytes, rfl⟩
    exact hreads ▸ log.mama.emits_main lib env millis hmama
  | sendData env millis topic data targetDevice =>
    obtain ⟨-, rfl⟩ := (MamaDuck.send_eq_some lib env millis).mp hmama
    exact h.after (log.mama.emits_sendData lib env millis topic data targetDevice)
  | sendPing env targetDevice =>
    cases hmama
    exact h.after (log.mama.emits_sendReservedTopicData env _ _ _)

/-- The duck of the log goes the way of the duck alone. -/
theorem mama_step {log' : MamaLog S g} {event : MamaEvent S}
    (hstep : step lib (some log) event = some log') :
    MamaDuck.step lib (some log.mama) event = some log'.mama := by
  obtain ⟨mama', hmama, rfl⟩ := Option.map_eq_some_iff.mp hstep
  rw [hmama]
  cases event <;> rfl

/-- **The run lemma**: in every run the frames are accounted for, and the duck follows from what
it was at the start. -/
theorem accounts_final (mama : TimedDuck S g) (events : List (MamaEvent S))
    (hrun : Run.final (step lib) (some (start mama)) events = some log) :
    (start mama).mama.Follows log.mama ∧ ∃ es, log.Accounts es := by
  refine Run.invariant_some
    (P := fun log : MamaLog S g =>
      (start mama).mama.Follows log.mama ∧ ∃ es, log.Accounts es) (fun _ => rfl) ?_ events
    ⟨MamaDuck.Follows.refl _, [], rfl, fun _ he => absurd he List.not_mem_nil,
      List.Sublist.refl _⟩ hrun
  exact fun _ _ _ hstep h =>
    ⟨h.1.trans (MamaDuck.follows_step lib (mama_step lib hstep)), accounts_step lib hstep h.2⟩

end Runs

/-! ## Relaying once -/

/-- A frame that is accepted and relays is built of a packet that relays. -/
theorem Relays.relay {duid : Duid} {heard : CdpPacket → Prop} {e : Emission}
    (h : Relays duid e.frame) (he : e.Sound duid heard) : ∃ packet, e = .relay packet := by
  cases e with
  | relay packet => exact ⟨packet, rfl⟩
  | own packet =>
    obtain ⟨hheader, hhops⟩ := CdpPacket.sameHeader_take h.1
    rcases h.2 with hduid | hhop
    · exact absurd (hheader.sduid.trans he.1) hduid
    · exact absurd (hhops.trans he.2) hhop

end MamaLog

namespace MamaDuck

/-- **The duck relays once**, and not what it has assigned. -/
structure RelaysOnce (log : MamaLog S g) : Prop where
  /-- Every frame queued is of a packet of the duck that it has assigned, or relays one it has
  read; and what it relays is no message it has emitted before. -/
  accounted : ∃ es, log.Accounts es ∧ es.Pairwise Emission.Fresh
  /-- A frame that relays comes after no other frame of its message. -/
  once : log.queued.Pairwise fun earlier later =>
    DuckLoRa.acceptable earlier → MamaLog.Relays log.mama.duck.duid later →
      (CdpPacket.ofBuffer later).muid ≠ (CdpPacket.ofBuffer earlier).muid
  /-- Nothing is relayed after it has been assigned, sent or not. -/
  notOwn : ∀ muid, ¬ [.assigned muid, .relayed muid].Sublist log.mama.history

/-- **A MamaDuck relays every message at most once and none of its own**, in every
sequence of frames received and messages sent in which fewer messages are added to
its filter than a generation takes, from whatever state. -/
theorem relaysOnce [LinearOrder S] (lib : ArduinoJson J) (mama : TimedDuck S g)
    (events : List (MamaEvent S)) {log : MamaLog S g}
    (hrun : Run.final (MamaLog.step lib) (some (MamaLog.start mama)) events = some log)
    (hfew : log.mama.history.length < g.maxMsgs) : RelaysOnce log := by
  obtain ⟨⟨deeds, hhistory, -, hlegal⟩, es, haccounts⟩ := MamaLog.accounts_final lib mama events hrun
  have hdeeds : log.mama.history = deeds := hhistory
  rw [hdeeds] at hfew
  have hnew := Deed.pairwise_of_guarded (Nat.le_of_lt hfew) hlegal
  have hfresh : es.Pairwise Emission.Fresh :=
    Emission.pairwise_fresh hnew (hdeeds ▸ haccounts.noted)
  refine ⟨⟨es, haccounts, hfresh⟩, ?_, ?_⟩
  · rw [haccounts.queued, List.pairwise_map]
    refine hfresh.imp_of_mem fun {earlier later} _ hlater hfresh hacc hrelays hmuid => ?_
    obtain ⟨packet, rfl⟩ := hrelays.relay (haccounts.sound later hlater)
    rw [Mesh.muid_frame hrelays.1, Mesh.muid_frame hacc] at hmuid
    exact hfresh packet rfl hmuid.symm
  · intro muid hown
    rw [hdeeds] at hown
    exact List.pairwise_iff_forall_sublist.mp hnew hown muid rfl rfl

/-- A new MamaDuck. -/
def newMamaDuck : TimedDuck ℤ BloomGeometry.default where
  duck :=
    { PapaDuck.newPapaDuck [] with
      duid := letterDuid 0x4D
      duckType := 2 }
  lastRreqTime := 0

/-- What a duck does that hears a frame twice and sends data in between. -/
def heardTwice : List (MamaEvent ℤ) :=
  let heard : MamaEvent ℤ := .bridge true [⟨PapaDuck.statusFrame, 922800000, 7, 0⟩] []
  [heard, .main PapaDuck.env₀ 1, .sendData PapaDuck.env₀ 2 0x20 [0x41] broadcastDuid, heard,
    .main PapaDuck.env₀ 3]

/-- Two frames are queued, and the frame heard is relayed once. -/
theorem relaysOnce_heardTwice : ∃ log,
    Run.final (MamaLog.step ArduinoJson.text) (some (MamaLog.start newMamaDuck)) heardTwice
        = some log
      ∧ log.queued.length = 2 ∧ RelaysOnce log := by
  have hlengths : (Run.final (MamaLog.step ArduinoJson.text) (some (MamaLog.start newMamaDuck))
      heardTwice).map (fun log => (log.queued.length, log.mama.history.length)) = some (2, 5) := by
    decide +kernel
  obtain ⟨log, hrun, hboth⟩ := Option.map_eq_some_iff.mp hlengths
  have hfew : log.mama.history.length < BloomGeometry.default.maxMsgs := by
    rw [show log.mama.history.length = 5 from congrArg Prod.snd hboth]
    decide
  exact ⟨log, hrun, congrArg Prod.fst hboth,
    relaysOnce ArduinoJson.text newMamaDuck heardTwice hrun hfew⟩

end MamaDuck
