import MeshBeacon.UplinkQueue

/-!
# The receive flag

`Duck::main` looks at a flag to see whether there is anything to read. The callback
of the forwarder sets it after pushing a packet; `readReceivedData` clears it when
it has popped a packet and then found the queue empty. The queue has a mutex and the
flag has none, and neither covers the two together: between any two of these steps
the other thread may take some of its own.

With neither thread in the middle of its steps the flag should say whether the queue
holds a packet. Two interleavings break that. The reader clears the flag after the
callback has pushed another packet and announced it: the packet waits behind a
cleared flag. Or the reader takes the packet, finds the queue empty and clears the
flag before the callback announces the packet: the flag is left set with nothing in
the queue, and reading does not clear it, since nothing is popped. There is no third
(`FlagState.quiescent_iff_undisturbed`).
-/

namespace CdpBridge

variable {F : Type*}

/-- Where the thread that reads is in `readReceivedData`. -/
inductive Reader
  | idle
  /-- It has popped a packet. -/
  | popped
  /-- It has found the queue empty after that. -/
  | foundEmpty
deriving DecidableEq

/-- The queue and the flag, and where the two threads are. -/
structure FlagState (F : Type*) where
  uplinkQueue : List (UplinkPacket F)
  receivedFlag : Bool
  /-- The callback has pushed a packet and not set the flag yet. -/
  pushed : Bool
  reader : Reader

/-- The atomic steps of `duck_rx_from_forwarder_cb`, and those of
`readReceivedData`. -/
inductive FlagStep (F : Type*)
  /-- `push_uplink_packet`. -/
  | push (pkt : UplinkPacket F)
  /-- `setReceiveFlag(true)`. -/
  | setFlag
  /-- `pop_uplink_packet`. -/
  | pop
  /-- `has_uplink_packet`. -/
  | test
  /-- `setReceiveFlag(false)`. -/
  | clearFlag

namespace FlagState

/-- Nothing has arrived. -/
def init : FlagState F := ⟨[], false, false, .idle⟩

/-- One atomic step. A thread for which it is not the next one does nothing. -/
def step (s : FlagState F) : FlagStep F → FlagState F
  | .push pkt =>
    if s.pushed then s
    else { s with uplinkQueue := pushUplinkPacket pkt s.uplinkQueue, pushed := true }
  | .setFlag => if s.pushed then { s with receivedFlag := true, pushed := false } else s
  | .pop =>
    if s.reader = .idle then
      { s with
        uplinkQueue := (popUplinkPacket s.uplinkQueue).2
        reader := if (popUplinkPacket s.uplinkQueue).1.isSome then .popped else .idle }
    else s
  | .test =>
    if s.reader = .popped then
      { s with reader := if hasUplinkPacket s.uplinkQueue then .idle else .foundEmpty }
    else s
  | .clearFlag =>
    if s.reader = .foundEmpty then { s with receivedFlag := false, reader := .idle } else s

/-- Neither thread is in the middle of its steps. -/
def Quiet (s : FlagState F) : Prop := s.pushed = false ∧ s.reader = .idle

/-- **With neither thread in the middle, the flag says whether the queue holds a
packet.** -/
def FlagTells (s : FlagState F) : Prop :=
  s.Quiet → (s.receivedFlag = true ↔ s.uplinkQueue ≠ [])

/-- The step is not one of the two that break this: the reader does not clear the flag
with a packet in the queue that has been announced; and the callback does not announce
a packet that has been read already by a reader that has finished since. -/
def Undisturbed (s : FlagState F) : FlagStep F → Prop
  | .push _ => True
  | .setFlag => s.pushed = true → s.uplinkQueue = [] → s.reader ≠ .idle
  | .pop => True
  | .test => True
  | .clearFlag => s.reader = .foundEmpty → s.uplinkQueue ≠ [] → s.pushed = true

/-! ## Interleavings -/

theorem pushUplinkPacket_ne_nil (pkt : UplinkPacket F) (queue : List (UplinkPacket F)) :
    pushUplinkPacket pkt queue ≠ [] := by
  unfold pushUplinkPacket
  split_ifs
  · exact List.append_ne_nil_of_right_ne_nil _ (List.cons_ne_nil _ _)
  · exact List.append_ne_nil_of_right_ne_nil _ (List.cons_ne_nil _ _)

/-- What holds of undisturbed threads wherever they are: a packet is announced, or will
be; and a set flag with an empty queue will be cleared. -/
structure Settling (s : FlagState F) : Prop where
  announced : s.pushed = false → s.uplinkQueue ≠ [] → s.receivedFlag = true
  cleared : s.reader = .idle → s.receivedFlag = true → s.uplinkQueue ≠ []

variable {s : FlagState F}

theorem settling_init : (init : FlagState F).Settling where
  announced := fun _ hne => absurd rfl hne
  cleared := fun _ hflag => absurd hflag Bool.false_ne_true

theorem Settling.flagTells (h : s.Settling) : s.FlagTells :=
  fun hquiet => ⟨h.cleared hquiet.2, h.announced hquiet.1⟩

/-- Popping leaves no packet that was not there. -/
theorem ne_nil_of_popUplinkPacket {queue : List (UplinkPacket F)}
    (h : (popUplinkPacket queue).2 ≠ []) : queue ≠ [] := by
  rintro rfl
  exact h rfl

/-- An undisturbed step keeps the threads settling. -/
theorem Settling.step (h : s.Settling) (e : FlagStep F) (he : s.Undisturbed e) :
    (s.step e).Settling := by
  cases e with
  | push pkt =>
    rw [FlagState.step]
    split_ifs with hpushed
    · exact h
    · exact ⟨fun hfalse => absurd hfalse.symm Bool.false_ne_true,
        fun _ _ => pushUplinkPacket_ne_nil pkt s.uplinkQueue⟩
  | setFlag =>
    rw [FlagState.step]
    split_ifs with hpushed
    · -- an announcement with nothing in the queue needs a reader in the middle of its steps
      exact ⟨fun _ _ => rfl, fun hidle _ hqueue => he hpushed hqueue hidle⟩
    · exact h
  | pop =>
    rw [FlagState.step]
    by_cases hidle : s.reader = .idle
    · rw [if_pos hidle]
      refine ⟨fun hpushed hne => h.announced hpushed (ne_nil_of_popUplinkPacket hne), ?_⟩
      intro hreader hflag
      -- the flag was clear only if there was a packet, so the reader has one
      have hqueue := h.cleared hidle hflag
      cases hcons : s.uplinkQueue with
      | nil => exact absurd hcons hqueue
      | cons pkt rest => simp [hcons, popUplinkPacket] at hreader
    · rw [if_neg hidle]
      exact h
  | test =>
    rw [FlagState.step]
    by_cases hpopped : s.reader = .popped
    · rw [if_pos hpopped]
      refine ⟨h.announced, fun hreader _ hqueue => ?_⟩
      have hqueue : s.uplinkQueue = [] := hqueue
      simp [hqueue, hasUplinkPacket] at hreader
    · rw [if_neg hpopped]
      exact h
  | clearFlag =>
    rw [FlagState.step]
    split_ifs with hfound
    · -- the flag is cleared over a packet only if that is still to be announced
      refine ⟨fun hpushed hne => ?_, fun _ hflag => absurd hflag Bool.false_ne_true⟩
      exact absurd (hpushed.symm.trans (he hfound hne)) Bool.false_ne_true
    · exact h

/-- **The step lemma**: a step of settling threads is undisturbed exactly when the flag
tells the truth after it. -/
theorem Settling.flagTells_step_iff (h : s.Settling) (e : FlagStep F) :
    (s.step e).FlagTells ↔ s.Undisturbed e := by
  refine ⟨fun htells => ?_, fun he => (h.step e he).flagTells⟩
  cases e with
  | push pkt => trivial
  | setFlag =>
    intro hpushed hqueue hidle
    have hstep : s.step .setFlag = { s with receivedFlag := true, pushed := false } :=
      if_pos hpushed
    rw [hstep] at htells
    exact (htells ⟨rfl, hidle⟩).mp rfl hqueue
  | pop => trivial
  | test => trivial
  | clearFlag =>
    intro hfound hne
    have hstep : s.step .clearFlag = { s with receivedFlag := false, reader := .idle } :=
      if_pos hfound
    rw [hstep] at htells
    cases hpushed : s.pushed with
    | true => rfl
    | false => exact absurd ((htells ⟨hpushed, rfl⟩).mpr hne) Bool.false_ne_true

/-- **The flag says whether the queue holds a packet, whenever neither thread is in the
middle of its steps, exactly while neither disturbs the other**: in every interleaving
of the callback with the reader. -/
theorem quiescent_iff_undisturbed (es : List (FlagStep F)) :
    Run.Always step FlagTells (init : FlagState F) es ↔ Run.Guarded step Undisturbed init es :=
  Run.always_iff_guarded (fun _ h => h.flagTells) (fun _ e h => h.flagTells_step_iff e)
    (fun _ e h he => h.step e he) settling_init

/-- A packet is received, announced and read; before the flag is cleared a second one is
received and announced. -/
def lostWakeupRun : List (FlagStep Unit) :=
  let pkt : UplinkPacket Unit := ⟨[0x2a], 922800000, 7, 0, -50, ()⟩
  [.push pkt, .setFlag, .pop, .test, .push pkt, .setFlag, .clearFlag]

/-- The second packet waits behind a cleared flag. -/
theorem not_flagTells_of_lostWakeup :
    ¬ ∀ es : List (FlagStep Unit), Run.Always step FlagTells init es := by
  intro h
  have htells := Run.always_iff.mp (h lostWakeupRun) lostWakeupRun [] (List.append_nil _).symm
  exact absurd ((htells ⟨rfl, rfl⟩).mpr (List.cons_ne_nil _ _)) Bool.false_ne_true

end FlagState

end CdpBridge
