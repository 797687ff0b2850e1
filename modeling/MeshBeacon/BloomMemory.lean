import MeshBeacon.BloomProbe
import MeshBeacon.Generations

/-!
# What the filter remembers

The two arrays of the filter are the generations of the set of messages added:
every message of a generation has its bits set in the array of that generation
(`Remembers`), whatever other bits are set there. Adding a message to the filter
and to the set keeps this, so the filter knows at least what the set does
(`remembers_bloomAdd`).
-/

namespace BloomFilter

variable {g : BloomGeometry}

/-- The array messages are added to. -/
def activeFilter (bf : BloomFilter g) : Vector UInt32 g.numSectors :=
  if bf.active1 then bf.filter1 else bf.filter2

/-- The other array. -/
def otherFilter (bf : BloomFilter g) : Vector UInt32 g.numSectors :=
  if bf.active1 then bf.filter2 else bf.filter1

/-- A message has been seen when its bits are set in one of the arrays. -/
theorem bloomCheck_iff {bf : BloomFilter g} {msg : List UInt8} : bf.bloomCheck msg ↔
    isCollision bf.activeFilter (bf.slots msg) ∨ isCollision bf.otherFilter (bf.slots msg) := by
  unfold bloomCheck activeFilter otherFilter
  rw [Bool.or_eq_true]
  split_ifs
  · exact Iff.rfl
  · exact or_comm

/-- **Adding the last message of an array**: it becomes the other one. -/
theorem bloomAdd_of_full {bf : BloomFilter g} (hfull : g.maxMsgs ≤ bf.nMsg + 1)
    (msg : List UInt8) :
    (bf.bloomAdd msg).otherFilter = setSlots bf.activeFilter (bf.slots msg)
      ∧ (bf.bloomAdd msg).nMsg = 0 := by
  unfold bloomAdd addSlots switch activeFilter otherFilter
  cases bf.active1 <;> simp [hfull]

/-- Adding another message: the other array stays. -/
theorem bloomAdd_of_not_full {bf : BloomFilter g} (hfull : ¬ g.maxMsgs ≤ bf.nMsg + 1)
    (msg : List UInt8) :
    (bf.bloomAdd msg).activeFilter = setSlots bf.activeFilter (bf.slots msg)
      ∧ (bf.bloomAdd msg).otherFilter = bf.otherFilter
      ∧ (bf.bloomAdd msg).nMsg = bf.nMsg + 1 := by
  unfold bloomAdd addSlots activeFilter otherFilter
  cases bf.active1 <;> simp [hfull]

/-- The arrays change roles when the last message of one is added. -/
theorem active1_bloomAdd (bf : BloomFilter g) (msg : List UInt8) : (bf.bloomAdd msg).active1 =
    if g.maxMsgs ≤ bf.nMsg + 1 then !bf.active1 else bf.active1 := by
  unfold bloomAdd addSlots switch
  by_cases hfull : g.maxMsgs ≤ bf.nMsg + 1 <;> cases bf.active1 <;> simp [hfull]

/-- **Two messages are not added without a trace**, when an array is for two or more:
either the arrays have changed roles or there are two messages more. -/
theorem bloomAdd_bloomAdd_ne (hmax : 2 ≤ g.maxMsgs) (bf : BloomFilter g) (msg msg' : List UInt8) :
    (bf.bloomAdd msg).bloomAdd msg' ≠ bf := by
  intro heq
  have hactive := congrArg active1 heq
  have hcount := congrArg nMsg heq
  rw [active1_bloomAdd, active1_bloomAdd] at hactive
  by_cases hfull : g.maxMsgs ≤ bf.nMsg + 1
  · -- the first is the last of its array, and the second is not
    rw [(bloomAdd_of_full hfull msg).2, if_pos hfull, if_neg (Nat.not_le.mpr hmax)] at hactive
    exact Bool.not_ne_self _ hactive
  have hnMsg := (bloomAdd_of_not_full hfull msg).2.2
  by_cases hfull' : g.maxMsgs ≤ (bf.bloomAdd msg).nMsg + 1
  · rw [if_pos hfull', if_neg hfull] at hactive
    exact Bool.not_ne_self _ hactive
  · rw [(bloomAdd_of_not_full hfull' msg').2.2, hnMsg] at hcount
    exact absurd hcount (by omega)

/-- Slots that are set stay set when others are. -/
theorem isCollision_setSlots_of_isCollision {filter : Vector UInt32 g.numSectors}
    {slots : List (Slot g)} (h : isCollision filter slots) (others : List (Slot g)) :
    isCollision (setSlots filter others) slots := by
  unfold isCollision at h ⊢
  rw [List.all_eq_true] at h ⊢
  exact fun slot hslot =>
    decide_eq_true (setSlots_and_ne_zero (of_decide_eq_true (h slot hslot)) others)

/-- **The filter remembers the set**: its arrays are the generations. -/
structure Remembers (bf : BloomFilter g) (s : Generations (List UInt8)) : Prop where
  count : bf.nMsg = s.count
  young : ∀ msg ∈ s.young, isCollision bf.activeFilter (bf.slots msg)
  old : ∀ msg ∈ s.old, isCollision bf.otherFilter (bf.slots msg)

theorem remembers_empty (bf : BloomFilter g) : Remembers bf ⟨∅, ∅, bf.nMsg⟩ where
  count := rfl
  young := nofun
  old := nofun

theorem Remembers.bloomCheck {bf : BloomFilter g} {s : Generations (List UInt8)}
    (h : Remembers bf s) {msg : List UInt8} (hmsg : msg ∈ s) : bf.bloomCheck msg :=
  bloomCheck_iff.mpr (hmsg.imp (h.young msg) (h.old msg))

/-- **Adding a message to the filter adds it to the set.** -/
theorem remembers_bloomAdd (bf : BloomFilter g) (s : Generations (List UInt8)) (msg : List UInt8)
    (h : Remembers bf s) : Remembers (bf.bloomAdd msg) (s.add g.maxMsgs msg) := by
  have hslots := slots_congr (bf.bloomAdd_spec msg).1
  have hyoung : ∀ m ∈ insert msg s.young,
      isCollision (setSlots bf.activeFilter (bf.slots msg)) (bf.slots m) := by
    rintro m (rfl | hm)
    · exact isCollision_setSlots (bf.slots_ne_zero m)
    · exact isCollision_setSlots_of_isCollision (h.young m hm) _
  unfold Generations.add
  rw [← h.count]
  split_ifs with hfull
  · obtain ⟨hother, hcount⟩ := bloomAdd_of_full hfull msg
    refine ⟨hcount, nofun, fun m hm => ?_⟩
    rw [hother, hslots]
    exact hyoung m hm
  · obtain ⟨hactive, hother, hcount⟩ := bloomAdd_of_not_full hfull msg
    refine ⟨hcount, fun m hm => ?_, fun m hm => ?_⟩
    · rw [hactive, hslots]
      exact hyoung m hm
    · rw [hother, hslots]
      exact h.old m hm

/-- A message that is added is in the set, whatever is added later. -/
theorem remembers_final_bloomAdd (bf : BloomFilter g) (msg : List UInt8)
    (later : List (List UInt8)) :
    Remembers (Run.final bloomAdd (bf.bloomAdd msg) later)
      (Run.final (Generations.add g.maxMsgs)
        (Generations.add g.maxMsgs ⟨∅, ∅, bf.nMsg⟩ msg) later) :=
  Run.simulation remembers_bloomAdd later (remembers_bloomAdd bf _ msg bf.remembers_empty)

/-- **The filter never forgets recent messages.** In whatever state a message is
added, it has been seen after fewer additions more than an array takes. -/
theorem bloomCheck_final_bloomAdd (bf : BloomFilter g) (msg : List UInt8)
    {later : List (List UInt8)} (hlater : later.length < g.maxMsgs) :
    (Run.final bloomAdd (bf.bloomAdd msg) later).bloomCheck msg :=
  (bf.remembers_final_bloomAdd msg later).bloomCheck (Generations.mem_final_add hlater _ msg)

/-- A message whose addition switches the arrays, and one message more. -/
theorem bloomCheck_final_bloomAdd_two :
    let g : BloomGeometry := ⟨1, 1, 8, 2, Nat.one_pos, by decide, by decide, by decide, by decide⟩
    let bf : BloomFilter g := ⟨#v[0], #v[0], true, 1, #v[5381]⟩
    (Run.final bloomAdd (bf.bloomAdd [0x41]) [[0x42]]).bloomCheck [0x41] :=
  bloomCheck_final_bloomAdd _ [0x41] (by decide)

/-- **With 2^27 sectors of 32 bits nothing is added.** The number of bits is stored as 0, by which
the first message divides. -/
theorem not_bloomCheck_final_bloomAdd :
    ¬ ∀ (f : BloomProbe.BloomParams) (maxMsgs : ℕ), 1 ≤ maxMsgs → f.Sized →
      ∀ b : BloomProbe.BloomArrays, b.filter1.length = f.numSectors.toInt.toNat →
        b.filter2.length = f.numSectors.toInt.toNat →
        ∀ (msg : List UInt8) (later : List (List UInt8)), later.length < maxMsgs →
          ∃ fuel, ((msg :: later).foldlM (f.bloomAdd maxMsgs fuel) b).bind
            (fun b => f.bloomCheck fuel b msg) = some true := by
  intro h
  let zeros : List UInt32 := List.replicate BloomProbe.BloomParams.tooWide.numSectors.toInt.toNat 0
  have hzeros : zeros.length = BloomProbe.BloomParams.tooWide.numSectors.toInt.toNat :=
    List.length_replicate
  obtain ⟨fuel, hseen⟩ := h BloomProbe.BloomParams.tooWide 1 le_rfl
    BloomProbe.BloomParams.sized_tooWide ⟨zeros, zeros, true, 0⟩ hzeros hzeros [] [] Nat.one_pos
  rw [List.foldlM_cons, BloomProbe.BloomParams.bloomAdd,
    BloomProbe.BloomParams.setHashResults_tooWide] at hseen
  exact absurd hseen.symm (Option.some_ne_none true)

end BloomFilter
