import Mathlib.Tactic.Ring
import Mathlib.Tactic.Common

/-!
# The filter of seen messages

Two bit arrays, one of them active. Adding a message sets the bits its hashes
select in the active array; when enough messages have been added the other array
is cleared and becomes the active one. A message has been seen when all its bits
are set in one of the arrays.

A hash selects one of the bits of an array; two hashes of one message never
select the same, because a hash that does moves on to the next bit until it does
not.
-/

/-- The parameters of a filter. -/
structure BloomGeometry where
  numSectors : ℕ
  numHashes : ℕ
  /-- Size of a sector in bits. -/
  bitsPerSector : ℕ
  /-- Number of messages until the other array is used. -/
  maxMsgs : ℕ
  numSectors_pos : 0 < numSectors
  bitsPerSector_pos : 0 < bitsPerSector
  /-- A sector is an unsigned integer. -/
  bitsPerSector_le : bitsPerSector ≤ 32
  /-- There is a bit for every hash. -/
  numHashes_le : numHashes ≤ numSectors * bitsPerSector
  /-- The number of bits is an `int`. -/
  totalBitSize_lt : numSectors * bitsPerSector < 2 ^ 31

namespace BloomGeometry

/-- The parameters by default. -/
def default : BloomGeometry where
  numSectors := 312
  numHashes := 2
  bitsPerSector := 32
  maxMsgs := 100
  numSectors_pos := by decide
  bitsPerSector_pos := by decide
  bitsPerSector_le := by decide
  numHashes_le := by decide
  totalBitSize_lt := by decide

variable (g : BloomGeometry)

/-- `totalBitSize`. -/
def totalBitSize : ℕ := g.numSectors * g.bitsPerSector

theorem totalBitSize_pos : 0 < g.totalBitSize :=
  Nat.mul_pos g.numSectors_pos g.bitsPerSector_pos

end BloomGeometry

/-- `djb2Hash`. -/
def djb2Hash (str : List UInt8) (seed : UInt32) : UInt32 :=
  str.foldl (fun hash c => ((hash <<< 5) + hash) + c.toUInt32) seed

/-- `BloomFilter`. -/
structure BloomFilter (g : BloomGeometry) where
  filter1 : Vector UInt32 g.numSectors
  filter2 : Vector UInt32 g.numSectors
  /-- Is `activeFilter` 1? Otherwise it is 2. -/
  active1 : Bool
  /-- Number of messages added since the last switch. -/
  nMsg : ℕ
  seeds : Vector UInt32 g.numHashes

namespace BloomFilter

variable {g : BloomGeometry}

/-- Looking for a bit none of the earlier hashes selects, from a bit on, for at
most so many steps. -/
def probe (hashResults : List (Fin g.totalBitSize)) : ℕ → Fin g.totalBitSize → Fin g.totalBitSize
  | 0, hashResult => hashResult
  | fuel + 1, hashResult =>
    if hashResult ∈ hashResults then
      probe hashResults fuel
        ⟨(hashResult.val + 1) % g.totalBitSize, Nat.mod_lt _ g.totalBitSize_pos⟩
    else hashResult

/-- `set_hash_results`. As many steps as there are bits reach every bit. -/
def setHashResults (bf : BloomFilter g) (msg : List UInt8) : List (Fin g.totalBitSize) :=
  bf.seeds.toList.foldl (fun hashResults seed => hashResults ++
    [probe hashResults g.totalBitSize
      ⟨(djb2Hash msg seed).toNat % g.totalBitSize, Nat.mod_lt _ g.totalBitSize_pos⟩]) []

/-- A sector and a mask of one of its bits. -/
abbrev Slot (g : BloomGeometry) := Fin g.numSectors × UInt32

/-- `set_sectors_and_slots`, for one hash. -/
def slotOf (hashResult : Fin g.totalBitSize) : Slot g :=
  (⟨hashResult.val / g.bitsPerSector, Nat.div_lt_of_lt_mul (by
      rw [Nat.mul_comm]
      exact hashResult.isLt)⟩,
    UInt32.ofNat (2 ^ (g.bitsPerSector - 1)) >>> UInt32.ofNat (hashResult.val % g.bitsPerSector))

/-- The slots of a message. -/
def slots (bf : BloomFilter g) (msg : List UInt8) : List (Slot g) :=
  (bf.setHashResults msg).map slotOf

/-- `is_collision`. -/
def isCollision (filter : Vector UInt32 g.numSectors) (slots : List (Slot g)) : Bool :=
  slots.all fun slot => filter[slot.1.val] &&& slot.2 ≠ 0

/-- `bloom_check`. -/
def bloomCheck (bf : BloomFilter g) (msg : List UInt8) : Bool :=
  isCollision bf.filter1 (bf.slots msg) || isCollision bf.filter2 (bf.slots msg)

/-- The bits of the slots are set. -/
def setSlots (filter : Vector UInt32 g.numSectors) (slots : List (Slot g)) :
    Vector UInt32 g.numSectors :=
  slots.foldl (fun filter slot => filter.set slot.1.val (filter[slot.1.val] ||| slot.2)) filter

/-- `bloom_add`, the bits of the message: they are set in the active array. -/
def addSlots (bf : BloomFilter g) (slots : List (Slot g)) : BloomFilter g :=
  if bf.active1 then { bf with filter1 := setSlots bf.filter1 slots, nMsg := bf.nMsg + 1 }
  else { bf with filter2 := setSlots bf.filter2 slots, nMsg := bf.nMsg + 1 }

/-- `bloom_add`, the switch to the other array. -/
def switch (bf : BloomFilter g) : BloomFilter g :=
  if bf.active1 then
    { bf with filter2 := Vector.replicate g.numSectors 0, active1 := false, nMsg := 0 }
  else { bf with filter1 := Vector.replicate g.numSectors 0, active1 := true, nMsg := 0 }

/-- `bloom_add`. -/
def bloomAdd (bf : BloomFilter g) (msg : List UInt8) : BloomFilter g :=
  let added := bf.addSlots (bf.slots msg)
  if g.maxMsgs ≤ added.nMsg then added.switch else added

/-! ## What was added has been seen -/

theorem toNat_slotOf (hashResult : Fin g.totalBitSize) : (slotOf hashResult).2.toNat
    = 2 ^ (g.bitsPerSector - 1 - hashResult.val % g.bitsPerSector) := by
  have hoffset : hashResult.val % g.bitsPerSector ≤ g.bitsPerSector - 1 :=
    Nat.le_sub_one_of_lt (Nat.mod_lt _ g.bitsPerSector_pos)
  have hbits : g.bitsPerSector - 1 < 32 :=
    Nat.lt_of_lt_of_le (Nat.sub_lt g.bitsPerSector_pos Nat.one_pos) g.bitsPerSector_le
  rw [slotOf, UInt32.toNat_shiftRight, UInt32.toNat_ofNat', UInt32.toNat_ofNat',
    Nat.mod_eq_of_lt (Nat.pow_lt_pow_right Nat.one_lt_two hbits), Nat.shiftRight_eq_div_pow]
  rw [Nat.mod_mod_of_dvd _ (by decide : 32 ∣ 2 ^ 32),
    Nat.mod_eq_of_lt (Nat.lt_of_le_of_lt hoffset hbits), Nat.pow_div hoffset Nat.two_pos]

theorem slotOf_ne_zero (hashResult : Fin g.totalBitSize) : (slotOf hashResult).2 ≠ 0 := by
  have hnat := toNat_slotOf hashResult
  intro hzero
  rw [hzero] at hnat
  exact absurd hnat.symm (Nat.pos_iff_ne_zero.mp (Nat.two_pow_pos _))

/-- A bit that is set stays set when others are. -/
theorem or_and_ne_zero {a m : UInt32} (b : UInt32) (h : a &&& m ≠ 0) : (a ||| b) &&& m ≠ 0 := by
  intro hzero
  have hdistrib : (a ||| b) &&& m = (a &&& m) ||| (b &&& m) := by
    rw [← UInt32.toNat_inj, UInt32.toNat_and, UInt32.toNat_or, UInt32.toNat_or, UInt32.toNat_and,
      UInt32.toNat_and, Nat.and_or_distrib_right]
  rw [hdistrib] at hzero
  exact h (UInt32.or_eq_zero_iff.mp hzero).1

/-- Setting one slot leaves the bits that are set. -/
theorem set_and_ne_zero {filter : Vector UInt32 g.numSectors} {slot : Slot g}
    (h : filter[slot.1.val] &&& slot.2 ≠ 0) (other : Slot g) :
    (filter.set other.1.val (filter[other.1.val] ||| other.2))[slot.1.val] &&& slot.2 ≠ 0 := by
  by_cases hsector : other.1.val = slot.1.val
  · simp only [hsector, Vector.getElem_set_self]
    exact or_and_ne_zero other.2 h
  · rw [Vector.getElem_set_ne _ _ hsector]
    exact h

/-- Setting slots leaves the bits that are set. -/
theorem setSlots_and_ne_zero {filter : Vector UInt32 g.numSectors} {slot : Slot g}
    (h : filter[slot.1.val] &&& slot.2 ≠ 0) (slots : List (Slot g)) :
    (setSlots filter slots)[slot.1.val] &&& slot.2 ≠ 0 := by
  induction slots generalizing filter with
  | nil => exact h
  | cons other slots ih => exact ih (set_and_ne_zero h other)

theorem isCollision_setSlots {filter : Vector UInt32 g.numSectors} {slots : List (Slot g)}
    (h : ∀ slot ∈ slots, slot.2 ≠ 0) : isCollision (setSlots filter slots) slots := by
  unfold isCollision
  rw [List.all_eq_true]
  induction slots generalizing filter with
  | nil => exact nofun
  | cons other slots ih =>
    intro slot hslot
    rcases List.mem_cons.mp hslot with rfl | hslot
    · refine decide_eq_true (setSlots_and_ne_zero ?_ slots)
      rw [Vector.getElem_set_self, UInt32.or_comm]
      exact or_and_ne_zero _ (by rw [UInt32.and_self]; exact h slot List.mem_cons_self)
    · exact ih (fun slot hslot => h slot (List.mem_cons_of_mem other hslot)) slot hslot

theorem slots_ne_zero (bf : BloomFilter g) (msg : List UInt8) :
    ∀ slot ∈ bf.slots msg, slot.2 ≠ 0 := by
  intro slot hslot
  obtain ⟨hashResult, -, rfl⟩ := List.mem_map.mp hslot
  exact slotOf_ne_zero hashResult

theorem slots_congr {bf bf' : BloomFilter g} (h : bf'.seeds = bf.seeds) (msg : List UInt8) :
    bf'.slots msg = bf.slots msg := by
  unfold slots setHashResults
  rw [h]

/-- Setting bits leaves the seeds and the choice of the array. -/
theorem seeds_addSlots (bf : BloomFilter g) (slots : List (Slot g)) :
    (bf.addSlots slots).seeds = bf.seeds ∧ (bf.addSlots slots).active1 = bf.active1 := by
  unfold addSlots
  split_ifs <;> exact ⟨rfl, rfl⟩

/-- The switch leaves the seeds and the array that was active. -/
theorem seeds_switch (bf : BloomFilter g) :
    bf.switch.seeds = bf.seeds
      ∧ (bf.active1 → bf.switch.filter1 = bf.filter1)
      ∧ (¬ bf.active1 → bf.switch.filter2 = bf.filter2) := by
  unfold switch
  split_ifs with hactive
  · exact ⟨rfl, fun _ => rfl, fun h => absurd hactive h⟩
  · exact ⟨rfl, fun h => absurd h hactive, fun _ => rfl⟩

/-- **What adding does to the array that is active**, and that it leaves the
seeds. -/
theorem bloomAdd_spec (bf : BloomFilter g) (msg : List UInt8) :
    (bf.bloomAdd msg).seeds = bf.seeds
      ∧ (bf.active1 → (bf.bloomAdd msg).filter1 = setSlots bf.filter1 (bf.slots msg))
      ∧ (¬ bf.active1 → (bf.bloomAdd msg).filter2 = setSlots bf.filter2 (bf.slots msg)) := by
  obtain ⟨hseeds, hactive⟩ := bf.seeds_addSlots (bf.slots msg)
  have h1 : bf.active1 →
      (bf.addSlots (bf.slots msg)).filter1 = setSlots bf.filter1 (bf.slots msg) := fun h => by
    rw [addSlots, if_pos h]
  have h2 : ¬ bf.active1 →
      (bf.addSlots (bf.slots msg)).filter2 = setSlots bf.filter2 (bf.slots msg) := fun h => by
    rw [addSlots, if_neg h]
  unfold bloomAdd
  dsimp only
  split_ifs
  · obtain ⟨hswitch, hkept1, hkept2⟩ := (bf.addSlots (bf.slots msg)).seeds_switch
    rw [hactive] at hkept1 hkept2
    exact ⟨hswitch.trans hseeds, fun h => (hkept1 h).trans (h1 h),
      fun h => (hkept2 h).trans (h2 h)⟩
  · exact ⟨hseeds, h1, h2⟩

/-- **What was added has been seen**, also when adding it switched to the other
array. -/
theorem bloomCheck_bloomAdd (bf : BloomFilter g) (msg : List UInt8) :
    (bf.bloomAdd msg).bloomCheck msg := by
  obtain ⟨hseeds, h1, h2⟩ := bf.bloomAdd_spec msg
  unfold bloomCheck
  rw [slots_congr hseeds]
  by_cases hactive : bf.active1
  · rw [h1 hactive, isCollision_setSlots (bf.slots_ne_zero msg), Bool.true_or]
  · rw [h2 hactive, isCollision_setSlots (bf.slots_ne_zero msg), Bool.or_true]

end BloomFilter
