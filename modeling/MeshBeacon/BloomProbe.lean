import MeshBeacon.BloomFilter
import MeshBeacon.Probing
import Mathlib.Data.Nat.ModEq

/-!
# The bits a message selects

`set_hash_results` computes an index for each seed. An index that an earlier seed of the
message has is moved on by one, around the end, until it is one that none has; the loop tests
after each move. With no more hashes than bits there always is one, since from any index the
moves go through all of them.

`set_sectors_and_slots` then splits an index into a sector and a mask. The mask is one bit, and
tells what is left of the index in the sector.

The parameters are of the types of the source: the number of bits is a product of two `int`,
stored as an `unsigned int`. When the product is too great for an `int` it may be stored as 0, by
which the function then divides.
-/

namespace BloomProbe

/-- What the functions read of the filter. -/
structure BloomParams where
  numSectors : Int32
  numHashes : Int32
  bitsPerSector : Int32
  /-- `Seeds`, by the index. -/
  seeds : ℕ → Int32

namespace BloomParams

variable (f : BloomParams)

/-- `totalBitSize`. -/
def totalBitSize : UInt32 := (f.numSectors * f.bitsPerSector).toUInt32

/-- The next index. -/
def next (hashResult : UInt32) : UInt32 := (hashResult + 1) % f.totalBitSize

/-- `set_hash_results`: the indices in order, if each of the inner loops ends within so many
turns and there is no division by zero. -/
def setHashResults (fuel : ℕ) (msg : List UInt8) : Option (List UInt32) :=
  if f.totalBitSize = 0 ∧ 0 < f.numHashes then none
  else
    Probing.fill f.next fuel
      ((List.range f.numHashes.toInt.toNat).map fun i =>
        djb2Hash msg (f.seeds i).toUInt32 % f.totalBitSize) []

/-- `set_sectors_and_slots`, for one index. -/
def sectorAndSlot (hashResult : UInt32) : Int32 × UInt32 :=
  ((hashResult / f.bitsPerSector.toUInt32).toInt32,
    UInt32.ofNat (2 ^ (f.bitsPerSector - 1).toInt.toNat) >>>
      (hashResult % f.bitsPerSector.toUInt32))

/-- **There is a hash, and there are no more than bits**; a sector is an unsigned integer. -/
structure Sized : Prop where
  numHashes_pos : 1 ≤ f.numHashes.toInt
  numHashes_le : f.numHashes.toInt ≤ f.numSectors.toInt * f.bitsPerSector.toInt
  bitsPerSector_pos : 1 ≤ f.bitsPerSector.toInt
  bitsPerSector_le : f.bitsPerSector.toInt ≤ 32

/-- **And the number of bits is an `int`**, so that it is stored as it is. -/
structure Proper : Prop extends f.Sized where
  product_lt : f.numSectors.toInt * f.bitsPerSector.toInt < 2 ^ 31

/-- **The indices of a message are found**: the search ends, the indices are different and of bits
of the filter, and so are the slots they become, each a bit of a sector. -/
def Finds (msg : List UInt8) : Prop :=
  ∃ hashResults,
    (∀ fuel, f.totalBitSize.toNat ≤ fuel → f.setHashResults fuel msg = some hashResults)
      ∧ hashResults.length = f.numHashes.toInt.toNat
      ∧ hashResults.Nodup
      ∧ (∀ r ∈ hashResults, (r.toNat : ℤ) < f.numSectors.toInt * f.bitsPerSector.toInt)
      ∧ (hashResults.map f.sectorAndSlot).Nodup
      ∧ ∀ slot ∈ hashResults.map f.sectorAndSlot,
        0 ≤ slot.1 ∧ slot.1 < f.numSectors ∧ slot.2 ≠ 0 ∧ ∃ k < 32, slot.2.toNat = 2 ^ k

end BloomParams

/-! ## The arrays -/

/-- The two arrays, which of them is active, and how many messages have been added to it. -/
structure BloomArrays where
  filter1 : List UInt32
  filter2 : List UInt32
  active1 : Bool
  nMsg : ℕ

/-- `is_collision`. -/
def isCollision (filter : List UInt32) (slots : List (Int32 × UInt32)) : Bool :=
  slots.all fun slot => filter.getD slot.1.toInt.toNat 0 &&& slot.2 ≠ 0

/-- The bits of the slots are set. -/
def setSlots (filter : List UInt32) (slots : List (Int32 × UInt32)) : List UInt32 :=
  slots.foldl (fun filter slot => filter.set slot.1.toInt.toNat
    (filter.getD slot.1.toInt.toNat 0 ||| slot.2)) filter

namespace BloomParams

variable (f : BloomParams)

/-- `bloom_check`, if the indices are found within so many turns. -/
def bloomCheck (fuel : ℕ) (b : BloomArrays) (msg : List UInt8) : Option Bool :=
  (f.setHashResults fuel msg).map fun hashResults =>
    let slots := hashResults.map f.sectorAndSlot
    isCollision b.filter1 slots || isCollision b.filter2 slots

/-- `bloom_add`, once the slots are known. -/
def addSlots (maxMsgs : ℕ) (b : BloomArrays) (slots : List (Int32 × UInt32)) : BloomArrays :=
  let full : Bool := maxMsgs ≤ b.nMsg + 1
  let cleared := List.replicate f.numSectors.toInt.toNat 0
  { filter1 := if b.active1 then setSlots b.filter1 slots else if full then cleared else b.filter1
    filter2 := if b.active1 then if full then cleared else b.filter2 else setSlots b.filter2 slots
    active1 := if full then !b.active1 else b.active1
    nMsg := if full then 0 else b.nMsg + 1 }

/-- `bloom_add`, if the indices are found within so many turns. -/
def bloomAdd (maxMsgs fuel : ℕ) (b : BloomArrays) (msg : List UInt8) : Option BloomArrays :=
  (f.setHashResults fuel msg).map fun hashResults =>
    f.addSlots maxMsgs b (hashResults.map f.sectorAndSlot)

end BloomParams

/-! ## The types -/

/-- An `int` that is not negative is what it is as an `unsigned int`. -/
theorem toNat_toUInt32 {x : Int32} (h : 0 ≤ x) : (x.toUInt32.toNat : ℤ) = x.toInt := by
  rw [← Int32.toNat_toBitVec, Int32.toNat_toBitVec_of_le h]
  exact Int32.cast_toNatClampNeg x h

/-- An `unsigned int` that is not too great is what it is as an `int`. -/
theorem toInt_toInt32 {x : UInt32} (h : x.toNat < 2 ^ 31) : x.toInt32.toInt = x.toNat :=
  BitVec.toInt_eq_toNat_of_lt (show 2 * x.toNat < 2 ^ 32 by omega)

namespace BloomParams

variable {f : BloomParams}

/-- The number of sectors. -/
def sectors (f : BloomParams) : ℕ := f.numSectors.toInt.toNat

/-- The number of bits in a sector. -/
def bits (f : BloomParams) : ℕ := f.bitsPerSector.toInt.toNat

/-- The number of bits is the product modulo 2^32. -/
theorem toNat_totalBitSize {m n : ℕ} (hsectors : f.numSectors.toInt = m)
    (hbits : f.bitsPerSector.toInt = n) : f.totalBitSize.toNat = m * n % 2 ^ 32 := by
  have hproduct : f.numSectors * f.bitsPerSector = Int32.ofNat (m * n) := by
    rw [← Int32.ofInt_toInt f.numSectors, ← Int32.ofInt_toInt f.bitsPerSector, hsectors, hbits,
      ← Int32.ofInt_mul, ← Int.natCast_mul, Int32.ofInt_eq_ofNat]
  rw [totalBitSize, hproduct]
  rfl

/-- **The numbers the parameters are.** -/
structure Numbers (f : BloomParams) : Prop where
  sectors_eq : f.numSectors.toInt = f.sectors
  bits_eq : f.bitsPerSector.toInt = f.bits
  toUInt32_bits : f.bitsPerSector.toUInt32.toNat = f.bits
  bits_pos : 1 ≤ f.bits
  bits_le : f.bits ≤ 32
  total_pos : 0 < f.totalBitSize.toNat
  total_eq : f.totalBitSize.toNat = f.sectors * f.bits
  numHashes_le : f.numHashes.toInt.toNat ≤ f.totalBitSize.toNat

theorem Proper.numbers (h : f.Proper) : f.Numbers := by
  obtain ⟨⟨hhashes, hle, hbits, hbits'⟩, hlt⟩ := h
  have hproduct : 0 < f.numSectors.toInt * f.bitsPerSector.toInt := by omega
  have hsectors : 0 < f.numSectors.toInt := Int.pos_of_mul_pos_left hproduct (by omega)
  have hs : f.numSectors.toInt = f.sectors := (Int.toNat_of_nonneg (by omega)).symm
  have hb : f.bitsPerSector.toInt = f.bits := (Int.toNat_of_nonneg (by omega)).symm
  have hunsigned : (f.bitsPerSector.toUInt32.toNat : ℤ) = f.bitsPerSector.toInt :=
    toNat_toUInt32 (Int32.le_iff_toInt_le.mpr (show 0 ≤ f.bitsPerSector.toInt by omega))
  rw [hs, hb, ← Int.natCast_mul] at hle hlt
  have htotal : f.totalBitSize.toNat = f.sectors * f.bits := by
    rw [toNat_totalBitSize hs hb]
    exact Nat.mod_eq_of_lt (by omega)
  exact
    { sectors_eq := hs
      bits_eq := hb
      toUInt32_bits := by omega
      bits_pos := by omega
      bits_le := by omega
      total_pos := by omega
      total_eq := htotal
      numHashes_le := by omega }

theorem Proper.setHashResults_eq (h : f.Proper) (fuel : ℕ) (msg : List UInt8) :
    f.setHashResults fuel msg = Probing.fill f.next fuel
      ((List.range f.numHashes.toInt.toNat).map fun i =>
        djb2Hash msg (f.seeds i).toUInt32 % f.totalBitSize) [] := by
  refine if_neg fun hzero => ?_
  have hpos := h.numbers.total_pos
  rw [hzero.1] at hpos
  exact absurd hpos (lt_irrefl 0)

/-! ## The indices -/

/-- The index is of a bit. -/
def InFilter (f : BloomParams) (hashResult : UInt32) : Prop :=
  hashResult.toNat < f.totalBitSize.toNat

theorem Proper.inFilter_mod (h : f.Proper) (x : UInt32) : f.InFilter (x % f.totalBitSize) := by
  show (x % f.totalBitSize).toNat < _
  rw [UInt32.toNat_mod]
  exact Nat.mod_lt _ h.numbers.total_pos

/-- The next index is one more, around the end. -/
theorem toNat_next {r : UInt32} (hr : f.InFilter r) :
    (f.next r).toNat = (r.toNat + 1) % f.totalBitSize.toNat := by
  have hlt : r.toNat + 1 < 2 ^ 32 := (show r.toNat + 1 ≤ _ from hr).trans_lt f.totalBitSize.toNat_lt
  rw [next, UInt32.toNat_mod, UInt32.toNat_add]
  show (r.toNat + 1) % 2 ^ 32 % _ = _
  rw [Nat.mod_eq_of_lt hlt]

theorem toNat_iterate_next (h : f.Proper) {r : UInt32} (hr : f.InFilter r) (k : ℕ) :
    (f.next^[k] r).toNat = (r.toNat + k) % f.totalBitSize.toNat := by
  induction k with
  | zero => exact (Nat.mod_eq_of_lt hr).symm
  | succ k ih =>
    have hk : f.InFilter (f.next^[k] r) := by
      show (f.next^[k] r).toNat < _
      rw [ih]
      exact Nat.mod_lt _ h.numbers.total_pos
    rw [Function.iterate_succ_apply', toNat_next hk, ih, Nat.mod_add_mod, Nat.add_assoc]

/-- **The moves from an index go through all the bits.** -/
theorem Proper.spread (h : f.Proper) :
    Probing.Spread f.next f.InFilter f.totalBitSize.toNat where
  closed r _ := h.inFilter_mod (r + 1)
  injOn r hr k hk l hl heq := by
    have hmod := congrArg UInt32.toNat (show f.next^[k] r = f.next^[l] r from heq)
    rw [toNat_iterate_next h hr, toNat_iterate_next h hr] at hmod
    have hcancel : k % f.totalBitSize.toNat = l % f.totalBitSize.toNat :=
      Nat.ModEq.add_left_cancel' r.toNat hmod
    rwa [Nat.mod_eq_of_lt hk, Nat.mod_eq_of_lt hl] at hcancel

/-- **The indices are found**, within as many turns as there are bits, and are different. -/
theorem Proper.exists_setHashResults (h : f.Proper) (msg : List UInt8) : ∃ hashResults,
    (∀ fuel, f.totalBitSize.toNat ≤ fuel → f.setHashResults fuel msg = some hashResults)
      ∧ hashResults.length = f.numHashes.toInt.toNat
      ∧ hashResults.Nodup ∧ ∀ r ∈ hashResults, f.InFilter r := by
  have hstarts : ∀ a ∈ (List.range f.numHashes.toInt.toNat).map
      (fun i => djb2Hash msg (f.seeds i).toUInt32 % f.totalBitSize), f.InFilter a := by
    intro a ha
    obtain ⟨i, -, rfl⟩ := List.mem_map.mp ha
    exact h.inFilter_mod _
  have hnone : ∀ a ∈ ([] : List UInt32), f.InFilter a := fun a ha => absurd ha List.not_mem_nil
  have hspec := h.spread.fill_spec hstarts hnone List.nodup_nil (by
    rw [List.length_nil, List.length_map, List.length_range, Nat.zero_add]
    exact h.numbers.numHashes_le)
  simp only [List.length_nil, List.length_map, List.length_range, Nat.zero_add] at hspec
  simp only [h.setHashResults_eq]
  exact hspec

/-! ## Sectors and slots -/

/-- The sector is how many there are before the index. -/
theorem Proper.sector_eq (h : f.Proper) {r : UInt32} (hr : f.InFilter r) :
    (f.sectorAndSlot r).1.toInt = (r.toNat / f.bits : ℕ) ∧ r.toNat / f.bits < f.sectors := by
  have hn := h.numbers
  have hsector : r.toNat / f.bits < f.sectors := by
    refine Nat.div_lt_of_lt_mul ?_
    exact (hr.trans_eq hn.total_eq).trans_eq (Nat.mul_comm f.sectors f.bits)
  have hfits : f.sectors < 2 ^ 31 := by
    have hlt := f.numSectors.toInt_lt
    rw [hn.sectors_eq] at hlt
    omega
  have hdiv : (r / f.bitsPerSector.toUInt32).toNat = r.toNat / f.bits := by
    rw [UInt32.toNat_div, hn.toUInt32_bits]
  refine ⟨?_, hsector⟩
  rw [← hdiv]
  exact toInt_toInt32 (by omega)

/-- The mask is one bit, for what is left of the index. -/
theorem Proper.slot_eq (h : f.Proper) (r : UInt32) :
    (f.sectorAndSlot r).2.toNat = 2 ^ (f.bits - 1 - r.toNat % f.bits) := by
  have hn := h.numbers
  have hpos := hn.bits_pos
  have hle := hn.bits_le
  have hmod := Nat.mod_lt r.toNat hpos
  have hpow : (f.bitsPerSector - 1).toInt.toNat = f.bits - 1 := by
    rw [Int32.toInt_sub, hn.bits_eq, show (1 : Int32).toInt = 1 by decide,
      Int.bmod_eq_of_le (by omega) (by omega)]
    omega
  have hoffset : (r % f.bitsPerSector.toUInt32).toNat = r.toNat % f.bits := by
    rw [UInt32.toNat_mod, hn.toUInt32_bits]
  show (UInt32.ofNat (2 ^ _) >>> (r % _)).toNat = _
  rw [UInt32.toNat_shiftRight, hoffset, hpow, UInt32.toNat_ofNat',
    Nat.mod_eq_of_lt (Nat.pow_lt_pow_right Nat.one_lt_two (by omega)),
    Nat.mod_eq_of_lt (show r.toNat % f.bits < 32 by omega), Nat.shiftRight_eq_div_pow,
    Nat.pow_div (by omega) Nat.two_pos]

/-- **Different indices become different slots.** -/
theorem Proper.sectorAndSlot_injOn (h : f.Proper) {r r' : UInt32} (hr : f.InFilter r)
    (hr' : f.InFilter r') (heq : f.sectorAndSlot r = f.sectorAndSlot r') : r = r' := by
  have hpos := h.numbers.bits_pos
  have hmod := Nat.mod_lt r.toNat hpos
  have hmod' := Nat.mod_lt r'.toNat hpos
  have hsector : r.toNat / f.bits = r'.toNat / f.bits := by
    have hint := congrArg (fun s => s.1.toInt) heq
    simp only [(h.sector_eq hr).1, (h.sector_eq hr').1] at hint
    exact Int.ofNat_inj.mp hint
  have hoffset : r.toNat % f.bits = r'.toNat % f.bits := by
    have hnat := congrArg (fun s => s.2.toNat) heq
    simp only [h.slot_eq] at hnat
    have hexp := Nat.pow_right_injective le_rfl hnat
    omega
  refine UInt32.toNat_inj.mp ?_
  rw [← Nat.div_add_mod r.toNat f.bits, hsector, hoffset, Nat.div_add_mod]

/-- **The indices of a message are found**, when the number of bits is an `int`. -/
theorem Proper.setHashResults_spec (h : f.Proper) (msg : List UInt8) : f.Finds msg := by
  obtain ⟨hashResults, hfill, hlength, hnodup, hplaces⟩ := h.exists_setHashResults msg
  have hn := h.numbers
  refine ⟨hashResults, hfill, hlength, hnodup, fun r hr => ?_, ?_, ?_⟩
  · have hplace : r.toNat < f.totalBitSize.toNat := hplaces r hr
    rw [hn.sectors_eq, hn.bits_eq, ← Int.natCast_mul, ← hn.total_eq]
    exact Int.ofNat_lt.mpr hplace
  · exact hnodup.map_on fun r hr r' hr' heq =>
      h.sectorAndSlot_injOn (hplaces r hr) (hplaces r' hr') heq
  · intro slot hslot
    obtain ⟨r, hr, rfl⟩ := List.mem_map.mp hslot
    obtain ⟨hsector, hlt⟩ := h.sector_eq (hplaces r hr)
    have hmask := h.slot_eq r
    have hle := hn.bits_le
    refine ⟨Int32.le_iff_toInt_le.mpr ?_, Int32.lt_iff_toInt_lt.mpr ?_, fun hzero => ?_,
      f.bits - 1 - r.toNat % f.bits, by omega, hmask⟩
    · rw [hsector]
      exact Int.natCast_nonneg _
    · rw [hsector, hn.sectors_eq]
      exact Int.ofNat_lt.mpr hlt
    · rw [hzero] at hmask
      exact absurd hmask.symm (Nat.two_pow_pos _).ne'

/-- One sector of two bits, and two hashes with the same seed. -/
def full : BloomParams := ⟨1, 2, 2, fun _ => 0⟩

theorem proper_full : full.Proper where
  numHashes_pos := by decide
  numHashes_le := by decide
  bitsPerSector_pos := by decide
  bitsPerSector_le := by decide
  product_lt := by decide

/-- The second index is moved on around the end. -/
example : full.setHashResults 2 [7] = some [1, 0] := by decide

theorem setHashResults_spec_full : full.Finds [7] := proper_full.setHashResults_spec [7]

/-- So many sectors of 32 bits that the number of bits is stored as 0. -/
def tooWide : BloomParams := ⟨134217728, 1, 32, fun _ => 0⟩

theorem sized_tooWide : tooWide.Sized where
  numHashes_pos := by decide
  numHashes_le := by decide
  bitsPerSector_pos := by decide
  bitsPerSector_le := by decide

theorem setHashResults_tooWide (fuel : ℕ) (msg : List UInt8) :
    tooWide.setHashResults fuel msg = none :=
  if_pos (by decide)

/-- **With 2^27 sectors of 32 bits none is found.** -/
theorem not_finds : ¬ ∀ f : BloomParams, f.Sized → ∀ msg, f.Finds msg := by
  intro h
  obtain ⟨hashResults, hfound, -⟩ := h tooWide sized_tooWide []
  have hsome := hfound tooWide.totalBitSize.toNat le_rfl
  rw [setHashResults_tooWide] at hsome
  exact absurd hsome.symm (Option.some_ne_none hashResults)

end BloomParams

/-! ## The filter with numbers for its parameters -/

section Filter

variable {g : BloomGeometry} (bf : BloomFilter g)

/-- What the functions read of a filter. -/
def ofFilter : BloomParams where
  numSectors := Int32.ofNat g.numSectors
  numHashes := Int32.ofNat g.numHashes
  bitsPerSector := Int32.ofNat g.bitsPerSector
  seeds i := (bf.seeds.toList.getD i 0).toInt32

/-- An index in the type of the source. -/
def index (r : Fin g.totalBitSize) : UInt32 := UInt32.ofNat r.val

/-- The numbers of a filter are those of an `int`. -/
theorem toInt_ofFilter :
    (ofFilter bf).numSectors.toInt = g.numSectors
      ∧ (ofFilter bf).bitsPerSector.toInt = g.bitsPerSector := by
  have hsectors : g.numSectors ≤ g.totalBitSize := Nat.le_mul_of_pos_right _ g.bitsPerSector_pos
  exact ⟨Int32.toInt_ofNat_of_lt (hsectors.trans_lt g.totalBitSize_lt),
    Int32.toInt_ofNat_of_lt (g.bitsPerSector_le.trans_lt (by decide))⟩

variable {bf}

theorem toNat_totalBitSize_ofFilter :
    (ofFilter bf).totalBitSize.toNat = g.totalBitSize := by
  obtain ⟨hsectors, hbits⟩ := toInt_ofFilter bf
  rw [BloomParams.toNat_totalBitSize hsectors hbits]
  exact Nat.mod_eq_of_lt (g.totalBitSize_lt.trans (by decide))

theorem toNat_index (r : Fin g.totalBitSize) :
    (index r).toNat = r.val :=
  Nat.mod_eq_of_lt (r.isLt.trans (g.totalBitSize_lt.trans (by decide)))

theorem index_injective :
    Function.Injective (index (g := g)) := by
  intro r r' heq
  have hnat := congrArg UInt32.toNat heq
  rw [toNat_index, toNat_index] at hnat
  exact Fin.ext hnat

theorem next_index (a : Fin g.totalBitSize) :
    (ofFilter bf).next (index a)
      = index ⟨(a.val + 1) % g.totalBitSize, Nat.mod_lt _ g.totalBitSize_pos⟩ := by
  have hin : (ofFilter bf).InFilter (index a) := by
    show (index a).toNat < _
    rw [toNat_index, toNat_totalBitSize_ofFilter]
    exact a.isLt
  refine UInt32.toNat_inj.mp ?_
  rw [BloomParams.toNat_next hin, toNat_index, toNat_index,
    toNat_totalBitSize_ofFilter]

/-- The search finds what the one over the bits of the filter does. -/
theorem probe_index {taken : List (Fin g.totalBitSize)}
    {fuel : ℕ} {a : Fin g.totalBitSize} {r : UInt32}
    (h : Probing.probe (ofFilter bf).next (taken.map index) fuel (index a) = some r) :
    r = index (BloomFilter.probe taken fuel a) := by
  induction fuel generalizing a with
  | zero => exact absurd h.symm (Option.some_ne_none r)
  | succ fuel ih =>
    have hmem : index a ∈ taken.map index ↔ a ∈ taken :=
      List.mem_map_of_injective (index_injective)
    rw [Probing.probe] at h
    rw [BloomFilter.probe]
    by_cases ha : a ∈ taken
    · rw [if_pos (hmem.mpr ha)] at h
      rw [if_pos ha]
      exact ih (next_index a ▸ h)
    · rw [if_neg fun hin => ha (hmem.mp hin)] at h
      rw [if_neg ha]
      exact (Option.some_inj.mp h).symm

/-- So do several, from indices that are those of the bits. -/
theorem fill_index {starts taken : List (Fin g.totalBitSize)} {fuel : ℕ} {found : List UInt32}
    (h : Probing.fill (ofFilter bf).next fuel (starts.map index) (taken.map index) = some found) :
    found = (starts.foldl (fun taken a => taken ++ [BloomFilter.probe taken fuel a]) taken).map
      index := by
  induction starts generalizing taken with
  | nil => exact (Option.some_inj.mp h).symm
  | cons a starts ih =>
    rw [List.map_cons, Probing.fill, List.foldlM_cons] at h
    obtain ⟨next, hnext, h⟩ := Option.bind_eq_some_iff.mp h
    obtain ⟨r, hr, rfl⟩ := Option.map_eq_some_iff.mp hnext
    refine ih ?_
    rw [List.map_append, List.map_singleton, ← probe_index hr]
    exact h

/-- A filter with no more hashes than bits has proper parameters. -/
theorem proper_ofFilter (hpos : 0 < g.numHashes) : (ofFilter bf).Proper := by
  obtain ⟨hsectors, hbits⟩ := toInt_ofFilter bf
  have hhashes : (ofFilter bf).numHashes.toInt = g.numHashes :=
    Int32.toInt_ofNat_of_lt (g.numHashes_le.trans_lt g.totalBitSize_lt)
  exact
    { numHashes_pos := by
        rw [hhashes]
        exact Int.natCast_pos.mpr hpos
      numHashes_le := by
        rw [hhashes, hsectors, hbits, ← Int.natCast_mul]
        exact Int.ofNat_le.mpr g.numHashes_le
      product_lt := by
        rw [hsectors, hbits, ← Int.natCast_mul]
        exact Int.ofNat_lt.mpr g.totalBitSize_lt
      bitsPerSector_pos := by
        rw [hbits]
        exact Int.natCast_pos.mpr g.bitsPerSector_pos
      bitsPerSector_le := by
        rw [hbits]
        exact Int.ofNat_le.mpr g.bitsPerSector_le }

theorem start_lt (g : BloomGeometry) (msg : List UInt8) (seed : UInt32) :
    (djb2Hash msg seed).toNat % g.totalBitSize < g.totalBitSize :=
  Nat.mod_lt _ g.totalBitSize_pos

/-- The index a seed gives before the search. -/
def start (msg : List UInt8) (seed : UInt32) : Fin g.totalBitSize :=
  ⟨(djb2Hash msg seed).toNat % g.totalBitSize, start_lt g msg seed⟩

/-- The searches begin where those of the filter over numbers do. -/
theorem starts_ofFilter (msg : List UInt8) :
    ((List.range (ofFilter bf).numHashes.toInt.toNat).map fun i =>
      djb2Hash msg ((ofFilter bf).seeds i).toUInt32 % (ofFilter bf).totalBitSize)
      = (bf.seeds.toList.map (start (g := g) msg)).map index := by
  have hhashes : (ofFilter bf).numHashes.toInt.toNat = g.numHashes := by
    rw [ofFilter, Int32.toInt_ofNat_of_lt (g.numHashes_le.trans_lt g.totalBitSize_lt)]
    rfl
  refine List.ext_getElem (by simp [hhashes]) fun i hi hi' => ?_
  have hseed : i < bf.seeds.toList.length := by simpa using hi'
  rw [List.getElem_map, List.getElem_range, List.getElem_map, List.getElem_map]
  refine UInt32.toNat_inj.mp ?_
  rw [UInt32.toNat_mod, toNat_totalBitSize_ofFilter, toNat_index]
  show (djb2Hash msg ((bf.seeds.toList.getD i 0).toInt32).toUInt32).toNat % _ = _
  rw [List.getD_eq_getElem?_getD, List.getElem?_eq_getElem hseed]
  rfl

/-- **The indices of a message are those of the filter over numbers.** -/
theorem setHashResults_ofFilter (hpos : 0 < g.numHashes) (msg : List UInt8) :
    (ofFilter bf).setHashResults g.totalBitSize msg
      = some ((bf.setHashResults msg).map index) := by
  have hproper : (ofFilter bf).Proper := proper_ofFilter hpos
  obtain ⟨found, hfill, -⟩ := hproper.exists_setHashResults msg
  have hfound := hfill g.totalBitSize toNat_totalBitSize_ofFilter.le
  let taken : List (Fin g.totalBitSize) := []
  have hindex : Probing.fill (ofFilter bf).next g.totalBitSize
      ((bf.seeds.toList.map (start (g := g) msg)).map index) (taken.map index) = some found := by
    rw [← hfound, hproper.setHashResults_eq, starts_ofFilter]
    rfl
  rw [hfound, fill_index hindex, List.foldl_map]
  rfl

/-! ### The arrays -/

/-- The arrays of a filter. -/
def arrays (bf : BloomFilter g) : BloomArrays :=
  ⟨bf.filter1.toList, bf.filter2.toList, bf.active1, bf.nMsg⟩

/-- An index becomes the slot it does in the filter over numbers. -/
theorem sectorAndSlot_index (bf : BloomFilter g) (hpos : 0 < g.numHashes) (r : Fin g.totalBitSize) :
    ((ofFilter bf).sectorAndSlot (index r)).1.toInt.toNat = (BloomFilter.slotOf r).1.val
      ∧ ((ofFilter bf).sectorAndSlot (index r)).2 = (BloomFilter.slotOf r).2 := by
  have hproper : (ofFilter bf).Proper := proper_ofFilter hpos
  have hbits : (ofFilter bf).bits = g.bitsPerSector := by
    rw [BloomParams.bits, (toInt_ofFilter bf).2]
    rfl
  have hin : (ofFilter bf).InFilter (index r) := by
    show (index r).toNat < _
    rw [toNat_index, toNat_totalBitSize_ofFilter]
    exact r.isLt
  constructor
  · rw [(hproper.sector_eq hin).1, hbits, toNat_index]
    rfl
  · rw [← UInt32.toNat_inj, hproper.slot_eq, hbits, toNat_index, BloomFilter.toNat_slotOf]

/-- The slots of a message are those of the filter over numbers. -/
theorem isCollision_toList (hpos : 0 < g.numHashes) (filter : Vector UInt32 g.numSectors)
    (rs : List (Fin g.totalBitSize)) :
    isCollision filter.toList ((rs.map index).map (ofFilter bf).sectorAndSlot)
      = BloomFilter.isCollision filter (rs.map BloomFilter.slotOf) := by
  unfold isCollision BloomFilter.isCollision
  rw [List.map_map, List.all_map, List.all_map]
  refine congrArg rs.all (funext fun r => ?_)
  obtain ⟨hsector, hmask⟩ := sectorAndSlot_index bf hpos r
  simp only [Function.comp_apply, hsector, hmask]
  simp

/-- And so are the arrays in which their bits are set. -/
theorem setSlots_toList (hpos : 0 < g.numHashes) (filter : Vector UInt32 g.numSectors)
    (rs : List (Fin g.totalBitSize)) :
    setSlots filter.toList ((rs.map index).map (ofFilter bf).sectorAndSlot)
      = (BloomFilter.setSlots filter (rs.map BloomFilter.slotOf)).toList := by
  induction rs generalizing filter with
  | nil => rfl
  | cons r rs ih =>
    obtain ⟨hsector, hmask⟩ := sectorAndSlot_index bf hpos r
    have hset : filter.toList.set (BloomFilter.slotOf r).1.val
          (filter.toList.getD (BloomFilter.slotOf r).1.val 0 ||| (BloomFilter.slotOf r).2)
        = (filter.set (BloomFilter.slotOf r).1.val
            (filter[(BloomFilter.slotOf r).1.val] ||| (BloomFilter.slotOf r).2)).toList := by
      simp [Vector.toList_set]
    simp only [List.map_cons, setSlots, BloomFilter.setSlots, List.foldl_cons, hsector, hmask, hset]
    exact ih _

/-- **The functions of the source do to the arrays what those of the filter do.** -/
theorem bloomCheck_arrays (hpos : 0 < g.numHashes) (bf : BloomFilter g) (msg : List UInt8) :
    (ofFilter bf).bloomCheck g.totalBitSize (arrays bf) msg = some (bf.bloomCheck msg) := by
  rw [BloomParams.bloomCheck, setHashResults_ofFilter hpos, Option.map_some]
  dsimp only
  rw [arrays, isCollision_toList hpos, isCollision_toList hpos]
  rfl

theorem bloomAdd_arrays (hpos : 0 < g.numHashes) (bf : BloomFilter g) (msg : List UInt8) :
    (ofFilter bf).bloomAdd g.maxMsgs g.totalBitSize (arrays bf) msg
      = some (arrays (bf.bloomAdd msg)) := by
  have hsectors : (ofFilter bf).numSectors.toInt.toNat = g.numSectors := by
    rw [(toInt_ofFilter bf).1]
    rfl
  rw [BloomParams.bloomAdd, setHashResults_ofFilter hpos, Option.map_some]
  unfold BloomParams.addSlots arrays
  dsimp only
  rw [setSlots_toList hpos, setSlots_toList hpos, hsectors]
  unfold BloomFilter.bloomAdd BloomFilter.addSlots BloomFilter.switch BloomFilter.slots
  by_cases hfull : g.maxMsgs ≤ bf.nMsg + 1 <;> cases hactive : bf.active1 <;> simp [hfull]

end Filter

end BloomProbe
