import Mathlib.Data.List.Range
import Mathlib.Tactic.Common

/-!
# Bursts to the memory of the concentrator

`lgw_mem_wb` and `lgw_mem_rb` cut a burst into chunks as long as the link takes them, and
transfer one after the other. Where a chunk comes from or goes to in the caller's
array is computed from the number of chunks before it, its address by adding up; the two
agree because every chunk but the last is of the full length.

What a transfer came to is kept in one variable, which the next transfer assigns to.
So the value returned is that of the last chunk.

The link is a parameter: the length of its chunks, and what becomes of each transfer. An
address is of 16 bits and wraps.
-/

namespace MemBurst

/-- The link to the concentrator, with the length of the chunks it takes
(`lgw_com_chunk_size`). -/
structure ComLink where
  chunkSizeMax : UInt16
  pos : 0 < chunkSizeMax

/-- A call of `lgw_com_wb` or `lgw_com_rb`: the address, the index in the caller's array that
is pointed to, and the number of bytes. -/
structure ComTransfer where
  addr : UInt16
  offset : ℕ
  size : UInt16
deriving DecidableEq

/-- `LGW_COM_SUCCESS`. -/
def lgwComSuccess : ℤ := 0

/-- `LGW_REG_SUCCESS`. -/
def lgwRegSuccess : ℤ := 0

/-- `LGW_REG_ERROR`. -/
def lgwRegError : ℤ := -1

/-- The length of the next chunk. -/
def chunkSize (link : ComLink) (szTodo : UInt16) : UInt16 :=
  if link.chunkSizeMax < szTodo then link.chunkSizeMax else szTodo

/-- It is not empty, and part of what is left. -/
theorem toNat_chunkSize (link : ComLink) (szTodo : UInt16) :
    (chunkSize link szTodo).toNat = min link.chunkSizeMax.toNat szTodo.toNat := by
  unfold chunkSize
  split_ifs with h
  · rw [UInt16.lt_iff_toNat_lt] at h
    exact (Nat.min_eq_left h.le).symm
  · rw [UInt16.lt_iff_toNat_lt] at h
    exact (Nat.min_eq_right (Nat.not_lt.mp h)).symm

theorem toNat_sub_chunkSize (link : ComLink) (szTodo : UInt16) :
    (szTodo - chunkSize link szTodo).toNat = szTodo.toNat - link.chunkSizeMax.toNat := by
  have hsize := toNat_chunkSize link szTodo
  have hle : chunkSize link szTodo ≤ szTodo := by
    rw [UInt16.le_iff_toNat_le, hsize]
    exact Nat.min_le_right _ _
  rw [UInt16.toNat_sub_of_le _ _ hle, hsize]
  omega

theorem ComLink.toNat_pos (link : ComLink) : 0 < link.chunkSizeMax.toNat :=
  UInt16.lt_iff_toNat_lt.mp link.pos

/-- The address after a chunk: the next, or in FIFO mode the same. -/
def nextAddr (fifoMode : Bool) (addr chunkSize : UInt16) : UInt16 :=
  if fifoMode then addr else addr + chunkSize

/-- The loop of `lgw_mem_wb` and `lgw_mem_rb`, from a number of chunks on: the status at its
end, and the transfers. The status of the `k`-th transfer is `status k`. -/
def memLoop (link : ComLink) (status : ℕ → ℤ) (fifoMode : Bool) (chunkCnt : ℕ)
    (addr szTodo : UInt16) (comStat : ℤ) : ℤ × List ComTransfer :=
  if szTodo = 0 then (comStat, [])
  else
    let rest := memLoop link status fifoMode (chunkCnt + 1)
      (nextAddr fifoMode addr (chunkSize link szTodo)) (szTodo - chunkSize link szTodo)
      (status chunkCnt)
    (rest.1,
      ⟨addr, chunkCnt * link.chunkSizeMax.toNat, chunkSize link szTodo⟩ :: rest.2)
termination_by szTodo.toNat
decreasing_by
  have hpos := link.toNat_pos
  have hne : szTodo.toNat ≠ 0 := fun h => absurd (UInt16.toNat_inj.mp h) (by assumption)
  rw [toNat_sub_chunkSize]
  omega

/-- `lgw_mem_wb`. -/
def lgwMemWb (link : ComLink) (status : ℕ → ℤ) (memAddr size : UInt16) : ℤ × List ComTransfer :=
  if size = 0 then (lgwRegError, [])
  else
    let burst := memLoop link status false 0 memAddr size lgwComSuccess
    (if burst.1 ≠ lgwComSuccess then lgwRegError else lgwRegSuccess, burst.2)

/-- `lgw_mem_rb`. -/
def lgwMemRb (link : ComLink) (status : ℕ → ℤ) (memAddr size : UInt16) (fifoMode : Bool) :
    ℤ × List ComTransfer :=
  if size = 0 then (lgwRegError, [])
  else
    let burst := memLoop link status fifoMode 0 memAddr size lgwComSuccess
    (if burst.1 ≠ lgwComSuccess then lgwRegError else lgwRegSuccess, burst.2)

/-! ## What the loop transfers -/

/-- The number of chunks so many bytes are cut into. -/
def chunkNb (link : ComLink) (size : ℕ) : ℕ :=
  (size + (link.chunkSizeMax.toNat - 1)) / link.chunkSizeMax.toNat

section Loop

variable (link : ComLink) (status : ℕ → ℤ) (fifoMode : Bool)

@[simp] theorem chunkNb_zero : chunkNb link 0 = 0 := by
  have hpos := link.toNat_pos
  unfold chunkNb
  rw [Nat.div_eq_of_lt]
  omega

/-- Bytes are cut into one chunk, and what is left into the others. -/
theorem chunkNb_of_pos {size : ℕ} (h : 0 < size) :
    chunkNb link size = chunkNb link (size - link.chunkSizeMax.toNat) + 1 := by
  have hpos := link.toNat_pos
  unfold chunkNb
  rw [← Nat.add_div_right _ hpos]
  rcases Nat.le_total link.chunkSizeMax.toNat size with hle | hle
  · congr 1
    omega
  · rw [Nat.sub_eq_zero_of_le hle, Nat.zero_add,
      Nat.div_eq_of_lt_le (k := 1) (by omega) (by omega),
      Nat.div_eq_of_lt_le (k := 1) (by omega) (by omega)]

variable (chunkCnt : ℕ) (addr szTodo : UInt16) (comStat : ℤ)

theorem memLoop_of_ne (h : szTodo ≠ 0) :
    memLoop link status fifoMode chunkCnt addr szTodo comStat
      = ((memLoop link status fifoMode (chunkCnt + 1)
          (nextAddr fifoMode addr (chunkSize link szTodo))
          (szTodo - chunkSize link szTodo) (status chunkCnt)).1,
        ⟨addr, chunkCnt * link.chunkSizeMax.toNat, chunkSize link szTodo⟩ ::
          (memLoop link status fifoMode (chunkCnt + 1)
            (nextAddr fifoMode addr (chunkSize link szTodo))
            (szTodo - chunkSize link szTodo) (status chunkCnt)).2) := by
  rw [memLoop, if_neg h]

/-- The loop makes as many transfers as there are chunks. -/
theorem length_memLoop :
    (memLoop link status fifoMode chunkCnt addr szTodo comStat).2.length
      = chunkNb link szTodo.toNat := by
  induction chunkCnt, addr, szTodo, comStat using memLoop.induct link status fifoMode with
  | case1 chunkCnt addr comStat =>
    rw [memLoop, if_pos rfl]
    exact (chunkNb_zero link).symm
  | case2 chunkCnt addr szTodo comStat hne ih =>
    have hpos : 0 < szTodo.toNat := Nat.pos_of_ne_zero fun h => hne (UInt16.toNat_inj.mp h)
    rw [memLoop_of_ne _ _ _ _ _ _ _ hne, List.length_cons, ih, toNat_sub_chunkSize,
      ← chunkNb_of_pos link hpos]

/-- **The status is that of the last transfer**, or the one before the loop if there is none. -/
theorem fst_memLoop :
    (memLoop link status fifoMode chunkCnt addr szTodo comStat).1
      = if szTodo = 0 then comStat else status (chunkCnt + (chunkNb link szTodo.toNat - 1)) := by
  induction chunkCnt, addr, szTodo, comStat using memLoop.induct link status fifoMode with
  | case1 chunkCnt addr comStat => rw [memLoop, if_pos rfl, if_pos rfl]
  | case2 chunkCnt addr szTodo comStat hne ih =>
    have hpos : 0 < szTodo.toNat := Nat.pos_of_ne_zero fun h => hne (UInt16.toNat_inj.mp h)
    rw [memLoop_of_ne _ _ _ _ _ _ _ hne, ih, if_neg hne, toNat_sub_chunkSize,
      chunkNb_of_pos link hpos]
    by_cases hlast : szTodo - chunkSize link szTodo = 0
    · -- this chunk is the last one
      have hleft : szTodo.toNat - link.chunkSizeMax.toNat = 0 := by
        rw [← toNat_sub_chunkSize, hlast]
        rfl
      rw [if_pos hlast, hleft, chunkNb_zero, Nat.zero_add, Nat.sub_self, Nat.add_zero]
    · have hmore : 0 < szTodo.toNat - link.chunkSizeMax.toNat := by
        rw [← toNat_sub_chunkSize]
        exact Nat.pos_of_ne_zero fun h => hlast (UInt16.toNat_inj.mp h)
      rw [if_neg hlast, chunkNb_of_pos link hmore]
      congr 1
      omega

/-- **The chunks follow each other**: put together they are the bytes from the first on. -/
theorem flatMap_memLoop :
    (memLoop link status fifoMode chunkCnt addr szTodo comStat).2.flatMap
        (fun t => List.range' t.offset t.size.toNat)
      = List.range' (chunkCnt * link.chunkSizeMax.toNat) szTodo.toNat := by
  induction chunkCnt, addr, szTodo, comStat using memLoop.induct link status fifoMode with
  | case1 chunkCnt addr comStat =>
    rw [memLoop, if_pos rfl]
    rfl
  | case2 chunkCnt addr szTodo comStat hne ih =>
    rw [memLoop_of_ne _ _ _ _ _ _ _ hne, List.flatMap_cons, ih, toNat_sub_chunkSize,
      toNat_chunkSize]
    rcases Nat.lt_or_ge link.chunkSizeMax.toNat szTodo.toNat with hlt | hge
    · rw [Nat.min_eq_left hlt.le, Nat.succ_mul, List.range'_append_1]
      congr 1
      omega
    · rw [Nat.min_eq_right hge, Nat.sub_eq_zero_of_le hge, List.range'_zero, List.append_nil]

/-- **Each chunk goes to its own address**: the first plus the offset, or the first in FIFO
mode. -/
theorem addr_memLoop : ∀ t ∈ (memLoop link status fifoMode chunkCnt addr szTodo comStat).2,
    chunkCnt * link.chunkSizeMax.toNat ≤ t.offset
      ∧ t.addr = if fifoMode then addr
        else addr + UInt16.ofNat (t.offset - chunkCnt * link.chunkSizeMax.toNat) := by
  induction chunkCnt, addr, szTodo, comStat using memLoop.induct link status fifoMode with
  | case1 chunkCnt addr comStat =>
    rw [memLoop, if_pos rfl]
    exact fun t ht => absurd ht List.not_mem_nil
  | case2 chunkCnt addr szTodo comStat hne ih =>
    rw [memLoop_of_ne _ _ _ _ _ _ _ hne]
    intro t ht
    obtain rfl | ht := List.mem_cons.mp ht
    · refine ⟨le_rfl, ?_⟩
      rw [Nat.sub_self]
      split_ifs
      · rfl
      · exact (UInt16.add_zero addr).symm
    · obtain ⟨hoffset, haddr⟩ := ih t ht
      rw [Nat.succ_mul] at hoffset haddr
      refine ⟨by omega, haddr.trans ?_⟩
      unfold nextAddr
      split_ifs
      · rfl
      · -- there is a chunk after this one, which therefore was of the full length
        have hmore : link.chunkSizeMax < szTodo := by
          by_contra hlast
          rw [chunkSize, if_neg hlast, UInt16.sub_self, memLoop, if_pos rfl] at ht
          exact absurd ht List.not_mem_nil
        rw [chunkSize, if_pos hmore, UInt16.add_assoc,
          ← UInt16.ofNat_toNat (x := link.chunkSizeMax), ← UInt16.ofNat_add]
        congr 2
        rw [UInt16.ofNat_toNat]
        omega

end Loop

/-! ## The two functions -/

/-- **The chunks cover the array once**: put together in order they are the bytes of the array,
and each has the address of its first byte, or in FIFO mode the address of the first of all. -/
structure Covers (memAddr : UInt16) (fifoMode : Bool) (size : UInt16)
    (transfers : List ComTransfer) : Prop where
  contiguous : transfers.flatMap (fun t => List.range' t.offset t.size.toNat)
    = List.range size.toNat
  addr : ∀ t ∈ transfers,
    t.addr = if fifoMode then memAddr else memAddr + UInt16.ofNat t.offset

/-- **The burst is right**: its chunks cover the array, and it is a success exactly when each of
its transfers is. -/
structure Right (status : ℕ → ℤ) (memAddr : UInt16) (fifoMode : Bool) (size : UInt16)
    (burst : ℤ × List ComTransfer) : Prop where
  covers : Covers memAddr fifoMode size burst.2
  success : burst.1 = lgwRegSuccess ↔ ∀ k < burst.2.length, status k = lgwComSuccess

/-- **The last chunk tells**: its transfer fails, or those of all chunks before it succeed. -/
def LastTells (link : ComLink) (status : ℕ → ℤ) (size : UInt16) : Prop :=
  status (chunkNb link size.toNat - 1) ≠ lgwComSuccess
    ∨ ∀ k < chunkNb link size.toNat - 1, status k = lgwComSuccess

section Functions

variable (link : ComLink) (status : ℕ → ℤ) (memAddr : UInt16) (fifoMode : Bool) (size : UInt16)

/-- The chunks cover the array, whatever becomes of the transfers. -/
theorem covers_memLoop (comStat : ℤ) :
    Covers memAddr fifoMode size (memLoop link status fifoMode 0 memAddr size comStat).2 where
  contiguous := by
    rw [flatMap_memLoop, Nat.zero_mul, List.range_eq_range']
  addr t ht := by
    have haddr := (addr_memLoop link status fifoMode 0 memAddr size comStat t ht).2
    rwa [Nat.zero_mul, Nat.sub_zero] at haddr

variable {size}

/-- **When a burst is right.** The status at the end of the loop is that of the last chunk. -/
theorem memLoop_right_iff (hsize : size ≠ 0) :
    Right status memAddr fifoMode size
        (if (memLoop link status fifoMode 0 memAddr size lgwComSuccess).1 ≠ lgwComSuccess
          then lgwRegError else lgwRegSuccess,
          (memLoop link status fifoMode 0 memAddr size lgwComSuccess).2)
      ↔ LastTells link status size := by
  have hpos : 0 < size.toNat := Nat.pos_of_ne_zero fun h => hsize (UInt16.toNat_inj.mp h)
  have hchunks : 0 < chunkNb link size.toNat := by
    rw [chunkNb_of_pos link hpos]
    exact Nat.succ_pos _
  -- what is returned is the status of the last chunk alone
  have hret : (if status (chunkNb link size.toNat - 1) ≠ lgwComSuccess then lgwRegError
      else lgwRegSuccess) = lgwRegSuccess
        ↔ status (chunkNb link size.toNat - 1) = lgwComSuccess := by
    split_ifs with hlast
    · exact iff_of_false (by decide) hlast
    · exact iff_of_true rfl (not_not.mp hlast)
  -- all chunks have succeeded if the last one has and those before have
  have hall : (∀ k < chunkNb link size.toNat, status k = lgwComSuccess)
      ↔ status (chunkNb link size.toNat - 1) = lgwComSuccess
        ∧ ∀ k < chunkNb link size.toNat - 1, status k = lgwComSuccess := by
    refine ⟨fun h => ⟨h _ (by omega), fun k hk => h k (by omega)⟩, fun h k hk => ?_⟩
    obtain hk | rfl : k < chunkNb link size.toNat - 1 ∨ k = chunkNb link size.toNat - 1 := by omega
    · exact h.2 k hk
    · exact h.1
  have hsuccess : Right status memAddr fifoMode size
        (if (memLoop link status fifoMode 0 memAddr size lgwComSuccess).1 ≠ lgwComSuccess
          then lgwRegError else lgwRegSuccess,
          (memLoop link status fifoMode 0 memAddr size lgwComSuccess).2)
      ↔ (status (chunkNb link size.toNat - 1) = lgwComSuccess
        ↔ ∀ k < chunkNb link size.toNat, status k = lgwComSuccess) := by
    rw [← hret]
    refine ⟨fun h => ?_, fun h => ⟨covers_memLoop link status memAddr fifoMode size _, ?_⟩⟩
    · have hright := h.success
      rwa [length_memLoop, fst_memLoop, if_neg hsize, Nat.zero_add] at hright
    · rwa [length_memLoop, fst_memLoop, if_neg hsize, Nat.zero_add]
  rw [hsuccess, hall]
  unfold LastTells
  tauto

/-- **When a burst of chunks is right**, written or read: when its last chunk tells. -/
theorem lgwMem_right_iff (hsize : size ≠ 0) :
    (Right status memAddr false size (lgwMemWb link status memAddr size)
        ↔ LastTells link status size)
      ∧ (Right status memAddr fifoMode size (lgwMemRb link status memAddr size fifoMode)
        ↔ LastTells link status size) := by
  unfold lgwMemWb lgwMemRb
  rw [if_neg hsize, if_neg hsize]
  exact ⟨memLoop_right_iff link status memAddr false hsize,
    memLoop_right_iff link status memAddr fifoMode hsize⟩

end Functions

/-- A link for chunks of 1024 bytes. -/
def link1024 : ComLink := ⟨1024, by decide⟩

/-- A write of which the first chunk fails. -/
theorem lgwMem_right_iff_first :
    let status : ℕ → ℤ := fun k => if k = 0 then -1 else 0
    (Right status 0x5300 false 1500 (lgwMemWb link1024 status 0x5300 1500)
        ↔ LastTells link1024 status 1500)
      ∧ (Right status 0x5300 true 1500 (lgwMemRb link1024 status 0x5300 1500 true)
        ↔ LastTells link1024 status 1500) :=
  lgwMem_right_iff link1024 _ 0x5300 true (by decide)

/-- **A chunk that fails before the last is forgotten.** -/
theorem firstChunk_forgotten :
    ¬ ∀ link status memAddr size, size ≠ 0 →
      Right status memAddr false size (lgwMemWb link status memAddr size) := by
  intro h
  have hright := h link1024 (fun k => if k = 0 then -1 else 0) 0x5300 1500 (by decide)
  unfold lgwMemWb at hright
  rw [if_neg (by decide)] at hright
  obtain hlast | hfirst := (memLoop_right_iff link1024 _ 0x5300 false (by decide)).mp hright
  · exact absurd hlast (by decide)
  · exact absurd (hfirst 0 (by decide)) (by decide)

end MemBurst
