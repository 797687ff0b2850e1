import MeshBeacon.RxBuffer
import Mathlib.Data.List.Find

/-!
# The bounds of the receive buffer

What `rx_buffer_fetch` and `rx_buffer_pop` access of the arrays: the 4096 bytes
of the buffer, and the arrays of the packet a record is parsed into. The
accesses of a call are a list, built along the control flow of the call.

A record can lead out of the arrays in two ways. Its header may be cut off by
the end of the buffer, for the counting pass reads the payload length and, at a
distance the payload length gives, the number of metrics, before it knows that
the record is complete. And it may carry more metrics than the packet has room
for: the number is of pairs, the arrays are of 255 elements.
-/

/-! ## Accesses -/

/-- An access to so many elements of an array, from an index on. -/
inductive Access where
  | buffer (index len : ℕ)
  | payload (index len : ℕ)
  | timestampAvg (index len : ℕ)
  | timestampStddev (index len : ℕ)
deriving DecidableEq

/-- The elements are there. -/
def Access.InRange : Access → Prop
  | .buffer index len => index + len ≤ rxBufferSize
  | .payload index len => index + len ≤ 255
  | .timestampAvg index len => index + len ≤ 255
  | .timestampStddev index len => index + len ≤ 255

instance (a : Access) : Decidable a.InRange := by
  cases a <;> exact inferInstanceAs (Decidable (_ ≤ _))

/-- Looking for a syncword: the second byte is read when the first is right. -/
def syncAccesses (rd : ℕ → UInt8) (idx : ℕ) : List Access :=
  if rd idx = syncwordByte0 then [.buffer idx 1, .buffer (idx + 1) 1] else [.buffer idx 1]

/-- Computing the length of a record. -/
def lengthAccesses (rd : ℕ → UInt8) (idx : ℕ) : List Access :=
  [.buffer (idx + 2) 1, .buffer (idx + (payloadLength (fun i => rd (idx + i)) + 21)) 1]

/-- `rx_buffer_fetch`, the search for the first syncword. -/
def searchAccesses (rd : ℕ → UInt8) (positions : List ℕ) : List Access :=
  (positions.takeWhile fun idx => !syncAt rd idx).flatMap (syncAccesses rd)
    ++ (positions.find? (syncAt rd)).toList.flatMap (syncAccesses rd)

/-- `rx_buffer_fetch`, the counting loop. -/
def countAccesses (rd : ℕ → UInt8) (size idx : ℕ) : List Access :=
  if idx < size then
    syncAccesses rd idx ++
      if syncAt rd idx then
        lengthAccesses rd idx
          ++ countAccesses rd size (idx + recordLength (fun i => rd (idx + i)))
      else []
  else []
termination_by size - idx
decreasing_by
  have h : 0 < recordLength (fun i => rd (idx + i)) := by unfold recordLength headMetadata; omega
  omega

/-- `rx_buffer_fetch`, the buffer the bytes are read into. -/
def Fifo.received (fifo : Fifo) (bytes : List UInt8) : RxBuffer :=
  ⟨overwrite (bytes.take fifo.nbBytes.toNat) (List.replicate rxBufferSize 0), fifo.nbBytes, 0, 0⟩

/-- `rx_buffer_fetch`, the buffer that is walked over, if the walk begins: the bytes
before the first syncword have been dropped. -/
def Fifo.walked (fifo : Fifo) (past : ℕ → UInt8) : Option RxBuffer :=
  let size := fifo.nbBytes.toNat
  if size = 0 then none
  else
    match fifo.memRb with
    | .error _ => none
    | .ok bytes =>
      if size < headMetadata + tailMetadata then none
      else ((List.range (size - 1)).find? (syncAt ((fifo.received bytes).byte past))).map
        (fifo.received bytes).resync

/-- `rx_buffer_fetch`. The transfer is asked for as many bytes as there are. -/
def fetchAccesses (past : ℕ → UInt8) (fifo : Fifo) : List Access :=
  let size := fifo.nbBytes.toNat
  if size = 0 then []
  else
    [.buffer 0 rxBufferSize, .buffer 0 size] ++
    match fifo.memRb with
    | .error _ => []
    | .ok bytes =>
      if size < headMetadata + tailMetadata then []
      else
        let self := fifo.received bytes
        searchAccesses (self.byte past) (List.range (size - 1)) ++
        match (List.range (size - 1)).find? (syncAt (self.byte past)) with
        | none => []
        | some idx =>
          (if idx = 0 then [] else [.buffer idx (size - idx), .buffer 0 (size - idx)])
            ++ countAccesses ((self.resync idx).byte past) (self.resync idx).bufferSize.toNat 0

/-- `rx_buffer_pop`, the metadata of a record and its metrics. -/
def metadataAccesses (rd : ℕ → UInt8) (idx : ℕ) : List Access :=
  let tail := idx + payloadLength rd
  let num := (numTsMetrics rd).toNat
  [.buffer (idx + 3) 6, .buffer (tail + 9) 4, .buffer (tail + 15) 6, .buffer (tail + 22) (2 * num),
    .timestampAvg 0 (2 * num), .timestampStddev 0 (2 * num)]

/-- `rx_buffer_pop`. -/
def popAccesses (past : ℕ → UInt8) (self : RxBuffer) : List Access :=
  let rd := self.rd past
  let idx := self.bufferIndex
  if self.bufferSize.toNat ≤ idx then []
  else
    syncAccesses (self.byte past) idx ++
    if !syncAt rd 0 then []
    else
      lengthAccesses (self.byte past) idx ++
      if self.bufferSize.toNat < idx + recordLength rd then []
      else
        [.buffer (idx + (recordLength rd - 1)) 1, .buffer idx (recordLength rd - 1)] ++
        if !checksumOk rd then []
        else
          metadataAccesses rd idx ++
          if !metadataInRange (rxPacketAt rd) then []
          else [.buffer (idx + headMetadata) (payloadLength rd), .payload 0 (payloadLength rd)]

/-- The buffer after so many calls of `rx_buffer_pop`. -/
def afterPops (past : ℕ → UInt8) (k : ℕ) (self : RxBuffer) : RxBuffer :=
  (fun self => (rxBufferPop past self).2.1)^[k] self

/-- **A fetch and the calls after it stay in the arrays**, however many follow. -/
structure StaysInRange (past : ℕ → UInt8) (fifo : Fifo) (before : RxBuffer) : Prop where
  fetch : ∀ a ∈ fetchAccesses past fifo, a.InRange
  pops : ∀ k, ∀ a ∈ popAccesses past (afterPops past k (rxBufferFetch past fifo before).2),
    a.InRange

/-! ## Records -/

/-- **The starts of the records** the counting pass reaches, from one on. -/
inductive RecordStart (rd : ℕ → UInt8) (size start : ℕ) : ℕ → Prop where
  | first (hlt : start < size) : RecordStart rd size start start
  | next {idx : ℕ} (h : RecordStart rd size start idx) (hsync : syncAt rd idx)
      (hlt : idx + recordLength (fun i => rd (idx + i)) < size) :
    RecordStart rd size start (idx + recordLength fun i => rd (idx + i))

section Count

variable {rd : ℕ → UInt8} {size start idx : ℕ}

theorem RecordStart.lt (h : RecordStart rd size start idx) : idx < size := by
  cases h with
  | first hlt => exact hlt
  | next _ _ hlt => exact hlt

/-- A record start is the first or one from the next on. -/
theorem recordStart_iff : RecordStart rd size start idx ↔
    start < size ∧ (idx = start ∨ (syncAt rd start
      ∧ RecordStart rd size (start + recordLength fun i => rd (start + i)) idx)) := by
  constructor
  · intro h
    induction h with
    | first hlt => exact ⟨hlt, Or.inl rfl⟩
    | next h hsync hlt ih =>
      refine ⟨ih.1, Or.inr ?_⟩
      rcases ih.2 with rfl | ⟨hstart, hfrom⟩
      · exact ⟨hsync, RecordStart.first hlt⟩
      · exact ⟨hstart, hfrom.next hsync hlt⟩
  · rintro ⟨hlt, rfl | ⟨hstart, hfrom⟩⟩
    · exact RecordStart.first hlt
    · induction hfrom with
      | first hlt' => exact (RecordStart.first hlt).next hstart hlt'
      | next _ hsync hlt' ih => exact ih.next hsync hlt'

/-- What holds of every record start holds of the first and of those behind it. -/
theorem forall_recordStart {P : ℕ → Prop} (hlt : start < size) :
    (∀ idx, RecordStart rd size start idx → P idx) ↔ P start ∧ (syncAt rd start →
      ∀ idx, RecordStart rd size (start + recordLength fun i => rd (start + i)) idx → P idx) := by
  constructor
  · exact fun h => ⟨h start (RecordStart.first hlt),
      fun hsync idx hidx => h idx (recordStart_iff.mpr ⟨hlt, Or.inr ⟨hsync, hidx⟩⟩)⟩
  · intro h idx hidx
    rcases (recordStart_iff.mp hidx).2 with rfl | ⟨hsync, hfrom⟩
    · exact h.1
    · exact h.2 hsync idx hfrom

/-- The record at a position has room for its header: its second byte, when the
first is that of a syncword, and behind a syncword the number of metrics. -/
def HeaderFits (rd : ℕ → UInt8) (idx : ℕ) : Prop :=
  (rd idx = syncwordByte0 → idx + 1 < rxBufferSize)
    ∧ (syncAt rd idx → idx + (payloadLength (fun i => rd (idx + i)) + 21) < rxBufferSize)

/-- The accesses to a header are in range when it fits. -/
theorem headerFits_iff (hidx : idx < rxBufferSize) : HeaderFits rd idx ↔
    (∀ a ∈ syncAccesses rd idx, a.InRange)
      ∧ (syncAt rd idx → ∀ a ∈ lengthAccesses rd idx, a.InRange) := by
  unfold HeaderFits syncAccesses lengthAccesses
  refine and_congr ?_ (imp_congr_right fun _ => ?_)
  · split_ifs with h
    · simp only [List.mem_cons, List.not_mem_nil, or_false, forall_eq_or_imp, forall_eq,
        Access.InRange, h, true_imp_iff]
      omega
    · simp only [List.mem_cons, List.not_mem_nil, or_false, forall_eq, Access.InRange, h,
        false_imp_iff, true_iff]
      omega
  · simp only [List.mem_cons, List.not_mem_nil, or_false, forall_eq_or_imp, forall_eq,
      Access.InRange]
    omega

/-- **The counting pass stays in the buffer** when every record it reaches has room
for its header. -/
theorem countAccesses_inRange_iff (hsize : size ≤ rxBufferSize) :
    (∀ a ∈ countAccesses rd size start, a.InRange)
      ↔ ∀ idx, RecordStart rd size start idx → HeaderFits rd idx := by
  induction start using countAccesses.induct rd size with
  | case1 start hlt ih =>
    have hhead : HeaderFits rd start ↔ _ := headerFits_iff (hlt.trans_le hsize)
    rw [countAccesses, if_pos hlt, forall_recordStart hlt, hhead]
    by_cases hsync : syncAt rd start
    · rw [if_pos hsync]
      simp only [List.mem_append, or_imp, forall_and, hsync, true_imp_iff, ih, and_assoc]
    · rw [if_neg hsync, List.append_nil]
      simp only [hsync, false_imp_iff, and_true, Bool.false_eq_true]
  | case2 start hlt =>
    rw [countAccesses, if_neg hlt]
    exact ⟨fun _ idx hidx => absurd (recordStart_iff.mp hidx).1 hlt, fun _ => nofun⟩

/-- **The counting pass counts** when every record it reaches has its syncword. -/
theorem countPackets_isSome_iff {nb : UInt8} : (countPackets rd size start nb).isSome
    ↔ ∀ idx, RecordStart rd size start idx → syncAt rd idx := by
  induction start, nb using countPackets.induct rd size with
  | case1 start nb hlt hsync ih =>
    rw [countPackets, if_pos hlt, if_pos hsync, ih, forall_recordStart hlt]
    simp only [hsync, true_and, true_imp_iff]
  | case2 start nb hlt hsync =>
    rw [countPackets, if_pos hlt, if_neg hsync, forall_recordStart hlt]
    exact ⟨nofun, fun h => absurd h.1 hsync⟩
  | case3 start nb hlt =>
    rw [countPackets, if_neg hlt]
    exact ⟨fun _ idx hidx => absurd (recordStart_iff.mp hidx).1 hlt, fun _ => rfl⟩

end Count

/-! ## The fetch -/

section Fetch

variable {past : ℕ → UInt8} {fifo : Fifo}

theorem searchAccesses_inRange (rd : ℕ → UInt8) {size : ℕ} (hsize : size ≤ rxBufferSize) :
    ∀ a ∈ searchAccesses rd (List.range (size - 1)), a.InRange := by
  have hpos : ∀ idx ∈ List.range (size - 1), ∀ a ∈ syncAccesses rd idx, a.InRange := by
    intro idx hidx a ha
    have hlt := List.mem_range.mp hidx
    unfold syncAccesses at ha
    split_ifs at ha <;> simp only [List.mem_cons, List.not_mem_nil, or_false] at ha
    · rcases ha with rfl | rfl <;> show _ + 1 ≤ rxBufferSize <;> omega
    · subst ha
      show idx + 1 ≤ rxBufferSize
      omega
  intro a ha
  rcases List.mem_append.mp ha with h | h
  · obtain ⟨idx, hidx, ha⟩ := List.mem_flatMap.mp h
    exact hpos idx (List.takeWhile_subset _ hidx) a ha
  · obtain ⟨idx, hidx, ha⟩ := List.mem_flatMap.mp h
    exact hpos idx (List.mem_of_find?_eq_some (Option.mem_toList.mp hidx)) a ha

/-- Dropping the bytes before an index drops as many. -/
theorem RxBuffer.toNat_bufferSize_resync {self : RxBuffer} {idx : ℕ}
    (h : idx ≤ self.bufferSize.toNat) :
    (self.resync idx).bufferSize.toNat = self.bufferSize.toNat - idx := by
  have hidx : (UInt16.ofNat idx).toNat = idx :=
    UInt16.toNat_ofNat_of_lt' (h.trans_lt self.bufferSize.toNat_lt)
  unfold RxBuffer.resync
  split_ifs with hzero
  · rw [hzero, Nat.sub_zero]
  · rw [UInt16.toNat_sub_of_le _ _ (by rw [UInt16.le_iff_toNat_le, hidx]; exact h), hidx]

/-- **When the walk begins**: there are bytes, as many as a record has, and a
syncword among them. -/
theorem Fifo.walked_eq_some {rx : RxBuffer} : fifo.walked past = some rx ↔
    fifo.nbBytes.toNat ≠ 0 ∧ ∃ bytes, fifo.memRb = .ok bytes
      ∧ ¬ fifo.nbBytes.toNat < headMetadata + tailMetadata
      ∧ ∃ idx, (List.range (fifo.nbBytes.toNat - 1)).find?
          (syncAt ((fifo.received bytes).byte past)) = some idx
        ∧ (fifo.received bytes).resync idx = rx := by
  unfold Fifo.walked
  dsimp only
  by_cases hzero : fifo.nbBytes.toNat = 0
  · rw [if_pos hzero]
    exact ⟨nofun, fun h => absurd hzero h.1⟩
  rw [if_neg hzero]
  cases fifo.memRb with
  | error read => exact ⟨nofun, fun ⟨_, bytes, hbytes, _⟩ => nomatch hbytes⟩
  | ok bytes =>
    dsimp only
    split_ifs with hshort
    · exact ⟨nofun, fun ⟨_, _, _, hlong, _⟩ => absurd hshort hlong⟩
    · rw [Option.map_eq_some_iff]
      constructor
      · exact fun h => ⟨hzero, bytes, rfl, hshort, h⟩
      · rintro ⟨-, bytes', hbytes, -, h⟩
        cases hbytes
        exact h

/-- The buffer walked over has at most the bytes that were there. -/
theorem Fifo.bufferSize_le_of_walked {rx : RxBuffer} (h : fifo.walked past = some rx) :
    rx.bufferSize.toNat ≤ fifo.nbBytes.toNat := by
  obtain ⟨-, bytes, -, -, idx, hfind, rfl⟩ := Fifo.walked_eq_some.mp h
  have hidx := List.mem_range.mp (List.mem_of_find?_eq_some hfind)
  rw [RxBuffer.toNat_bufferSize_resync (hidx.le.trans (Nat.sub_le _ 1))]
  exact Nat.sub_le _ idx

/-- What is moved to the front is in the buffer. -/
theorem moveAccesses_inRange {n idx : ℕ} (hidx : idx ≤ n) (hsize : n ≤ rxBufferSize) :
    ∀ a ∈ (if idx = 0 then [] else [Access.buffer idx (n - idx), .buffer 0 (n - idx)]),
      a.InRange := by
  split_ifs
  · exact List.forall_mem_nil _
  · simp only [List.mem_cons, List.not_mem_nil, or_false, forall_eq_or_imp, forall_eq,
      Access.InRange]
    omega

/-- **The fetch stays in the buffer** when the bytes fit it and every record the
counting pass reaches has room for its header. -/
theorem fetchAccesses_inRange_iff : (∀ a ∈ fetchAccesses past fifo, a.InRange) ↔
    fifo.nbBytes.toNat ≤ rxBufferSize ∧ ∀ rx, fifo.walked past = some rx → ∀ idx,
      RecordStart (rx.byte past) rx.bufferSize.toNat 0 idx → HeaderFits (rx.byte past) idx := by
  by_cases hzero : fifo.nbBytes.toNat = 0
  · rw [show fetchAccesses past fifo = [] from if_pos hzero]
    exact iff_of_true (List.forall_mem_nil _) ⟨hzero.le.trans (Nat.zero_le _),
      fun rx hrx => absurd hzero (Fifo.walked_eq_some.mp hrx).1⟩
  rw [show fetchAccesses past fifo = [.buffer 0 rxBufferSize, .buffer 0 fifo.nbBytes.toNat] ++ _
    from if_neg hzero, List.forall_mem_append]
  -- the buffer is cleared, and filled by the transfer
  have hcopy : (∀ a ∈ [Access.buffer 0 rxBufferSize, .buffer 0 fifo.nbBytes.toNat], a.InRange)
      ↔ fifo.nbBytes.toNat ≤ rxBufferSize := by
    simp only [List.mem_cons, List.not_mem_nil, or_false, forall_eq_or_imp, forall_eq,
      Access.InRange, Nat.zero_add, le_refl, true_and]
  rw [hcopy]
  refine and_congr_right fun hsize => ?_
  cases hmem : fifo.memRb with
  | error read =>
    -- a transfer that fails is not searched
    refine iff_of_true (List.forall_mem_nil _) fun rx hrx => ?_
    obtain ⟨-, bytes, hbytes, -⟩ := Fifo.walked_eq_some.mp hrx
    rw [hmem] at hbytes
    cases hbytes
  | ok bytes =>
    have hwalked : ∀ rx, fifo.walked past = some rx ↔
        ¬ fifo.nbBytes.toNat < headMetadata + tailMetadata
        ∧ ∃ idx, (List.range (fifo.nbBytes.toNat - 1)).find?
            (syncAt ((fifo.received bytes).byte past)) = some idx
          ∧ (fifo.received bytes).resync idx = rx := fun rx => by
      rw [Fifo.walked_eq_some, hmem]
      simp only [ne_eq, hzero, not_false_iff, true_and, Except.ok.injEq, exists_eq_left']
    simp only [hwalked]
    by_cases hshort : fifo.nbBytes.toNat < headMetadata + tailMetadata
    · rw [if_pos hshort]
      exact iff_of_true (List.forall_mem_nil _) fun rx hrx => absurd hshort hrx.1
    rw [if_neg hshort, List.forall_mem_append]
    rw [and_iff_right (searchAccesses_inRange _ hsize)]
    cases hfind : (List.range (fifo.nbBytes.toNat - 1)).find?
        (syncAt ((fifo.received bytes).byte past)) with
    | none =>
      refine iff_of_true (List.forall_mem_nil _) fun rx hrx => ?_
      obtain ⟨-, idx, hidx, -⟩ := hrx
      exact absurd hidx.symm (Option.some_ne_none idx)
    | some idx =>
      -- after the search the records are moved to the front and counted
      have hidx : idx ≤ fifo.nbBytes.toNat :=
        (List.mem_range.mp (List.mem_of_find?_eq_some hfind)).le.trans (Nat.sub_le _ 1)
      dsimp only
      rw [List.forall_mem_append, and_iff_right (moveAccesses_inRange hidx hsize),
        countAccesses_inRange_iff]
      · constructor
        · rintro h rx ⟨-, idx', hidx', rfl⟩
          cases hidx'
          exact h
        · exact fun h => h _ ⟨hshort, idx, rfl, rfl⟩
      · rw [RxBuffer.toNat_bufferSize_resync hidx]
        exact (Nat.sub_le _ idx).trans hsize

end Fetch

/-! ## The pops -/

/-- **The record at a position is popped**: it is complete, its sum is right and its
metadata is in range. -/
structure Popped (rd : ℕ → UInt8) (size idx : ℕ) : Prop where
  sync : syncAt rd idx
  complete : idx + recordLength (fun i => rd (idx + i)) ≤ size
  checksum : checksumOk fun i => rd (idx + i)
  metadata : metadataInRange (rxPacketAt fun i => rd (idx + i))

/-- **The starts of the records** the pops reach, from one on: the records before are
popped. -/
inductive PopStart (rd : ℕ → UInt8) (size start : ℕ) : ℕ → Prop where
  | first (hlt : start < size) : PopStart rd size start start
  | next {idx : ℕ} (h : PopStart rd size start idx) (hpopped : Popped rd size idx)
      (hlt : idx + recordLength (fun i => rd (idx + i)) < size) :
    PopStart rd size start (idx + recordLength fun i => rd (idx + i))

/-- The pops reach starts the counting pass reaches. -/
theorem PopStart.recordStart {rd : ℕ → UInt8} {size start idx : ℕ}
    (h : PopStart rd size start idx) : RecordStart rd size start idx := by
  induction h with
  | first hlt => exact RecordStart.first hlt
  | next _ hpopped hlt ih => exact ih.next hpopped.sync hlt

/-- The metrics of the record at a position have room in the packet, if they are
parsed: the record is complete and its sum is right. -/
def MetricsFit (rd : ℕ → UInt8) (size idx : ℕ) : Prop :=
  idx + recordLength (fun i => rd (idx + i)) ≤ size → checksumOk (fun i => rd (idx + i)) →
    (numTsMetrics fun i => rd (idx + i)).toNat ≤ 127

/-- What a pop reads of the record at a position has room: its header and, behind a
syncword, its metrics. -/
def RecordFits (rd : ℕ → UInt8) (size idx : ℕ) : Prop :=
  HeaderFits rd idx ∧ (syncAt rd idx → MetricsFit rd size idx)

/-- The buffer is another with its index at a position. -/
structure RxBuffer.At (rx : RxBuffer) (idx : ℕ) (moved : RxBuffer) : Prop where
  buffer : moved.buffer = rx.buffer
  bufferSize : moved.bufferSize = rx.bufferSize
  bufferIndex : moved.bufferIndex = idx

section Pop

variable {past : ℕ → UInt8} {rx self : RxBuffer} {idx : ℕ}

theorem RxBuffer.At.byte_eq (h : rx.At idx self) : self.byte past = rx.byte past := by
  funext i
  unfold RxBuffer.byte
  rw [h.buffer]

theorem RxBuffer.At.rd_eq (past : ℕ → UInt8) (h : rx.At idx self) :
    self.rd past = fun i => rx.byte past (idx + i) := by
  funext i
  unfold RxBuffer.rd
  rw [h.byte_eq, h.bufferIndex]

theorem afterPops_succ (k : ℕ) :
    afterPops past (k + 1) self = (rxBufferPop past (afterPops past k self)).2.1 :=
  Function.iterate_succ_apply' _ k self

/-- A pop behind the last record changes nothing and reads nothing. -/
theorem pop_of_size_le (past : ℕ → UInt8) (h : self.bufferSize.toNat ≤ self.bufferIndex) :
    (rxBufferPop past self).2.1 = self ∧ popAccesses past self = [] :=
  ⟨congrArg (Prod.fst ∘ Prod.snd) (if_pos h), if_pos h⟩

theorem RxBuffer.At.size_le (h : rx.At idx self) (hbehind : rx.bufferSize.toNat ≤ idx) :
    self.bufferSize.toNat ≤ self.bufferIndex := by
  rw [h.bufferSize, h.bufferIndex]
  exact hbehind

/-- **A pop of a record that is popped** moves the index behind it. -/
theorem RxBuffer.At.pop_of_popped (h : rx.At idx self) (hlt : idx < rx.bufferSize.toNat)
    (hpopped : Popped (rx.byte past) rx.bufferSize.toNat idx) :
    rx.At (idx + recordLength fun i => rx.byte past (idx + i)) (rxBufferPop past self).2.1 := by
  have hrd := h.rd_eq past
  unfold rxBufferPop
  dsimp only
  rw [hrd, h.bufferSize, h.bufferIndex, if_neg (Nat.not_le.mpr hlt), if_neg, if_neg, if_neg, if_neg]
  · exact ⟨h.buffer, rfl, rfl⟩
  · simpa using hpopped.metadata
  · simpa using hpopped.checksum
  · simpa using hpopped.complete
  · simpa [syncAt] using hpopped.sync

theorem RxBuffer.At.pop_of_not_popped (h : rx.At idx self)
    (hpopped : ¬ Popped (rx.byte past) rx.bufferSize.toNat idx) :
    (rxBufferPop past self).2.1 = self := by
  have hrd := h.rd_eq past
  unfold rxBufferPop
  dsimp only
  split_ifs with h0 h1 h2 h3 h4
  · rfl
  · rfl
  · rfl
  · rfl
  · rfl
  · rw [hrd] at h1 h2 h3 h4
    rw [h.bufferSize, h.bufferIndex] at h2
    exact absurd ⟨by simpa [syncAt] using h1, Nat.not_lt.mp h2, by simpa using h3,
      by simpa using h4⟩ hpopped

/-- The metadata of a complete record is in the arrays when its metrics have room,
and so is its payload. -/
theorem metadataAccesses_inRange_iff {rd : ℕ → UInt8}
    (hcomplete : idx + recordLength rd ≤ rxBufferSize) :
    (∀ a ∈ metadataAccesses rd idx, a.InRange) ↔ (numTsMetrics rd).toNat ≤ 127 := by
  unfold recordLength headMetadata tailMetadata at hcomplete
  simp only [metadataAccesses, List.mem_cons, List.not_mem_nil, or_false, forall_eq_or_imp,
    forall_eq, Access.InRange]
  omega

/-- **A pop stays in the arrays** exactly when what it reads of the record has room. -/
theorem RxBuffer.At.popAccesses_inRange_iff (h : rx.At idx self)
    (hlt : idx < rx.bufferSize.toNat) (hsize : rx.bufferSize.toNat ≤ rxBufferSize) :
    (∀ a ∈ popAccesses past self, a.InRange)
      ↔ RecordFits (rx.byte past) rx.bufferSize.toNat idx := by
  have hheader : HeaderFits (rx.byte past) idx ↔ _ := headerFits_iff (hlt.trans_le hsize)
  have hrd := h.rd_eq past
  unfold popAccesses RecordFits MetricsFit
  dsimp only
  rw [hrd, h.byte_eq, h.bufferSize, h.bufferIndex, hheader]
  set rd := fun i => rx.byte past (idx + i)
  have hsame : syncAt rd 0 = syncAt (rx.byte past) idx := by simp only [rd, syncAt, Nat.add_zero]
  rw [if_neg (Nat.not_le.mpr hlt), hsame, List.forall_mem_append, and_assoc]
  refine and_congr_right fun _ => ?_
  by_cases hsync : syncAt (rx.byte past) idx
  swap
  · -- without a syncword nothing more is read
    rw [if_pos (by simpa using hsync)]
    exact iff_of_true nofun ⟨fun h => absurd h hsync, fun h => absurd h hsync⟩
  simp only [hsync, true_imp_iff]
  rw [if_neg (by decide), List.forall_mem_append]
  refine and_congr_right fun _ => ?_
  -- a record that is cut off is not read further than its header
  by_cases hcomplete : idx + recordLength rd ≤ rx.bufferSize.toNat
  · have hin : ∀ a ∈ [Access.buffer (idx + (recordLength rd - 1)) 1,
        .buffer idx (recordLength rd - 1)], a.InRange := by
      have hpos : 0 < recordLength rd := by unfold recordLength headMetadata; omega
      simp only [List.mem_cons, List.not_mem_nil, or_false, forall_eq_or_imp, forall_eq,
        Access.InRange]
      omega
    rw [if_neg (Nat.not_lt.mpr hcomplete), List.forall_mem_append, and_iff_right hin]
    -- of a record whose sum is wrong nothing is stored
    by_cases hchecksum : checksumOk rd
    · have hpayload : ∀ a ∈ (if !metadataInRange (rxPacketAt rd) then [] else
          [Access.buffer (idx + headMetadata) (payloadLength rd), .payload 0 (payloadLength rd)]),
          a.InRange := by
        have hbyte : payloadLength rd ≤ 255 := Nat.le_of_lt_succ (rd 2).toNat_lt
        split_ifs
        · exact nofun
        · unfold recordLength at hcomplete
          simp only [List.mem_cons, List.not_mem_nil, or_false, forall_eq_or_imp, forall_eq,
            Access.InRange]
          omega
      rw [if_neg (by simpa using hchecksum), List.forall_mem_append,
        metadataAccesses_inRange_iff (hcomplete.trans hsize), and_iff_left hpayload]
      simp only [hcomplete, hchecksum, true_imp_iff]
    · rw [if_pos (by simpa using hchecksum)]
      exact iff_of_true nofun fun _ h => absurd h hchecksum
  · rw [if_pos (Nat.not_le.mp hcomplete)]
    exact iff_of_true nofun fun h => absurd h hcomplete

/-- **The pops stay in the arrays** exactly when every record they reach has room. -/
theorem RxBuffer.At.pops_inRange_iff {start : ℕ} (h : rx.At start self)
    (hsize : rx.bufferSize.toNat ≤ rxBufferSize) :
    (∀ k, ∀ a ∈ popAccesses past (afterPops past k self), a.InRange)
      ↔ ∀ idx, PopStart (rx.byte past) rx.bufferSize.toNat start idx →
        RecordFits (rx.byte past) rx.bufferSize.toNat idx := by
  constructor
  · intro hin idx hidx
    -- some number of pops leads to every start they reach
    have hreach : ∃ k, rx.At idx (afterPops past k self) := by
      induction hidx with
      | first hlt => exact ⟨0, h⟩
      | next hidx hpopped hlt ih =>
        obtain ⟨k, hk⟩ := ih
        refine ⟨k + 1, ?_⟩
        rw [afterPops_succ]
        exact hk.pop_of_popped hidx.recordStart.lt hpopped
    obtain ⟨k, hk⟩ := hreach
    exact (hk.popAccesses_inRange_iff hidx.recordStart.lt hsize).mp (hin k)
  · intro hfits k
    -- after every number of pops the index is at such a start or behind the records
    have hat : ∃ idx, rx.At idx (afterPops past k self)
        ∧ (PopStart (rx.byte past) rx.bufferSize.toNat start idx
          ∨ rx.bufferSize.toNat ≤ idx) := by
      induction k with
      | zero =>
        refine ⟨start, h, ?_⟩
        rcases Nat.lt_or_ge start rx.bufferSize.toNat with hlt | hge
        · exact Or.inl (PopStart.first hlt)
        · exact Or.inr hge
      | succ k ih =>
        obtain ⟨idx, hk, hidx⟩ := ih
        rw [afterPops_succ]
        by_cases hpopped : Popped (rx.byte past) rx.bufferSize.toNat idx
        · rcases hidx with hidx | hbehind
          · refine ⟨_, hk.pop_of_popped hidx.recordStart.lt hpopped, ?_⟩
            rcases Nat.lt_or_ge (idx + recordLength fun i => rx.byte past (idx + i))
              rx.bufferSize.toNat with hlt | hge
            · exact Or.inl (hidx.next hpopped hlt)
            · exact Or.inr hge
          · refine ⟨idx, ?_, Or.inr hbehind⟩
            rw [(pop_of_size_le past (hk.size_le hbehind)).1]
            exact hk
        · exact ⟨idx, (hk.pop_of_not_popped hpopped).symm ▸ hk, hidx⟩
    obtain ⟨idx, hk, hidx | hbehind⟩ := hat
    · exact (hk.popAccesses_inRange_iff hidx.recordStart.lt hsize).mpr (hfits idx hidx)
    · rw [(pop_of_size_le past (hk.size_le hbehind)).2]
      exact nofun

end Pop

/-! ## After a fetch -/

section After

variable {past : ℕ → UInt8} {fifo : Fifo} {rx : RxBuffer}

/-- Dropping bytes does not look at the index and the number of packets. -/
theorem RxBuffer.resync_congr (self self' : RxBuffer) (hbuffer : self.buffer = self'.buffer)
    (hsize : self.bufferSize = self'.bufferSize) (idx : ℕ) :
    (self.resync idx).buffer = (self'.resync idx).buffer
      ∧ (self.resync idx).bufferSize = (self'.resync idx).bufferSize := by
  unfold RxBuffer.resync
  split_ifs
  · exact ⟨hbuffer, hsize⟩
  · rw [hbuffer, hsize]
    exact ⟨rfl, rfl⟩

/-- Every record the counting pass reaches has its syncword. -/
def RxBuffer.AllSync (rx : RxBuffer) (past : ℕ → UInt8) : Prop :=
  ∀ idx, RecordStart (rx.byte past) rx.bufferSize.toNat 0 idx → syncAt (rx.byte past) idx

/-- **After a fetch that walks** over the records the buffer is the one walked over,
unless the syncword of one is missing: then it is empty. -/
theorem rxBufferFetch_of_walked (self : RxBuffer) (h : fifo.walked past = some rx) :
    (rx.AllSync past ∧ rx.At 0 (rxBufferFetch past fifo self).2)
      ∨ (¬ rx.AllSync past ∧ (rxBufferFetch past fifo self).2.bufferSize = 0) := by
  obtain ⟨hzero, bytes, hmem, hshort, idx, hfind, rfl⟩ := Fifo.walked_eq_some.mp h
  -- the buffer before is overwritten, so it does not matter
  set filled : RxBuffer := { self with
    bufferSize := fifo.nbBytes
    buffer := overwrite (bytes.take fifo.nbBytes.toNat) (List.replicate rxBufferSize 0) }
  obtain ⟨hbuffer, hsize⟩ := RxBuffer.resync_congr filled (fifo.received bytes) rfl rfl idx
  have hbyte : (filled.resync idx).byte past = ((fifo.received bytes).resync idx).byte past := by
    funext i
    unfold RxBuffer.byte
    rw [hbuffer]
  have hfetch : rxBufferFetch past fifo self =
      (countPackets ((filled.resync idx).byte past) (filled.resync idx).bufferSize.toNat 0
        (filled.resync idx).bufferPktNb).elim (.success, rxBufferDel (filled.resync idx))
          fun nb => (.success, { filled.resync idx with bufferPktNb := nb, bufferIndex := 0 }) := by
    unfold rxBufferFetch
    dsimp only
    rw [if_neg hzero, hmem]
    dsimp only
    rw [if_neg hshort]
    have hfirst : (List.range (fifo.nbBytes.toNat - 1)).find? (syncAt (filled.byte past))
        = some idx := hfind
    rw [hfirst]
    dsimp only
    cases countPackets ((filled.resync idx).byte past) (filled.resync idx).bufferSize.toNat 0
      (filled.resync idx).bufferPktNb <;> rfl
  have hcount : (countPackets ((filled.resync idx).byte past)
      (filled.resync idx).bufferSize.toNat 0 (filled.resync idx).bufferPktNb).isSome ↔ _ :=
    countPackets_isSome_iff
  rw [hfetch]
  -- the count fails exactly when a syncword is missing, and then the buffer is emptied
  cases hnb : countPackets ((filled.resync idx).byte past) (filled.resync idx).bufferSize.toNat 0
    (filled.resync idx).bufferPktNb with
  | none =>
    rw [hnb, hbyte, hsize] at hcount
    exact Or.inr ⟨fun hall => Bool.false_ne_true (hcount.mpr hall), rfl⟩
  | some nb =>
    rw [hnb, hbyte, hsize] at hcount
    exact Or.inl ⟨hcount.mp rfl, hbuffer, hsize, rfl⟩

/-- **After another fetch** the buffer is empty, or the transfer has failed, and the
index is where it was, in what the transfer has given. -/
theorem rxBufferFetch_of_not_walked (self : RxBuffer) (h : fifo.walked past = none) :
    (rxBufferFetch past fifo self).2.bufferSize = 0
      ∨ ∃ bytes, fifo.memRb = .error bytes ∧ (fifo.received bytes).At self.bufferIndex
          (rxBufferFetch past fifo self).2 := by
  unfold rxBufferFetch
  dsimp only
  by_cases hzero : fifo.nbBytes.toNat = 0
  · rw [if_pos hzero]
    exact Or.inl (UInt16.toNat_inj.mp hzero)
  rw [if_neg hzero]
  cases hmem : fifo.memRb with
  | error bytes => exact Or.inr ⟨bytes, rfl, rfl, rfl, rfl⟩
  | ok bytes =>
    dsimp only
    by_cases hshort : fifo.nbBytes.toNat < headMetadata + tailMetadata
    · rw [if_pos hshort]
      exact Or.inl rfl
    rw [if_neg hshort]
    split
    · exact Or.inl rfl
    · next idx hfind =>
      have hwalked : fifo.walked past = some ((fifo.received bytes).resync idx) :=
        Fifo.walked_eq_some.mpr ⟨hzero, bytes, hmem, hshort, idx, hfind, rfl⟩
      exact absurd (hwalked.symm.trans h) (Option.some_ne_none _)

/-- A transfer that fails leaves what it has given, unless there are no bytes. -/
theorem rxBufferFetch_of_error (past : ℕ → UInt8) (self : RxBuffer) {bytes : List UInt8}
    (hmem : fifo.memRb = .error bytes) (hne : fifo.nbBytes.toNat ≠ 0) :
    (fifo.received bytes).At self.bufferIndex (rxBufferFetch past fifo self).2 := by
  unfold rxBufferFetch
  dsimp only
  rw [if_neg hne, hmem]
  exact ⟨rfl, rfl, rfl⟩

theorem length_received (fifo : Fifo) (bytes : List UInt8)
    (hsize : fifo.nbBytes.toNat ≤ rxBufferSize) :
    (fifo.received bytes).buffer.length = rxBufferSize := by
  show (bytes.take _ ++ (List.replicate rxBufferSize 0).drop _).length = rxBufferSize
  rw [List.length_append, List.length_drop, List.length_replicate]
  have hle := List.length_take_le fifo.nbBytes.toNat bytes
  omega

theorem RxBuffer.length_resync {self : RxBuffer} {idx : ℕ}
    (hlen : self.buffer.length = rxBufferSize) (hsize : self.bufferSize.toNat ≤ rxBufferSize) :
    (self.resync idx).buffer.length = rxBufferSize := by
  unfold RxBuffer.resync overwrite
  split_ifs
  · exact hlen
  · rw [List.length_append, List.length_drop, hlen]
    have hle := List.length_take_le (self.bufferSize.toNat - idx) (self.buffer.drop idx)
    omega

/-- **When a fetch and the pops after it stay in the arrays**, in terms of the bytes
and the index before the fetch: the bytes fit the buffer; every record the counting
pass reaches has room for its header; the metrics of every record the pops reach have
room, if there are pops, which is when no syncword is missing; and if the transfer
fails, which leaves the index, every record that is reached from there has room, in
what the transfer has given. -/
structure Fifo.Fits (fifo : Fifo) (past : ℕ → UInt8) (index : ℕ) : Prop where
  bytes : fifo.nbBytes.toNat ≤ rxBufferSize
  headers : ∀ rx, fifo.walked past = some rx → ∀ idx,
    RecordStart (rx.byte past) rx.bufferSize.toNat 0 idx → HeaderFits (rx.byte past) idx
  metrics : ∀ rx, fifo.walked past = some rx → rx.AllSync past → ∀ idx,
    PopStart (rx.byte past) rx.bufferSize.toNat 0 idx →
      MetricsFit (rx.byte past) rx.bufferSize.toNat idx
  failed : ∀ bytes, fifo.memRb = .error bytes → ∀ idx,
    PopStart ((fifo.received bytes).byte past) fifo.nbBytes.toNat index idx →
      RecordFits ((fifo.received bytes).byte past) fifo.nbBytes.toNat idx

/-- From a buffer that is empty nothing is read. -/
theorem afterPops_inRange_of_empty {self : RxBuffer} (h : self.bufferSize = 0) (k : ℕ) :
    ∀ a ∈ popAccesses past (afterPops past k self), a.InRange := by
  have hbehind : self.bufferSize.toNat ≤ self.bufferIndex := h ▸ Nat.zero_le _
  obtain ⟨hpop, hnone⟩ := pop_of_size_le past hbehind
  have hself : afterPops past k self = self := Function.iterate_fixed hpop k
  rw [hself, hnone]
  exact nofun

/-- **A fetch and the pops after it stay in the arrays exactly when the bytes fit**; of
the buffer before, only the index matters. -/
theorem staysInRange_iff (past : ℕ → UInt8) (fifo : Fifo) (self : RxBuffer) :
    StaysInRange past fifo self ↔ fifo.Fits past self.bufferIndex := by
  constructor
  · intro h
    obtain ⟨hbytes, hheaders⟩ := fetchAccesses_inRange_iff.mp h.fetch
    refine ⟨hbytes, hheaders, fun rx hrx hsync => ?_, fun bytes hmem idx hidx => ?_⟩
    · obtain ⟨-, hat⟩ | ⟨hnot, -⟩ := rxBufferFetch_of_walked self hrx
      · intro idx hidx
        exact ((hat.pops_inRange_iff ((Fifo.bufferSize_le_of_walked hrx).trans hbytes)).mp
          h.pops idx hidx).2 (hsync idx hidx.recordStart)
      · exact absurd hsync hnot
    · have hlt := hidx.recordStart.lt
      have hat := rxBufferFetch_of_error past self hmem (by omega)
      exact (hat.pops_inRange_iff hbytes).mp h.pops idx hidx
  · intro h
    refine ⟨fetchAccesses_inRange_iff.mpr ⟨h.bytes, h.headers⟩, ?_⟩
    cases hwalked : fifo.walked past with
    | some rx =>
      obtain ⟨hsync, hat⟩ | ⟨-, hempty⟩ := rxBufferFetch_of_walked self hwalked
      · -- the pops reach records that the counting pass has been over
        refine (hat.pops_inRange_iff
          ((Fifo.bufferSize_le_of_walked hwalked).trans h.bytes)).mpr fun idx hidx => ?_
        exact ⟨h.headers rx hwalked idx hidx.recordStart,
          fun _ => h.metrics rx hwalked hsync idx hidx⟩
      · exact afterPops_inRange_of_empty hempty
    | none =>
      rcases rxBufferFetch_of_not_walked self hwalked with hempty | ⟨bytes, hmem, hat⟩
      · exact afterPops_inRange_of_empty hempty
      · exact (hat.pops_inRange_iff h.bytes).mpr (h.failed bytes hmem)

end After

/-- A record without payload but with 128 pairs of metrics, and its sum. -/
def metricsFifo : Fifo where
  nbBytes1 := 279
  nbBytes2 := 279
  memRb := .ok ([0xA5, 0xC0, 0, 0, 0x70] ++ List.replicate 16 0 ++ [128]
    ++ List.replicate 256 0 ++ [0x55])

/-- **A record with 128 pairs of metrics** is parsed into arrays with room for 127. -/
theorem not_staysInRange : ¬ ∀ (past : ℕ → UInt8) (fifo : Fifo) (before : RxBuffer),
    StaysInRange past fifo before := by
  intro h
  set past : ℕ → UInt8 := fun _ => 0
  set bytes := ([0xA5, 0xC0, 0, 0, 0x70] ++ List.replicate 16 0 ++ [128]
    ++ List.replicate 256 0 ++ [0x55] : List UInt8)
  set rx := metricsFifo.received bytes
  have hwalked : metricsFifo.walked past = some rx :=
    Fifo.walked_eq_some.mpr ⟨by decide, bytes, rfl, by decide, 0, by decide +kernel, rfl⟩
  have hlength : recordLength (fun i => rx.byte past (0 + i)) = 279 := by decide +kernel
  -- there is no second record
  have hstart : ∀ idx, RecordStart (rx.byte past) rx.bufferSize.toNat 0 idx → idx = 0 := by
    intro idx hidx
    rcases (recordStart_iff.mp hidx).2 with hzero | ⟨-, hnext⟩
    · exact hzero
    · rw [hlength] at hnext
      exact absurd (recordStart_iff.mp hnext).1 (by decide)
  have hsync : syncAt (rx.byte past) 0 := by decide +kernel
  have hcomplete : 0 + recordLength (fun i => rx.byte past (0 + i)) ≤ rx.bufferSize.toNat := by
    rw [hlength]
    decide
  obtain ⟨-, hat⟩ | ⟨hnot, -⟩ := rxBufferFetch_of_walked rxBufferNew hwalked
  · -- the pop would need room for 128 pairs
    have hmetrics := ((hat.pops_inRange_iff (by decide)).mp (h past metricsFifo rxBufferNew).pops 0
      (PopStart.first (by decide))).2 hsync hcomplete (by decide +kernel)
    exact absurd hmetrics (by decide +kernel)
  · exact hnot fun idx hidx => hstart idx hidx ▸ hsync
