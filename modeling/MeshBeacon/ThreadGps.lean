import MeshBeacon.Framing
import MeshBeacon.Nmea

/-!
# The thread of the GPS

The receiver sends UBX messages and NMEA sentences over a serial port. `thread_gps` reads
it a few bytes at a time into a buffer of 128 bytes, and scans all of the buffer after
every read: where there is a synchronising character it tries to parse a frame. The bytes
up to the end of the last frame are moved out of the buffer, and the oldest ones when
it is nearly full.

The moves are calls of `memcpy` whose two ranges overlap. They are taken to copy byte by
byte upwards.

A frame that is short enough and has no synchronising character inside is parsed once,
as `Framing` has it. The exception is a sentence of fewer than eight bytes, which
the parser rejects.
-/

namespace Gps

open Framing

/-! ## The thread -/

/-- `LGW_GPS_MIN_MSG_SIZE`. -/
def lgwGpsMinMsgSize : ℕ := 8

/-- `LGW_GPS_UBX_SYNC_CHAR`. -/
def lgwGpsUbxSyncChar : UInt8 := 0xB5

/-- `LGW_GPS_NMEA_SYNC_CHAR`. -/
def lgwGpsNmeaSyncChar : UInt8 := 0x24

/-- The size of `serial_buff`. -/
def serialBuffSize : ℕ := 128

/-- So many bytes are copied to the beginning of the buffer, from an index on. -/
def memcpyToStart (serialBuff : ℕ → UInt8) (src : ℕ) : ℕ → ℕ → UInt8
  | 0 => serialBuff
  | n + 1 =>
    let copied := memcpyToStart serialBuff src n
    Function.update copied n (copied (src + n))

/-- What an attempt to decode a frame comes to. -/
structure Attempt where
  frameSize : ℕ
  latestMsg : GpsMsg
  time : GpsTime

/-- The attempt at the character of UBX. -/
def attemptUbx (serialBuff : ℕ → UInt8) (size : ℕ) (time : GpsTime) : Attempt :=
  let parse := lgwParseUbx serialBuff size time
  let frameSize :=
    if 0 < parse.msgSize ∧ (parse.msg = .incomplete ∨ parse.msg = .invalid) then 0
    else parse.msgSize
  ⟨frameSize, parse.msg, parse.time⟩

/-- The attempt at the character of NMEA, with the bytes from there on. -/
def attemptNmea (scanner : Scanner) (chars : List UInt8) (time : GpsTime) : Attempt :=
  match chars.findIdx? (· = 0x0A) with
  | none => ⟨0, .unknown, time⟩
  | some i =>
    let parse := lgwParseNmea scanner (chars.take (i + 1)) time
    ⟨if parse.1 = .invalid ∨ parse.1 = .unknown then 0 else i + 1, parse.1, parse.2⟩

/-- The attempt at an index: the bytes from there on, and how many there are. -/
def attempt (scanner : Scanner) (serialBuff : ℕ → UInt8) (size : ℕ) (time : GpsTime) : Attempt :=
  if serialBuff 0 = lgwGpsUbxSyncChar then attemptUbx serialBuff size time
  else if serialBuff 0 = lgwGpsNmeaSyncChar then
    attemptNmea scanner ((List.range size).map serialBuff) time
  else ⟨0, .unknown, time⟩

/-- What a scan of the buffer comes to: the indices at which it looks, the end of the last
frame, and the frames with what they were parsed as. -/
structure Pass where
  rdIdxs : List ℕ
  frameEndIdx : ℕ
  time : GpsTime
  processed : List (GpsMsg × List UInt8)

/-- The loop over the buffer. -/
def scanLoop (scanner : Scanner) (serialBuff : ℕ → UInt8) (wrIdx rdIdx frameEndIdx : ℕ)
    (time : GpsTime) : Pass :=
  if rdIdx < wrIdx then
    let found := attempt scanner (fun i => serialBuff (rdIdx + i)) (wrIdx - rdIdx) time
    if hsize : 0 < found.frameSize then
      let next := rdIdx + found.frameSize
      let pass := scanLoop scanner serialBuff wrIdx next next found.time
      let frame := (List.range found.frameSize).map fun i => serialBuff (rdIdx + i)
      { pass with
        rdIdxs := rdIdx :: pass.rdIdxs
        processed := (found.latestMsg, frame) :: pass.processed }
    else
      let pass := scanLoop scanner serialBuff wrIdx (rdIdx + 1) frameEndIdx found.time
      { pass with rdIdxs := rdIdx :: pass.rdIdxs }
  else ⟨[], frameEndIdx, time, []⟩
termination_by wrIdx - rdIdx
decreasing_by
  · show wrIdx - (rdIdx + found.frameSize) < wrIdx - rdIdx
    omega
  · omega

/-- The variables of `thread_gps`, the GPS time, and the frames that have been processed. -/
structure GpsThread where
  serialBuff : ℕ → UInt8
  wrIdx : ℕ
  time : GpsTime
  processed : List (GpsMsg × List UInt8)

namespace GpsThread

/-- Before the loop. -/
def init (time : GpsTime) : GpsThread := ⟨fun _ => 0, 0, time, []⟩

/-- `read` has written some bytes. -/
def read (s : GpsThread) (chars : List UInt8) : GpsThread :=
  { s with
    serialBuff := fun i => if s.wrIdx ≤ i then chars.getD (i - s.wrIdx) (s.serialBuff i)
      else s.serialBuff i
    wrIdx := s.wrIdx + chars.length }

/-- The bytes before an index are moved out of the buffer. -/
def remove (s : GpsThread) (k : ℕ) : GpsThread :=
  { s with serialBuff := memcpyToStart s.serialBuff k (s.wrIdx - k), wrIdx := s.wrIdx - k }

/-- The scan of the buffer. -/
def pass (scanner : Scanner) (s : GpsThread) : Pass :=
  scanLoop scanner s.serialBuff s.wrIdx 0 0 s.time

/-- The frames of a scan have been processed. -/
def process (scanner : Scanner) (s : GpsThread) : GpsThread :=
  { s with
    time := (s.pass scanner).time
    processed := s.processed ++ (s.pass scanner).processed }

/-- **One round of `thread_gps`**, in which so many bytes are read. When there are none it
tries again. -/
def step (scanner : Scanner) (s : GpsThread) (chars : List UInt8) : GpsThread :=
  if chars = [] then s
  else
    let s := s.read chars
    let frameEndIdx := (s.pass scanner).frameEndIdx
    let s := s.process scanner
    let s := if frameEndIdx ≠ 0 then s.remove frameEndIdx else s
    if serialBuffSize - s.wrIdx < lgwGpsMinMsgSize then s.remove lgwGpsMinMsgSize else s

end GpsThread

/-! ## The size of a frame -/

/-- The size of the frame at the front of a list. -/
def frameSize (scanner : Scanner) (l : List UInt8) : ℕ :=
  (attempt scanner (memoryOf l fun _ => 0) l.length ⟨false, 0, 0, 0⟩).frameSize

section Attempt

variable {scanner : Scanner} {rd : ℕ → UInt8} {l : List UInt8}

/-- What a message is does not depend on the time before. -/
theorem fst_lgwParseNmea (serialBuff : List UInt8) (time time' : GpsTime) :
    (lgwParseNmea scanner serialBuff time).1 = (lgwParseNmea scanner serialBuff time').1 := by
  unfold lgwParseNmea
  dsimp only
  split_ifs <;> rfl

/-- Neither does the size of a sentence, which is in the buffer. -/
theorem frameSize_attemptNmea (chars : List UInt8) (time time' : GpsTime) :
    (attemptNmea scanner chars time).frameSize = (attemptNmea scanner chars time').frameSize
      ∧ (attemptNmea scanner chars time).frameSize ≤ chars.length := by
  unfold attemptNmea
  cases hfind : chars.findIdx? (· = 0x0A) with
  | none => exact ⟨rfl, Nat.zero_le _⟩
  | some i =>
    obtain ⟨hi, -⟩ := List.findIdx?_eq_some_iff_getElem.mp hfind
    dsimp only
    rw [fst_lgwParseNmea _ time time']
    refine ⟨rfl, ?_⟩
    split_ifs <;> omega

/-- A UBX message that is there has the size of its bytes. -/
theorem frameSize_attemptUbx {f : UbxFrame} {rest : List UInt8} (h : Reads rd (f.bytes ++ rest))
    {size : ℕ} (hsize : f.bytes.length ≤ size) (time : GpsTime) :
    (attemptUbx rd size time).frameSize = f.bytes.length := by
  obtain ⟨hmsgSize, hmsg, -⟩ := lgwParseUbx_frame h hsize time
  unfold attemptUbx
  dsimp only
  rw [hmsgSize, hmsg, if_neg]
  rintro ⟨-, hbad⟩
  split_ifs at hbad
  · exact absurd hbad (by decide)
  · exact absurd hbad (by decide)

theorem frameSize_attemptUbx_of_not (h : Reads rd l)
    (hnot : ∀ f rest, l ≠ UbxFrame.bytes f ++ rest) (time : GpsTime) :
    (attemptUbx rd l.length time).frameSize = 0 := by
  obtain ⟨-, -, -, hnone⟩ := lgwParseUbx_not_frame h hnot time
  unfold attemptUbx
  dsimp only
  split_ifs with hbad
  · rfl
  · obtain hzero | hmsg := hnone
    · exact hzero
    · exact Nat.eq_zero_of_not_pos fun hpos => hbad ⟨hpos, hmsg⟩

/-- **The size depends on the bytes that are there**, and on nothing behind them. -/
theorem frameSize_attempt (scanner : Scanner) {c : UInt8} (h : Reads rd (c :: l)) (time : GpsTime) :
    (attempt scanner rd (c :: l).length time).frameSize = frameSize scanner (c :: l)
      ∧ frameSize scanner (c :: l) ≤ (c :: l).length := by
  have hmem := reads_memoryOf (c :: l) fun _ => 0
  have hc : rd 0 = c := h 0 c rfl
  have hc' : memoryOf (c :: l) (fun _ => 0) 0 = c := hmem 0 c rfl
  unfold frameSize attempt
  rw [hc, hc', h.map_range, hmem.map_range]
  split_ifs with hubx
  · by_cases hframe : ∃ f rest, c :: l = UbxFrame.bytes f ++ rest
    · obtain ⟨f, rest, hf⟩ := hframe
      have hle : f.bytes.length ≤ (c :: l).length := by
        rw [hf, List.length_append]
        exact Nat.le_add_right _ _
      rw [frameSize_attemptUbx (hf ▸ h) hle, frameSize_attemptUbx (reads_memoryOf_of_eq hf _) hle]
      exact ⟨rfl, hle⟩
    · have hnot : ∀ f rest, c :: l ≠ UbxFrame.bytes f ++ rest :=
        fun f rest hf => hframe ⟨f, rest, hf⟩
      rw [frameSize_attemptUbx_of_not h hnot, frameSize_attemptUbx_of_not hmem hnot]
      exact ⟨rfl, Nat.zero_le _⟩
  · exact ⟨(frameSize_attemptNmea _ _ _).1, (frameSize_attemptNmea _ _ time).2⟩
  · exact ⟨rfl, Nat.zero_le _⟩

end Attempt

/-! ## The loop is a scan -/

section Loop

variable {serialBuff : ℕ → UInt8}

/-- The bytes from an index on, after some more of them. -/
theorem reads_drop {rd : ℕ} {l : List UInt8} (h : Reads (fun i => serialBuff (rd + i)) l) {k : ℕ}
    (hk : k ≤ l.length) : Reads (fun i => serialBuff (rd + k + i)) (l.drop k) := by
  rw [← List.take_append_drop k l] at h
  have hright := h.right
  rw [List.length_take_of_le hk] at hright
  exact hright.congr fun i => by rw [Nat.add_assoc]

/-- A round of the loop, by the size of the frame. -/
theorem scanLoop_cons (scanner : Scanner) {c : UInt8} {l : List UInt8} {rd : ℕ} (frameEnd : ℕ)
    (time : GpsTime) (h : Reads (fun i => serialBuff (rd + i)) (c :: l)) :
    let wrIdx := rd + (c :: l).length
    let k := frameSize scanner (c :: l)
    let found := attempt scanner (fun i => serialBuff (rd + i)) (c :: l).length time
    scanLoop scanner serialBuff wrIdx rd frameEnd time =
      if 0 < k then
        let pass := scanLoop scanner serialBuff wrIdx (rd + k) (rd + k) found.time
        { pass with
          rdIdxs := rd :: pass.rdIdxs
          processed := (found.latestMsg, (c :: l).take k) :: pass.processed }
      else
        let pass := scanLoop scanner serialBuff wrIdx (rd + 1) frameEnd found.time
        { pass with rdIdxs := rd :: pass.rdIdxs } := by
  obtain ⟨hsize, hle⟩ := frameSize_attempt scanner h time
  have hframe : (List.range (frameSize scanner (c :: l))).map (fun i => serialBuff (rd + i))
      = (c :: l).take (frameSize scanner (c :: l)) := by
    rw [← List.take_append_drop (frameSize scanner (c :: l)) (c :: l)] at h
    have hmap := h.left.map_range
    rwa [List.length_take_of_le hle] at hmap
  dsimp only
  rw [scanLoop, if_pos (by rw [List.length_cons]; omega), Nat.add_sub_cancel_left]
  dsimp only
  rw [hsize, hframe]
  by_cases hpos : 0 < frameSize scanner (c :: l)
  · rw [dif_pos hpos, if_pos hpos]
  · rw [dif_neg hpos, if_neg hpos]

/-- **The loop is the scan of the bytes from its index on.** It goes forward, and stays
among the bytes that have been read. -/
theorem scanLoop_eq (scanner : Scanner) (l : List UInt8) (rd frameEnd : ℕ) (time : GpsTime)
    (h : Reads (fun i => serialBuff (rd + i)) l) :
    let pass := scanLoop scanner serialBuff (rd + l.length) rd frameEnd time
    let found := scan (frameSize scanner) l
    pass.processed.map Prod.snd = found.frames
      ∧ pass.frameEndIdx = (if found.stop = 0 then frameEnd else rd + found.stop)
      ∧ found.stop ≤ l.length
      ∧ (∀ i ∈ pass.rdIdxs, rd ≤ i ∧ i < rd + l.length) ∧ pass.rdIdxs.Pairwise (· < ·) := by
  induction l using scan.induct (frameSize scanner) generalizing rd frameEnd time with
  | case1 =>
    rw [scanLoop, if_neg (by rw [List.length_nil]; omega), scan]
    exact ⟨rfl, rfl, Nat.le_refl _, fun i hi => absurd hi List.not_mem_nil, List.Pairwise.nil⟩
  | case2 c l hpos ih =>
    -- a frame: the loop goes on behind it, with the time the parser has left
    have hle := (frameSize_attempt scanner h time).2
    have hloop := scanLoop_cons scanner frameEnd time h
    dsimp only at hloop ⊢
    rw [hloop, scan, if_pos hpos, if_pos hpos]
    generalize frameSize scanner (c :: l) = k at hpos ih hle
    have hrest : rd + k + ((c :: l).drop k).length = rd + (c :: l).length := by
      rw [List.length_drop]
      omega
    have hnext := ih (rd + k) (rd + k)
      (attempt scanner (fun i => serialBuff (rd + i)) (c :: l).length time).time (reads_drop h hle)
    dsimp only at hnext ⊢
    rw [hrest] at hnext
    obtain ⟨hframes, hend, hstop, hidxs, hpairwise⟩ := hnext
    rw [List.length_drop] at hstop
    refine ⟨?_, ?_, by omega, ?_, ?_⟩
    · rw [List.map_cons, hframes]
    · rw [hend]
      split_ifs <;> omega
    · intro i hi
      obtain rfl | hi := List.mem_cons.mp hi
      · exact ⟨Nat.le_refl _, by omega⟩
      · exact ⟨by have := (hidxs i hi).1; omega, (hidxs i hi).2⟩
    · exact List.Pairwise.cons (fun i hi => by have := (hidxs i hi).1; omega) hpairwise
  | case3 c l hzero ih =>
    have hloop := scanLoop_cons scanner frameEnd time h
    dsimp only at hloop ⊢
    rw [hloop, scan, if_neg hzero, if_neg hzero]
    -- no frame: the loop goes on with the next byte
    have hnext := ih (rd + 1) frameEnd
      (attempt scanner (fun i => serialBuff (rd + i)) (c :: l).length time).time
      (reads_drop h (Nat.succ_pos _))
    rw [show rd + 1 + l.length = rd + (c :: l).length by rw [List.length_cons]; omega] at hnext
    obtain ⟨hframes, hend, hstop, hidxs, hpairwise⟩ := hnext
    refine ⟨hframes, ?_, ?_, ?_, ?_⟩
    · dsimp only at hend ⊢
      rw [hend]
      split_ifs <;> omega
    · dsimp only
      rw [List.length_cons]
      split_ifs <;> omega
    · intro i hi
      obtain rfl | hi := List.mem_cons.mp hi
      · exact ⟨Nat.le_refl _, by rw [List.length_cons]; omega⟩
      · exact ⟨by have := (hidxs i hi).1; omega, (hidxs i hi).2⟩
    · exact List.Pairwise.cons (fun i hi => by have := (hidxs i hi).1; omega) hpairwise

end Loop

/-! ## A round is a piece -/

/-- Copying byte by byte upwards moves the bytes, also over themselves. -/
theorem memcpyToStart_apply (serialBuff : ℕ → UInt8) (src n i : ℕ) :
    memcpyToStart serialBuff src n i = if i < n then serialBuff (src + i) else serialBuff i := by
  induction n generalizing i with
  | zero => rfl
  | succ n ih =>
    unfold memcpyToStart
    dsimp only
    by_cases hi : i = n
    · -- the byte that is copied has not been written yet
      rw [hi, Function.update_self, ih, if_pos (Nat.lt_succ_self n)]
      split_ifs with hlt
      · rw [show src = 0 by omega, Nat.zero_add, Nat.zero_add]
      · rfl
    · rw [Function.update_of_ne hi, ih]
      split_ifs
      · rfl
      · omega
      · omega
      · rfl

namespace GpsThread

/-- The bytes in the buffer. -/
def pending (s : GpsThread) : List UInt8 := (List.range s.wrIdx).map s.serialBuff

/-- The buffer with the frames that have been taken out of it. -/
def buffer (s : GpsThread) : Buffer UInt8 := ⟨s.pending, s.processed.map Prod.snd⟩

variable (s : GpsThread)

@[simp]
theorem length_pending : s.pending.length = s.wrIdx := by
  unfold pending
  rw [List.length_map, List.length_range]

theorem reads_pending : Reads s.serialBuff s.pending := by
  intro i b hb
  unfold pending at hb
  rw [List.getElem?_map, Option.map_eq_some_iff] at hb
  obtain ⟨k, hk, rfl⟩ := hb
  obtain ⟨hlt, hki⟩ := List.getElem?_eq_some_iff.mp hk
  rw [← hki, List.getElem_range]

/-- What is read of the buffer is what is in it. -/
theorem pending_eq {l : List UInt8} (h : Reads s.serialBuff l) (hlen : l.length = s.wrIdx) :
    s.pending = l := by
  unfold pending
  rw [← hlen]
  exact h.map_range

theorem pending_read (chars : List UInt8) : (s.read chars).pending = s.pending ++ chars := by
  refine pending_eq _ (fun i b hb => ?_) (by rw [List.length_append, length_pending]; rfl)
  unfold read
  dsimp only
  split_ifs with hi
  · rw [List.getElem?_append_right (by rw [length_pending]; exact hi), length_pending] at hb
    rw [List.getD_eq_getElem?_getD, hb, Option.getD_some]
  · rw [List.getElem?_append_left (by rw [length_pending]; omega)] at hb
    exact s.reads_pending i b hb

theorem pending_remove (k : ℕ) : (s.remove k).pending = s.pending.drop k := by
  refine pending_eq _ (fun i b hb => ?_) (by rw [List.length_drop, length_pending]; rfl)
  have hi : i < s.wrIdx - k := by
    obtain ⟨hi, -⟩ := List.getElem?_eq_some_iff.mp hb
    rwa [List.length_drop, length_pending] at hi
  unfold remove
  dsimp only
  rw [memcpyToStart_apply, if_pos hi]
  rw [List.getElem?_drop] at hb
  exact s.reads_pending (k + i) b hb

theorem pass_eq (scanner : Scanner) :
    let found := scan (frameSize scanner) s.pending
    (s.pass scanner).processed.map Prod.snd = found.frames
      ∧ (s.pass scanner).frameEndIdx = found.stop ∧ found.stop ≤ s.wrIdx
      ∧ (∀ i ∈ (s.pass scanner).rdIdxs, i < s.wrIdx)
      ∧ (s.pass scanner).rdIdxs.Pairwise (· < ·) := by
  have hreads : Reads (fun i => s.serialBuff (0 + i)) s.pending :=
    s.reads_pending.congr fun i => by rw [Nat.zero_add]
  have hloop := scanLoop_eq scanner s.pending 0 0 s.time hreads
  dsimp only at hloop ⊢
  rw [length_pending, Nat.zero_add] at hloop
  obtain ⟨hframes, hend, hstop, hidxs, hpairwise⟩ := hloop
  refine ⟨hframes, ?_, hstop, fun i hi => (hidxs i hi).2, hpairwise⟩
  refine hend.trans ?_
  split_ifs with hzero
  · exact hzero.symm
  · exact Nat.zero_add _

/-- The bytes up to the end of the last frame are removed, if there is one. -/
theorem buffer_remove_frames (k : ℕ) :
    (if k ≠ 0 then s.remove k else s).buffer = ⟨s.pending.drop k, s.processed.map Prod.snd⟩ := by
  unfold buffer
  split_ifs with hk
  · rw [pending_remove]
    rfl
  · rw [not_not.mp hk, List.drop_zero]

/-- The oldest bytes are removed when the buffer is nearly full. -/
theorem buffer_remove_oldest :
    (if serialBuffSize - s.wrIdx < lgwGpsMinMsgSize then s.remove lgwGpsMinMsgSize else s).buffer
      = ⟨trim serialBuffSize lgwGpsMinMsgSize s.pending, s.processed.map Prod.snd⟩ := by
  unfold buffer trim
  rw [length_pending]
  split_ifs with hfull
  · rw [pending_remove]
    rfl
  · rfl

/-- **A round of the thread feeds the buffer a piece.** -/
theorem buffer_step (scanner : Scanner) {chars : List UInt8} (hchars : chars ≠ []) :
    (s.step scanner chars).buffer
      = s.buffer.feed (frameSize scanner) serialBuffSize lgwGpsMinMsgSize chars := by
  obtain ⟨hframes, hend, -, -, -⟩ := (s.read chars).pass_eq scanner
  rw [pending_read] at hframes hend
  have hremoved := ((s.read chars).process scanner).buffer_remove_frames
    ((s.read chars).pass scanner).frameEndIdx
  obtain ⟨hpending, hprocessed⟩ := Buffer.mk.inj hremoved
  have hprocess : ((s.read chars).process scanner).pending = s.pending ++ chars :=
    s.pending_read chars
  unfold step
  rw [if_neg hchars]
  dsimp only
  rw [buffer_remove_oldest, hpending, hprocessed, hprocess, hend]
  unfold Buffer.feed process
  dsimp only
  rw [List.map_append, hframes]
  rfl

end GpsThread

/-! ## Frames -/

/-- The character synchronises. -/
def Sync (c : UInt8) : Prop := c = lgwGpsUbxSyncChar ∨ c = lgwGpsNmeaSyncChar

/-- **A frame**: a UBX message, or an NMEA sentence that has so many bytes at least, with no
other synchronising character in it. -/
structure IsFrame (least : ℕ) (bytes : List UInt8) : Prop where
  kind : (∃ f : UbxFrame, bytes = f.bytes)
    ∨ ∃ s : NmeaSentence, bytes = s.bytes ∧ least ≤ bytes.length
  body : ∀ c ∈ bytes.tail, ¬ Sync c
  length_le : bytes.length ≤ 112

/-- A frame begins with a synchronising character. -/
theorem IsFrame.exists_sync {least : ℕ} {bytes : List UInt8} (h : IsFrame least bytes) :
    ∃ c body, bytes = c :: body ∧ Sync c ∧ ∀ b ∈ body, ¬ Sync b := by
  have hbody := h.body
  obtain ⟨f, rfl⟩ | ⟨s, rfl, -⟩ := h.kind
  · exact ⟨_, _, rfl, Or.inl rfl, hbody⟩
  · exact ⟨_, _, rfl, Or.inr rfl, hbody⟩

/-- The size at the character of NMEA is that of a sentence. -/
theorem frameSize_nmea (scanner : Scanner) (l : List UInt8) :
    frameSize scanner (lgwGpsNmeaSyncChar :: l)
      = (attemptNmea scanner (lgwGpsNmeaSyncChar :: l) ⟨false, 0, 0, 0⟩).frameSize := by
  have hmem := reads_memoryOf (lgwGpsNmeaSyncChar :: l) fun _ => 0
  have hc : memoryOf (lgwGpsNmeaSyncChar :: l) (fun _ => 0) 0 = lgwGpsNmeaSyncChar := hmem 0 _ rfl
  unfold frameSize attempt
  rw [hc, if_neg (by decide), if_pos rfl, hmem.map_range]

theorem findIdx?_line {front : List UInt8} (h : ∀ c ∈ front, c ≠ 0x0A) (rest : List UInt8) :
    (front ++ 0x0A :: rest).findIdx? (· = 0x0A) = some front.length := by
  have hfront : front.findIdx? (· = 0x0A) = none :=
    List.findIdx?_eq_none_iff.mpr fun c hc => decide_eq_false (h c hc)
  rw [List.findIdx?_append, hfront, Option.none_or, List.findIdx?_cons, decide_eq_true rfl,
    if_pos rfl, Option.map_some, Nat.zero_add]

/-- **A sentence that is there has the size of its bytes.** -/
theorem frameSize_sentence (scanner : Scanner) (s : NmeaSentence) (hmin : 8 ≤ s.bytes.length)
    (hmax : s.bytes.length ≤ 255) (rest : List UInt8) :
    frameSize scanner (s.bytes ++ rest) = s.bytes.length := by
  have hline : s.bytes ++ rest = (lgwGpsNmeaSyncChar :: s.inner) ++ 0x0A :: rest := by
    unfold NmeaSentence.bytes
    rw [List.cons_append, List.append_assoc]
    rfl
  have hlen : (lgwGpsNmeaSyncChar :: s.inner).length + 1 = s.bytes.length := by
    unfold NmeaSentence.bytes
    rw [List.length_cons, List.length_cons, List.length_append, List.length_singleton]
  have hne : ∀ c ∈ lgwGpsNmeaSyncChar :: s.inner, c ≠ 0x0A := by
    intro c hc
    obtain rfl | hc := List.mem_cons.mp hc
    · decide
    · exact s.inner_ne c hc
  have hsize : frameSize scanner (s.bytes ++ rest)
      = (attemptNmea scanner (s.bytes ++ rest) ⟨false, 0, 0, 0⟩).frameSize :=
    frameSize_nmea scanner _
  have hfind := findIdx?_line hne rest
  rw [← hline] at hfind
  obtain ⟨hunknown, hinvalid⟩ := lgwParseNmea_bytes scanner s hmin hmax ⟨false, 0, 0, 0⟩
  rw [hsize]
  unfold attemptNmea
  rw [hfind]
  dsimp only
  rw [hlen, List.take_left, if_neg (not_or.mpr ⟨hinvalid, hunknown⟩)]

/-- Of a sentence that is not there to its end nothing is taken. -/
theorem frameSize_sentence_partial (scanner : Scanner) (s : NmeaSentence) {c : UInt8}
    {l rest : List UInt8} (h : s.bytes = (c :: l) ++ rest) (hrest : rest ≠ []) :
    frameSize scanner (c :: l) = 0 := by
  obtain ⟨hc, htail⟩ := List.cons.inj h
  -- the line feed is the last byte, so it is behind what is there
  have hl : ∀ b ∈ l, b ≠ 0x0A := by
    intro b hb
    obtain ⟨front, last, rfl⟩ : ∃ front last, rest = front ++ [last] :=
      ⟨rest.dropLast, rest.getLast hrest, (List.dropLast_concat_getLast hrest).symm⟩
    have hsplit : s.inner ++ [0x0A] = (l ++ front) ++ [last] :=
      htail.trans (List.append_assoc l front [last]).symm
    have hinner := (List.append_inj' hsplit rfl).1
    exact s.inner_ne b (hinner ▸ List.mem_append_left front hb)
  have hfind : (c :: l).findIdx? (· = 0x0A) = none := by
    refine List.findIdx?_eq_none_iff.mpr fun b hb => decide_eq_false ?_
    obtain rfl | hb := List.mem_cons.mp hb
    · rw [← hc]
      decide
    · exact hl b hb
  subst hc
  refine (frameSize_nmea scanner l).trans ?_
  unfold attemptNmea
  rw [show (lgwGpsNmeaSyncChar :: l).findIdx? (· = 0x0A) = none from hfind]

/-- Of a message that is not there to its end nothing is taken. -/
theorem frameSize_ubx_partial (scanner : Scanner) (f : UbxFrame) {c : UInt8} {l rest : List UInt8}
    (h : f.bytes = (c :: l) ++ rest) (hrest : rest ≠ []) : frameSize scanner (c :: l) = 0 := by
  have hmem := reads_memoryOf (c :: l) fun _ => 0
  have hc : memoryOf (c :: l) (fun _ => 0) 0 = lgwGpsUbxSyncChar :=
    (hmem 0 c rfl).trans (List.cons.inj h).1.symm
  have hnot : ∀ g rest', c :: l ≠ UbxFrame.bytes g ++ rest' := by
    intro g rest' hg
    -- a message at the front of another is the same one
    have hboth : f.bytes = g.bytes ++ (rest' ++ rest) := by
      rw [h, hg, List.append_assoc]
    have hsame : f = g := frame_unique
      (reads_memoryOf_of_eq (List.append_nil f.bytes).symm fun _ => 0)
      (reads_memoryOf_of_eq hboth _)
    rw [← hsame] at hboth
    have hnil : rest' ++ rest = [] := List.append_right_eq_self.mp hboth.symm
    exact hrest (List.append_eq_nil_iff.mp hnil).2
  unfold frameSize attempt
  rw [if_pos hc]
  exact frameSize_attemptUbx_of_not hmem hnot _

/-- **The attempts are a recogniser** of frames that are not too short. -/
def recogniser (scanner : Scanner) : Recogniser UInt8 where
  Sync := Sync
  Frame := IsFrame 8
  size := frameSize scanner
  exists_sync h := h.exists_sync
  size_frame := by
    intro bytes rest h
    obtain ⟨f, rfl⟩ | ⟨s, rfl, hmin⟩ := h.kind
    · have hmem := reads_memoryOf (f.bytes ++ rest) fun _ => 0
      have hc : memoryOf (f.bytes ++ rest) (fun _ => 0) 0 = lgwGpsUbxSyncChar :=
        (reads_frame hmem).1
      unfold frameSize attempt
      rw [if_pos hc]
      exact frameSize_attemptUbx hmem (by rw [List.length_append]; omega) _
    · exact frameSize_sentence scanner s hmin (h.length_le.trans (by decide)) rest
  size_partial := by
    intro bytes l rest h hl hrest
    cases l with
    | nil => rfl
    | cons c l =>
      obtain ⟨f, rfl⟩ | ⟨s, rfl, -⟩ := h.kind
      · exact frameSize_ubx_partial scanner f hl hrest
      · exact frameSize_sentence_partial scanner s hl hrest
  size_other := by
    intro c l hc
    have hmem : memoryOf (c :: l) (fun _ => 0) 0 = c := reads_memoryOf (c :: l) _ 0 c rfl
    obtain ⟨hubx, hnmea⟩ := not_or.mp hc
    unfold frameSize attempt
    rw [hmem, if_neg hubx, if_neg hnmea]

/-! ## The stream -/

/-- **The buffer is sound** in a round: there is room for what is read, the loop goes forward
among the bytes that have been read, and there is room again. -/
structure SoundRound (scanner : Scanner) (s : GpsThread) (chars : List UInt8) : Prop where
  free : s.wrIdx + lgwGpsMinMsgSize ≤ serialBuffSize
  written : (s.read chars).wrIdx ≤ serialBuffSize
  rdIdxs_lt : ∀ i ∈ ((s.read chars).pass scanner).rdIdxs, i < (s.read chars).wrIdx
  ascending : ((s.read chars).pass scanner).rdIdxs.Pairwise (· < ·)
  frameEndIdx_le : ((s.read chars).pass scanner).frameEndIdx ≤ (s.read chars).wrIdx
  free_again : (s.step scanner chars).wrIdx + lgwGpsMinMsgSize ≤ serialBuffSize

/-- The reads of a port: one byte at least, and no more than are asked for. -/
def PortReads (reads : List (List UInt8)) : Prop :=
  ∀ chars ∈ reads, 1 ≤ chars.length ∧ chars.length ≤ lgwGpsMinMsgSize

/-- **A stream of frames**, with what is before them and behind the last: no synchronising
characters. -/
def IsStream (least : ℕ) (items : List (List UInt8 × List UInt8)) (tail : List UInt8) : Prop :=
  (∀ item ∈ items, (∀ c ∈ item.1, ¬ Sync c) ∧ IsFrame least item.2) ∧ ∀ c ∈ tail, ¬ Sync c

/-- **The frames are processed once each, in order**, of a stream read in pieces. -/
def Processes (scanner : Scanner) (time : GpsTime) (items : List (List UInt8 × List UInt8))
    (reads : List (List UInt8)) : Prop :=
  (Run.final (GpsThread.step scanner) (GpsThread.init time) reads).processed.map Prod.snd
    = items.map Prod.snd

section Rounds

variable (scanner : Scanner) {s : GpsThread}

theorem sound_round {chars : List UInt8} (hfree : s.wrIdx + lgwGpsMinMsgSize ≤ serialBuffSize)
    (hchars : 1 ≤ chars.length ∧ chars.length ≤ lgwGpsMinMsgSize) :
    SoundRound scanner s chars := by
  have hwritten : (s.read chars).wrIdx ≤ serialBuffSize := by
    show s.wrIdx + chars.length ≤ _
    omega
  obtain ⟨-, hend, hstop, hidxs, hpairwise⟩ := (s.read chars).pass_eq scanner
  refine ⟨hfree, hwritten, hidxs, hpairwise, hend.trans_le hstop, ?_⟩
  have hne : chars ≠ [] := List.length_pos_iff.mp hchars.1
  have hstep := congrArg Buffer.pending (s.buffer_step scanner hne)
  have hlength : (s.step scanner chars).pending.length + lgwGpsMinMsgSize ≤ serialBuffSize := by
    refine (congrArg (·.length + lgwGpsMinMsgSize) hstep).trans_le
      (Recogniser.length_trim ?_ (by decide))
    show ((s.pending ++ chars).drop _).length ≤ _
    rw [List.length_drop, List.length_append, GpsThread.length_pending]
    exact (Nat.sub_le _ _).trans hwritten
  rwa [GpsThread.length_pending] at hlength

/-- **Every round is sound.** -/
theorem guarded_sound {reads : List (List UInt8)} (hreads : PortReads reads)
    (hfree : s.wrIdx + lgwGpsMinMsgSize ≤ serialBuffSize) :
    Run.Guarded (GpsThread.step scanner) (SoundRound scanner) s reads := by
  induction reads generalizing s with
  | nil => trivial
  | cons chars reads ih =>
    have hround := sound_round scanner hfree (hreads chars List.mem_cons_self)
    exact ⟨hround, ih (fun chars' h => hreads chars' (List.mem_cons_of_mem _ h)) hround.free_again⟩

/-- **The rounds feed the buffer the reads.** -/
theorem buffer_final {reads : List (List UInt8)} (hreads : PortReads reads) :
    (Run.final (GpsThread.step scanner) s reads).buffer
      = Run.final (Buffer.feed (frameSize scanner) serialBuffSize lgwGpsMinMsgSize) s.buffer
        reads := by
  induction reads generalizing s with
  | nil => rfl
  | cons chars reads ih =>
    have hne : chars ≠ [] := List.length_pos_iff.mp (hreads chars List.mem_cons_self).1
    rw [Run.final_cons, Run.final_cons, ← s.buffer_step scanner hne]
    exact ih fun chars' h => hreads chars' (List.mem_cons_of_mem _ h)

end Rounds

/-- **The thread is sound**, and processes the frames of a stream whose sentences have eight
bytes at least. -/
theorem threadGps_processes (scanner : Scanner) (time : GpsTime)
    (items : List (List UInt8 × List UInt8)) (tail : List UInt8) (reads : List (List UInt8))
    (hreads : PortReads reads) :
    Run.Guarded (GpsThread.step scanner) (SoundRound scanner) (GpsThread.init time) reads
      ∧ (IsStream 8 items tail → reads.flatten = Recogniser.stream items tail →
        Processes scanner time items reads) := by
  have hfree : 0 + lgwGpsMinMsgSize ≤ serialBuffSize := by decide
  refine ⟨guarded_sound scanner hreads hfree, fun hitems hstream => ?_⟩
  have hwf : (recogniser scanner).WellFormed 112 items tail :=
    ⟨fun item h => (hitems.1 item h).1,
      fun item h => ⟨(hitems.1 item h).2, (hitems.1 item h).2.length_le⟩, hitems.2⟩
  have hbuffer := buffer_final scanner (s := GpsThread.init time) hreads
  have hbound : 112 + 2 * lgwGpsMinMsgSize ≤ serialBuffSize := by decide
  have htaken := Recogniser.taken_eq hwf hbound (fun chars h => (hreads chars h).2) hstream
  exact (congrArg Buffer.taken hbuffer).trans htaken

/-- A library that converts nothing. -/
def noScanner : Scanner := ⟨fun _ => false, fun _ => false⟩

/-- A sentence of eight bytes. -/
def shortestSentence : NmeaSentence := ⟨[0x41, 0x42], [0x0D], by decide +kernel, by decide +kernel⟩

/-- A message without payload. -/
def ackFrame : UbxFrame := ⟨0x05, 0x01, [], by decide⟩

/-- A sentence behind a byte, and a message at once behind it. -/
theorem threadGps_processes_two :
    let time : GpsTime := ⟨false, 0, 0, 0⟩
    let items := [([0x00], shortestSentence.bytes), ([], ackFrame.bytes)]
    let reads := [0x00 :: shortestSentence.bytes.take 5,
      shortestSentence.bytes.drop 5 ++ ackFrame.bytes.take 5, ackFrame.bytes.drop 5]
    Run.Guarded (GpsThread.step noScanner) (SoundRound noScanner) (GpsThread.init time) reads
      ∧ Processes noScanner time items reads := by
  intro time items reads
  obtain ⟨hsound, hprocesses⟩ := threadGps_processes noScanner time items [] reads (by
    unfold PortReads
    decide +kernel)
  refine ⟨hsound, hprocesses ⟨fun item hitem => ?_, nofun⟩ (by decide +kernel)⟩
  simp only [items, List.mem_cons, List.not_mem_nil, or_false] at hitem
  unfold Sync
  obtain rfl | rfl := hitem
  · exact ⟨by decide +kernel, Or.inr ⟨shortestSentence, rfl, by decide +kernel⟩,
      by unfold Sync; decide +kernel, by decide +kernel⟩
  · exact ⟨by decide +kernel, Or.inl ⟨ackFrame, rfl⟩, by unfold Sync; decide +kernel,
      by decide +kernel⟩

/-- A sentence of seven bytes. -/
def sevenBytes : NmeaSentence := ⟨[0x41], [0x0D], by decide +kernel, by decide +kernel⟩

/-- **A sentence that is too short is not processed.** -/
theorem sevenBytes_not_processed : ¬ ∀ scanner time items tail reads, PortReads reads →
    IsStream 0 items tail → reads.flatten = Recogniser.stream items tail →
      Processes scanner time items reads := by
  intro h
  have hreads : PortReads [sevenBytes.bytes] := by
    unfold PortReads
    decide +kernel
  have hitem : IsFrame 0 sevenBytes.bytes :=
    ⟨Or.inr ⟨sevenBytes, rfl, Nat.zero_le _⟩, by unfold Sync; decide +kernel, by decide +kernel⟩
  have hstream : IsStream 0 [([], sevenBytes.bytes)] [] := by
    refine ⟨fun item hmem => ?_, nofun⟩
    obtain rfl := List.mem_singleton.mp hmem
    exact ⟨nofun, hitem⟩
  have hprocesses := h noScanner ⟨false, 0, 0, 0⟩ _ _ _ hreads hstream rfl
  have hbuffer := buffer_final noScanner (s := GpsThread.init ⟨false, 0, 0, 0⟩) hreads
  have hquiet : (recogniser noScanner).Quiet (sevenBytes.inner ++ [0x0A]) := hitem.body
  have hscan : (scan (frameSize noScanner) sevenBytes.bytes).frames = [] := by
    have hskip := Recogniser.scan_skip (r := recogniser noScanner) (c := 0x24)
      (l := sevenBytes.inner ++ [0x0A]) (by decide +kernel)
    rw [Recogniser.scan_quiet hquiet] at hskip
    exact congrArg Scan.frames hskip
  have htaken : [] ++ (scan (frameSize noScanner) ([] ++ sevenBytes.bytes)).frames
      = [sevenBytes.bytes] := (congrArg Buffer.taken hbuffer).symm.trans hprocesses
  rw [List.nil_append, List.nil_append, hscan] at htaken
  exact absurd htaken (List.cons_ne_nil _ _).symm

end Gps
