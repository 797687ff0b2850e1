import MeshBeacon.Run
import Mathlib.Data.List.Basic
import Mathlib.Tactic.Common

/-!
# Frames in a stream

A stream is frames with gaps before them. A frame begins with a synchronising element,
and there is no other of them in it, nor in a gap. It is read piece by piece into a buffer
that is bounded. After every piece the buffer is scanned: what is recognised as a frame is
taken out, together with all that is before it, and when the buffer is nearly full its
oldest elements are dropped.

Whatever the pieces are, the frames are taken out one after the other and none is lost,
as long as none is so long that it would fill the buffer: what is dropped is of a gap
then.
-/

namespace Framing

variable {α : Type*}

/-- **A recogniser**: how many elements at the front of a list are a frame. It tells when
the frame is complete, and not before, and it looks at nothing that does not
synchronise. -/
structure Recogniser (α : Type*) where
  Sync : α → Prop
  Frame : List α → Prop
  size : List α → ℕ
  exists_sync : ∀ {f}, Frame f → ∃ c body, f = c :: body ∧ Sync c ∧ ∀ b ∈ body, ¬ Sync b
  size_frame : ∀ {f} rest, Frame f → size (f ++ rest) = f.length
  size_partial : ∀ {f l rest}, Frame f → f = l ++ rest → rest ≠ [] → size l = 0
  size_other : ∀ {c} l, ¬ Sync c → size (c :: l) = 0

/-- What a scan finds: the frames, and where the last one ends. -/
structure Scan (α : Type*) where
  frames : List (List α)
  stop : ℕ

/-- The scan of a list: a frame is skipped as a whole, anything else by one. -/
def scan (size : List α → ℕ) : List α → Scan α
  | [] => ⟨[], 0⟩
  | c :: l =>
    if 0 < size (c :: l) then
      let found := scan size ((c :: l).drop (size (c :: l)))
      ⟨(c :: l).take (size (c :: l)) :: found.frames, size (c :: l) + found.stop⟩
    else
      let found := scan size l
      ⟨found.frames, if found.stop = 0 then 0 else 1 + found.stop⟩
termination_by l => l.length
decreasing_by
  · rw [List.length_drop, List.length_cons]
    omega
  · exact Nat.lt_succ_self _

/-! ## Scanning -/

namespace Recogniser

variable (r : Recogniser α)

/-- Nothing in the list synchronises. -/
def Quiet (l : List α) : Prop := ∀ c ∈ l, ¬ r.Sync c

/-- The stream of frames with the gaps before them, and what is behind the last. -/
def stream (items : List (List α × List α)) (tail : List α) : List α :=
  (items.flatMap fun item => item.1 ++ item.2) ++ tail

/-- The gaps are quiet and the frames are frames, of a length at most. -/
structure WellFormed (bound : ℕ) (items : List (List α × List α)) (tail : List α) : Prop where
  gap : ∀ item ∈ items, r.Quiet item.1
  frame : ∀ item ∈ items, r.Frame item.2 ∧ item.2.length ≤ bound
  tail : r.Quiet tail

variable {r}

theorem stream_cons (g f : List α) (items : List (List α × List α)) (tail : List α) :
    stream ((g, f) :: items) tail = g ++ (f ++ stream items tail) := by
  unfold stream
  rw [List.flatMap_cons, List.append_assoc, List.append_assoc]

theorem Quiet.left {l l' : List α} (h : r.Quiet (l ++ l')) : r.Quiet l :=
  fun c hc => h c (List.mem_append_left l' hc)

/-- Where the front does not synchronise it is skipped. -/
theorem scan_skip {c : α} {l : List α} (h : r.size (c :: l) = 0) :
    scan r.size (c :: l)
      = ⟨(scan r.size l).frames,
        if (scan r.size l).stop = 0 then 0 else 1 + (scan r.size l).stop⟩ := by
  rw [scan, if_neg (by omega)]

theorem scan_quiet {l : List α} (h : r.Quiet l) : scan r.size l = ⟨[], 0⟩ := by
  induction l with
  | nil => rw [scan]
  | cons c l ih =>
    rw [scan_skip (r.size_other l (h c List.mem_cons_self)),
      ih fun b hb => h b (List.mem_cons_of_mem c hb)]
    rfl

theorem scan_gap {g l : List α} (h : r.Quiet g) :
    scan r.size (g ++ l)
      = ⟨(scan r.size l).frames,
        if (scan r.size l).stop = 0 then 0 else g.length + (scan r.size l).stop⟩ := by
  induction g with
  | nil =>
    rw [List.nil_append, List.length_nil, Nat.zero_add]
    split_ifs with hstop
    · rw [← hstop]
    · rfl
  | cons c g ih =>
    rw [List.cons_append, scan_skip (r.size_other _ (h c List.mem_cons_self)),
      ih fun b hb => h b (List.mem_cons_of_mem c hb)]
    dsimp only
    by_cases hstop : (scan r.size l).stop = 0
    · rw [if_pos hstop, if_pos hstop, if_pos rfl]
    · rw [if_neg hstop, if_neg hstop, if_neg (by omega), List.length_cons, Nat.add_comm g.length 1,
        Nat.add_assoc]

theorem scan_frame {f : List α} (h : r.Frame f) (l : List α) :
    scan r.size (f ++ l)
      = ⟨f :: (scan r.size l).frames, f.length + (scan r.size l).stop⟩ := by
  obtain ⟨c, body, rfl, -, -⟩ := r.exists_sync h
  have hsize := r.size_frame l h
  rw [List.cons_append] at hsize ⊢
  have hpos : 0 < (c :: body).length := Nat.succ_pos _
  rw [scan, hsize, if_pos hpos, ← List.cons_append, List.drop_left, List.take_left]

/-- Of a frame that is not complete nothing is taken. -/
theorem scan_partial {f l rest : List α} (h : r.Frame f) (hf : f = l ++ rest) (hrest : rest ≠ []) :
    scan r.size l = ⟨[], 0⟩ := by
  cases l with
  | nil => rw [scan]
  | cons c l =>
    obtain ⟨c', body, hbody, -, hquiet⟩ := r.exists_sync h
    rw [scan_skip (r.size_partial h hf hrest)]
    have hmem : r.Quiet l := by
      rw [hf, List.cons_append] at hbody
      rw [← (List.cons.inj hbody).2] at hquiet
      exact Quiet.left hquiet
    rw [scan_quiet hmem]
    rfl

/-- **What a scan leaves**: the frames of the stream from the next one on, which is not
complete. -/
structure Left (r : Recogniser α) (bound : ℕ) (pending unread : List α)
    (items : List (List α × List α)) (tail : List α) : Prop where
  wellFormed : r.WellFormed bound items tail
  stream_eq : pending ++ unread = stream items tail
  open_frame : ∀ g f more, items = (g, f) :: more → pending.length < g.length + f.length

/-- The front of a gap and a frame that is not complete has no frame. -/
theorem scan_open {g f l rest : List α} (hg : r.Quiet g) (hf : r.Frame f)
    (h : g ++ f = l ++ rest) (hrest : rest ≠ []) : scan r.size l = ⟨[], 0⟩ := by
  obtain ⟨l', rfl, hf'⟩ | ⟨g', rfl, -⟩ := List.append_eq_append_iff.mp h
  · rw [scan_gap hg, scan_partial hf hf' hrest]
    rfl
  · exact scan_quiet (Quiet.left hg)

/-- Behind a gap and a frame that is complete the scan goes on. -/
theorem scan_closed {g f rest : List α} (hg : r.Quiet g) (hf : r.Frame f) :
    scan r.size (g ++ f ++ rest) = ⟨f :: (scan r.size rest).frames,
      g.length + (f.length + (scan r.size rest).stop)⟩ := by
  have hpos : 0 < f.length := by
    obtain ⟨c, body, rfl, -, -⟩ := r.exists_sync hf
    exact Nat.succ_pos _
  rw [List.append_assoc, scan_gap hg, scan_frame hf]
  dsimp only
  rw [if_neg (by omega)]

/-- **A scan takes the frames that are complete**, and leaves the stream from the end of the
last one on. -/
theorem scan_stream {bound : ℕ} {items : List (List α × List α)} {tail : List α}
    (hwf : r.WellFormed bound items tail) {pending unread : List α}
    (h : pending ++ unread = stream items tail) :
    ∃ todo, (scan r.size pending).frames ++ todo.map Prod.snd = items.map Prod.snd
      ∧ Left r bound (pending.drop (scan r.size pending).stop) unread todo tail := by
  induction items generalizing pending with
  | nil =>
    -- only the tail is left, and there are no frames in it
    have hquiet : r.Quiet pending := by
      have htail : pending ++ unread = tail := h
      have hall := hwf.tail
      rw [← htail] at hall
      exact hall.left
    rw [scan_quiet hquiet]
    exact ⟨[], rfl, hwf, h, nofun⟩
  | cons item items ih =>
    obtain ⟨g, f⟩ := item
    have hg := hwf.gap _ List.mem_cons_self
    have hf := (hwf.frame _ List.mem_cons_self).1
    have hrest : r.WellFormed bound items tail :=
      ⟨fun item hitem => hwf.gap item (List.mem_cons_of_mem _ hitem),
        fun item hitem => hwf.frame item (List.mem_cons_of_mem _ hitem), hwf.tail⟩
    have hsplit : pending ++ unread = (g ++ f) ++ stream items tail := by
      rw [h, stream_cons, List.append_assoc]
    by_cases hlen : pending.length < g.length + f.length
    · -- the frame is not complete
      obtain ⟨rest, hrest'⟩ : pending <+: g ++ f :=
        List.prefix_of_prefix_length_le ⟨unread, hsplit⟩ ⟨stream items tail, rfl⟩
          (by rw [List.length_append]; exact Nat.le_of_lt hlen)
      have hne : rest ≠ [] := by
        rintro rfl
        rw [List.append_nil] at hrest'
        rw [hrest', List.length_append] at hlen
        exact absurd hlen (Nat.lt_irrefl _)
      rw [scan_open hg hf hrest'.symm hne]
      refine ⟨(g, f) :: items, rfl, hwf, h, ?_⟩
      rintro g' f' more heq
      cases heq
      exact hlen
    · -- the frame is taken, and the scan goes on behind it
      obtain ⟨pending', rfl⟩ : g ++ f <+: pending :=
        List.prefix_of_prefix_length_le ⟨stream items tail, rfl⟩ ⟨unread, hsplit⟩
          (by rw [List.length_append]; exact Nat.le_of_not_lt hlen)
      rw [List.append_assoc (g ++ f)] at hsplit
      have htail := List.append_cancel_left hsplit
      obtain ⟨todo, hframes, hleft⟩ := ih hrest htail
      rw [scan_closed hg hf]
      refine ⟨todo, ?_, ?_⟩
      · rw [List.cons_append, hframes, List.map_cons]
      · dsimp only
        rwa [← Nat.add_assoc, ← List.length_append, List.drop_length_add_append]

end Recogniser

/-! ## The buffer -/

/-- What is in the buffer, and the frames that have been taken out of it. -/
structure Buffer (α : Type*) where
  pending : List α
  taken : List (List α)

/-- The oldest elements are dropped when less than the slack is free. -/
def trim (capacity slack : ℕ) (pending : List α) : List α :=
  if capacity - pending.length < slack then pending.drop slack else pending

/-- A piece is read and the buffer is scanned. -/
def Buffer.feed (size : List α → ℕ) (capacity slack : ℕ) (b : Buffer α) (piece : List α) :
    Buffer α where
  pending :=
    trim capacity slack ((b.pending ++ piece).drop (scan size (b.pending ++ piece)).stop)
  taken := b.taken ++ (scan size (b.pending ++ piece)).frames

namespace Recogniser

variable {r : Recogniser α} {bound capacity slack : ℕ}

theorem length_trim {pending : List α} (h : pending.length ≤ capacity)
    (hslack : 2 * slack ≤ capacity) :
    (trim capacity slack pending).length + slack ≤ capacity := by
  unfold trim
  split_ifs with hfull
  · rw [List.length_drop]
    omega
  · omega

/-- **What is dropped is of a gap**: a frame that is not complete leaves that much room. -/
theorem Left.trim {pending unread : List α} {items : List (List α × List α)} {tail : List α}
    (h : Left r bound pending unread items tail) (hbound : bound + 2 * slack ≤ capacity) :
    ∃ items' tail', items'.map Prod.snd = items.map Prod.snd
      ∧ Left r bound (trim capacity slack pending) unread items' tail' := by
  unfold Framing.trim
  split_ifs with hfull
  · have hle : slack ≤ pending.length := by omega
    cases items with
    | nil =>
      -- no frame is left: what is dropped is of the tail
      have htail : pending ++ unread = tail := h.stream_eq
      refine ⟨[], tail.drop slack, rfl, ⟨nofun, nofun, ?_⟩, ?_, nofun⟩
      · exact fun c hc => h.wellFormed.tail c (List.mem_of_mem_drop hc)
      · show pending.drop slack ++ unread = tail.drop slack
        rw [← htail, List.drop_append_of_le_length hle]
    | cons item items =>
      obtain ⟨g, f⟩ := item
      have hopen := h.open_frame g f items rfl
      have hlen := (h.wellFormed.frame _ List.mem_cons_self).2
      dsimp only at hlen
      -- the next frame is open, so more than the slack of its gap is in the buffer
      have hgap : slack ≤ g.length := by omega
      refine ⟨(g.drop slack, f) :: items, tail, rfl, ⟨?_, ?_, h.wellFormed.tail⟩, ?_, ?_⟩
      · intro item hitem
        obtain rfl | hitem := List.mem_cons.mp hitem
        · exact fun c hc => h.wellFormed.gap _ List.mem_cons_self c (List.mem_of_mem_drop hc)
        · exact h.wellFormed.gap item (List.mem_cons_of_mem _ hitem)
      · intro item hitem
        obtain rfl | hitem := List.mem_cons.mp hitem
        · exact h.wellFormed.frame (g, f) List.mem_cons_self
        · exact h.wellFormed.frame item (List.mem_cons_of_mem _ hitem)
      · rw [stream_cons, ← List.drop_append_of_le_length hle, h.stream_eq, stream_cons,
          List.drop_append_of_le_length hgap]
      · rintro g' f' more heq
        cases heq
        rw [List.length_drop, List.length_drop]
        omega
  · exact ⟨items, tail, rfl, h⟩

/-- **No frame is lost**: those that have been taken and those that are left are all, and
there is room for a piece. -/
structure Faithful (r : Recogniser α) (bound capacity slack : ℕ) (frames : List (List α))
    (unread : List α) (b : Buffer α) : Prop where
  room : b.pending.length + slack ≤ capacity
  left : ∃ todo tail, b.taken ++ todo.map Prod.snd = frames
    ∧ Left r bound b.pending unread todo tail

theorem Faithful.feed {frames : List (List α)} {piece unread : List α} {b : Buffer α}
    (h : Faithful r bound capacity slack frames (piece ++ unread) b)
    (hbound : bound + 2 * slack ≤ capacity) (hpiece : piece.length ≤ slack) :
    Faithful r bound capacity slack frames unread (b.feed r.size capacity slack piece) := by
  obtain ⟨items, tail, hframes, hleft⟩ := h.left
  have hroom := h.room
  obtain ⟨todo, htodo, hrest⟩ := scan_stream hleft.wellFormed
    ((List.append_assoc b.pending piece unread).trans hleft.stream_eq)
  obtain ⟨todo', tail', htodo', htrim⟩ := hrest.trim hbound
  refine ⟨?_, todo', tail', ?_, htrim⟩
  · refine length_trim ?_ (by omega)
    rw [List.length_drop, List.length_append]
    omega
  · unfold Buffer.feed
    rw [htodo', List.append_assoc, htodo, hframes]

theorem Faithful.final {frames : List (List α)} {pieces : List (List α)} {unread : List α}
    {b : Buffer α} (h : Faithful r bound capacity slack frames (pieces.flatten ++ unread) b)
    (hbound : bound + 2 * slack ≤ capacity) (hpieces : ∀ piece ∈ pieces, piece.length ≤ slack) :
    Faithful r bound capacity slack frames unread
      (Run.final (Buffer.feed r.size capacity slack) b pieces) := by
  induction pieces generalizing b with
  | nil => exact h
  | cons piece pieces ih =>
    rw [List.flatten_cons, List.append_assoc] at h
    exact ih (h.feed hbound (hpieces piece List.mem_cons_self))
      fun piece' hpiece' => hpieces piece' (List.mem_cons_of_mem _ hpiece')

/-- When the stream has been read no frame is left. -/
theorem Faithful.taken_eq {frames : List (List α)} {b : Buffer α}
    (h : Faithful r bound capacity slack frames [] b) : b.taken = frames := by
  obtain ⟨todo, tail, hframes, hleft⟩ := h.left
  cases todo with
  | nil => rw [← hframes, List.map_nil, List.append_nil]
  | cons item more =>
    obtain ⟨g, f⟩ := item
    have hopen := hleft.open_frame g f more rfl
    have hlen := congrArg List.length hleft.stream_eq
    rw [stream_cons, List.append_nil, List.length_append, List.length_append] at hlen
    omega

/-- **The frames of a stream are taken, one after the other**, whatever the pieces are in
which it is read. -/
theorem taken_eq {items : List (List α × List α)} {tail : List α}
    (hwf : r.WellFormed bound items tail) (hbound : bound + 2 * slack ≤ capacity)
    {pieces : List (List α)} (hpieces : ∀ piece ∈ pieces, piece.length ≤ slack)
    (hstream : pieces.flatten = stream items tail) :
    (Run.final (Buffer.feed r.size capacity slack) ⟨[], []⟩ pieces).taken
      = items.map Prod.snd := by
  have hinit : Faithful r bound capacity slack (items.map Prod.snd) (pieces.flatten ++ [])
      ⟨[], []⟩ := by
    rw [hstream, List.append_nil]
    refine ⟨by rw [List.length_nil]; omega, items, tail, List.nil_append _, hwf,
      List.nil_append _, ?_⟩
    rintro g f more rfl
    obtain ⟨c, body, hbody, -, -⟩ := r.exists_sync (hwf.frame (g, f) List.mem_cons_self).1
    dsimp only at hbody
    rw [hbody, List.length_nil, List.length_cons]
    omega
  exact (hinit.final hbound hpieces).taken_eq

end Recogniser

end Framing
