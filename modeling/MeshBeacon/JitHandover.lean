import MeshBeacon.JitPurge
import Mathlib.Data.List.Pairwise

/-!
# From the peek to the dequeueing

The transmitting thread peeks at the queue, is told an index, and dequeues what
is at that index. In between the other thread may enqueue, and every packet
accepted sorts the queue. So the index is the selected packet's place only as
long as no packet is accepted that the comparator puts before it.

The place of a packet in a sorted queue is the number of packets below it, and
an accepted packet adds one to that number or nothing. Adding never cancels,
so over a whole run of enqueueings the place is the same at the end exactly
when every single one left it alone.
-/

open Jit

/-- No two different nodes in use depart at the same time. -/
theorem JitQueue.LivePairwise.eq_of_countUs_eq {q : JitQueue}
    (h : q.LivePairwise JitNode.DepartApart) {m n : JitNode} (hm : m ∈ q.live) (hn : n ∈ q.live)
    (heq : m.pkt.countUs = n.pkt.countUs) : m = n := by
  by_contra hne
  have hsymm : Std.Symm JitNode.DepartApart := ⟨fun _ _ hmn => hmn.symm⟩
  exact h.pairwise.forall hm hn hne heq

/-! ## The order of the nodes in use -/

/-- The comparator tells different departure times apart. -/
theorem JitNode.countUs_eq_of_compare_eq_zero {m n : JitNode} (h : m.compare n = 0) :
    m.pkt.countUs = n.pkt.countUs := by
  unfold JitNode.compare at h
  have hsub : m.pkt.countUs.toInt32 - n.pkt.countUs.toInt32 = 0 := Int32.toInt_inj.mp h
  have heq : m.pkt.countUs.toInt32 = n.pkt.countUs.toInt32 := by
    rw [Int32.sub_eq_iff_eq_add.mp hsub, Int32.zero_add]
  exact congrArg Int32.toUInt32 heq

/-- **Ascending by the comparator**, when that orders the nodes in use. -/
def JitQueue.Ascending (q : JitQueue) : Prop :=
  TotalPreorderOn JitNode.compare q.live → q.live.Pairwise (fun m n => m.compare n ≤ 0)

theorem ascending_jitSortQueue (qs : Qsort JitNode) (q : JitQueue) :
    (jitSortQueue qs q).Ascending := by
  intro hord
  rw [JitQueue.live_jitSortQueue] at hord ⊢
  exact qs.sorted _ _ (hord.subset fun n hn => (qs.mem_sort _ _ n).mpr hn)

/-- The nodes of an ascending queue are strictly ascending. -/
theorem JitQueue.Ascending.strict {q : JitQueue} (h : q.Ascending)
    (hd : q.LivePairwise JitNode.DepartApart) (hord : TotalPreorderOn JitNode.compare q.live) :
    q.live.Pairwise (fun m n => m.compare n < 0) := by
  refine ((h hord).and hd.pairwise).imp fun {m n} ⟨hle, hne⟩ => ?_
  refine lt_of_le_of_ne hle fun h0 => hne (JitNode.countUs_eq_of_compare_eq_zero h0)

/-! ## A run of enqueueings -/

/-- What one call of `jit_enqueue` is given. -/
structure Enqueueing where
  timeUs : UInt32
  packet : LgwPktTx
  pktType : JitPktType

namespace JitLedger

/-- One enqueueing, entered in the books. -/
def enqueueStep (qs : Qsort JitNode) (toa : LgwPktTx → UInt32) (s : JitLedger) (e : Enqueueing) :
    JitLedger :=
  step qs toa timedPacket s (.enqueue e.timeUs e.packet e.pktType)

/-- **The packet, if it is accepted, sorts behind the node.** -/
def SortsBehind (toa : LgwPktTx → UInt32) (x : JitNode) (s : JitLedger) (e : Enqueueing) : Prop :=
  Accepts toa s.queue e.timeUs e.packet e.pktType →
    x.compare (enqueuedNode toa s.queue e.timeUs e.packet e.pktType) < 0

variable {qs : Qsort JitNode} {toa : LgwPktTx → UInt32} {alter : Alteration} {s : JitLedger}

theorem step_ascending (h : s.queue.Ascending) (e : JitEvent) :
    (step qs toa alter s e).queue.Ascending := by
  cases e with
  | init => exact fun _ => List.Pairwise.nil
  | enqueue timeUs packet pktType =>
    by_cases hacc : Accepts toa s.queue timeUs packet pktType
    · rw [queue_step_of_accepts hacc]
      exact ascending_jitSortQueue qs _
    · rw [queue_step_of_not_accepts hacc]
      exact h
  | dequeue index =>
    show (jitDequeue qs s.queue index).2.1.Ascending
    unfold jitDequeue
    split_ifs
    · exact h
    · exact h
    · exact ascending_jitSortQueue qs _
  | peek timeUs =>
    refine jitPeek_invariant qs timeUs (P := fun q _ => q.Ascending) ?_ s.queue h
    exact fun _ _ _ _ _ _ => ascending_jitSortQueue qs _

/-- A run of enqueueings leaves an ascending queue of different departure
times. -/
theorem final_enqueueStep_sound (qs : Qsort JitNode) (toa : LgwPktTx → UInt32)
    (hd : s.queue.LivePairwise JitNode.DepartApart)
    (h : s.queue.Ascending) (es : List Enqueueing) :
    (Run.final (enqueueStep qs toa) s es).queue.LivePairwise JitNode.DepartApart
      ∧ (Run.final (enqueueStep qs toa) s es).queue.Ascending :=
  Run.invariant (P := fun s : JitLedger =>
      s.queue.LivePairwise JitNode.DepartApart ∧ s.queue.Ascending)
    (fun _ _ hs => ⟨step_departApart hs.1 _, step_ascending hs.2 _⟩) es ⟨hd, h⟩

/-- The nodes in use after an accepted enqueueing. -/
theorem perm_enqueueStep (qs : Qsort JitNode) (hd : s.queue.LivePairwise JitNode.DepartApart)
    {e : Enqueueing}
    (hacc : Accepts toa s.queue e.timeUs e.packet e.pktType) :
    (enqueueStep qs toa s e).queue.live.Perm
      (enqueuedNode toa s.queue e.timeUs e.packet e.pktType :: s.queue.live) := by
  rw [enqueueStep, queue_step_of_accepts hacc]
  exact JitQueue.perm_push qs (lt_of_le_of_ne hd.numPkt_le hacc.room) _

theorem subperm_final_enqueueStep (qs : Qsort JitNode) (toa : LgwPktTx → UInt32)
    (hd : s.queue.LivePairwise JitNode.DepartApart) (es : List Enqueueing) :
    s.queue.live.Subperm (Run.final (enqueueStep qs toa) s es).queue.live := by
  induction es generalizing s with
  | nil => exact List.Subperm.refl _
  | cons e es ih =>
    have hstep : s.queue.live.Subperm (enqueueStep qs toa s e).queue.live := by
      by_cases hacc : Accepts toa s.queue e.timeUs e.packet e.pktType
      · refine List.Subperm.trans ?_ (perm_enqueueStep qs hd hacc).symm.subperm
        exact (List.sublist_cons_self _ _).subperm
      · rw [enqueueStep, queue_step_of_not_accepts hacc]
    exact hstep.trans (ih (step_departApart hd _))

/-- The number of nodes in use below a node. -/
def below (x : JitNode) (s : JitLedger) : ℕ := s.queue.live.countP (fun n => n.compare x < 0)

/-- The number of nodes below does not go down. -/
theorem below_le_final (qs : Qsort JitNode) (toa : LgwPktTx → UInt32)
    (hd : s.queue.LivePairwise JitNode.DepartApart) (x : JitNode) (es : List Enqueueing) :
    below x s ≤ below x (Run.final (enqueueStep qs toa) s es) :=
  (subperm_final_enqueueStep qs toa hd es).countP_le _

/-- **The number of nodes below is the same at the end** exactly when every
accepted packet sorted behind. -/
theorem below_final_eq_iff (hd : s.queue.LivePairwise JitNode.DepartApart) {x : JitNode}
    (hx : x ∈ s.queue.live) (es : List Enqueueing)
    (hord : TotalPreorderOn JitNode.compare (Run.final (enqueueStep qs toa) s es).queue.live) :
    below x (Run.final (enqueueStep qs toa) s es) = below x s
      ↔ Run.Guarded (enqueueStep qs toa) (SortsBehind toa x) s es := by
  induction es generalizing s with
  | nil => exact iff_of_true rfl trivial
  | cons e es ih =>
    have hd' : (enqueueStep qs toa s e).queue.LivePairwise JitNode.DepartApart :=
      step_departApart hd _
    rw [Run.final_cons] at hord ⊢
    by_cases hacc : Accepts toa s.queue e.timeUs e.packet e.pktType
    · have hperm := perm_enqueueStep qs hd hacc
      set n := enqueuedNode toa s.queue e.timeUs e.packet e.pktType with hn
      have hx' : x ∈ (enqueueStep qs toa s e).queue.live :=
        hperm.mem_iff.mpr (List.mem_cons_of_mem n hx)
      have hn' : n ∈ (enqueueStep qs toa s e).queue.live := hperm.mem_iff.mpr List.mem_cons_self
      have hord' := hord.subset (subperm_final_enqueueStep qs toa hd' es).subset
      have hcount := hperm.countP_eq (fun m => decide (m.compare x < 0))
      have hmono := below_le_final qs toa hd' x es
      have hrest := ih hd' hx' hord
      rw [List.countP_cons] at hcount
      by_cases hbefore : n.compare x < 0
      · -- a packet below the node moves it, and nothing moves it back
        rw [if_pos (decide_eq_true hbefore)] at hcount
        refine iff_of_false (fun heq => ?_) (fun hguard => ?_)
        · unfold below at heq hmono
          omega
        · exact hord'.asymm hn' hx' hbefore (hguard.1 hacc)
      · rw [if_neg (by simpa using hbefore), Nat.add_zero] at hcount
        have hbehind : x.compare n < 0 := by
          have hle := (hord'.swap x hx' n hn').mpr (not_lt.mp hbefore)
          refine lt_of_le_of_ne hle fun h0 => hacc.departure_ne hx ?_
          exact (JitNode.countUs_eq_of_compare_eq_zero h0).symm
        have hsame : below x (enqueueStep qs toa s e) = below x s := hcount
        rw [← hsame, hrest]
        exact ⟨fun hguard => ⟨fun _ => hbehind, hguard⟩, fun hguard => hguard.2⟩
    · have hs : (enqueueStep qs toa s e).queue = s.queue := queue_step_of_not_accepts hacc
      have hsame : below x (enqueueStep qs toa s e) = below x s := by rw [below, hs, below]
      rw [← hsame, ih hd' (by rwa [hs]) hord]
      exact ⟨fun hguard => ⟨fun h => absurd h hacc, hguard⟩, fun hguard => hguard.2⟩

end JitLedger

/-! ## The handover -/

/-- **The peek selects a node**: it returns an index, and the node is the one in
use at that index of the queue it leaves. -/
structure JitQueue.Selects (qs : Qsort JitNode) (q : JitQueue) (timeUs : UInt32) (i : ℕ)
    (x : JitNode) : Prop where
  index : (jitPeek qs q timeUs).2.2.1 = some i
  node : (jitPeek qs q timeUs).2.1.live[i]? = some x

/-- A packet at an index in use is what is dequeued from that index, and no
other packet is taken for it. -/
theorem jitDequeue_eq_entry_iff (qs : Qsort JitNode) {s : JitLedger}
    (hd : s.queue.LivePairwise JitNode.DepartApart) {i : ℕ} (hi : i < s.queue.live.length)
    {x : JitNode} (hx : x ∈ s.queue.live) :
    (jitDequeue qs s.queue i).2.2 = some x.entry ↔ s.queue.live[i]? = some x := by
  have hlt : i < s.queue.numPkt.toNat := by rwa [JitQueue.length_live hd.numPkt_le] at hi
  have hget := JitQueue.getElem?_live hd.numPkt_le hlt
  rw [JitLedger.jitDequeue_inRange hd.numPkt_le (Int.natCast_nonneg i) (Int.ofNat_lt.mpr hlt),
    Int.toNat_natCast, hget, Option.some_inj, Option.some_inj]
  refine ⟨fun hentry => ?_, fun hnode => by rw [hnode]⟩
  have hpkt : (s.queue.node i).pkt = x.pkt := congrArg Prod.fst hentry
  exact hd.eq_of_countUs_eq (List.mem_of_getElem? hget) hx (by rw [hpkt])

/-- **What was selected is what is dequeued** exactly when nothing accepted in
between sorts before it. After any run, a peek selects a packet, and any
enqueueings follow, at whatever times. Provided the comparator orders the
packets then stored, dequeueing at the index the peek returned hands back the
selected packet if and only if every packet accepted since sorts behind it. -/
theorem jitDequeue_selected_iff (qs : Qsort JitNode) (toa : LgwPktTx → UInt32)
    (es₀ : List JitEvent) (timeUs : UInt32) (i : ℕ) (x : JitNode) (es : List Enqueueing) :
    let s := Run.final (JitLedger.step qs toa timedPacket) JitLedger.start es₀
    let s₁ := JitLedger.step qs toa timedPacket s (.peek timeUs)
    let s₂ := Run.final (JitLedger.enqueueStep qs toa) s₁ es
    s.queue.Selects qs timeUs i x → TotalPreorderOn JitNode.compare s₂.queue.live →
      ((jitDequeue qs s₂.queue i).2.2 = some x.entry
        ↔ Run.Guarded (JitLedger.enqueueStep qs toa) (JitLedger.SortsBehind toa x) s₁ es) := by
  intro s s₁ s₂ hsel hord
  have hrun : s.queue.LivePairwise JitNode.DepartApart ∧ s.queue.Ascending :=
    Run.invariant (P := fun s : JitLedger =>
        s.queue.LivePairwise JitNode.DepartApart ∧ s.queue.Ascending)
      (fun _ _ h => ⟨JitLedger.step_departApart h.1 _, JitLedger.step_ascending h.2 _⟩) es₀
      ⟨.init, fun _ => List.Pairwise.nil⟩
  have hd₁ : s₁.queue.LivePairwise JitNode.DepartApart := JitLedger.step_departApart hrun.1 _
  have hasc₁ : s₁.queue.Ascending := JitLedger.step_ascending hrun.2 _
  obtain ⟨hd₂, hasc₂⟩ := JitLedger.final_enqueueStep_sound qs toa hd₁ hasc₁ es
  have hsub := JitLedger.subperm_final_enqueueStep qs toa hd₁ es
  have hord₁ := hord.subset hsub.subset
  have hnode : s₁.queue.live[i]? = some x := hsel.node
  have hx₁ : x ∈ s₁.queue.live := List.mem_of_getElem? hnode
  have hx₂ : x ∈ s₂.queue.live := hsub.subset hx₁
  have hi : i < s₂.queue.live.length :=
    lt_of_lt_of_le (List.getElem?_eq_some_iff.mp hnode).1 hsub.length_le
  -- the place of the packet, before and after the enqueueings
  have hbefore : JitLedger.below x s₁ = i :=
    (hord₁.getElem?_eq_some_iff (hasc₁.strict hd₁ hord₁) hx₁ i).mp hnode
  have hafter : s₂.queue.live[i]? = some x ↔ JitLedger.below x s₂ = i :=
    hord.getElem?_eq_some_iff (hasc₂.strict hd₂ hord) hx₂ i
  rw [jitDequeue_eq_entry_iff qs hd₂ hi hx₂, hafter, ← hbefore]
  exact JitLedger.below_final_eq_iff hd₁ hx₁ es hord

/-- A peek at a single packet that is not outdated leaves it, and selects it
when it is near. -/
theorem jitPeek_single (qs : Qsort JitNode) {q : JitQueue} {timeUs : UInt32}
    (h1 : q.numPkt = 1) (hout : ¬ outdated timeUs (q.node 0)) :
    jitPeek qs q timeUs = (.ok, q,
      (some 0).filter (fun b => (q.node b).pkt.countUs - timeUs < txJitDelay), []) := by
  have hloop : jitPeekLoop qs timeUs q 0 none [] = (q, some 0, []) := by
    rw [jitPeekLoop, if_pos (by rw [h1]; decide)]
    dsimp only
    rw [if_neg hout, jitPeekLoop, if_neg (by rw [h1]; decide)]
  rw [jitPeek, if_neg (by rw [h1]; decide), hloop]

/-- A queue with one class A packet, due at 1.02 seconds. -/
def oneStored : JitLedger :=
  Run.final (JitLedger.step (Qsort.insertion JitNode) (fun _ => 50) timedPacket) JitLedger.start
    [.enqueue 0 (downlinkAt 1020000) .downlinkClassA]

theorem oneStored_selects :
    oneStored.queue.Selects (Qsort.insertion JitNode) 1000000 0
        ⟨downlinkAt 1020000, .downlinkClassA, 41500, 50000⟩
      ∧ (JitLedger.step (Qsort.insertion JitNode) (fun _ => 50) timedPacket oneStored
          (.peek 1000000)).queue = oneStored.queue := by
  have hpeek := jitPeek_single (Qsort.insertion JitNode) (q := oneStored.queue)
    (by decide) (show ¬ outdated 1000000 _ by decide)
  refine ⟨⟨?_, ?_⟩, ?_⟩
  · rw [hpeek]
    decide
  · rw [hpeek]
    rfl
  · rw [JitLedger.step, hpeek]

/-- A downlink to be sent at once, enqueued with the time of the peek, goes
behind the packet. -/
theorem jitDequeue_selected_iff_atOnce :
    let s₁ := JitLedger.step (Qsort.insertion JitNode) (fun _ => 50) timedPacket oneStored
      (.peek 1000000)
    let es : List Enqueueing := [⟨1000000, immediateDownlink, .downlinkClassC⟩]
    (jitDequeue (Qsort.insertion JitNode)
        (Run.final (JitLedger.enqueueStep (Qsort.insertion JitNode) (fun _ => 50)) s₁ es).queue
        (0 : ℕ)).2.2 = some (downlinkAt 1020000, .downlinkClassA)
      ↔ Run.Guarded (JitLedger.enqueueStep (Qsort.insertion JitNode) (fun _ => 50))
        (JitLedger.SortsBehind (fun _ => 50)
          ⟨downlinkAt 1020000, .downlinkClassA, 41500, 50000⟩) s₁ es := by
  refine jitDequeue_selected_iff (Qsort.insertion JitNode) (fun _ => 50)
    [.enqueue 0 (downlinkAt 1020000) .downlinkClassA] 1000000 0
    ⟨downlinkAt 1020000, .downlinkClassA, 41500, 50000⟩
    [⟨1000000, immediateDownlink, .downlinkClassC⟩] oneStored_selects.1 ?_
  refine totalPreorderOn_compare (b := 1000000) ?_
  show AheadOf 1000000 (jitEnqueue _ _ (JitLedger.step _ _ _ oneStored _).queue _ _ _).2.1.live
  rw [oneStored_selects.2]
  unfold AheadOf
  decide

/-- **A stale time overtakes the selected packet.** A class C packet enqueued
with a time one second before the peek departs before the packet selected, and
is dequeued in its place. -/
theorem jitDequeue_not_selected :
    ¬ ∀ (qs : Qsort JitNode) (toa : LgwPktTx → UInt32) (es₀ : List JitEvent) (timeUs : UInt32)
      (i : ℕ) (x : JitNode) (es : List Enqueueing),
      let s := Run.final (JitLedger.step qs toa timedPacket) JitLedger.start es₀
      let s₁ := JitLedger.step qs toa timedPacket s (.peek timeUs)
      let s₂ := Run.final (JitLedger.enqueueStep qs toa) s₁ es
      s.queue.Selects qs timeUs i x → (jitDequeue qs s₂.queue i).2.2 = some x.entry := by
  intro h
  have hsame := h (Qsort.insertion JitNode) (fun _ => 50)
    [.enqueue 0 (downlinkAt 1020000) .downlinkClassA] 1000000 0 _
    [⟨0, immediateDownlink, .downlinkClassC⟩] oneStored_selects.1
  change (jitDequeue _ (jitEnqueue _ _ (JitLedger.step _ _ _ oneStored _).queue _ _ _).2.1 _).2.2
    = _ at hsame
  rw [oneStored_selects.2] at hsame
  revert hsame
  decide
