import MeshBeacon.JitCollision

/-!
# An immediate downlink always finds a slot

A class C packet is sent as soon as possible: twice `TX_JIT_DELAY` from now if
that collides with nothing, and otherwise in the first slot that the search
finds right after a stored packet. The search looks at the next packet only,
with that packet's whole pre-delay; then the packet goes through the same tests
as any other, against every stored packet, and with the guard of the beacons
left out. Nothing in the code says that it passes them.

It does, when the stored packets are ahead of now and in one half of the
counter. Seen from now they stand in a line, each behind the stretch reserved
after the one before (`Lined`). The search moves up this line, and where it
stops it is clear of the packets it has passed, and before the next one, since
it stops at most two `TX_JIT_DELAY` behind a place that was free. All the packets
after that one are further away.
-/

open Jit Circle JitQueue

/-! ## What is stored -/

/-- What enqueueing reserves around a packet: the pre-delay of its type, and for
a beacon the time the standard reserves. -/
structure JitNode.Made (n : JitNode) : Prop where
  preDelay_eq : n.preDelay = n.pktType.preDelay
  postDelay_eq : n.pktType = .beacon → n.postDelay = beaconReserved

/-- The least that any test asks before a node: a beacon may be asked for its
pre-delay without the guard. -/
def JitNode.lead (n : JitNode) : ℕ := (targetPreDelay .downlinkClassC n).toNat

/-- The time reserved after a node is far from the period of the counter. -/
def JitNode.Brief (n : JitNode) : Prop := n.postDelay.toNat < 2 ^ 28

/-- **Room between two nodes**, in both directions around the circle, unless one
of them is too long for the sums of the tests to mean anything. -/
def JitNode.Spaced (m n : JitNode) : Prop :=
  m.Brief → n.Brief →
    m.postDelay.toNat + n.lead + txMarginDelay.toNat < fwd m.pkt.countUs n.pkt.countUs
      ∧ n.postDelay.toNat + m.lead + txMarginDelay.toNat < fwd n.pkt.countUs m.pkt.countUs

theorem JitNode.Spaced.symm {m n : JitNode} (h : m.Spaced n) : n.Spaced m :=
  fun hn hm => (h hm hn).symm

namespace JitNode.Made

variable {n : JitNode}

/-- What is reserved before a node is far from the period of the counter. -/
theorem preDelay_toNat_le (h : n.Made) : n.preDelay.toNat ≤ 3041500 := by
  rw [h.preDelay_eq]
  exact preDelay_le n.pktType

/-- At least this much is reserved before a node. -/
theorem le_preDelay (h : n.Made) : 41500 ≤ n.preDelay.toNat := by
  rw [h.preDelay_eq]
  cases n.pktType <;> decide

/-- The least that a test asks is the start delay of a beacon, and the whole
pre-delay of any other packet. -/
theorem lead_cases (h : n.Made) :
    (n.pktType = .beacon ∧ n.lead = 1500) ∨ (n.pktType ≠ .beacon ∧ n.lead = 41500) := by
  by_cases hbeacon : n.pktType = .beacon
  · refine Or.inl ⟨hbeacon, ?_⟩
    unfold lead targetPreDelay
    rw [if_pos ⟨Or.inr rfl, hbeacon⟩]
    rfl
  · refine Or.inr ⟨hbeacon, ?_⟩
    unfold lead targetPreDelay
    rw [if_neg fun h' => hbeacon h'.2, h.preDelay_eq]
    cases hty : n.pktType with
    | beacon => exact absurd hty hbeacon
    | downlinkClassA => rfl
    | downlinkClassB => rfl
    | downlinkClassC => rfl

theorem lead_le (h : n.Made) (pktType : JitPktType) :
    n.lead ≤ (targetPreDelay pktType n).toNat := by
  unfold lead targetPreDelay
  by_cases hbeacon : n.pktType = .beacon
  · rw [if_pos ⟨Or.inr rfl, hbeacon⟩]
    have hpre := h.le_preDelay
    have hstart : txStartDelay.toNat = 1500 := rfl
    split_ifs <;> omega
  · rw [if_neg fun h' => hbeacon h'.2, if_neg fun h' => hbeacon h'.2]

/-- No test asks for more than the pre-delay. -/
theorem targetPreDelay_le (h : n.Made) (pktType : JitPktType) :
    (targetPreDelay pktType n).toNat ≤ n.preDelay.toNat := by
  have hpre := h.le_preDelay
  have hstart : txStartDelay.toNat = 1500 := rfl
  unfold targetPreDelay
  split_ifs <;> omega

end JitNode.Made

/-! ## The test -/

/-- **The test, in numbers**, when its sums fit in 32 bits. -/
theorem jitCollisionTest_eq_false_iff {c pre post c' pre' post' : UInt32}
    (hpre : pre.toNat + post'.toNat + txMarginDelay.toNat < 2 ^ 32)
    (hpost : pre'.toNat + post.toNat + txMarginDelay.toNat < 2 ^ 32) :
    jitCollisionTest c pre post c' pre' post' = false
      ↔ pre.toNat + post'.toNat + txMarginDelay.toNat < fwd c' c
        ∧ pre'.toNat + post.toNat + txMarginDelay.toNat < fwd c c' := by
  unfold jitCollisionTest fwd
  rw [Bool.or_eq_false_iff, decide_eq_false_iff_not, decide_eq_false_iff_not,
    UInt32.le_iff_toNat_le, UInt32.le_iff_toNat_le, UInt32.toNat_add, UInt32.toNat_add,
    UInt32.toNat_add, UInt32.toNat_add]
  omega

/-- **A packet that is accepted has room** to every stored node. -/
theorem Accepts.spaced {toa : LgwPktTx → UInt32} {q : JitQueue} {timeUs : UInt32}
    {packet : LgwPktTx} {pktType : JitPktType} (h : Accepts toa q timeUs packet pktType)
    (hnew : (enqueuedNode toa q timeUs packet pktType).Made) {n : JitNode} (hn : n ∈ q.live)
    (hmade : n.Made) : (enqueuedNode toa q timeUs packet pktType).Spaced n := by
  intro hbrief hbrief'
  have hpre := preDelay_le pktType
  have htarget := hmade.targetPreDelay_le pktType
  have hnodePre := hmade.preDelay_toNat_le
  have hmargin : txMarginDelay.toNat = 1000 := rfl
  unfold JitNode.Brief at hbrief hbrief'
  change (postDelayOf toa packet pktType).toNat < 2 ^ 28 at hbrief
  obtain ⟨hafter, hbefore⟩ :=
    (jitCollisionTest_eq_false_iff (by omega) (by omega)).mp (h.clear n hn)
  have hlead := hmade.lead_le pktType
  have hnewLead := hnew.lead_le .downlinkClassB
  have hnewPre := hnew.targetPreDelay_le .downlinkClassB
  constructor
  · show (postDelayOf toa packet pktType).toNat + n.lead + txMarginDelay.toNat
      < fwd (departure toa q timeUs packet pktType) n.pkt.countUs
    omega
  · show n.postDelay.toNat + (enqueuedNode toa q timeUs packet pktType).lead + txMarginDelay.toNat
      < fwd n.pkt.countUs (departure toa q timeUs packet pktType)
    change (targetPreDelay .downlinkClassB (enqueuedNode toa q timeUs packet pktType)).toNat
      ≤ pktType.preDelay.toNat at hnewPre
    omega

/-! ## What every reachable queue is like -/

/-- **The stored nodes are arranged**: made by enqueueing, with room between any
two, and ascending. -/
structure JitQueue.Arranged (q : JitQueue) : Prop where
  made : ∀ n ∈ q.live, n.Made
  spaced : q.LivePairwise JitNode.Spaced
  sorted : CircularlySorted q.live

namespace JitLedger

variable {qs : Qsort JitNode} {toa : LgwPktTx → UInt32} {alter : Alteration} {s : JitLedger}

/-- The node stored for a packet is made by enqueueing. -/
theorem made_enqueued (toa : LgwPktTx → UInt32) (p packet : LgwPktTx) (pktType : JitPktType) :
    JitNode.Made ⟨p, pktType, pktType.preDelay, postDelayOf toa packet pktType⟩ where
  preDelay_eq := rfl
  postDelay_eq hbeacon := by
    change pktType = .beacon at hbeacon
    subst hbeacon
    rfl

/-- Every call leaves the nodes ascending: it sorts what it changes. -/
theorem step_sorted (h : CircularlySorted s.queue.live) (e : JitEvent) :
    CircularlySorted (step qs toa alter s e).queue.live := by
  have hremove (q : JitQueue) (i : ℕ) : CircularlySorted (q.remove qs i).live := by
    rw [JitQueue.remove, live_jitSortQueue]
    exact circularlySorted_sort qs _
  cases e with
  | init => exact fun _ _ => List.Pairwise.nil
  | enqueue timeUs packet pktType =>
    by_cases hacc : Accepts toa s.queue timeUs packet pktType
    · rw [queue_step_of_accepts hacc, live_jitSortQueue]
      exact circularlySorted_sort qs _
    · rw [queue_step_of_not_accepts hacc]
      exact h
  | dequeue index =>
    show CircularlySorted (jitDequeue qs s.queue index).2.1.live
    unfold jitDequeue
    split_ifs with hbad h0
    · exact h
    · exact h
    · exact hremove _ _
  | peek timeUs =>
    exact jitPeek_invariant qs timeUs (P := fun q _ => CircularlySorted q.live)
      (fun q i _ _ _ _ => hremove q i) s.queue h

/-- **Every call leaves the nodes arranged.** -/
theorem step_arranged (h : s.queue.Arranged) (e : JitEvent) :
    (step qs toa alter s e).queue.Arranged where
  made n hn := by
    rcases mem_live_step h.spaced.numPkt_le hn with hold | ⟨_, packet, pktType, p, -, rfl⟩
    · exact h.made n hold
    · exact made_enqueued toa p packet pktType
  spaced := step_livePairwise JitNode.Spaced.symm h.spaced fun timeUs packet pktType _ hacc n hn =>
    hacc.spaced (made_enqueued toa _ packet pktType) hn (h.made n hn)
  sorted := step_sorted h.sorted e

/-- The stored nodes are arranged after every run. -/
theorem run_arranged (es : List JitEvent) :
    (Run.final (step qs toa alter) start es).queue.Arranged :=
  Run.invariant (P := fun s : JitLedger => s.queue.Arranged) (fun _ e h => step_arranged h e) es
    ⟨fun _ hn => absurd hn List.not_mem_nil, .init, fun _ _ => List.Pairwise.nil⟩

end JitLedger

/-! ## The line of packets ahead of now -/

/-- **The nodes stand in a line**, seen from a time: each is ahead by less than
a quarter of the counter, and behind the stretch reserved after those before. -/
structure Lined (timeUs : UInt32) (l : List JitNode) : Prop where
  made : ∀ n ∈ l, n.Made
  near : ∀ n ∈ l, fwd timeUs n.pkt.countUs < 2 ^ 30
  brief : ∀ n ∈ l, n.Brief
  inLine : l.Pairwise fun m n =>
    fwd timeUs m.pkt.countUs + m.postDelay.toNat + n.lead + txMarginDelay.toNat
      < fwd timeUs n.pkt.countUs

/-- What is behind the head of a line is a line. -/
theorem Lined.tail {timeUs : UInt32} {n : JitNode} {l : List JitNode} (h : Lined timeUs (n :: l)) :
    Lined timeUs l where
  made m hm := h.made m (List.mem_cons_of_mem n hm)
  near m hm := h.near m (List.mem_cons_of_mem n hm)
  brief m hm := h.brief m (List.mem_cons_of_mem n hm)
  inLine := (List.pairwise_cons.mp h.inLine).2

/-- **Arranged nodes that are near stand in a line.** -/
theorem JitQueue.Arranged.lined {q : JitQueue} (h : q.Arranged) {timeUs : UInt32}
    (hnear : ∀ n ∈ q.live, fwd timeUs n.pkt.countUs < 2 ^ 30)
    (hbrief : ∀ n ∈ q.live, n.Brief) : Lined timeUs q.live where
  made := h.made
  near := hnear
  brief := hbrief
  inLine := by
    have hsorted := h.sorted timeUs fun n hn => (hnear n hn).trans (by decide)
    refine (hsorted.and h.spaced.pairwise).imp_of_mem fun {m n} hm hn hmn => ?_
    obtain ⟨hle, hroom⟩ := hmn
    have hahead := (hroom (hbrief m hm) (hbrief n hn)).1
    rw [fwd_of_le hle] at hahead
    omega

section Search

variable {timeUs c post : UInt32} {m n : JitNode}

/-- **A packet far enough behind a node is clear of it.** -/
theorem clear_of_passed (hpost : post.toNat < 2 ^ 28) (hmade : n.Made) (hbrief : n.Brief)
    (hbehind : fwd timeUs n.pkt.countUs + n.postDelay.toNat + 42500 < fwd timeUs c)
    (hc : fwd timeUs c < 2 ^ 31) :
    collidesWith .downlinkClassC c JitPktType.downlinkClassC.preDelay post n = false := by
  have hpre : JitPktType.downlinkClassC.preDelay.toNat = 41500 := rfl
  have hmargin : txMarginDelay.toNat = 1000 := rfl
  have htarget := hmade.targetPreDelay_le .downlinkClassC
  have hle := hmade.preDelay_toNat_le
  unfold JitNode.Brief at hbrief
  refine (jitCollisionTest_eq_false_iff (by omega) (by omega)).mpr ?_
  rw [fwd_of_le (show fwd timeUs n.pkt.countUs ≤ fwd timeUs c by omega),
    fwd_of_lt (show fwd timeUs n.pkt.countUs < fwd timeUs c by omega)]
  omega

/-- **A packet far enough before a node is clear of it.** -/
theorem clear_of_ahead (hpost : post.toNat < 2 ^ 28) (hmade : n.Made) (hbrief : n.Brief)
    (hahead : fwd timeUs c + n.lead + post.toNat + 1000 < fwd timeUs n.pkt.countUs)
    (hn : fwd timeUs n.pkt.countUs < 2 ^ 30) :
    collidesWith .downlinkClassC c JitPktType.downlinkClassC.preDelay post n = false := by
  have hpre : JitPktType.downlinkClassC.preDelay.toNat = 41500 := rfl
  have hmargin : txMarginDelay.toNat = 1000 := rfl
  have htarget := hmade.targetPreDelay_le .downlinkClassC
  have hle := hmade.preDelay_toNat_le
  unfold JitNode.Brief at hbrief
  refine (jitCollisionTest_eq_false_iff (by omega) (by omega)).mpr ?_
  rw [fwd_of_lt (show fwd timeUs c < fwd timeUs n.pkt.countUs by omega),
    fwd_of_le (show fwd timeUs c ≤ fwd timeUs n.pkt.countUs by omega)]
  unfold JitNode.lead at hahead
  omega

/-- The final test asks for no more than the search does. -/
theorem collidesWith_of_collidesAt (hpost : post.toNat < 2 ^ 28) (hmade : n.Made)
    (hbrief : n.Brief)
    (hclear : collidesAt c JitPktType.downlinkClassC.preDelay post n = false) :
    collidesWith .downlinkClassC c JitPktType.downlinkClassC.preDelay post n = false := by
  have hpre : JitPktType.downlinkClassC.preDelay.toNat = 41500 := rfl
  have hmargin : txMarginDelay.toNat = 1000 := rfl
  have htarget := hmade.targetPreDelay_le .downlinkClassC
  have hle := hmade.preDelay_toNat_le
  unfold JitNode.Brief at hbrief
  obtain ⟨hafter, hbefore⟩ := (jitCollisionTest_eq_false_iff (by omega) (by omega)).mp hclear
  exact (jitCollisionTest_eq_false_iff (by omega) (by omega)).mpr ⟨hafter, by omega⟩

/-- Where the slot after a node lies, seen from now. -/
theorem fwd_slotAfter (hnear : fwd timeUs n.pkt.countUs < 2 ^ 30) (hbrief : n.Brief) :
    fwd timeUs (slotAfter JitPktType.downlinkClassC.preDelay n)
      = fwd timeUs n.pkt.countUs + n.postDelay.toNat + 82500 := by
  have hpre : JitPktType.downlinkClassC.preDelay.toNat = 41500 := rfl
  have hjit : txJitDelay.toNat = 40000 := rfl
  have hmargin : txMarginDelay.toNat = 1000 := rfl
  unfold JitNode.Brief at hbrief
  have hlt := fwd_lt timeUs (slotAfter JitPktType.downlinkClassC.preDelay n)
  obtain ⟨t, ht⟩ := fwd_turns timeUs n.pkt.countUs
  obtain ⟨u, hu⟩ := fwd_turns timeUs (slotAfter JitPktType.downlinkClassC.preDelay n)
  rw [slotAfter, UInt32.toNat_add, UInt32.toNat_add, UInt32.toNat_add, UInt32.toNat_add] at hu
  rw [slotAfter] at hlt ⊢
  omega

/-- **A slot that is free against the next node lies before it.** It is less than
twice `TX_JIT_DELAY` behind a place that was free of that node's stretch. -/
theorem slotAfter_lt_next {ns : List JitNode} (hpost : post.toNat < 2 ^ 28)
    (h : Lined timeUs (n :: m :: ns))
    (hclear : collidesAt (slotAfter JitPktType.downlinkClassC.preDelay n)
      JitPktType.downlinkClassC.preDelay post m = false) :
    fwd timeUs (slotAfter JitPktType.downlinkClassC.preDelay n) + m.preDelay.toNat + post.toNat
      + 1000 < fwd timeUs m.pkt.countUs := by
  have hn : n ∈ n :: m :: ns := List.mem_cons_self
  have hm : m ∈ n :: m :: ns := List.mem_cons_of_mem n List.mem_cons_self
  have hslot := fwd_slotAfter (h.near n hn) (h.brief n hn)
  have hnear := h.near n hn
  have hmbrief := h.brief m hm
  have hnbrief := h.brief n hn
  have hmpre := (h.made m hm).preDelay_toNat_le
  have hpre : JitPktType.downlinkClassC.preDelay.toNat = 41500 := rfl
  have hmargin : txMarginDelay.toNat = 1000 := rfl
  have hline := (List.pairwise_cons.mp h.inLine).1 m List.mem_cons_self
  unfold JitNode.Brief at hmbrief hnbrief
  obtain ⟨hafter, hbefore⟩ := (jitCollisionTest_eq_false_iff (by omega) (by omega)).mp hclear
  -- the slot cannot lie behind the next node: it would be within what is
  -- reserved after that node
  have hlt : fwd timeUs (slotAfter JitPktType.downlinkClassC.preDelay n)
      < fwd timeUs m.pkt.countUs := by
    by_contra hge
    rw [fwd_of_le (not_lt.mp hge)] at hafter
    rcases (h.made m hm).lead_cases with ⟨hbeacon, hlead⟩ | ⟨-, hlead⟩
    · have hreserved : m.postDelay.toNat = 2120000 := by
        rw [(h.made m hm).postDelay_eq hbeacon]
        rfl
      omega
    · omega
  rw [fwd_of_le hlt.le] at hbefore
  omega

/-- The slot after a node of the line is not far ahead. -/
theorem Lined.slotAfter_lt {l : List JitNode} (h : Lined timeUs l) (hn : n ∈ l) :
    fwd timeUs (slotAfter JitPktType.downlinkClassC.preDelay n) < 2 ^ 31 := by
  have hslot := fwd_slotAfter (h.near n hn) (h.brief n hn)
  have hnear := h.near n hn
  have hbrief := h.brief n hn
  unfold JitNode.Brief at hbrief
  omega

/-- **A slot behind a node is clear of it.** -/
theorem Lined.clear_of_behind {l : List JitNode} (h : Lined timeUs l) (hn : n ∈ l)
    (hpost : post.toNat < 2 ^ 28)
    (hbehind : fwd timeUs n.pkt.countUs + n.postDelay.toNat + 82500 ≤ fwd timeUs c)
    (hc : fwd timeUs c < 2 ^ 31) :
    collidesWith .downlinkClassC c JitPktType.downlinkClassC.preDelay post n = false :=
  clear_of_passed hpost (h.made n hn) (h.brief n hn) (by omega) hc

/-- **A slot that is free against the next node is clear of all behind it**: it lies before
that node, and so before those after it. -/
theorem Lined.clear_of_free {ns : List JitNode} (h : Lined timeUs (n :: m :: ns))
    (hpost : post.toNat < 2 ^ 28)
    (hfree : collidesAt (slotAfter JitPktType.downlinkClassC.preDelay n)
      JitPktType.downlinkClassC.preDelay post m = false) :
    ∀ k ∈ m :: ns, collidesWith .downlinkClassC (slotAfter JitPktType.downlinkClassC.preDelay n)
      JitPktType.downlinkClassC.preDelay post k = false := by
  intro k hk
  have hbefore := slotAfter_lt_next hpost h hfree
  have hm : m ∈ n :: m :: ns := List.mem_cons_of_mem n List.mem_cons_self
  have hk' : k ∈ n :: m :: ns := List.mem_cons_of_mem n hk
  refine clear_of_ahead hpost (h.made k hk') (h.brief k hk') ?_ (h.near k hk')
  have hmpre := (h.made m hm).le_preDelay
  rcases List.mem_cons.mp hk with rfl | hk
  · have hlead := (h.made k hk').lead_le .downlinkClassB
    have htarget := (h.made k hk').targetPreDelay_le .downlinkClassB
    omega
  · have hlater := (List.pairwise_cons.mp h.tail.inLine).1 k hk
    rcases (h.made k hk').lead_cases with ⟨-, hlead⟩ | ⟨-, hlead⟩ <;> omega

/-- **What the search finds**: a place behind the first node, not far ahead, and
clear of all nodes of the line. -/
theorem searchSlot_spec (hpost : post.toNat < 2 ^ 28) (l : List JitNode) (n : JitNode)
    (h : Lined timeUs (n :: l)) (asap : UInt32) :
    let s := searchSlot JitPktType.downlinkClassC.preDelay post (n :: l) asap
    fwd timeUs n.pkt.countUs + n.postDelay.toNat + 82500 ≤ fwd timeUs s
      ∧ fwd timeUs s < 2 ^ 31
      ∧ ∀ m ∈ n :: l,
        collidesWith .downlinkClassC s JitPktType.downlinkClassC.preDelay post m = false := by
  induction l generalizing n asap with
  | nil =>
    intro s
    -- behind the last node there is nothing to collide with
    have hn : n ∈ [n] := List.mem_cons_self
    have hslot : fwd timeUs s = _ := fwd_slotAfter (h.near n hn) (h.brief n hn)
    have hlt : fwd timeUs s < 2 ^ 31 := h.slotAfter_lt hn
    refine ⟨hslot.ge, hlt, fun m hm => ?_⟩
    rw [List.mem_singleton.mp hm]
    exact h.clear_of_behind hn hpost hslot.ge hlt
  | cons m ns ih =>
    intro s
    have hs : s = if collidesAt (slotAfter JitPktType.downlinkClassC.preDelay n)
          JitPktType.downlinkClassC.preDelay post m
        then searchSlot JitPktType.downlinkClassC.preDelay post (m :: ns)
          (slotAfter JitPktType.downlinkClassC.preDelay n)
        else slotAfter JitPktType.downlinkClassC.preDelay n := rfl
    have hn : n ∈ n :: m :: ns := List.mem_cons_self
    by_cases hcollides : collidesAt (slotAfter JitPktType.downlinkClassC.preDelay n)
        JitPktType.downlinkClassC.preDelay post m
    · -- the search moves up; the node left behind is before the next one
      rw [if_pos hcollides] at hs
      obtain ⟨hbehind, hlt, hclear⟩ :=
        ih m h.tail (slotAfter JitPktType.downlinkClassC.preDelay n)
      rw [← hs] at hbehind hlt hclear
      have hnext := (List.pairwise_cons.mp h.inLine).1 m List.mem_cons_self
      have hslot : fwd timeUs n.pkt.countUs + n.postDelay.toNat + 82500 ≤ fwd timeUs s := by omega
      refine ⟨hslot, hlt, fun k hk => ?_⟩
      rcases List.mem_cons.mp hk with rfl | hk
      · exact h.clear_of_behind hn hpost hslot hlt
      · exact hclear k hk
    · -- the search stops here: what is free of the next node is free of those after it
      rw [if_neg hcollides] at hs
      have hslot := fwd_slotAfter (h.near n hn) (h.brief n hn)
      have hlt := h.slotAfter_lt hn
      have hclear := h.clear_of_free hpost (Bool.eq_false_iff.mpr hcollides)
      rw [← hs] at hslot hlt hclear
      refine ⟨hslot.ge, hlt, fun k hk => ?_⟩
      rcases List.mem_cons.mp hk with rfl | hk
      · exact h.clear_of_behind hn hpost hslot.ge hlt
      · exact hclear k hk

end Search

/-! ## The slot of an immediate downlink -/

/-- **The time an immediate downlink is given** is far enough from now, and clear
of every stored node. -/
theorem asapCountUs_spec {q : JitQueue} {timeUs post : UInt32} (hpost : post.toNat < 2 ^ 28)
    (h : Lined timeUs q.live) :
    let c := asapCountUs q timeUs JitPktType.downlinkClassC.preDelay post
    42500 < fwd timeUs c
      ∧ ∀ n ∈ q.live,
        collidesWith .downlinkClassC c JitPktType.downlinkClassC.preDelay post n = false := by
  intro c
  by_cases hany : q.live.any
      (collidesAt (timeUs + 2 * txJitDelay) JitPktType.downlinkClassC.preDelay post)
  · have hc : c = searchSlot JitPktType.downlinkClassC.preDelay post q.live
        (timeUs + 2 * txJitDelay) := if_pos hany
    cases hlive : q.live with
    | nil =>
      rw [hlive] at hany
      exact absurd hany Bool.false_ne_true
    | cons n ns =>
      rw [hlive] at h hc
      obtain ⟨hbehind, -, hclear⟩ := searchSlot_spec hpost ns n h (timeUs + 2 * txJitDelay)
      rw [← hc] at hbehind hclear
      -- what is found lies behind the first node, and so far enough from now
      exact ⟨by omega, hclear⟩
  · have hc : c = timeUs + 2 * txJitDelay := if_neg hany
    refine ⟨?_, fun n hn => ?_⟩
    · rw [hc, fwd, UInt32.add_comm, UInt32.add_sub_cancel]
      decide
    · refine collidesWith_of_collidesAt hpost (h.made n hn) (h.brief n hn) ?_
      rw [hc]
      exact Bool.eq_false_iff.mpr fun hcollides => hany (List.any_eq_true.mpr ⟨n, hn, hcollides⟩)

/-- **An immediate downlink always finds a slot.** After every run, if the queue
is not full, its packets are ahead of a time by less than 2^30 microseconds, and
they and a class C packet take less than 2^28 microseconds, then enqueueing that
packet at that time returns no error: the departure time found is not too late,
and collides with no stored packet under the delays of the final test. -/
theorem jitEnqueue_classC_ok (qs : Qsort JitNode) (toa : LgwPktTx → UInt32) (es : List JitEvent)
    (timeUs : UInt32) (packet : LgwPktTx) :
    let q := (Run.final (JitLedger.step qs toa timedPacket) JitLedger.start es).queue
    q.numPkt.toNat < queueMax →
      (∀ n ∈ q.live, fwd timeUs n.pkt.countUs < 2 ^ 30 ∧ n.postDelay.toNat < 2 ^ 28) →
      (toa packet).toNat * 1000 < 2 ^ 28 →
      (jitEnqueue qs toa q timeUs packet .downlinkClassC).1 = .ok
        ∧ ¬ departure toa q timeUs packet .downlinkClassC - timeUs
          ≤ txStartDelay + txMarginDelay + txJitDelay
        ∧ ∀ n ∈ q.live, collidesWith .downlinkClassC
            (departure toa q timeUs packet .downlinkClassC) JitPktType.downlinkClassC.preDelay
            (postDelayOf toa packet .downlinkClassC) n = false := by
  intro q hroom hqueue htoa
  have harranged : q.Arranged := JitLedger.run_arranged es
  have hline : Lined timeUs q.live :=
    harranged.lined (fun n hn => (hqueue n hn).1) (fun n hn => (hqueue n hn).2)
  have hpost : (postDelayOf toa packet .downlinkClassC).toNat < 2 ^ 28 := by
    show (toa packet * 1000).toNat < 2 ^ 28
    rw [UInt32.toNat_mul]
    exact lt_of_le_of_lt (Nat.mod_le _ _) htoa
  obtain ⟨hfar, hclear⟩ := asapCountUs_spec hpost hline
  have hinTime : ¬ departure toa q timeUs packet .downlinkClassC - timeUs
      ≤ txStartDelay + txMarginDelay + txJitDelay := by
    rw [UInt32.le_iff_toNat_le]
    exact not_le_of_gt hfar
  have hacc : Accepts toa q timeUs packet .downlinkClassC :=
    ⟨hroom.ne, hinTime, fun hty => hty.elim nofun nofun, hclear⟩
  exact ⟨(jitEnqueue_fst_eq_ok_iff qs).mpr hacc, hinTime, hclear⟩

/-- A class C packet between a class A packet and a beacon. -/
theorem jitEnqueue_classC_ok_between :
    let q := (Run.final (JitLedger.step (Qsort.insertion JitNode) (lgwTimeOnAir 3) timedPacket)
      JitLedger.start [.enqueue 4294000000 (loraAt 4294900000) .downlinkClassA,
        .enqueue 4294000000 (loraAt 20000000) .beacon]).queue
    (jitEnqueue (Qsort.insertion JitNode) (lgwTimeOnAir 3) q 4294800000 (loraAt 0)
        .downlinkClassC).1 = .ok
      ∧ ¬ departure (lgwTimeOnAir 3) q 4294800000 (loraAt 0) .downlinkClassC - 4294800000
        ≤ txStartDelay + txMarginDelay + txJitDelay
      ∧ ∀ n ∈ q.live, collidesWith .downlinkClassC
          (departure (lgwTimeOnAir 3) q 4294800000 (loraAt 0) .downlinkClassC)
          JitPktType.downlinkClassC.preDelay
          (postDelayOf (lgwTimeOnAir 3) (loraAt 0) .downlinkClassC) n = false :=
  jitEnqueue_classC_ok (Qsort.insertion JitNode) (lgwTimeOnAir 3) _ 4294800000 (loraAt 0)
    (by decide +kernel) (by decide +kernel) (by decide +kernel)
