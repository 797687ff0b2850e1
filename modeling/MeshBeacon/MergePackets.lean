import MeshBeacon.Circle
import MeshBeacon.Receive
import Mathlib.Logic.Relation

/-!
# Clearing a batch of duplicates

`merge_packets` looks for two packets that are the same, deletes one of the two and
starts over, until there are no two left, and sorts what stays.

Being the same is not transitive: the timestamps of two packets may be 24
microseconds apart. So a packet that is deleted need not be the same as one that
stays. What there is instead is a chain of packets of the batch, each the same as
the next, from every packet to one that stays; it grows by a link when a packet
of a chain is deleted, because the other of the two is still there. A packet whose CRC
is right is deleted only for another of which that is true too, and so its chain
can be asked to end with such a packet.
-/

open Hal

/-! ## Being the same -/

variable (absMin : Int32)

/-- The absolute value does not depend on the sign, not even that of the least integer. -/
theorem absInt_neg (d : Int32) : absInt absMin (-d) = absInt absMin d := by
  have hneg := Int32.toInt_neg d
  have hlow := Int32.le_toInt d
  have hhigh := Int32.toInt_lt d
  rw [Int.bmod_def] at hneg
  unfold absInt
  simp only [Int32.lt_iff_toInt_lt, Int32.toInt_zero, ← Int32.toInt_inj, Int32.toInt_minValue]
  -- the least integer is its own negation
  by_cases hmin : d.toInt = -2 ^ 31
  · rw [if_pos hmin, if_pos (by omega)]
  · rw [if_neg hmin, if_neg (by omega)]
    split_ifs with hminus hd hd
    · omega
    · rw [Int32.neg_neg]
    · rfl
    · -- only zero is neither negative nor the negation of something negative
      omega

theorem isSamePkt_comm (p1 p2 : LgwPktRx) :
    isSamePkt absMin p1 p2 = isSamePkt absMin p2 p1 := by
  have hdiff : absInt absMin (p1.countUs - p2.countUs).toInt32
      = absInt absMin (p2.countUs - p1.countUs).toInt32 := by
    rw [← UInt32.neg_sub, UInt32.toInt32_neg, absInt_neg]
  rw [Bool.eq_iff_iff]
  unfold isSamePkt
  simp only [Bool.and_eq_true, decide_eq_true_eq, hdiff]
  constructor
  · rintro ⟨⟨⟨⟨hcount, hchain⟩, hrate⟩, hsize⟩, hpayload⟩
    exact ⟨⟨⟨⟨hcount, hchain.symm⟩, hrate.symm⟩, hsize.symm⟩, hsize ▸ hpayload.symm⟩
  · rintro ⟨⟨⟨⟨hcount, hchain⟩, hrate⟩, hsize⟩, hpayload⟩
    exact ⟨⟨⟨⟨hcount, hchain.symm⟩, hrate.symm⟩, hsize.symm⟩, hsize ▸ hpayload.symm⟩

/-- Two packets of the batch that are the same. -/
def Link (p : List LgwPktRx) (a b : LgwPktRx) : Prop := a ∈ p ∧ b ∈ p ∧ isSamePkt absMin a b

/-- **A chain of packets of the batch**, each the same as the next. -/
def Linked (p : List LgwPktRx) : LgwPktRx → LgwPktRx → Prop :=
  Relation.ReflTransGen (Link absMin p)

variable {absMin}

/-- A chain of some packets is one of more packets. -/
theorem Linked.mono {p p' : List LgwPktRx} {a b : LgwPktRx} (h : Linked absMin p' a b)
    (hsub : p' ⊆ p) : Linked absMin p a b :=
  Relation.ReflTransGen.lift id
    (fun _ _ hlink => ⟨hsub hlink.1, hsub hlink.2.1, hlink.2.2⟩) _ _ h

/-! ## Deleting one of two -/

section Delete

variable {p : List LgwPktRx} {j k : ℕ}

theorem pktAt_of_lt (hj : j < p.length) : pktAt p j = p[j] := by
  unfold pktAt
  rw [List.getElem?_eq_getElem hj, Option.getD_some]

theorem pktAt_mem (hj : j < p.length) : pktAt p j ∈ p := by
  rw [pktAt_of_lt hj]
  exact List.getElem_mem hj

/-- What `remove_pkt` leaves is the array without the packet at the index, in another order. -/
theorem removePkt_perm_eraseIdx (hj : j < p.length) : (removePkt p j).Perm (p.eraseIdx j) := by
  have hlast : p[p.length - 1]? = some (pktAt p (p.length - 1)) := by
    rw [pktAt_of_lt (by omega)]
    exact List.getElem?_eq_getElem _
  unfold removePkt
  split_ifs with hend
  · rw [hend, List.eraseIdx_length_sub_one]
  · rw [List.dropLast_eq_take, List.length_set]
    exact List.set_dropLast_perm_eraseIdx (by omega) (by omega) hlast

/-- Together with the packet at the index it is the array. -/
theorem removePkt_perm (hj : j < p.length) : (pktAt p j :: removePkt p j).Perm p := by
  rw [pktAt_of_lt hj]
  exact ((removePkt_perm_eraseIdx hj).cons _).trans (List.getElem_cons_eraseIdx_perm hj)

theorem pktAt_mem_removePkt (hj : j < p.length) (hk : k < p.length) (hne : k ≠ j) :
    pktAt p k ∈ removePkt p j := by
  rw [(removePkt_perm_eraseIdx hj).mem_iff, pktAt_of_lt hk]
  exact List.mem_eraseIdx_iff_getElem.mpr ⟨k, hk, hne, rfl⟩

/-- **Which of two is deleted**: one of the two indices, and a packet whose CRC is right only
for another. -/
theorem pktDupIdx_cases (hj : (pktAt p j).status = statCrcOk ∨ (pktAt p j).status = statCrcBad)
    (hk : (pktAt p k).status = statCrcOk ∨ (pktAt p k).status = statCrcBad) :
    (pktDupIdx p j k = k ∧ ((pktAt p k).status = statCrcOk → (pktAt p j).status = statCrcOk))
      ∨ (pktDupIdx p j k = j
        ∧ ((pktAt p j).status = statCrcOk → (pktAt p k).status = statCrcOk)) := by
  have hne : statCrcOk ≠ statCrcBad := by decide
  unfold pktDupIdx
  split_ifs with hfirst hsecond hftime
  · exact Or.inl ⟨rfl, fun _ => hfirst.1⟩
  · exact Or.inr ⟨rfl, fun _ => hsecond.2⟩
  · refine Or.inl ⟨rfl, fun hok => hj.resolve_right fun hbad => hsecond ⟨hbad, hok⟩⟩
  · refine Or.inr ⟨rfl, fun hok => hk.resolve_right fun hbad => hfirst ⟨hok, hbad⟩⟩

/-- **The other of the two stays**: what is deleted is the same as a packet that is left,
whose CRC is right if its own is. -/
theorem exists_same_removePkt (hstatus : ∀ q ∈ p, q.status = statCrcOk ∨ q.status = statCrcBad)
    (hjk : j < k) (hk : k < p.length) (hsame : isSamePkt absMin (pktAt p j) (pktAt p k)) :
    pktDupIdx p j k < p.length ∧
      ∃ q ∈ removePkt p (pktDupIdx p j k), isSamePkt absMin (pktAt p (pktDupIdx p j k)) q
        ∧ ((pktAt p (pktDupIdx p j k)).status = statCrcOk → q.status = statCrcOk) := by
  have hj : j < p.length := hjk.trans hk
  obtain ⟨hdup, hok⟩ | ⟨hdup, hok⟩ :=
    pktDupIdx_cases (hstatus _ (pktAt_mem hj)) (hstatus _ (pktAt_mem hk))
  · rw [hdup]
    refine ⟨hk, pktAt p j, pktAt_mem_removePkt hk hj hjk.ne, ?_, hok⟩
    rw [isSamePkt_comm]
    exact hsame
  · rw [hdup]
    exact ⟨hj, pktAt p k, pktAt_mem_removePkt hj hk hjk.ne', hsame, hok⟩

end Delete

/-! ## The search -/

/-- **What the search finds**: the first later packet that is the same. -/
theorem find?_same_eq_some {p : List LgwPktRx} {j k : ℕ}
    (h : (List.range' (j + 1) (p.length - (j + 1))).find?
      (fun k => isSamePkt absMin (pktAt p j) (pktAt p k)) = some k) :
    j < k ∧ k < p.length ∧ isSamePkt absMin (pktAt p j) (pktAt p k) := by
  have hmem := List.mem_of_find?_eq_some h
  rw [List.mem_range'_1] at hmem
  exact ⟨by omega, by omega,
    List.find?_some (p := fun k => isSamePkt absMin (pktAt p j) (pktAt p k)) h⟩

/-- **No packet before the index is the same as a later one.** -/
def Searched (absMin : Int32) (p : List LgwPktRx) (j : ℕ) : Prop :=
  ∀ i < j, ∀ k, i < k → k < p.length → isSamePkt absMin (pktAt p i) (pktAt p k) = false

/-- A search without result extends what has been searched. -/
theorem Searched.succ {p : List LgwPktRx} {j : ℕ} (h : Searched absMin p j)
    (hnone : (List.range' (j + 1) (p.length - (j + 1))).find?
      (fun k => isSamePkt absMin (pktAt p j) (pktAt p k)) = none) :
    Searched absMin p (j + 1) := by
  intro i hi k hik hk
  obtain hlt | rfl := Nat.lt_succ_iff_lt_or_eq.mp hi
  · exact h i hlt k hik hk
  · have hmem : k ∈ List.range' (i + 1) (p.length - (i + 1)) := by
      rw [List.mem_range'_1]
      omega
    exact Bool.eq_false_iff.mpr (List.find?_eq_none.mp hnone k hmem)

/-- When all has been searched, no two packets are the same. -/
theorem Searched.pairwise {p : List LgwPktRx} {j : ℕ} (h : Searched absMin p j)
    (hj : p.length ≤ j) : p.Pairwise fun a b => isSamePkt absMin a b = false := by
  refine List.pairwise_iff_getElem.mpr fun i k hi hk hik => ?_
  have hsame := h i (by omega) k hik hk
  rwa [pktAt_of_lt hi, pktAt_of_lt hk] at hsame

/-- **What a batch is turned into**: some of its packets, no two of which are the same, and for
each packet of the batch a chain to one of them, whose CRC is right if its own is. -/
structure Merged (absMin : Int32) (p r : List LgwPktRx) : Prop where
  sub : r.Subperm p
  distinct : r.Pairwise fun a b => isSamePkt absMin a b = false
  linked : ∀ q ∈ p, ∃ s ∈ r, Linked absMin p q s
    ∧ (q.status = statCrcOk → s.status = statCrcOk)

theorem Merged.refl {p : List LgwPktRx}
    (h : p.Pairwise fun a b => isSamePkt absMin a b = false) : Merged absMin p p :=
  ⟨List.Subperm.refl p, h, fun q hq => ⟨q, hq, Relation.ReflTransGen.refl, id⟩⟩

/-- **A packet that is the same as another can be deleted first**: its chain is that of the
other, with one more link. -/
theorem Merged.cons {p p' r : List LgwPktRx} {a b : LgwPktRx} (h : Merged absMin p' r)
    (hp : (a :: p').Perm p) (hb : b ∈ p') (hsame : isSamePkt absMin a b)
    (hok : a.status = statCrcOk → b.status = statCrcOk) : Merged absMin p r where
  sub := h.sub.trans ((List.sublist_cons_self a p').subperm.trans hp.subperm)
  distinct := h.distinct
  linked := by
    have hsub : p' ⊆ p := fun q hq => hp.subset (List.mem_cons_of_mem a hq)
    intro q hq
    obtain rfl | hq' := List.mem_cons.mp (hp.symm.subset hq)
    · obtain ⟨s, hs, hlink, hsok⟩ := h.linked b hb
      exact ⟨s, hs, Relation.ReflTransGen.head ⟨hq, hsub hb, hsame⟩ (hlink.mono hsub),
        fun hqok => hsok (hok hqok)⟩
    · obtain ⟨s, hs, hlink, hsok⟩ := h.linked q hq'
      exact ⟨s, hs, hlink.mono hsub, hsok⟩

/-- The order of what stays is nothing to this. -/
theorem Merged.perm {p r r' : List LgwPktRx} (h : Merged absMin p r) (hr : r'.Perm r) :
    Merged absMin p r' where
  sub := hr.subperm.trans h.sub
  distinct := by
    refine (hr.pairwise_iff fun hab => ?_).mpr h.distinct
    rw [isSamePkt_comm]
    exact hab
  linked q hq := by
    obtain ⟨s, hs, hlink⟩ := h.linked q hq
    exact ⟨s, hr.mem_iff.mpr hs, hlink⟩

/-- **The search clears the batch**, from any index up to which it has been searched. -/
theorem merged_mergeLoop (p : List LgwPktRx) (j : ℕ) (hsearched : Searched absMin p j)
    (hstatus : ∀ q ∈ p, q.status = statCrcOk ∨ q.status = statCrcBad) :
    Merged absMin p (mergeLoop absMin p j) := by
  induction p, j using mergeLoop.induct absMin with
  | case1 p j hj k hfind ih =>
    obtain ⟨hjk, hk, hsame⟩ := find?_same_eq_some hfind
    obtain ⟨hdup, q, hq, hsameq, hok⟩ := exists_same_removePkt hstatus hjk hk hsame
    have hperm := removePkt_perm hdup
    rw [mergeLoop, if_pos hj, hfind]
    refine (ih ?_ ?_).cons hperm hq hsameq hok
    · exact fun i hi => absurd hi (Nat.not_lt_zero i)
    · exact fun q hq => hstatus q (hperm.subset (List.mem_cons_of_mem _ hq))
  | case2 p j hj hnone ih =>
    rw [mergeLoop, if_pos hj, hnone]
    exact ih (hsearched.succ hnone) hstatus
  | case3 p j hj =>
    rw [mergeLoop, if_neg hj]
    exact Merged.refl (hsearched.pairwise (Nat.not_lt.mp hj))

/-! ## The order -/

/-- **The comparator orders packets of one half of the circle.** -/
theorem totalPreorderOn_comparePktTmst {b : UInt32} {p : List LgwPktRx}
    (h : ∀ q ∈ p, Circle.fwd b q.countUs < 2 ^ 31) : TotalPreorderOn comparePktTmst p where
  swap q hq s hs := by
    unfold comparePktTmst
    rw [Circle.toInt_sub_toInt32 (h q hq) (h s hs), Circle.toInt_sub_toInt32 (h s hs) (h q hq)]
    omega
  trans q hq s hs t ht := by
    unfold comparePktTmst
    rw [Circle.toInt_sub_toInt32 (h q hq) (h s hs), Circle.toInt_sub_toInt32 (h s hs) (h t ht),
      Circle.toInt_sub_toInt32 (h q hq) (h t ht)]
    omega

/-- **Clearing a batch.** Of packets whose CRC is right or bad, some stay: no two that are the
same, and for each packet of the batch one it has a chain to, whose CRC is right if its own is.
Packets of one half of the circle come out in the order of their timestamps. -/
theorem merged_mergePackets (absMin : Int32) (qs : Qsort LgwPktRx) (p : List LgwPktRx)
    (hstatus : ∀ q ∈ p, q.status = statCrcOk ∨ q.status = statCrcBad) :
    Merged absMin p (mergePackets absMin qs p)
      ∧ ∀ b, (∀ q ∈ p, Circle.fwd b q.countUs < 2 ^ 31) →
        (mergePackets absMin qs p).Pairwise fun q s =>
          Circle.fwd b q.countUs ≤ Circle.fwd b s.countUs := by
  have hloop : Merged absMin p (mergeLoop absMin p 0) :=
    merged_mergeLoop p 0 (fun i hi => absurd hi (Nat.not_lt_zero i)) hstatus
  refine ⟨hloop.perm (qs.perm _ _), fun b hb => ?_⟩
  have hhalf : ∀ q ∈ mergeLoop absMin p 0, Circle.fwd b q.countUs < 2 ^ 31 :=
    fun q hq => hb q (hloop.sub.subset hq)
  refine (qs.sorted _ _ (totalPreorderOn_comparePktTmst hhalf)).imp_of_mem ?_
  intro q s hq hs hle
  rw [Qsort.mem_sort] at hq hs
  unfold comparePktTmst at hle
  rw [Circle.toInt_sub_toInt32 (hhalf q hq) (hhalf s hs)] at hle
  omega

/-- Three packets in a row of 20 microseconds, the last without a right CRC. -/
theorem merged_mergePackets_three :
    let packet (count : UInt32) (status : UInt8) : LgwPktRx :=
      { LgwPktRx.zero with countUs := count, status := status }
    let p := [packet 40 statCrcBad, packet 20 statCrcOk, packet 0 statCrcOk]
    Merged Int32.minValue p (mergePackets Int32.minValue (Qsort.insertion _) p)
      ∧ ∀ b, (∀ q ∈ p, Circle.fwd b q.countUs < 2 ^ 31) →
        (mergePackets Int32.minValue (Qsort.insertion _) p).Pairwise fun q s =>
          Circle.fwd b q.countUs ≤ Circle.fwd b s.countUs :=
  merged_mergePackets _ _ _ (by decide)
