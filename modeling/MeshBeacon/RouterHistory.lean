import MeshBeacon.DuckRouter
import Mathlib.Data.UInt

/-!
# Histories of the routing table

What a router has been told and when decides what its table holds: the records
of the insertions kept. Three questions are asked here of every history.

How old is what is kept? An insertion first evicts, at one reading of the clock,
and then records, at another; on a clock that does not go back nothing is kept
that was too old at the first reading, and nothing else is evicted.

Which records stand under the key of a destination? Those inserted for it, as
long as keys tell destinations apart, which the keys of identifiers with
characters that are not printable do not.

Which paths to a destination are kept? A record does not keep its next hop, so an
insertion cannot tell an older record for the same path from one for another.
-/

variable {S : Type*}

/-! ## The clock -/

/-- The readings of the clock in an event, in their order. -/
def RouterEvent.readings : RouterEvent S → List UInt64
  | .insert _ _ _ evictAt insertAt => [evictAt, insertAt]
  | .lookup _ => []

/-- The clock does not go back. -/
def ClockForward (es : List (RouterEvent S)) : Prop :=
  (es.flatMap RouterEvent.readings).Pairwise (· ≤ ·)

instance (es : List (RouterEvent S)) : Decidable (ClockForward es) :=
  inferInstanceAs (Decidable (List.Pairwise _ _))

/-- A record may be this old. -/
def Neighbor.FreshAt (now : UInt64) (n : Neighbor S) : Prop :=
  now.toNat ≤ n.lastSeen.toNat + routerTtl.toNat

instance (now : UInt64) (n : Neighbor S) : Decidable (n.FreshAt now) :=
  inferInstanceAs (Decidable (_ ≤ _))

/-- Eviction measures the age of a record that is not of the future. -/
theorem routerTtl_lt_sub_iff {now : UInt64} {n : Neighbor S} (h : n.lastSeen ≤ now) :
    routerTtl < now - n.lastSeen ↔ ¬ n.FreshAt now := by
  unfold Neighbor.FreshAt
  rw [UInt64.lt_iff_toNat_lt, UInt64.toNat_sub_of_le _ _ h, Nat.not_le, Nat.lt_sub_iff_add_lt']

theorem keptAfter_append_singleton (es : List (RouterEvent S)) (e : RouterEvent S) :
    keptAfter (es ++ [e]) = keptStep (keptAfter es) e := Run.final_append [] es [e]

/-- The insertions an insertion leaves: those that have not outlived their time and are
not older for the same key. -/
def survivors (kept : List (Insertion S)) (deviceID : Duid) (evictAt insertAt : UInt64) :
    List (Insertion S) :=
  (kept.filter (fun i => !(routerTtl < evictAt - i.seen))).filter
    (fun i => !(i.seen < insertAt && i.deviceID.key = deviceID.key))

theorem mem_survivors {kept : List (Insertion S)} {deviceID : Duid} {evictAt insertAt : UInt64}
    {i : Insertion S} : i ∈ survivors kept deviceID evictAt insertAt ↔
      i ∈ kept ∧ ¬ routerTtl < evictAt - i.seen
        ∧ ¬ (i.seen < insertAt ∧ i.deviceID.key = deviceID.key) := by
  simp only [survivors, List.mem_filter, Bool.not_eq_true', Bool.and_eq_false_iff,
    decide_eq_false_iff_not, and_assoc, not_and_or]

/-- After an insertion these are kept, and the insertion itself. -/
theorem keptAfter_insert (es : List (RouterEvent S)) (deviceID nextHop : Duid) (signalInfo : S)
    (evictAt insertAt : UInt64) :
    keptAfter (es ++ [.insert deviceID nextHop signalInfo evictAt insertAt])
      = survivors (keptAfter es) deviceID evictAt insertAt
        ++ [⟨deviceID, nextHop, signalInfo, insertAt⟩] := keptAfter_append_singleton es _

/-- Whatever is kept after an insertion is one of these. -/
theorem mem_keptAfter_insert {es : List (RouterEvent S)} {deviceID nextHop : Duid} {signalInfo : S}
    {evictAt insertAt : UInt64} {i : Insertion S} :
    i ∈ keptAfter (es ++ [.insert deviceID nextHop signalInfo evictAt insertAt]) ↔
      i ∈ survivors (keptAfter es) deviceID evictAt insertAt
        ∨ i = ⟨deviceID, nextHop, signalInfo, insertAt⟩ := by
  rw [keptAfter_insert, List.mem_append, List.mem_singleton]

/-- What is kept was recorded at a reading of the clock. -/
theorem seen_mem_readings {es : List (RouterEvent S)} {i : Insertion S} (hi : i ∈ keptAfter es) :
    i.seen ∈ es.flatMap RouterEvent.readings := by
  induction es using List.reverseRecOn with
  | nil => exact absurd hi List.not_mem_nil
  | append_singleton es e ih =>
    rw [List.flatMap_append, List.mem_append]
    cases e with
    | insert deviceID nextHop signalInfo evictAt insertAt =>
      obtain hold | rfl := mem_keptAfter_insert.mp hi
      · exact Or.inl (ih (mem_survivors.mp hold).1)
      · exact Or.inr (by simp [RouterEvent.readings])
    | lookup target =>
      rw [keptAfter_append_singleton] at hi
      exact Or.inl (ih hi)

/-- A record in the table is that of an insertion kept for its key. -/
theorem Represents.exists_of_mem {routingTable : RoutingTable S} {kept : List (Insertion S)}
    (h : Represents routingTable kept) {key : List UInt8} {n : Neighbor S}
    (hn : n ∈ (routingTable key).getD []) :
    ∃ i ∈ kept, i.deviceID.key = key ∧ i.neighbor = n := by
  obtain ⟨i, hi, hin⟩ := List.mem_map.mp ((h.perm key).mem_iff.mp hn)
  exact ⟨i, List.mem_of_mem_filter hi, of_decide_eq_true (List.mem_filter.mp hi).2, hin⟩

/-- The readings before an insertion are no later than its own, and these are in
order. -/
theorem ClockForward.insert {es : List (RouterEvent S)} {deviceID nextHop : Duid} {signalInfo : S}
    {evictAt insertAt : UInt64}
    (h : ClockForward (es ++ [.insert deviceID nextHop signalInfo evictAt insertAt])) :
    (∀ t ∈ es.flatMap RouterEvent.readings, t ≤ evictAt) ∧ evictAt ≤ insertAt := by
  unfold ClockForward at h
  rw [List.flatMap_append, List.flatMap_singleton, List.pairwise_append] at h
  obtain ⟨-, hown, hbefore⟩ := h
  exact ⟨fun t ht => hbefore t ht evictAt List.mem_cons_self,
    (List.pairwise_cons.mp hown).1 insertAt List.mem_cons_self⟩

section Ages

variable [LinearOrder S]

theorem lastSeen_le_of_mem {es : List (RouterEvent S)} {now : UInt64}
    (hnow : ∀ t ∈ es.flatMap RouterEvent.readings, t ≤ now) {key : List UInt8} {n : Neighbor S}
    (hn : n ∈ (tableAfter es key).getD []) : n.lastSeen ≤ now := by
  obtain ⟨i, hi, -, rfl⟩ := (represents_after es).exists_of_mem hn
  exact hnow i.seen (seen_mem_readings hi)

/-- **The table is tidied at a time**: no key has an empty list, no record is too
old, and what was evicted was too old. -/
structure Tidied (now : UInt64) (before evicted after : RoutingTable S) : Prop where
  ne_nil : ∀ key, after key ≠ some []
  fresh : ∀ key, ∀ n ∈ (after key).getD [], n.FreshAt now
  evicted : ∀ key, (evicted key).getD [] = ((before key).getD []).filter (·.FreshAt now)

/-- A lookup that finds a list finds a front. -/
theorem getBestNextHop_fst_ne_none {routingTable : RoutingTable S}
    (hne : ∀ key, routingTable key ≠ some []) {target : Duid}
    (hfound : routingTable target.key ≠ none) : (getBestNextHop target routingTable).1 ≠ none := by
  obtain ⟨l, hl⟩ := Option.ne_none_iff_exists'.mp hfound
  rw [getBestNextHop_of_some hl]
  dsimp only
  intro hnone
  have hsorted := List.head?_eq_none_iff.mp (Option.map_eq_none_iff.mp hnone)
  have hlen := congrArg List.length hsorted
  rw [List.length_mergeSort] at hlen
  exact hne target.key (hl.trans (congrArg some (List.eq_nil_of_length_eq_zero hlen)))

/-- **An insertion tidies the table** at the time it reads first, when the clock does not
go back; and from then on no key has an empty list, so a lookup that finds a list
finds a front. -/
theorem tidied_after_insert (es : List (RouterEvent S)) (deviceID nextHop : Duid) (signalInfo : S)
    (evictAt insertAt : UInt64)
    (hclock : ClockForward (es ++ [.insert deviceID nextHop signalInfo evictAt insertAt])) :
    Tidied evictAt (tableAfter es) (evictStaleEntries routerTtl evictAt (tableAfter es))
        (tableAfter (es ++ [.insert deviceID nextHop signalInfo evictAt insertAt]))
      ∧ ∀ later : List (RouterEvent S),
        let routingTable :=
          tableAfter (es ++ .insert deviceID nextHop signalInfo evictAt insertAt :: later)
        (∀ key, routingTable key ≠ some []) ∧ ∀ target : Duid, routingTable target.key ≠ none →
          (getBestNextHop target routingTable).1 ≠ none := by
  obtain ⟨hbefore, hown⟩ := hclock.insert
  refine ⟨⟨(represents_after _).ne_nil, fun key n hn => ?_, fun key => ?_⟩, fun later => ?_⟩
  · -- a record kept is one that has not outlived its time, or the new one
    obtain ⟨i, hi, -, rfl⟩ := (represents_after _).exists_of_mem hn
    obtain hold | rfl := mem_keptAfter_insert.mp hi
    · obtain ⟨hkept, hinTime, -⟩ := mem_survivors.mp hold
      have hseen : i.neighbor.lastSeen ≤ evictAt := hbefore i.seen (seen_mem_readings hkept)
      exact not_not.mp ((routerTtl_lt_sub_iff hseen).not.mp hinTime)
    · exact Nat.le_add_right_of_le (UInt64.le_iff_toNat_le.mp hown)
  · rw [getD_evictStaleEntries]
    refine List.filter_congr fun n hn => ?_
    rw [decide_eq_decide.mpr (routerTtl_lt_sub_iff (lastSeen_le_of_mem hbefore hn)), decide_not,
      Bool.not_not]
  · have hne := (represents_after
      (es ++ .insert deviceID nextHop signalInfo evictAt insertAt :: later)).ne_nil
    exact ⟨hne, fun target hfound => getBestNextHop_fst_ne_none hne hfound⟩

/-- A record that is as old as it may be, when the next one comes. -/
theorem tidied_after_insert_second :
    Tidied 300000 (tableAfter [.insert (letterDuid 0x41) (letterDuid 0x42) (72 : ℤ) 0 0])
      (evictStaleEntries routerTtl 300000
        (tableAfter [.insert (letterDuid 0x41) (letterDuid 0x42) (72 : ℤ) 0 0]))
      (tableAfter [.insert (letterDuid 0x41) (letterDuid 0x42) (72 : ℤ) 0 0,
        .insert (letterDuid 0x43) (letterDuid 0x43) 90 300000 300001]) :=
  (tidied_after_insert [.insert (letterDuid 0x41) (letterDuid 0x42) (72 : ℤ) 0 0]
    (letterDuid 0x43) (letterDuid 0x43) 90 300000 300001 (by decide)).1

end Ages

/-! ## Keys

An answer is the key it was looked up with. The key of an identifier that is not
printable is a text of thirty characters, and the same for all of them. -/

namespace Duid

/-- The key of an identifier that is not printable. -/
theorem key_of_not_printable {d : Duid} (h : ¬ d.Printable) :
    d.key = DuckUtils.ascii "ERROR: Non-printable character" := if_neg h

theorem lt_length_key {d : Duid} (h : ¬ d.Printable) : 8 < d.key.length := by
  rw [key_of_not_printable h]
  decide

end Duid

section Keys

variable [LinearOrder S] {routingTable : RoutingTable S} {kept : List (Insertion S)}

/-- An answer is what a record under the key gives. -/
theorem exists_of_mem_getBestNextHop {target : Duid} {answer : List UInt8}
    (h : answer ∈ (getBestNextHop target routingTable).1) :
    ∃ n ∈ (routingTable target.key).getD [], n.getDeviceId = answer := by
  cases hl : routingTable target.key with
  | none =>
    rw [getBestNextHop_of_none hl] at h
    exact absurd h.symm (Option.some_ne_none answer)
  | some l =>
    rw [getBestNextHop_of_some hl] at h
    obtain ⟨n, hn, hanswer⟩ := Option.map_eq_some_iff.mp h
    exact ⟨n, List.mem_mergeSort.mp (List.mem_of_mem_head? hn), hanswer⟩

/-- **An answer is the key.** -/
theorem Represents.answer_eq_key (h : Represents routingTable kept) {target : Duid}
    {answer : List UInt8} (hanswer : answer ∈ (getBestNextHop target routingTable).1) :
    answer = target.key := by
  obtain ⟨n, hn, rfl⟩ := exists_of_mem_getBestNextHop hanswer
  obtain ⟨i, -, hkey, rfl⟩ := h.exists_of_mem hn
  exact hkey

/-- **A lookup is of its own destination**: the records it sees were inserted for it,
and its answer fits an identifier and is the bytes of a record seen. -/
structure LooksUpOwn (routingTable : RoutingTable S) (d : Duid) : Prop where
  own : ∀ n ∈ (routingTable d.key).getD [], n.deviceId = d
  fits : ∀ answer ∈ (getBestNextHop d routingTable).1, answer.length ≤ 8
  bytes : ∀ answer ∈ (getBestNextHop d routingTable).1,
    ∃ n ∈ (routingTable d.key).getD [], n.deviceId.toList = answer

/-- The lookup of a printable identifier is of its own destination. -/
theorem Represents.looksUpOwn (h : Represents routingTable kept) {d : Duid} (hd : d.Printable) :
    LooksUpOwn routingTable d := by
  have hown : ∀ n ∈ (routingTable d.key).getD [], n.deviceId = d := by
    intro n hn
    obtain ⟨i, -, hkey, rfl⟩ := h.exists_of_mem hn
    exact (Duid.key_inj hd).mp hkey
  refine ⟨hown, fun answer hanswer => ?_, fun answer hanswer => ?_⟩
  · rw [h.answer_eq_key hanswer, Duid.key_of_printable hd]
    exact Nat.le_of_eq Vector.length_toList
  · obtain ⟨n, hn, -⟩ := exists_of_mem_getBestNextHop hanswer
    refine ⟨n, hn, ?_⟩
    rw [h.answer_eq_key hanswer, Duid.key_of_printable hd, hown n hn]

omit [LinearOrder S] in
/-- Among printable identifiers the lookup of one that is not finds nothing. -/
theorem Represents.getD_eq_nil (h : Represents routingTable kept) {d : Duid} (hd : ¬ d.Printable)
    (hkept : ∀ i ∈ kept, i.deviceID.Printable) : (routingTable d.key).getD [] = [] := by
  refine List.eq_nil_iff_forall_not_mem.mpr fun n hn => ?_
  obtain ⟨i, hi, hkey, -⟩ := h.exists_of_mem hn
  have hsame : d = i.deviceID := (Duid.key_inj (hkept i hi)).mp hkey.symm
  exact hd (hsame ▸ hkept i hi)

/-- Where a record is kept of an identifier that is not printable, the lookup of
another such one answers with more bytes than an identifier has. -/
theorem Represents.not_looksUpOwn (h : Represents routingTable kept) {d : Duid}
    (hd : ¬ d.Printable) {i : Insertion S} (hi : i ∈ kept) (hprint : ¬ i.deviceID.Printable) :
    ¬ LooksUpOwn routingTable d := by
  have hkey : i.deviceID.key = d.key :=
    (Duid.key_of_not_printable hprint).trans (Duid.key_of_not_printable hd).symm
  have hstored : i.neighbor ∈ (routingTable d.key).getD [] :=
    (h.perm d.key).mem_iff.mpr
      (List.mem_map_of_mem (List.mem_filter.mpr ⟨hi, decide_eq_true hkey⟩))
  have hfound : routingTable d.key ≠ none := by
    intro hnone
    rw [hnone] at hstored
    exact absurd hstored List.not_mem_nil
  obtain ⟨answer, hanswer⟩ :=
    Option.ne_none_iff_exists'.mp (getBestNextHop_fst_ne_none h.ne_nil hfound)
  intro hown
  have hlen := hown.fits answer hanswer
  rw [h.answer_eq_key hanswer] at hlen
  exact absurd (Duid.lt_length_key hd) (Nat.not_lt.mpr hlen)

/-- **When a lookup is of its own destination**: the identifier is printable, or no
record is kept of one that is not. -/
theorem looksUpOwn_iff (es : List (RouterEvent S)) (d : Duid) : LooksUpOwn (tableAfter es) d ↔
    d.Printable ∨ ∀ i ∈ keptAfter es, i.deviceID.Printable := by
  have h := represents_after es
  by_cases hd : d.Printable
  · exact iff_of_true (h.looksUpOwn hd) (Or.inl hd)
  by_cases hkept : ∀ i ∈ keptAfter es, i.deviceID.Printable
  · have hnil := h.getD_eq_nil hd hkept
    have hnone : ∀ answer, answer ∉ (getBestNextHop d (tableAfter es)).1 := by
      intro answer hanswer
      obtain ⟨n, hn, -⟩ := exists_of_mem_getBestNextHop hanswer
      exact absurd (hnil ▸ hn) List.not_mem_nil
    refine iff_of_true ⟨fun n hn => absurd (hnil ▸ hn) List.not_mem_nil, fun answer hanswer => ?_,
      fun answer hanswer => ?_⟩ (Or.inr hkept)
    · exact absurd hanswer (hnone answer)
    · exact absurd hanswer (hnone answer)
  · obtain ⟨i, hi⟩ := not_forall.mp hkept
    obtain ⟨hi, hprint⟩ := Classical.not_imp.mp hi
    exact iff_of_false (h.not_looksUpOwn hd hi hprint) (not_or.mpr ⟨hd, hkept⟩)

/-- **Two destinations under one key.** What is inserted for the identifier of zeros is
found for that of ones, and answered with thirty bytes. -/
theorem notPrintable_mixed :
    ¬ ∀ (es : List (RouterEvent ℤ)) (d : Duid), LooksUpOwn (tableAfter es) d := by
  intro h
  have hown := h [.insert (letterDuid 0x00) (letterDuid 0x41) 90 0 0] (letterDuid 0xFF)
  exact (represents_after _).not_looksUpOwn (by decide) (List.mem_singleton_self _)
    (show ¬ (letterDuid 0x00).Printable by decide) hown

end Keys

/-! ## Paths

A path to a destination is by a next hop. The record of a path is not told from the
records of others to the same destination, so an insertion removes those that are
older and keeps those that are not, whatever their path. -/

/-- The insertion an event makes. -/
def RouterEvent.insertion : RouterEvent S → Option (Insertion S)
  | .insert deviceID nextHop signalInfo _ insertAt =>
    some ⟨deviceID, nextHop, signalInfo, insertAt⟩
  | .lookup _ => none

/-- Two insertions are of one path. -/
def Insertion.SamePath (i j : Insertion S) : Prop :=
  i.deviceID = j.deviceID ∧ i.nextHop = j.nextHop

/-- The latest insertion of a path. -/
def latestInsertion (es : List (RouterEvent S)) (d hop : Duid) : Option (Insertion S) :=
  ((es.filterMap RouterEvent.insertion).filter
    fun i => i.deviceID = d ∧ i.nextHop = hop).getLast?

/-- **One record a path**: no two of the insertions kept are of one path, and each is the
latest of its own. -/
structure OnePerPath (es : List (RouterEvent S)) : Prop where
  single : (keptAfter es).Pairwise fun i j => ¬ i.SamePath j
  latest : ∀ i ∈ keptAfter es, latestInsertion es i.deviceID i.nextHop = some i

/-- **An insertion keeps the paths**: afterwards there is one record a path, and the
records of other paths to the same destination that have not outlived their time are
still there. -/
def KeepsPaths (es : List (RouterEvent S)) : RouterEvent S → Prop
  | .insert deviceID nextHop signalInfo evictAt insertAt =>
    OnePerPath (es ++ [.insert deviceID nextHop signalInfo evictAt insertAt])
      ∧ ∀ i ∈ keptAfter es, i.deviceID = deviceID → i.nextHop ≠ nextHop →
        ¬ routerTtl < evictAt - i.seen →
          i ∈ keptAfter (es ++ [.insert deviceID nextHop signalInfo evictAt insertAt])
  | .lookup _ => True

/-- **Older means by the same path**: of the records of its destination that have not
outlived their time, an insertion finds older ones by its own next hop, and none that is
older by another. -/
def OlderBySamePath (es : List (RouterEvent S)) : RouterEvent S → Prop
  | .insert deviceID nextHop _ evictAt insertAt =>
    ∀ i ∈ keptAfter es, i.deviceID = deviceID → ¬ routerTtl < evictAt - i.seen →
      (i.seen < insertAt ↔ i.nextHop = nextHop)
  | .lookup _ => True

section Paths

variable {es : List (RouterEvent S)} {deviceID nextHop : Duid} {signalInfo : S}
  {evictAt insertAt : UInt64}

/-- The latest insertion of the path inserted. -/
theorem latestInsertion_self :
    latestInsertion (es ++ [.insert deviceID nextHop signalInfo evictAt insertAt]) deviceID nextHop
      = some ⟨deviceID, nextHop, signalInfo, insertAt⟩ := by
  unfold latestInsertion
  rw [List.filterMap_append, List.filter_append]
  simp [RouterEvent.insertion]

/-- The latest insertion of another path is what it was. -/
theorem latestInsertion_of_ne {d hop : Duid} (hne : ¬ (deviceID = d ∧ nextHop = hop)) :
    latestInsertion (es ++ [.insert deviceID nextHop signalInfo evictAt insertAt]) d hop
      = latestInsertion es d hop := by
  unfold latestInsertion
  rw [List.filterMap_append, List.filter_append]
  simp [RouterEvent.insertion, hne]

theorem latestInsertion_lookup (target d hop : Duid) :
    latestInsertion (es ++ [.lookup target]) d hop = latestInsertion es d hop := by
  unfold latestInsertion
  rw [List.filterMap_append,
    show [RouterEvent.lookup target].filterMap RouterEvent.insertion = ([] : List (Insertion S))
      from rfl, List.append_nil]

theorem OnePerPath.lookup (h : OnePerPath es) (target : Duid) :
    OnePerPath (es ++ [.lookup target]) := by
  have hkept : keptAfter (es ++ [.lookup target]) = keptAfter es := keptAfter_append_singleton _ _
  refine ⟨hkept ▸ h.single, fun i hi => ?_⟩
  rw [latestInsertion_lookup]
  exact h.latest i (hkept ▸ hi)

/-- What an insertion leaves is of other paths, when it finds older records by its own
next hop. -/
theorem OlderBySamePath.other_of_mem_survivors
    (holder : OlderBySamePath es (.insert deviceID nextHop signalInfo evictAt insertAt))
    {i : Insertion S} (hi : i ∈ survivors (keptAfter es) deviceID evictAt insertAt) :
    ¬ (deviceID = i.deviceID ∧ nextHop = i.nextHop) := by
  obtain ⟨hkept, hinTime, hleft⟩ := mem_survivors.mp hi
  rintro ⟨rfl, hhop⟩
  exact hleft ⟨(holder i hkept rfl hinTime).mpr hhop.symm, rfl⟩

theorem OnePerPath.insert (h : OnePerPath es)
    (holder : OlderBySamePath es (.insert deviceID nextHop signalInfo evictAt insertAt)) :
    OnePerPath (es ++ [.insert deviceID nextHop signalInfo evictAt insertAt]) := by
  constructor
  · rw [keptAfter_insert]
    refine List.pairwise_append.mpr ⟨(h.single.filter _).filter _, List.pairwise_singleton _ _,
      fun i hi j hj hsame => ?_⟩
    rw [List.mem_singleton.mp hj] at hsame
    exact holder.other_of_mem_survivors hi ⟨hsame.1.symm, hsame.2.symm⟩
  · intro i hi
    obtain hold | rfl := mem_keptAfter_insert.mp hi
    · rw [latestInsertion_of_ne (holder.other_of_mem_survivors hold)]
      exact h.latest i (mem_survivors.mp hold).1
    · exact latestInsertion_self

/-- **When an insertion keeps the paths**: older means by the same path. -/
theorem OnePerPath.keeps_iff_older (h : OnePerPath es) (e : RouterEvent S) :
    KeepsPaths es e ↔ OlderBySamePath es e := by
  cases e with
  | lookup target => exact Iff.rfl
  | insert deviceID nextHop signalInfo evictAt insertAt =>
    constructor
    · rintro ⟨hone, hothers⟩ i hi rfl hinTime
      constructor
      · -- an older record is gone, so it was by the same next hop
        intro hseen
        by_contra hhop
        obtain hold | heq := mem_keptAfter_insert.mp (hothers i hi rfl hhop hinTime)
        · exact (mem_survivors.mp hold).2.2 ⟨hseen, rfl⟩
        · exact hhop (congrArg Insertion.nextHop heq)
      · -- a record by the same next hop is gone, so it was older
        intro hhop
        by_contra hseen
        have hleft : i ∈ survivors (keptAfter es) i.deviceID evictAt insertAt :=
          mem_survivors.mpr ⟨hi, hinTime, fun hkey => hseen hkey.1⟩
        have hpair := hone.single
        rw [keptAfter_insert] at hpair
        exact (List.pairwise_append.mp hpair).2.2 i hleft _ (List.mem_singleton_self _)
          ⟨rfl, hhop⟩
    · intro holder
      refine ⟨h.insert holder, fun i hi hdevice hhop hinTime => ?_⟩
      refine mem_keptAfter_insert.mpr (Or.inl (mem_survivors.mpr ⟨hi, hinTime, fun hkey => ?_⟩))
      exact hhop ((holder i hi hdevice hinTime).mp hkey.1)

/-- An event that keeps the paths leaves one record a path. -/
theorem OnePerPath.step (h : OnePerPath es) {e : RouterEvent S} (holder : OlderBySamePath es e) :
    OnePerPath (es ++ [e]) := by
  cases e with
  | lookup target => exact h.lookup target
  | insert deviceID nextHop signalInfo evictAt insertAt => exact h.insert holder

theorem onePerPath_nil : OnePerPath ([] : List (RouterEvent S)) :=
  ⟨List.Pairwise.nil, fun _ hi => absurd hi List.not_mem_nil⟩

/-- **When a router keeps the paths.** The table holds the records of the insertions kept,
at every time; and every insertion keeps the paths exactly when to every insertion
older means by the same path. -/
theorem keepsPaths_iff [LinearOrder S] (es : List (RouterEvent S)) :
    Represents (tableAfter es) (keptAfter es)
      ∧ ((∀ before e after, es = before ++ e :: after → KeepsPaths before e)
        ↔ ∀ before e after, es = before ++ e :: after → OlderBySamePath before e) := by
  refine ⟨represents_after es, ?_⟩
  have hcongr : Run.Guarded (fun history e => history ++ [e]) KeepsPaths [] es
      ↔ Run.Guarded (fun history e => history ++ [e]) OlderBySamePath [] es :=
    Run.guarded_congr (I := OnePerPath) (fun _ e h => h.keeps_iff_older e) (fun _ _ h => h.step)
      onePerPath_nil
  rw [Run.guarded_iff_split, Run.guarded_iff_split] at hcongr
  simpa only [Run.final_history, List.nil_append] using hcongr

/-- **An alternative path is lost.** A route is inserted by one next hop, and a millisecond
later by another one. -/
theorem alternative_path_lost : ¬ ∀ (es : List (RouterEvent ℤ)) before e after,
    es = before ++ e :: after → KeepsPaths before e := by
  intro h
  obtain ⟨-, hothers⟩ := h _ [.insert (letterDuid 0x41) (letterDuid 0x42) 90 0 0]
    (.insert (letterDuid 0x41) (letterDuid 0x43) 72 1 1) [] rfl
  have hlost := hothers ⟨letterDuid 0x41, letterDuid 0x42, 90, 0⟩ (List.mem_singleton_self _) rfl
    (by decide) (by decide)
  exact absurd hlost (by decide +kernel)

end Paths
