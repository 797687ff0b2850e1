import MeshBeacon.DuckUtils
import MeshBeacon.Run
import Mathlib.Logic.Function.Basic
import Mathlib.Algebra.Order.Group.Int

/-!
# The routing table

For every destination the router keeps a list of records, each made of an
insertion: the destination, a signal score and a time. An insertion also names
the next hop; the constructor of a record does not keep it, and what a lookup
answers with is the destination field of the best record.

The table is a function from keys to lists, where a key that is not in the table
has none. The order of the records in a list is of no consequence: a lookup
sorts the list in place.
-/

variable {S : Type*}

/-! ## Records -/

/-- `Neighbor`. Scores are of any type. -/
structure Neighbor (S : Type*) where
  deviceId : Duid
  routingScore : S
  lastSeen : UInt64

/-- The constructor of `Neighbor`. It has a parameter for the next hop, and no
field. -/
def Neighbor.new (devId _nextHop : Duid) (signalScore : S) (lastSeen : UInt64) : Neighbor S :=
  ⟨devId, signalScore, lastSeen⟩

/-- `getDeviceId`. -/
def Neighbor.getDeviceId (n : Neighbor S) : List UInt8 := n.deviceId.key

/-- `routingTable`. -/
abbrev RoutingTable (S : Type*) := List UInt8 → Option (List (Neighbor S))

/-! ## The operations -/

/-- The default of `ttl_ms`. -/
def routerTtl : UInt64 := 300000

/-- `evictStaleEntries`: a list that becomes empty is taken out of the table. -/
def evictStaleEntries (ttlMs now : UInt64) (routingTable : RoutingTable S) : RoutingTable S :=
  fun key => (routingTable key).bind fun l =>
    match l.filter (fun n => !(ttlMs < now - n.lastSeen)) with
    | [] => none
    | n :: l => some (n :: l)

/-- `insertIntoRoutingTable`, at two readings of the clock: that of the eviction
and that of the record. -/
def insertIntoRoutingTable (evictAt insertAt : UInt64) (deviceID nextHop : Duid) (signalInfo : S)
    (routingTable : RoutingTable S) : RoutingTable S :=
  let routingTable := evictStaleEntries routerTtl evictAt routingTable
  let record := Neighbor.new deviceID nextHop signalInfo insertAt
  match routingTable deviceID.key with
  | none => Function.update routingTable record.getDeviceId (some [record])
  | some l =>
    Function.update routingTable deviceID.key
      (some (l.filter (fun n =>
        !(n.lastSeen < record.lastSeen && n.getDeviceId = record.getDeviceId)) ++ [record]))

/-- `getBestNextHop`: what is copied into the answer, and the table with the list
sorted by descending score. An empty list has no front. The copy is defined where the
answer fits (`AnswerFits`), which is asked wherever this is called. -/
def getBestNextHop [LinearOrder S] (targetDeviceId : Duid) (routingTable : RoutingTable S) :
    Option (List UInt8) × RoutingTable S :=
  match routingTable targetDeviceId.key with
  | none => (none, routingTable)
  | some l =>
    let sorted := l.mergeSort (fun a b => b.routingScore ≤ a.routingScore)
    (sorted.head?.map Neighbor.getDeviceId,
      Function.update routingTable targetDeviceId.key (some sorted))

/-- **The answer to a lookup fits**: it is copied into an identifier of eight bytes, and what
is longer, such as the text for a duck whose name cannot be printed, is written past it. -/
def AnswerFits [LinearOrder S] (targetDeviceId : Duid) (routingTable : RoutingTable S) : Prop :=
  ∀ answer ∈ (getBestNextHop targetDeviceId routingTable).1, answer.length ≤ 8

instance [LinearOrder S] (targetDeviceId : Duid) (routingTable : RoutingTable S) :
    Decidable (AnswerFits targetDeviceId routingTable) :=
  inferInstanceAs (Decidable (∀ answer ∈ (getBestNextHop targetDeviceId routingTable).1, _))

/-! ## The insertions behind the records -/

/-- The arguments of an insertion, and the reading of the clock it was recorded
with. -/
structure Insertion (S : Type*) where
  deviceID : Duid
  nextHop : Duid
  signalScore : S
  seen : UInt64
deriving DecidableEq

/-- The record made of an insertion. -/
def Insertion.neighbor (i : Insertion S) : Neighbor S :=
  Neighbor.new i.deviceID i.nextHop i.signalScore i.seen

/-- What happens to the table. -/
inductive RouterEvent (S : Type*) where
  | insert (deviceID nextHop : Duid) (signalInfo : S) (evictAt insertAt : UInt64)
  | lookup (targetDeviceId : Duid)

/-- One event, for the table. -/
def routerStep [LinearOrder S] (routingTable : RoutingTable S) : RouterEvent S → RoutingTable S
  | .insert deviceID nextHop signalInfo evictAt insertAt =>
    insertIntoRoutingTable evictAt insertAt deviceID nextHop signalInfo routingTable
  | .lookup target => (getBestNextHop target routingTable).2

/-- One event, for the insertions still kept: an insertion removes what has
outlived its time, and what is older for the same destination. -/
def keptStep (kept : List (Insertion S)) : RouterEvent S → List (Insertion S)
  | .insert deviceID nextHop signalInfo evictAt insertAt =>
    (kept.filter (fun i => !(routerTtl < evictAt - i.seen))).filter
        (fun i => !(i.seen < insertAt && i.deviceID.key = deviceID.key))
      ++ [⟨deviceID, nextHop, signalInfo, insertAt⟩]
  | .lookup _ => kept

/-- The empty table. -/
def RoutingTable.empty : RoutingTable S := fun _ => none

/-- The table after a run. -/
def tableAfter [LinearOrder S] (es : List (RouterEvent S)) : RoutingTable S :=
  Run.final routerStep RoutingTable.empty es

/-- The insertions kept after a run. -/
def keptAfter (es : List (RouterEvent S)) : List (Insertion S) := Run.final keptStep [] es

/-- **The table holds the records of the insertions kept**, key by key and up to
their order, and no key has an empty list. -/
structure Represents (routingTable : RoutingTable S) (kept : List (Insertion S)) : Prop where
  /-- The records. -/
  perm : ∀ key, ((routingTable key).getD []).Perm
    ((kept.filter (fun i => i.deviceID.key = key)).map Insertion.neighbor)
  /-- No key has an empty list. -/
  ne_nil : ∀ key, routingTable key ≠ some []

/-! ## The operations keep the representation -/

section Simulation

variable {routingTable : RoutingTable S} {kept : List (Insertion S)}

theorem represents_empty : Represents (RoutingTable.empty : RoutingTable S) [] :=
  ⟨fun _ => List.Perm.refl [], fun _ => nofun⟩

theorem getD_evictStaleEntries (ttlMs now : UInt64) (routingTable : RoutingTable S)
    (key : List UInt8) :
    (evictStaleEntries ttlMs now routingTable key).getD []
      = ((routingTable key).getD []).filter (fun n => !(ttlMs < now - n.lastSeen)) := by
  unfold evictStaleEntries
  cases hl : routingTable key with
  | none => rfl
  | some l =>
    rw [Option.bind_some, Option.getD_some]
    cases l.filter (fun n => !(ttlMs < now - n.lastSeen)) <;> rfl

/-- Dropping records of a kind drops the insertions behind them. -/
theorem Represents.filter_perm (h : Represents routingTable kept) (p : Neighbor S → Bool)
    (key : List UInt8) :
    (((routingTable key).getD []).filter p).Perm
      (((kept.filter (fun i => p i.neighbor)).filter (fun i => i.deviceID.key = key)).map
        Insertion.neighbor) := by
  have hperm := (h.perm key).filter p
  rw [List.filter_map, List.filter_filter] at hperm
  rw [List.filter_filter]
  refine hperm.trans (List.Perm.of_eq (congrArg _ (congrArg (List.filter · kept) ?_)))
  funext i
  exact Bool.and_comm _ _

/-- Eviction keeps what has not outlived its time. -/
theorem Represents.evict (h : Represents routingTable kept) (now : UInt64) :
    Represents (evictStaleEntries routerTtl now routingTable)
      (kept.filter (fun i => !(routerTtl < now - i.seen))) where
  perm key := by
    rw [getD_evictStaleEntries]
    exact h.filter_perm (fun n => !(routerTtl < now - n.lastSeen)) key
  ne_nil key := by
    unfold evictStaleEntries
    cases routingTable key with
    | none => exact nofun
    | some l =>
      rw [Option.bind_some]
      cases l.filter (fun n => !(routerTtl < now - n.lastSeen)) <;> exact nofun

/-- An insertion writes under one key, and there it appends. -/
theorem insertIntoRoutingTable_eq (evictAt insertAt : UInt64) (deviceID nextHop : Duid)
    (signalInfo : S) (routingTable : RoutingTable S) :
    insertIntoRoutingTable evictAt insertAt deviceID nextHop signalInfo routingTable
      = Function.update (evictStaleEntries routerTtl evictAt routingTable) deviceID.key
          (some (((evictStaleEntries routerTtl evictAt routingTable deviceID.key).getD []).filter
              (fun n => !(n.lastSeen < insertAt && n.getDeviceId = deviceID.key))
            ++ [Neighbor.new deviceID nextHop signalInfo insertAt])) := by
  unfold insertIntoRoutingTable
  dsimp only
  cases evictStaleEntries routerTtl evictAt routingTable deviceID.key <;> rfl

/-- Another list under one key, when it holds the records of the insertions kept for
that key and what is kept for the other keys is as before. -/
theorem Represents.update (h : Represents routingTable kept) {kept' : List (Insertion S)}
    {key : List UInt8} {l : List (Neighbor S)} (hne : l ≠ [])
    (hperm : l.Perm ((kept'.filter (fun i => i.deviceID.key = key)).map Insertion.neighbor))
    (hother : ∀ key', key' ≠ key → kept'.filter (fun i => i.deviceID.key = key')
      = kept.filter (fun i => i.deviceID.key = key')) :
    Represents (Function.update routingTable key (some l)) kept' := by
  refine ⟨fun key' => ?_, fun key' => ?_⟩ <;> by_cases hkey : key' = key
  · rw [hkey, Function.update_self]
    exact hperm
  · rw [Function.update_of_ne hkey, hother key' hkey]
    exact h.perm key'
  · rw [hkey, Function.update_self]
    exact fun hnil => hne (Option.some.inj hnil)
  · rw [Function.update_of_ne hkey]
    exact h.ne_nil key'

/-- The order of the records under a key does not matter. -/
theorem Represents.reorder (h : Represents routingTable kept) {key : List UInt8}
    {l l' : List (Neighbor S)} (hl : routingTable key = some l) (hperm : l'.Perm l) :
    Represents (Function.update routingTable key (some l')) kept := by
  have hkept := h.perm key
  rw [hl, Option.getD_some] at hkept
  refine h.update (fun hnil => ?_) (hperm.trans hkept) fun _ _ => rfl
  rw [hnil] at hperm
  exact h.ne_nil key (hl.trans (congrArg some hperm.nil_eq.symm))

/-- An insertion supersedes nothing under the other keys. -/
theorem filter_superseded_of_ne (kept : List (Insertion S)) (insertAt : UInt64)
    {key key' : List UInt8} (hkey : key' ≠ key) :
    (kept.filter (fun i => !(i.seen < insertAt && i.deviceID.key = key))).filter
        (fun i => i.deviceID.key = key')
      = kept.filter (fun i => i.deviceID.key = key') := by
  rw [List.filter_filter]
  refine List.filter_congr fun i _ => ?_
  by_cases hi : i.deviceID.key = key'
  · rw [hi, decide_eq_false hkey, Bool.and_false]
    simp
  · simp [hi]

/-- **An insertion keeps the representation.** -/
theorem Represents.insert (h : Represents routingTable kept) (deviceID nextHop : Duid)
    (signalInfo : S) (evictAt insertAt : UInt64) :
    Represents (insertIntoRoutingTable evictAt insertAt deviceID nextHop signalInfo routingTable)
      (keptStep kept (.insert deviceID nextHop signalInfo evictAt insertAt)) := by
  have hevict := h.evict evictAt
  rw [insertIntoRoutingTable_eq, keptStep]
  refine hevict.update (List.append_ne_nil_of_right_ne_nil _ nofun) ?_ fun key' hkey => ?_
  · rw [List.filter_append, List.map_append, List.filter_singleton, decide_eq_true rfl]
    exact (hevict.filter_perm
      (fun n => !(n.lastSeen < insertAt && n.getDeviceId = deviceID.key)) _).append_right _
  · rw [List.filter_append, filter_superseded_of_ne _ insertAt hkey, List.filter_singleton,
      decide_eq_false (fun heq => hkey heq.symm)]
    exact List.append_nil _

variable [LinearOrder S]

theorem getBestNextHop_of_some {target : Duid} {l : List (Neighbor S)}
    (hl : routingTable target.key = some l) :
    getBestNextHop target routingTable
      = ((l.mergeSort (fun a b => b.routingScore ≤ a.routingScore)).head?.map
          Neighbor.getDeviceId,
        Function.update routingTable target.key
          (some (l.mergeSort (fun a b => b.routingScore ≤ a.routingScore)))) := by
  unfold getBestNextHop
  rw [hl]

theorem getBestNextHop_of_none {target : Duid} (hl : routingTable target.key = none) :
    getBestNextHop target routingTable = (none, routingTable) := by
  unfold getBestNextHop
  rw [hl]

/-- **A lookup keeps the representation.** -/
theorem Represents.lookup (h : Represents routingTable kept) (target : Duid) :
    Represents (getBestNextHop target routingTable).2 kept := by
  cases hl : routingTable target.key with
  | none =>
    rw [getBestNextHop_of_none hl]
    exact h
  | some l =>
    rw [getBestNextHop_of_some hl]
    exact h.reorder hl (List.mergeSort_perm l _)

theorem Represents.step (h : Represents routingTable kept) (e : RouterEvent S) :
    Represents (routerStep routingTable e) (keptStep kept e) := by
  cases e with
  | insert deviceID nextHop signalInfo evictAt insertAt =>
    exact h.insert deviceID nextHop signalInfo evictAt insertAt
  | lookup target => exact h.lookup target

/-- **After every run the table holds the records of the insertions kept.** -/
theorem represents_after (es : List (RouterEvent S)) : Represents (tableAfter es) (keptAfter es) :=
  Run.simulation (R := Represents) (fun _ _ e h => h.step e) es represents_empty

end Simulation

/-! ## What a lookup answers -/

section Answer

variable {kept : List (Insertion S)} {d : Duid}

/-- The insertions for a destination. -/
def keptFor (kept : List (Insertion S)) (d : Duid) : List (Insertion S) :=
  kept.filter (fun i => i.deviceID = d)

/-- Under the key of a printable destination stand the insertions for it. -/
theorem filter_key_eq_keptFor (hd : d.Printable) :
    kept.filter (fun i => i.deviceID.key = d.key) = keptFor kept d :=
  List.filter_congr fun _ _ => decide_eq_decide.mpr (Duid.key_inj hd)

/-- A key that is not in the table has no insertion kept. -/
theorem Represents.keptFor_eq_nil {routingTable : RoutingTable S}
    (h : Represents routingTable kept) (hd : d.Printable) (hl : routingTable d.key = none) :
    keptFor kept d = [] := by
  have hperm := h.perm d.key
  rw [hl, Option.getD_none, filter_key_eq_keptFor hd] at hperm
  exact List.map_eq_nil_iff.mp hperm.nil_eq.symm

/-- Every record under a key is one of its destination. -/
theorem Represents.getDeviceId_eq {routingTable : RoutingTable S}
    (h : Represents routingTable kept) (hd : d.Printable) {l : List (Neighbor S)}
    (hl : routingTable d.key = some l) {n : Neighbor S} (hn : n ∈ l) :
    n.getDeviceId = d.toList ∧ keptFor kept d ≠ [] := by
  have hperm := h.perm d.key
  rw [hl, Option.getD_some, filter_key_eq_keptFor hd] at hperm
  obtain ⟨i, hi, rfl⟩ := List.mem_map.mp (hperm.mem_iff.mp hn)
  refine ⟨?_, List.ne_nil_of_mem hi⟩
  rw [← Duid.key_of_printable hd, ← of_decide_eq_true (List.mem_filter.mp hi).2]
  rfl

variable [LinearOrder S]

/-- **A best insertion** for a destination: none of those kept for it has a higher
score. -/
def IsBest (kept : List (Insertion S)) (d : Duid) (i : Insertion S) : Prop :=
  i ∈ keptFor kept d ∧ ∀ j ∈ keptFor kept d, j.signalScore ≤ i.signalScore

/-- **What an answer should be**: there is none when nothing is kept for the
destination, and otherwise it is the next hop of a best insertion. -/
def Answers (kept : List (Insertion S)) (d : Duid) (answer : Option (List UInt8)) : Prop :=
  (answer = none ↔ keptFor kept d = [])
    ∧ ∀ hop ∈ answer, ∃ i, IsBest kept d i ∧ hop = i.nextHop.toList

/-- **What the answer is**: the destination. -/
theorem Represents.getBestNextHop_eq {routingTable : RoutingTable S}
    (h : Represents routingTable kept) (hd : d.Printable) :
    (getBestNextHop d routingTable).1 = if keptFor kept d = [] then none else some d.toList := by
  cases hl : routingTable d.key with
  | none => rw [getBestNextHop_of_none hl, if_pos (h.keptFor_eq_nil hd hl)]
  | some l =>
    rw [getBestNextHop_of_some hl]
    dsimp only
    cases hs : l.mergeSort (fun a b => decide (b.routingScore ≤ a.routingScore)) with
    | nil =>
      -- a list that is sorted into nothing is one that no key has
      have hlen := congrArg List.length hs
      rw [List.length_mergeSort] at hlen
      exact absurd (hl.trans (congrArg some (List.eq_nil_of_length_eq_zero hlen))) (h.ne_nil d.key)
    | cons n ns =>
      -- whatever record is at the front, it is one of this destination
      have hn : n ∈ l := List.mem_mergeSort.mp (hs ▸ List.mem_cons_self)
      obtain ⟨hdevice, hne⟩ := h.getDeviceId_eq hd hl hn
      rw [if_neg hne, List.head?_cons, Option.map_some, hdevice]

/-- **When the router answers as documented.** After every run the answer for a
printable destination is that of a best insertion exactly when nothing is kept
for it, or one of its best insertions names the destination as next hop. -/
theorem getBestNextHop_answers_iff (es : List (RouterEvent S)) (d : Duid) (hd : d.Printable) :
    Answers (keptAfter es) d (getBestNextHop d (tableAfter es)).1
      ↔ keptFor (keptAfter es) d = [] ∨ ∃ i, IsBest (keptAfter es) d i ∧ i.nextHop = d := by
  rw [(represents_after es).getBestNextHop_eq hd]
  by_cases hempty : keptFor (keptAfter es) d = []
  · rw [if_pos hempty]
    exact iff_of_true ⟨iff_of_true rfl hempty, nofun⟩ (Or.inl hempty)
  · rw [if_neg hempty]
    constructor
    · intro h
      obtain ⟨i, hi, hhop⟩ := h.2 _ rfl
      exact Or.inr ⟨i, hi, Vector.toList_inj.mp hhop.symm⟩
    · rintro (hnil | ⟨i, hi, hhop⟩)
      · exact absurd hnil hempty
      · refine ⟨iff_of_false nofun hempty, fun hop h => ⟨i, hi, ?_⟩⟩
        rw [hhop]
        exact (Option.some.inj h).symm

/-- A device whose name consists of one letter. -/
def letterDuid (c : UInt8) : Duid := Vector.replicate 8 c

/-- Two routes to a device: a better one by the device itself, and a worse one by
another device. -/
theorem getBestNextHop_answers_direct :
    let es : List (RouterEvent ℤ) :=
      [.insert (letterDuid 0x41) (letterDuid 0x41) 90 5 5,
        .insert (letterDuid 0x41) (letterDuid 0x42) 72 5 5]
    Answers (keptAfter es) (letterDuid 0x41) (getBestNextHop (letterDuid 0x41) (tableAfter es)).1 :=
  (getBestNextHop_answers_iff _ (letterDuid 0x41) (by decide)).mpr
    (Or.inr ⟨⟨letterDuid 0x41, letterDuid 0x41, 90, 5⟩, by unfold IsBest; decide +kernel, rfl⟩)

/-- **The next hop is lost.** A route to a device by another one is inserted, and
the router answers with the device. -/
theorem nextHop_lost :
    ¬ ∀ (es : List (RouterEvent ℤ)) (d : Duid), d.Printable →
      Answers (keptAfter es) d (getBestNextHop d (tableAfter es)).1 := by
  intro h
  obtain ⟨-, hanswer⟩ :=
    h [.insert (letterDuid 0x41) (letterDuid 0x42) 90 0 0] (letterDuid 0x41) (by decide)
  obtain ⟨i, hi, hhop⟩ := hanswer (letterDuid 0x41).toList (by decide +kernel)
  have hkept : i.nextHop = letterDuid 0x42 := by
    have hmem : i ∈ [(⟨letterDuid 0x41, letterDuid 0x42, 90, 0⟩ : Insertion ℤ)] := hi.1
    rw [List.mem_singleton.mp hmem]
  rw [hkept] at hhop
  exact absurd hhop (by decide)

end Answer
