import Mathlib.Data.List.Basic
import Mathlib.Tactic.Common

/-!
# The seeds of the hash functions

The constructor of the filter draws a seed for each hash function, and is to draw again when
a seed repeats. It goes through the array and compares each value it draws with the slot it is
about to write; when they are equal it draws one more, gives that up, and begins with the first
slot again.

So a value is only ever compared with what its own slot held before. Two values of one pass are
not compared, and the seeds at the end are the last values drawn, different or not.

What `rand` returns is a list here, in the order of the calls.
-/

namespace SeedLoop

/-- The loop over the array, from a slot on: whether a value was the one in its slot, what the
slots hold then, and the values that are left. It is none when there are too few. -/
def seedPass : List Int32 → List Int32 → Option (Bool × List Int32 × List Int32)
  | [], rands => some (false, [], rands)
  | _ :: _, [] => none
  | seed :: seeds, r :: rands =>
    if seed = r then
      -- one more value is drawn, and given up
      rands.tail?.map fun rands => (true, seed :: seeds, rands)
    else (seedPass seeds rands).map fun p => (p.1, r :: p.2.1, p.2.2)

/-- The loop around it, for so many passes: the seeds at its end, and the values that are left. -/
def seedLoop : ℕ → List Int32 → List Int32 → Option (List Int32 × List Int32)
  | 0, _, _ => none
  | fuel + 1, seeds, rands =>
    (seedPass seeds rands).bind fun p =>
      if p.1 then seedLoop fuel p.2.1 p.2.2 else some p.2

variable {seeds final rands rest : List Int32}

/-- **One pass** draws values, and without a hit it stores those that it draws. -/
theorem seedPass_spec {hit : Bool} (h : seedPass seeds rands = some (hit, final, rest)) :
    final.length = seeds.length
      ∧ ∃ drawn, rands = drawn ++ rest ∧ (hit = false → drawn = final) := by
  induction seeds generalizing rands final with
  | nil =>
    obtain ⟨rfl, rfl, rfl⟩ : false = hit ∧ [] = final ∧ rands = rest := by
      simpa [seedPass] using h
    exact ⟨rfl, [], rfl, fun _ => rfl⟩
  | cons seed seeds ih =>
    cases rands with
    | nil => exact absurd h.symm (Option.some_ne_none _)
    | cons r rands =>
      rw [seedPass] at h
      split_ifs at h
      · obtain ⟨rands', htail, heq⟩ := Option.map_eq_some_iff.mp h
        obtain ⟨rfl, rfl, rfl⟩ : true = hit ∧ seed :: seeds = final ∧ rands' = rest := by
          simpa using heq
        cases rands with
        | nil => exact absurd htail.symm (Option.some_ne_none _)
        | cons r' rands =>
          obtain rfl : rands = rands' := Option.some_inj.mp htail
          exact ⟨rfl, [r, r'], rfl, fun hno => absurd hno.symm Bool.false_ne_true⟩
      · obtain ⟨⟨hit', final', rest'⟩, hpass, heq⟩ := Option.map_eq_some_iff.mp h
        obtain ⟨rfl, rfl, rfl⟩ : hit' = hit ∧ r :: final' = final ∧ rest' = rest := by
          simpa using heq
        obtain ⟨hlength, drawn, rfl, hdrawn⟩ := ih hpass
        exact ⟨congrArg (· + 1) hlength, r :: drawn, rfl, fun hno => congrArg (r :: ·) (hdrawn hno)⟩

/-- **The seeds are the last values drawn.** -/
theorem exists_append_of_seedLoop {fuel : ℕ} (h : seedLoop fuel seeds rands = some (final, rest)) :
    (∃ before, rands = before ++ (final ++ rest)) ∧ final.length = seeds.length := by
  induction fuel generalizing seeds rands with
  | zero => exact absurd h.symm (Option.some_ne_none _)
  | succ fuel ih =>
    rw [seedLoop] at h
    obtain ⟨⟨hit, seeds', rands'⟩, hpass, h⟩ := Option.bind_eq_some_iff.mp h
    obtain ⟨hlength, drawn, rfl, hdrawn⟩ := seedPass_spec hpass
    cases hit with
    | false =>
      obtain ⟨rfl, rfl⟩ : seeds' = final ∧ rands' = rest := by simpa using h
      exact ⟨⟨[], congrArg (· ++ rands') (hdrawn rfl)⟩, hlength⟩
    | true =>
      obtain ⟨⟨before, rfl⟩, hlength'⟩ := ih h
      exact ⟨⟨drawn ++ before, (List.append_assoc _ _ _).symm⟩, hlength'.trans hlength⟩

/-- **The seeds are different exactly when the last values drawn are**, as many as there are seeds:
the loop does not see to it. -/
theorem seeds_nodup_iff {fuel : ℕ} (h : seedLoop fuel seeds rands = some (final, [])) :
    final.Nodup ↔ (rands.drop (rands.length - seeds.length)).Nodup := by
  obtain ⟨⟨before, rfl⟩, hlength⟩ := exists_append_of_seedLoop h
  rw [List.append_nil, List.length_append, ← hlength, Nat.add_sub_cancel, List.drop_left]

/-- The seeds of three values drawn, the first for the sake of a slot that held it. -/
theorem seeds_nodup_iff_of_hit :
    ([9, 8] : List Int32).Nodup ↔ (([5, 7, 9, 8] : List Int32).drop (4 - 2)).Nodup := by
  have hloop : seedLoop 2 [5, 0] [5, 7, 9, 8] = some ([9, 8], []) := by decide
  exact seeds_nodup_iff hloop

/-- **Two seeds that are the same**: the slots held zero, and `rand` returns five twice. -/
theorem not_nodup_of_repeat :
    ¬ ∀ (fuel : ℕ) (seeds rands final : List Int32),
      seedLoop fuel seeds rands = some (final, []) → final.Nodup := by
  intro h
  exact absurd (h 1 [0, 0] [5, 5] [5, 5] (by decide)) (by decide)

end SeedLoop
