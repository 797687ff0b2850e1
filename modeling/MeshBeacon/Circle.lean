import Mathlib.Data.Set.Basic
import Mathlib.Tactic.Common
import Mathlib.Tactic.Ring

/-!
# The circle of a wrapping 32-bit counter

The values of a counter that wraps lie on a circle. There is no order on it,
but there is a distance travelled forward: `fwd b a` is how far the counter
runs from `b` before it reads `a`. Everything a program does with such times
is a comparison of forward distances.

Two uses are developed. Read from a base point, the times of one half of the
circle are in order, and there the difference of two signed readings has the
sign of the difference of the distances (`toInt_sub_toInt32`). And a time with
a stretch before it and a stretch after it is an arc; two arcs whose ends are
far enough apart in both directions keep that far apart everywhere
(`apart_window`).
-/

namespace Circle

/-- The distance from `b` forward to `a`. -/
def fwd (b a : UInt32) : ℕ := (a - b).toNat

theorem fwd_lt (b a : UInt32) : fwd b a < 2 ^ 32 := (a - b).toNat_lt

/-- A reading of the counter after a subtraction, up to whole turns. -/
theorem toNat_sub_turns (a b : UInt32) :
    ∃ t : ℤ, ((a - b).toNat : ℤ) = a.toNat - b.toNat + t * 2 ^ 32 := by
  have ha := a.toNat_lt
  have hb := b.toNat_lt
  rw [UInt32.toNat_sub]
  rcases Nat.lt_or_ge a.toNat b.toNat with h | h
  · exact ⟨1, by omega⟩
  · exact ⟨0, by omega⟩

/-- The forward distance is the difference of the readings, up to whole
turns. -/
theorem fwd_turns (b a : UInt32) : ∃ t : ℤ, (fwd b a : ℤ) = a.toNat - b.toNat + t * 2 ^ 32 :=
  toNat_sub_turns a b

@[simp] theorem fwd_self (a : UInt32) : fwd a a = 0 := by
  unfold fwd
  rw [UInt32.sub_self]
  rfl

/-- **Once around.** Going forward to a different reading and back forward is
one turn of the counter. -/
theorem fwd_add_fwd {a b : UInt32} (h : a ≠ b) : fwd a b + fwd b a = 2 ^ 32 := by
  have hne : a.toNat ≠ b.toNat := fun h' => h (UInt32.toNat_inj.mp h')
  have hab := fwd_lt a b
  have hba := fwd_lt b a
  have ha := a.toNat_lt
  have hb := b.toNat_lt
  obtain ⟨t, ht⟩ := fwd_turns a b
  obtain ⟨u, hu⟩ := fwd_turns b a
  omega

/-- From a time to one not nearer to the base point. -/
theorem fwd_of_le {b p q : UInt32} (h : fwd b p ≤ fwd b q) : fwd p q = fwd b q - fwd b p := by
  have hpq := fwd_lt p q
  have hbq := fwd_lt b q
  obtain ⟨t, ht⟩ := fwd_turns p q
  obtain ⟨u, hu⟩ := fwd_turns b p
  obtain ⟨v, hv⟩ := fwd_turns b q
  omega

/-- From a time to a nearer one, the way leads around the circle. -/
theorem fwd_of_lt {b p q : UInt32} (h : fwd b q < fwd b p) :
    fwd p q = 2 ^ 32 - (fwd b p - fwd b q) := by
  have hpq := fwd_lt p q
  have hbp := fwd_lt b p
  obtain ⟨t, ht⟩ := fwd_turns p q
  obtain ⟨u, hu⟩ := fwd_turns b p
  obtain ⟨v, hv⟩ := fwd_turns b q
  omega

/-! ## One half of the circle -/

/-- **Signed readings compare as distances.** Of two times in the half of the
circle that follows `b`, the wrapping difference of the signed readings is the
difference of the distances from `b`. -/
theorem toInt_sub_toInt32 {b p q : UInt32} (hp : fwd b p < 2 ^ 31) (hq : fwd b q < 2 ^ 31) :
    (p.toInt32 - q.toInt32).toInt = (fwd b p : ℤ) - fwd b q := by
  have hbv : (p.toInt32 - q.toInt32).toInt = ((p - q).toNat : ℤ).bmod (2 ^ 32) :=
    BitVec.toInt_eq_toNat_bmod (p.toBitVec - q.toBitVec)
  have hlt := (p - q).toNat_lt
  obtain ⟨t, ht⟩ := toNat_sub_turns p q
  obtain ⟨u, hu⟩ := fwd_turns b p
  obtain ⟨v, hv⟩ := fwd_turns b q
  rw [hbv, Int.bmod_def, Int.emod_eq_of_lt (by omega) (by omega)]
  split_ifs <;> omega

/-! ## Arcs -/

/-- **The arc around a time**: from `pre` before it to `post` after it. -/
def window (c pre post : UInt32) : Set UInt32 :=
  {x | ∃ k : ℕ, k ≤ pre.toNat + post.toNat ∧ x = c - pre + UInt32.ofNat k}

theorem mem_window_self (c pre post : UInt32) : c ∈ window c pre post :=
  ⟨pre.toNat, Nat.le_add_right _ _, by rw [UInt32.ofNat_toNat, UInt32.sub_add_cancel]⟩

/-- Two sets of times **keep more than `m` apart**: from any time of one it
takes more than `m` to come to any time of the other. -/
def Apart (m : ℕ) (s t : Set UInt32) : Prop :=
  ∀ x ∈ s, ∀ y ∈ t, m < fwd x y ∧ m < fwd y x

theorem Apart.symm {m : ℕ} {s t : Set UInt32} (h : Apart m s t) : Apart m t s :=
  fun x hx y hy => (h y hy x hx).symm

theorem Apart.mono {m : ℕ} {s s' t t' : Set UInt32} (h : Apart m s t) (hs : s' ⊆ s) (ht : t' ⊆ t) :
    Apart m s' t' :=
  fun x hx y hy => h x (hs hx) y (ht hy)

theorem toNat_window_turns (c pre : UInt32) (k : ℕ) :
    ∃ t : ℤ, ((c - pre + UInt32.ofNat k).toNat : ℤ) = c.toNat - pre.toNat + k + t * 2 ^ 32 := by
  obtain ⟨t, ht⟩ := toNat_sub_turns c pre
  refine ⟨t - ((c - pre).toNat + k) / 2 ^ 32, ?_⟩
  rw [UInt32.toNat_add, UInt32.toNat_ofNat']
  omega

/-- An arc is smaller when less is reserved before its time. -/
theorem window_subset {c pre pre' post : UInt32} (h : pre' ≤ pre) :
    window c pre' post ⊆ window c pre post := by
  rintro x ⟨k, hk, rfl⟩
  have hle : pre'.toNat ≤ pre.toNat := UInt32.le_iff_toNat_le.mp h
  refine ⟨k + (pre.toNat - pre'.toNat), by omega, ?_⟩
  obtain ⟨t, ht⟩ := toNat_window_turns c pre' k
  obtain ⟨u, hu⟩ := toNat_window_turns c pre (k + (pre.toNat - pre'.toNat))
  have hlt := (c - pre' + UInt32.ofNat k).toNat_lt
  have hlt' := (c - pre + UInt32.ofNat (k + (pre.toNat - pre'.toNat))).toNat_lt
  rw [← UInt32.toNat_inj]
  omega

/-- **Arcs whose ends keep apart keep apart.** If the second time is reached
from the first only after the first's stretch behind, the second's stretch
ahead and more than `m`, and the same holds the other way round, the two arcs
are more than `m` apart everywhere. -/
theorem apart_window {m : ℕ} {c₁ pre₁ post₁ c₂ pre₂ post₂ : UInt32}
    (h₁₂ : post₁.toNat + pre₂.toNat + m < fwd c₁ c₂)
    (h₂₁ : post₂.toNat + pre₁.toNat + m < fwd c₂ c₁) :
    Apart m (window c₁ pre₁ post₁) (window c₂ pre₂ post₂) := by
  rintro x ⟨k, hk, hx⟩ y ⟨l, hl, hy⟩
  have hne : c₁ ≠ c₂ := by
    rintro rfl
    rw [fwd_self] at h₁₂
    omega
  have hturn := fwd_add_fwd hne
  obtain ⟨t, ht⟩ := toNat_window_turns c₁ pre₁ k
  obtain ⟨u, hu⟩ := toNat_window_turns c₂ pre₂ l
  obtain ⟨v, hv⟩ := fwd_turns c₁ c₂
  obtain ⟨w, hw⟩ := fwd_turns x y
  obtain ⟨z, hz⟩ := fwd_turns y x
  have hxy := fwd_lt x y
  have hyx := fwd_lt y x
  rw [← hx] at ht
  rw [← hy] at hu
  -- the distance between the two times is that between the ends, shifted by
  -- how far each time lies inside its own arc; the shift cannot use it up
  constructor <;> omega

end Circle
