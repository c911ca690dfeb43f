import Mathlib.Data.List.Forall2
import ShapeFlow.Proofs.Arithmetic
import ShapeFlow.Random.Source
/-!
Draws in a row: what a source is asked for, and what it answers. The sources that a host can give
only ever answer with integers of the range asked for, and a script answers its choices in turn.
-/
namespace ShapeFlow

structure Traced (σ : Type) where
  source : σ
  asked : List IntRange := []

instance {σ : Type} [RandomSource σ] : RandomSource (Traced σ) where
  draw r t :=
    ((RandomSource.draw r t.source).1, ⟨(RandomSource.draw r t.source).2, t.asked ++ [r]⟩)

abbrev Within (rs : List IntRange) (vs : List Int) : Prop :=
  List.Forall₂ (fun r v => r.lo ≤ v ∧ v ≤ r.hi) rs vs

namespace RandomSource
variable {σ : Type} [RandomSource σ]

theorem drawAll_append (rs qs : List IntRange) (s : σ) :
    drawAll (rs ++ qs) s =
      ((drawAll rs s).1 ++ (drawAll qs (drawAll rs s).2).1, (drawAll qs (drawAll rs s).2).2) := by
  induction rs generalizing s with
  | nil => rfl
  | cons r rs ih => simp only [List.cons_append, drawAll, ih]

theorem drawAll_asked (rs : List IntRange) (t : Traced σ) :
    (drawAll rs t).2.asked = t.asked ++ rs := by
  induction rs generalizing t with
  | nil => simp [drawAll]
  | cons r rs ih =>
    rw [drawAll, ih]
    simp [draw]

theorem drawAll_within [LawfulSource σ] (rs : List IntRange) (s : σ) :
    Within rs (drawAll rs s).1 := by
  induction rs generalizing s with
  | nil => exact .nil
  | cons r rs ih => exact .cons (LawfulSource.draw_mem r s) (ih _)

end RandomSource

namespace IntRange

theorem least_le_lo (r : IntRange) : Word.least ≤ r.lo := Word.least_le r.lower

theorem hi_le_greatest (r : IntRange) : r.hi ≤ Word.greatest := Word.le_greatest r.upper

/-- How far apart the bounds are is an unsigned word. -/
theorem span_lt (r : IntRange) : (r.hi - r.lo).toNat < Word.count := by
  have least := r.least_le_lo
  have greatest := r.hi_le_greatest
  unfold Word.least at least
  unfold Word.greatest at greatest
  unfold Word.count
  omega

theorem len_pos (r : IntRange) : 0 < r.len := by
  unfold len size Word.count
  omega

/-- The choice that draws an integer of the range. The upper bound of the widest range is no offset,
since its length does not fit a word. -/
def pick (r : IntRange) (v : Int) : Pick :=
  if v = r.hi then .high else .offset (.ofNat (v - r.lo).toNat)

end IntRange

namespace Pick

theorem apply_mem (r : IntRange) (p : Pick) : r.lo ≤ p.apply r ∧ p.apply r ≤ r.hi := by
  have le := r.lo_le_hi
  cases p with
  | low => exact ⟨Int.le_refl _, le⟩
  | high => exact ⟨le, Int.le_refl _⟩
  | offset k =>
    have inside : k.toNat % r.len < r.len := Nat.mod_lt k.toNat r.len_pos
    have short : r.len ≤ r.size := Nat.min_le_left _ _
    unfold IntRange.size at short
    change r.lo ≤ r.lo + (k.toNat % r.len : Nat) ∧ r.lo + (k.toNat % r.len : Nat) ≤ r.hi
    omega

theorem apply_pick {r : IntRange} {v : Int} (lo : r.lo ≤ v) (hi : v ≤ r.hi) :
    (r.pick v).apply r = v := by
  unfold IntRange.pick
  by_cases top : v = r.hi
  · rw [if_pos top]
    exact top.symm
  · rw [if_neg top]
    have span := r.span_lt
    have word : (v - r.lo).toNat < Word.count := by omega
    have below : (v - r.lo).toNat < r.len := by
      unfold IntRange.len IntRange.size
      omega
    change r.lo + ((UInt64.ofNat (v - r.lo).toNat).toNat % r.len : Nat) = v
    rw [UInt64.toNat_ofNat_of_lt' word, Nat.mod_eq_of_lt below]
    omega

end Pick

namespace Script

instance : LawfulSource Script where
  draw_mem r s := s.current.apply_mem r

def pickAfter (s : Script) (j : Nat) : Pick :=
  s.picks.get ⟨(s.cursor + j) % s.picks.length, Nat.mod_lt _ s.cursor.pos⟩

theorem pickAfter_zero (s : Script) : s.pickAfter 0 = s.current := by
  simp [pickAfter, current, Nat.mod_eq_of_lt s.cursor.isLt]

theorem pickAfter_advance (s : Script) (j : Nat) : s.advance.pickAfter j = s.pickAfter (j + 1) := by
  have place : ((s.cursor + 1) % s.picks.length + j) % s.picks.length =
      (s.cursor + (j + 1)) % s.picks.length := by
    rw [Nat.mod_add_mod]
    congr 1
    omega
  simp only [pickAfter, advance, place]

theorem drawAll_script (rs : List IntRange) (s : Script) :
    (RandomSource.drawAll rs s).1 = rs.mapIdx fun j r => (s.pickAfter j).apply r := by
  induction rs generalizing s with
  | nil => rfl
  | cons r rs ih =>
    simp only [List.mapIdx_cons, RandomSource.drawAll, RandomSource.draw, ih, pickAfter_zero,
      pickAfter_advance]

theorem pickAfter_ofPicks {picks : List Pick} {j : Nat} (inside : j < picks.length) :
    (ofPicks picks).pickAfter j = picks[j] := by
  cases picks with
  | nil => simp at inside
  | cons p ps =>
    have place : (0 + j) % (p :: ps).length = j := by rw [Nat.zero_add, Nat.mod_eq_of_lt inside]
    simp only [pickAfter, ofPicks, place, List.get_eq_getElem]

end Script

namespace Seeded

theorem highWord_lt (r : UInt64) {n : Nat} (pos : 0 < n) : highWord (r.toNat * n) < n := by
  have word : r.toNat < Word.count := r.toNat_lt
  unfold highWord
  rw [Nat.div_lt_iff_lt_mul (by decide), Nat.mul_comm n]
  exact Nat.mul_lt_mul_of_pos_right word pos

theorem below_lt {n : Nat} (pos : 0 < n) (tries : Nat) (g : Seeded) : (below n tries g).1 < n := by
  induction tries generalizing g with
  | zero => exact highWord_lt _ pos
  | succ tries ih =>
    unfold below
    dsimp only
    split
    · exact highWord_lt _ pos
    · exact ih _

instance : LawfulSource Seeded where
  draw_mem r g := by
    have le := r.lo_le_hi
    change r.lo ≤ (drawFrom r g).1 ∧ (drawFrom r g).1 ≤ r.hi
    by_cases widest : r.lo = Word.least ∧ r.hi = Word.greatest
    · simp only [drawFrom, if_pos widest]
      have lower := Int.le_bmod (x := (g.word.1.toNat : Int)) (m := Word.count) (by decide)
      have upper := Int.bmod_lt (x := (g.word.1.toNat : Int)) (m := Word.count) (by decide)
      simp only [Word.count, Word.least, Word.greatest] at *
      omega
    · have inside := below_lt (n := r.size) (Nat.succ_pos _) Word.count g
      unfold IntRange.size at inside
      simp only [drawFrom, if_neg widest]
      unfold IntRange.size
      omega

end Seeded

instance {γ : Type} [RandomSource γ] [LawfulSource γ] : LawfulSource (Generator γ) where
  draw_mem r g := by
    cases g with
    | seeded g => exact LawfulSource.draw_mem r g
    | scripted s => exact LawfulSource.draw_mem r s

end ShapeFlow
