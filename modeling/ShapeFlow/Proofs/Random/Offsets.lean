import ShapeFlow.Proofs.Random.Draws
import ShapeFlow.Proofs.Arithmetic
import ShapeFlow.Random.Machine
/-!
Offsets count round a range. Words compute the same draws as integers, wherever the remainder and the
sum wrap on the way. The length of a range is its size, except for the widest range: its size is no
word, so the count turns one place too early and never arrives at the upper bound.
-/
namespace ShapeFlow
variable {r : IntRange} {k : UInt64}

def IntRange.IsWidest (r : IntRange) : Prop := r.lo = Word.least ∧ r.hi = Word.greatest

instance (r : IntRange) : Decidable r.IsWidest :=
  inferInstanceAs (Decidable (r.lo = Word.least ∧ r.hi = Word.greatest))

namespace IntRange

def place (r : IntRange) (k : Nat) : Int := r.lo + (k % r.size : Nat)

/-- Every integer of the range is drawn for exactly one of as many offsets as there are integers. -/
def Sweeps (r : IntRange) : Prop :=
  ∀ v, r.lo ≤ v → v ≤ r.hi →
    ∃! n : UInt64, n.toNat < r.size ∧ (RandomSource.draw r (Script.always (.offset n))).1 = v

theorem distanceWord_toNat (r : IntRange) : (r.distanceWord.toNat : Int) = r.hi - r.lo := by
  have ordered : ¬ r.upper < r.lower := by
    rw [Int64.lt_iff_toInt_lt]
    exact Int.not_lt.mpr r.lo_le_hi
  have lower : r.lo = _ := Word.toInt_eq_bmod r.lower
  have upper : r.hi = _ := Word.toInt_eq_bmod r.upper
  have le := r.lo_le_hi
  unfold distanceWord
  rw [if_neg ordered, UInt64.toNat_sub]
  have := r.lower.toUInt64.toNat_lt
  have := r.upper.toUInt64.toNat_lt
  simp only [Int.bmod_def, Word.count] at lower upper
  omega

/-- The length as words count it is the length. -/
theorem lenWord_toNat (r : IntRange) : r.lenWord.toNat = r.len := by
  have distance := r.distanceWord_toNat
  have sum : (r.distanceWord + 1).toNat = (r.distanceWord.toNat + 1) % 2 ^ 64 :=
    UInt64.toNat_add _ _
  have word := r.distanceWord.toNat_lt
  unfold len size Word.count
  unfold lenWord
  split
  · rename_i wrapped
    rw [wrapped, UInt64.toNat_zero] at sum
    omega
  · rename_i more
    rw [← UInt64.toNat_inj, UInt64.toNat_zero] at more
    omega

theorem size_of_widest (widest : r.IsWidest) : r.size = Word.count := by
  obtain ⟨lo, hi⟩ := widest
  unfold size
  rw [lo, hi]
  rfl

theorem len_of_widest (widest : r.IsWidest) : r.len = Word.count - 1 := by
  unfold len
  rw [size_of_widest widest]
  rfl

theorem place_of_widest (widest : r.IsWidest) : r.place (Word.count - 1) = r.hi := by
  obtain ⟨lo, hi⟩ := widest
  unfold place
  rw [size_of_widest ⟨lo, hi⟩, lo, hi]
  rfl

theorem len_of_narrower (narrower : ¬ r.IsWidest) : r.len = r.size := by
  have least := r.least_le_lo
  have greatest := r.hi_le_greatest
  unfold IsWidest Word.least Word.greatest at narrower
  unfold Word.least at least
  unfold Word.greatest at greatest
  unfold len size Word.count
  omega

end IntRange

namespace Pick

/-- Words draw what integers do. -/
theorem applyWord_toInt (r : IntRange) (p : Pick) : (p.applyWord r).toInt = p.apply r := by
  obtain ⟨above, below⟩ := p.apply_mem r
  cases p with
  | low => rfl
  | high => rfl
  | offset k =>
    have rest : ((k % r.lenWord).toNat : Int) = (k.toNat % r.len : Nat) := by
      rw [UInt64.toNat_mod, r.lenWord_toNat]
    -- The remainder may be no signed word; what it is read as differs from it by a whole turn.
    have signed : (k % r.lenWord).toInt64.toInt =
        ((k.toNat % r.len : Nat) : Int).bmod Word.count := by
      rw [Word.toInt_eq_bmod, ← rest]
      rfl
    change (r.lower + (k % r.lenWord).toInt64).toInt = r.lo + (k.toNat % r.len : Nat)
    rw [Int64.toInt_add, signed]
    change (r.lo + ((k.toNat % r.len : Nat) : Int).bmod Word.count).bmod Word.count = _
    rw [Int.add_bmod_bmod]
    exact Word.bmod_of_within (Int.le_trans r.least_le_lo above)
      (Int.le_trans below r.hi_le_greatest)

theorem apply_offset_of_widest (widest : r.IsWidest) (k : UInt64) :
    (offset k).apply r = if k.toNat = Word.count - 1 then r.lo else r.place k.toNat := by
  have word : k.toNat < Word.count := k.toNat_lt
  change r.lo + (k.toNat % r.len : Nat) = _
  unfold IntRange.place
  rw [IntRange.len_of_widest widest, IntRange.size_of_widest widest, Nat.mod_eq_of_lt word]
  split
  · rename_i last
    rw [last, Nat.mod_self]
    exact Int.add_zero _
  · rename_i earlier
    rw [Nat.mod_eq_of_lt (Nat.lt_of_le_of_ne (Nat.le_sub_one_of_lt word) earlier)]

theorem apply_offset_of_narrower (narrower : ¬ r.IsWidest) (k : UInt64) :
    (offset k).apply r = r.place k.toNat := by
  change r.lo + (k.toNat % r.len : Nat) = _
  rw [IntRange.len_of_narrower narrower]
  rfl

theorem apply_offset_ne_hi (widest : r.IsWidest) (k : UInt64) : (offset k).apply r ≠ r.hi := by
  have inside : k.toNat % r.len < r.len := Nat.mod_lt k.toNat r.len_pos
  have short := IntRange.len_of_widest widest
  obtain ⟨lo, hi⟩ := widest
  change r.lo + (k.toNat % r.len : Nat) ≠ r.hi
  unfold Word.count at short
  unfold Word.least at lo
  unfold Word.greatest at hi
  omega

end Pick

namespace IntRange

theorem sweeps_of_narrower (narrower : ¬ r.IsWidest) : r.Sweeps := by
  intro v above below
  have place {n : UInt64} (inside : n.toNat < r.size) :
      (RandomSource.draw r (Script.always (.offset n))).1 = r.lo + n.toNat := by
    change (Pick.offset n).apply r = _
    rw [Pick.apply_offset_of_narrower narrower, IntRange.place, Nat.mod_eq_of_lt inside]
  have span := r.span_lt
  have word : (v - r.lo).toNat < Word.count := by omega
  have offset : (UInt64.ofNat (v - r.lo).toNat).toNat = (v - r.lo).toNat :=
    UInt64.toNat_ofNat_of_lt' word
  have inside : (UInt64.ofNat (v - r.lo).toNat).toNat < r.size := by
    rw [offset, size]
    omega
  refine ⟨.ofNat (v - r.lo).toNat, ⟨inside, ?drawn⟩, ?only⟩
  case drawn =>
    rw [place inside, offset]
    omega
  case only =>
    rintro n ⟨within, drawn⟩
    rw [place within] at drawn
    rw [← UInt64.toNat_inj, offset]
    omega

/-- The offsets of the widest range sweep over all of it but the upper bound. -/
theorem sweeps_iff (r : IntRange) : r.Sweeps ↔ ¬ r.IsWidest := by
  constructor
  · intro sweeps widest
    obtain ⟨n, ⟨-, drawn⟩, -⟩ := sweeps r.hi r.lo_le_hi (Int.le_refl _)
    exact Pick.apply_offset_ne_hi widest n drawn
  · exact sweeps_of_narrower

end IntRange

/-- A script that is at an offset draws the place that the offset counts to, except for the last
offset of the widest range. Words do not hold the size of that range, so its last offset draws the
lower bound again, and no offset draws the upper one. -/
theorem offsets_count_round_but_widest {s : Script} (current : s.current = .offset k) :
    (s.current.applyWord r).toInt = (RandomSource.draw r s).1 ∧
      (RandomSource.draw r s).1 =
        (if r.IsWidest ∧ k.toNat = Word.count - 1 then r.lo else r.place k.toNat) ∧
      (r.IsWidest → r.place (Word.count - 1) = r.hi) ∧
      (r.Sweeps ↔ ¬ r.IsWidest) := by
  have draws : (RandomSource.draw r s).1 = (Pick.offset k).apply r := by
    rw [← current]
    rfl
  refine ⟨?machine, ?drawn, ?missed, r.sweeps_iff⟩
  case machine =>
    rw [draws, current]
    exact Pick.applyWord_toInt r (.offset k)
  case drawn =>
    rw [draws]
    by_cases widest : r.IsWidest
    · rw [Pick.apply_offset_of_widest widest k]
      simp only [widest, true_and]
    · rw [Pick.apply_offset_of_narrower widest, if_neg fun last => widest last.1]
  case missed => exact IntRange.place_of_widest

/-- Of all signed words, the last offset draws the least and not the greatest. -/
theorem offsets_count_round_but_widest_at_last_offset :
    let r : IntRange := ⟨Int64.minValue, Int64.maxValue, by decide⟩
    let s : Script := .always (.offset 0xffffffffffffffff)
    r.IsWidest ∧ s.current = .offset 0xffffffffffffffff ∧
      (RandomSource.draw r s).1 = Word.least ∧ (s.current.applyWord r).toInt = Word.least ∧
      r.place (Word.count - 1) = Word.greatest ∧ ¬ r.Sweeps := by
  intro r s
  have widest : r.IsWidest := by decide
  obtain ⟨machine, drawn, missed, sweeps⟩ :=
    offsets_count_round_but_widest (r := r) (s := s) rfl
  rw [if_pos ⟨widest, rfl⟩] at drawn
  exact ⟨widest, rfl, drawn, machine.trans drawn, missed widest,
    fun all => sweeps.mp all widest⟩

end ShapeFlow
