import Mathlib.Data.Rat.Floor
import ShapeFlow.Arithmetic
/-!
Integers and the signed words that hold them. A word reads as one integer; an integer within the
limits has exactly one word, and any other has none.
-/
namespace ShapeFlow.Word
variable {v : Int} {x y w : Int64}

/-- A signed word is the unsigned word of the same bits, counted from the middle. -/
theorem toInt_eq_bmod (w : Int64) : w.toInt = (w.toUInt64.toNat : Int).bmod count :=
  BitVec.toInt_eq_toNat_bmod w.toBitVec

theorem bmod_of_within (above : least ≤ v) (below : v ≤ greatest) : v.bmod count = v := by
  unfold least at above
  unfold greatest at below
  apply Int.bmod_eq_of_le
  · unfold count
    omega
  · unfold count
    omega

theorem toInt_ofInt (above : least ≤ v) (below : v ≤ greatest) : (Int64.ofInt v).toInt = v := by
  rw [Int64.toInt_ofInt]
  exact bmod_of_within above below

theorem toInt_add_of_within (above : least ≤ x.toInt + y.toInt)
    (below : x.toInt + y.toInt ≤ greatest) :
    (x + y).toInt = x.toInt + y.toInt := by
  rw [Int64.toInt_add]
  exact bmod_of_within above below

theorem toInt_sub_of_within (above : least ≤ x.toInt - y.toInt)
    (below : x.toInt - y.toInt ≤ greatest) :
    (x - y).toInt = x.toInt - y.toInt := by
  rw [Int64.toInt_sub]
  exact bmod_of_within above below

theorem least_le (w : Int64) : least ≤ w.toInt := w.le_toInt

theorem le_greatest (w : Int64) : w.toInt ≤ greatest := Int.le_of_lt_add_one w.toInt_lt

theorem of?_eq_some : of? v = some w ↔ w.toInt = v := by
  unfold of?
  constructor
  · intro held
    split at held
    · rename_i within
      obtain rfl := Option.some.inj held
      exact toInt_ofInt within.1 within.2
    · cases held
  · rintro rfl
    rw [if_pos ⟨least_le w, le_greatest w⟩, Int64.ofInt_toInt]

end ShapeFlow.Word

namespace ShapeFlow.Division
variable {q x y step : Int}

theorem le_floor_iff (positive : 0 < step) : q ≤ floor x step ↔ q * step ≤ x := by
  rw [floor, Int.fdiv_eq_ediv_of_nonneg _ (Int.le_of_lt positive)]
  exact Int.le_ediv_iff_mul_le positive

theorem floor_lt_floor (positive : 0 < step) (apart : x + step ≤ y) :
    floor x step < floor y step := by
  have here : floor x step * step ≤ x := (le_floor_iff positive).mp (Int.le_refl _)
  have next : floor x step + 1 ≤ floor y step := by
    rw [le_floor_iff positive, Int.add_mul, Int.one_mul]
    omega
  omega

theorem le_ceil_iff (positive : 0 < step) : q ≤ ceil x step ↔ (q - 1) * step < x := by
  have below : -x / step < 1 - q ↔ -x < (1 - q) * step := Int.ediv_lt_iff_lt_mul positive
  have turned : (1 - q) * step = -((q - 1) * step) := by rw [← Int.neg_mul, Int.neg_sub]
  rw [turned] at below
  rw [ceil, Int.fdiv_eq_ediv_of_nonneg _ (Int.le_of_lt positive)]
  omega

theorem floor_nonneg (dividend : 0 ≤ x) (divisor : 0 ≤ y) : 0 ≤ floor x y :=
  Int.fdiv_nonneg dividend divisor

theorem ceil_nonneg (dividend : 0 ≤ x) (divisor : 0 ≤ y) : 0 ≤ ceil x y := by
  rcases Int.lt_or_eq_of_le divisor with positive | rfl
  · rw [le_ceil_iff positive]
    omega
  · rw [ceil, Int.fdiv_zero]
    decide

def strictQuotient? (a b : Int64) : Option Int64 :=
  if b = 0 then none else Word.of? (a.toInt.tdiv b.toInt)

def strictFloor? (a b : Int64) : Option Int64 := do
  let q ← strictQuotient? a b
  if a % b ≠ 0 ∧ ¬(a < 0 ↔ b < 0) then Word.of? (q.toInt - 1) else return q

def strictCeil? (a b : Int64) : Option Int64 := do
  let q ← strictQuotient? a b
  if a % b ≠ 0 ∧ (a < 0 ↔ b < 0) then Word.of? (q.toInt + 1) else return q

section Integers
variable {a b : Int}

theorem floor_neg_neg (a b : Int) : floor (-a) (-b) = floor a b := Int.neg_fdiv_neg a b

/-- The quotients are compared with integers by products. -/
theorem floor_eq_rat_floor (a b : Int) : floor a b = ⌊(a / b : ℚ)⌋ := by
  have forward (x : Int) {step : Int} (positive : 0 < step) : floor x step = ⌊(x / step : ℚ)⌋ := by
    apply eq_of_forall_le_iff
    intro q
    rw [le_floor_iff positive, Int.le_floor, le_div_iff₀ (Int.cast_pos.mpr positive)]
    exact_mod_cast Iff.rfl
  rcases lt_trichotomy b 0 with negative | rfl | positive
  · have turned := forward (-a) (Int.neg_pos_of_neg negative)
    rw [floor_neg_neg, Int.cast_neg, Int.cast_neg, neg_div_neg_eq] at turned
    exact turned
  · rw [floor, Int.fdiv_zero, Int.cast_zero, div_zero, Int.floor_zero]
  · exact forward a positive

theorem ceil_eq_rat_ceil (a b : Int) : ceil a b = ⌈(a / b : ℚ)⌉ := by
  change -floor (-a) b = _
  rw [floor_eq_rat_floor, Int.cast_neg, neg_div, Int.floor_neg, Int.neg_neg]

/-- An inexact quotient of integers with different signs lies below the one rounded towards zero. -/
theorem floor_eq_tdiv (divisor : b ≠ 0) :
    floor a b = a.tdiv b - if a.tmod b ≠ 0 ∧ ¬(a < 0 ↔ b < 0) then 1 else 0 := by
  rw [floor, Int.fdiv_eq_tdiv]
  by_cases exact : a.tmod b = 0
  · rw [if_pos (Int.dvd_of_tmod_eq_zero exact), if_neg fun moves => moves.1 exact]
  · rw [if_neg (mt Int.tmod_eq_zero_of_dvd exact)]
    rcases Int.lt_or_gt_of_ne divisor with negative | positive
    · rw [Int.sign_eq_neg_one_of_neg negative]
      simp only [exact, negative, ne_eq, not_false_eq_true, true_and, iff_true, Int.not_lt]
      split <;> split <;> omega
    · rw [Int.sign_eq_one_of_pos positive]
      simp only [exact, Int.lt_asymm positive, ne_eq, not_false_eq_true, true_and, iff_false,
        Int.not_lt]
      split <;> split <;> omega

theorem ceil_eq_tdiv (divisor : b ≠ 0) :
    ceil a b = a.tdiv b + if a.tmod b ≠ 0 ∧ (a < 0 ↔ b < 0) then 1 else 0 := by
  have turned : (-a.tmod b ≠ 0 ∧ ¬(-a < 0 ↔ b < 0)) ↔ (a.tmod b ≠ 0 ∧ (a < 0 ↔ b < 0)) := by
    rw [neg_ne_zero]
    apply and_congr_right
    intro inexact
    have dividend : a ≠ 0 := by
      rintro rfl
      exact inexact (Int.zero_tmod b)
    omega
  change -floor (-a) b = _
  rw [floor_eq_tdiv divisor, Int.neg_tdiv, Int.neg_tmod, if_congr turned rfl rfl]
  omega

/-- A divisor that leaves a remainder is not one, so it at least halves the dividend. -/
theorem tdiv_inexact_le (inexact : a.tmod b ≠ 0) : 2 * (a.tdiv b).natAbs ≤ a.natAbs := by
  have unit : b.natAbs ≠ 1 := by
    intro one
    obtain rfl | rfl : b = 1 ∨ b = -1 := by omega
    · exact inexact (Int.tmod_one a)
    · exact inexact (by rw [Int.tmod_neg, Int.tmod_one])
  have quotient : (a.tdiv b).natAbs = a.natAbs / b.natAbs := Int.natAbs_tdiv a b
  rw [quotient]
  by_cases zero : b.natAbs = 0
  · rw [zero, Nat.div_zero]
    exact Nat.zero_le _
  · have halved : a.natAbs / b.natAbs ≤ a.natAbs / 2 := Nat.div_le_div_left (by omega) (by decide)
    omega

end Integers

section Words
variable {a b : Int64}

theorem inexact_iff : a % b ≠ 0 ↔ a.toInt.tmod b.toInt ≠ 0 := by
  rw [Ne, ← Int64.toInt_inj, Int64.toInt_mod, Int64.toInt_zero]

theorem toInt_ne_zero (divisor : b ≠ 0) : b.toInt ≠ 0 := fun zero =>
  divisor (Int64.toInt_inj.mp zero)

variable (divisor : b ≠ 0) (within : ¬(a = Int64.minValue ∧ b = -1))
include within

theorem toInt_quotient : (a / b).toInt = a.toInt.tdiv b.toInt := by
  by_cases least : a = Int64.minValue
  · exact Int64.toInt_div_of_ne_right a b fun turned => within ⟨least, turned⟩
  · exact Int64.toInt_div_of_ne_left a b least

/-- There is a word on either side of an inexact quotient. -/
theorem inexact_within (inexact : a % b ≠ 0) :
    Word.least < (a / b).toInt ∧ (a / b).toInt < Word.greatest := by
  have halved := tdiv_inexact_le (inexact_iff.mp inexact)
  have above := Word.least_le a
  have below := Word.le_greatest a
  rw [toInt_quotient within]
  unfold Word.least Word.greatest at *
  omega

theorem toInt_down (inexact : a % b ≠ 0) : (a / b - 1).toInt = (a / b).toInt - 1 := by
  obtain ⟨above, below⟩ := inexact_within within inexact
  apply Word.toInt_sub_of_within
  · exact Int.le_sub_one_of_lt above
  · exact Int.le_trans (Int.sub_le_self _ (by decide)) (Int.le_of_lt below)

theorem toInt_up (inexact : a % b ≠ 0) : (a / b + 1).toInt = (a / b).toInt + 1 := by
  obtain ⟨above, below⟩ := inexact_within within inexact
  apply Word.toInt_add_of_within
  · exact Int.le_trans (Int.le_of_lt above) (Int.le_add_of_nonneg_right (by decide))
  · exact below

include divisor

theorem strictQuotient?_eq : strictQuotient? a b = some (a / b) := by
  rw [strictQuotient?, if_neg divisor]
  exact Word.of?_eq_some.mpr (toInt_quotient within)

/-- The machine moves the quotient to the one rounded down. -/
theorem toInt_floorWord : (floorWord a b).toInt = floor a.toInt b.toInt := by
  rw [floor_eq_tdiv (toInt_ne_zero divisor), ← toInt_quotient within]
  simp only [floorWord, inexact_iff, Int64.lt_iff_toInt_lt, Int64.toInt_zero]
  split
  · rename_i moves
    exact toInt_down within (inexact_iff.mpr moves.1)
  · rw [Int.sub_zero]

theorem strictFloor?_eq : strictFloor? a b = some (floorWord a b) := by
  rw [strictFloor?, strictQuotient?_eq divisor within, Option.bind_eq_bind, Option.bind_some]
  simp only [floorWord]
  split
  · rename_i moves
    exact Word.of?_eq_some.mpr (toInt_down within moves.1)
  · rfl

theorem toInt_ceilWord : (ceilWord a b).toInt = ceil a.toInt b.toInt := by
  rw [ceil_eq_tdiv (toInt_ne_zero divisor), ← toInt_quotient within]
  simp only [ceilWord, inexact_iff, Int64.lt_iff_toInt_lt, Int64.toInt_zero]
  split
  · rename_i moves
    exact toInt_up within (inexact_iff.mpr moves.1)
  · rw [Int.add_zero]

theorem strictCeil?_eq : strictCeil? a b = some (ceilWord a b) := by
  rw [strictCeil?, strictQuotient?_eq divisor within, Option.bind_eq_bind, Option.bind_some]
  simp only [ceilWord]
  split
  · rename_i moves
    exact Word.of?_eq_some.mpr (toInt_up within moves.1)
  · rfl

theorem undefinedOn_eq_false : undefinedOn a b = false := by
  simp only [undefinedOn, Bool.or_eq_false_iff, beq_eq_false_iff_ne, Bool.and_eq_false_imp,
    beq_iff_eq]
  exact ⟨divisor, fun least turned => within ⟨least, turned⟩⟩

end Words

/-- Any two words that a machine can divide have a quotient rounded down and one rounded up, which
are the exact ones. It makes no difference if the machine stops where no word holds a result, since
the quotient that it rounds towards zero is never moved out of the words. -/
theorem word_quotients_exact {a b : Int64} (divisor : b ≠ 0)
    (within : ¬(a = Int64.minValue ∧ b = -1)) :
    (∃ q, floorWord? a b = some q ∧ strictFloor? a b = some q ∧
      q.toInt = ⌊(a.toInt / b.toInt : ℚ)⌋) ∧
    (∃ q, ceilWord? a b = some q ∧ strictCeil? a b = some q ∧
      q.toInt = ⌈(a.toInt / b.toInt : ℚ)⌉) := by
  have answered := undefinedOn_eq_false divisor within
  refine ⟨⟨floorWord a b, ?_, strictFloor?_eq divisor within, ?_⟩,
    ⟨ceilWord a b, ?_, strictCeil?_eq divisor within, ?_⟩⟩
  · rw [floorWord?, answered]
    rfl
  · rw [toInt_floorWord divisor within, floor_eq_rat_floor]
  · rw [ceilWord?, answered]
    rfl
  · rw [toInt_ceilWord divisor within, ceil_eq_rat_ceil]

/-- No word is a third of the least one. The quotients are the words on the two sides of it. -/
theorem word_quotients_exact_at_third_of_least :
    (3 : Int64) ≠ 0 ∧ ¬(Int64.minValue = Int64.minValue ∧ (3 : Int64) = -1) ∧
      strictFloor? Int64.minValue 3 = some (-3074457345618258603) ∧
      ⌊(Int64.minValue.toInt / (3 : Int64).toInt : ℚ)⌋ = -3074457345618258603 ∧
      strictCeil? Int64.minValue 3 = some (-3074457345618258602) ∧
      ⌈(Int64.minValue.toInt / (3 : Int64).toInt : ℚ)⌉ = -3074457345618258602 := by
  have divisor : (3 : Int64) ≠ 0 := by decide
  have within : ¬(Int64.minValue = Int64.minValue ∧ (3 : Int64) = -1) := by decide
  obtain ⟨⟨down, answer, strict, below⟩, up, answer', strict', above⟩ :=
    word_quotients_exact divisor within
  obtain rfl : -3074457345618258603 = down := Option.some.inj answer
  obtain rfl : -3074457345618258602 = up := Option.some.inj answer'
  exact ⟨divisor, within, strict, below.symm, strict', above.symm⟩

end ShapeFlow.Division
