import ShapeFlow.Layer.Sizes
import ShapeFlow.Proofs.Expr.Closed
/-!
The output size of a window has the value that its formula gives on the value of the input, less a
window that overhangs. Only a literal input is tested for one.
-/
namespace ShapeFlow.Window
open ShapeFlow.Expr
variable {σ : Binding} {w : Window} {e t : Expr} {n m : Int} {why : ShapeError}

def count (w : Window) (n : Int) : Int :=
  (if w.ceil then Division.ceil else Division.floor) (n + w.offset) (wrap w.stride) + 1

def StrideFits (w : Window) : Prop := w.stride < Word.count

instance : DecidablePred StrideFits := fun w => Nat.decLt w.stride Word.count

theorem strideFits_of_word (word : w.stride ≤ Word.greatest) : w.StrideFits :=
  Word.add_lt_count word (n := 0) (by decide)

/-- Signed words hold the parameters, so that they enter the formula as they are. -/
structure InWords (w : Window) : Prop where
  stride : w.stride ≤ Word.greatest
  padding : (2 * w.padding : Nat) ≤ Word.greatest
  reach : w.reach ≤ Word.greatest

theorem InWords.strideFits (words : w.InWords) : w.StrideFits := strideFits_of_word words.stride

theorem InWords.offset_eq (words : w.InWords) : w.offset = 2 * w.padding - w.reach - 1 := by
  have twice := Expr.wrap_small words.padding
  push_cast at twice
  rw [offset, twice, Expr.wrap_small words.reach]

theorem wrap_stride_ne_zero (positive : w.stride ≠ 0) (fits : w.StrideFits) :
    wrap w.stride ≠ 0 := by
  unfold StrideFits Word.count at fits
  simp only [wrap, Word.count, Int.bmod_def]
  omega

theorem eval_formula (he : e.eval σ = .ok n) (step : wrap w.stride ≠ 0) :
    (w.formula e).eval σ = .ok (w.count n) := by
  cases h : w.ceil <;> simp [formula, count, h, he, step]

theorem closed_formula (closed : e.Closed) : (w.formula e).Closed := by
  cases h : w.ceil <;> simp [formula, h, Closed, closed]

theorem dropOverhang_floor (down : w.ceil = false) : w.dropOverhang e m = m := by
  simp only [dropOverhang, down]

theorem dropOverhang_symbolic (symbolic : ¬e.IsLiteral) : w.dropOverhang e m = m := by
  unfold dropOverhang
  split
  · rename_i size _
    exact absurd ⟨size, rfl⟩ symbolic
  · rfl

/-- No last window is ever dropped, so it makes no difference how an input is written. -/
def Steady (w : Window) : Prop := ∀ n, w.dropOverhang (.value n) (w.count n) = w.count n

theorem steady_of_floor (down : w.ceil = false) : w.Steady := by
  intro n
  exact dropOverhang_floor down

theorem dropOverhang_of_steady (steady : w.Steady) (he : e.eval σ = .ok n) :
    w.dropOverhang e (w.count n) = w.count n := by
  by_cases literal : e.IsLiteral
  · obtain ⟨m, rfl⟩ := literal
    obtain rfl := eval_value_ok.mp he
    exact steady m
  · exact dropOverhang_symbolic literal

/-- What the output size is once the formula has simplified to a literal. -/
theorem outputSize_literal (positive : w.stride ≠ 0) (folded : (w.formula e).simplify = .value m) :
    w.outputSize e = if w.dropOverhang e m < 1
      then .error (.tooSmall e w.kernel (w.dropOverhang e m))
      else .ok (.value (w.dropOverhang e m)) := by
  simp only [outputSize_eq, checkFit, positive, ↓reduceIte, folded]

theorem outputSize_closed (positive : w.stride ≠ 0) (fits : w.StrideFits) (closed : e.Closed)
    (he : e.eval σ = .ok n) : w.outputSize e = if w.dropOverhang e (w.count n) < 1
      then .error (.tooSmall e w.kernel (w.dropOverhang e (w.count n)))
      else .ok (.value (w.dropOverhang e (w.count n))) := by
  have step := wrap_stride_ne_zero positive fits
  exact outputSize_literal positive (simplify_closed (closed_formula closed) (eval_formula he step))

theorem outputSize_value (positive : w.stride ≠ 0) (fits : w.StrideFits) :
    w.outputSize (.value n) = if w.dropOverhang (.value n) (w.count n) < 1
      then .error (.tooSmall (.value n) w.kernel (w.dropOverhang (.value n) (w.count n)))
      else .ok (.value (w.dropOverhang (.value n) (w.count n))) := by
  have known : (value n).eval (fun _ => none) = .ok n := rfl
  exact outputSize_closed positive fits trivial known

theorem stride_positive (answer : w.outputSize e = .ok t) : w.stride ≠ 0 := by
  intro zero
  simp [outputSize_eq, zero] at answer

/-- An output size has the value of the count, less an overhang that its input shows. -/
theorem eval_outputSize (fits : w.StrideFits) (he : e.eval σ = .ok n)
    (answer : w.outputSize e = .ok t) :
    t.eval σ = .ok (w.dropOverhang e (w.count n)) := by
  have positive := stride_positive answer
  have value : (w.formula e).simplify.eval σ = .ok (w.count n) :=
    (reduce_means (eval_formula he (wrap_stride_ne_zero positive fits))).form
  cases folded : (w.formula e).simplify with
  | value m =>
    rw [folded, eval_value_ok] at value
    rw [outputSize_literal positive folded, value] at answer
    split at answer
    · cases answer
    · obtain rfl := Except.ok.inj answer
      rfl
  | var | neg | add | sub | mul | div | divCeil | broadcast =>
    have symbolic : ¬e.IsLiteral := by
      rintro ⟨n, rfl⟩
      have closed : (Expr.value n).Closed := trivial
      have known : (Expr.value n).eval σ = .ok n := rfl
      have step := wrap_stride_ne_zero positive fits
      rw [simplify_closed (closed_formula closed) (eval_formula known step)] at folded
      cases folded
    simp only [outputSize_eq, checkFit, positive, ↓reduceIte, folded, Except.ok.injEq] at answer
    rw [folded, answer] at value
    rw [value, dropOverhang_symbolic symbolic]

/-- An input is refused only where its value leaves less than one window. -/
theorem outputSize_refused (positive : w.stride ≠ 0) (fits : w.StrideFits)
    (he : e.eval σ = .ok n) (refusal : w.outputSize e = .error why) :
    w.dropOverhang e (w.count n) < 1 := by
  have value : (w.formula e).simplify.eval σ = .ok (w.count n) :=
    (reduce_means (eval_formula he (wrap_stride_ne_zero positive fits))).form
  cases folded : (w.formula e).simplify with
  | value m =>
    rw [folded, eval_value_ok] at value
    rw [outputSize_literal positive folded, value] at refusal
    split at refusal
    · assumption
    · cases refusal
  | var | neg | add | sub | mul | div | divCeil | broadcast =>
    simp [outputSize_eq, checkFit, positive, folded] at refusal

end ShapeFlow.Window
