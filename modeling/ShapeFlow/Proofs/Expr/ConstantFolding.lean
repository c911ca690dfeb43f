import ShapeFlow.Proofs.Expr.Cancellation
import ShapeFlow.Proofs.Expr.FixedPoint
/-!
What becomes of expressions without symbols. One that has a value folds to it, in each of its parts.
One that has none still fails once it is simplified, unless it folds all the same: an identity looks
at one operand, or at the equality of two, and never sees what fails in the other.
-/
namespace ShapeFlow.Expr
variable {σ : Binding} {e a b : Expr} {fs : List Expr} {v : Int}

theorem value_operands (e : Expr) (known : ∃ v, e.eval σ = .ok v) :
    ∀ a ∈ e.operands, ∃ v, a.eval σ = .ok v := by
  obtain ⟨v, h⟩ := known
  cases e with
  | value | var => nofun
  | neg a =>
    obtain ⟨x, hx, -⟩ := eval_neg_ok.mp h
    exact List.forall_mem_singleton.mpr ⟨x, hx⟩
  | add a b | sub a b | mul a b | div a b | divCeil a b | broadcast a b =>
    obtain ⟨x, hx, rest⟩ := bind_eq_ok.mp h
    obtain ⟨y, hy, -⟩ := bind_eq_ok.mp rest
    exact List.forall_mem_cons.mpr ⟨⟨x, hx⟩, List.forall_mem_singleton.mpr ⟨y, hy⟩⟩

/-- What has a value without symbols simplifies to it, and every part of it simplifies to a value of
its own, so that it counts as known. -/
theorem constants_fold (closed : e.Closed) (h : e.eval σ = .ok v) :
    e.simplify = .value v ∧ ∀ s ∈ e.parts,
      ∃ w, s.eval σ = .ok w ∧ s.simplify = .value w ∧ s.simplify.isKnown = true := by
  refine ⟨simplify_closed closed h, ?_⟩
  intro s inside
  obtain ⟨w, value⟩ := forall_parts value_operands ⟨v, h⟩ s inside
  have folded := simplify_closed (closed_parts closed s inside) value
  exact ⟨w, value, folded, by rw [folded]; rfl⟩

theorem constants_fold_through_operators :
    let product : Expr := .mul (.value 3) (.neg (.value (-2)))
    let e : Expr := .broadcast (.sub product (.divCeil (.value 7) (.value 2)))
      (.div (.value 5) (.add (.value 2) (.value 2)))
    e.Closed ∧ e.eval (fun _ => none) = .ok 2 ∧ e.simplify = .value 2 ∧
      product.simplify = .value 6 := by
  intro product e
  have closed : e.Closed := by simp [e, product, Closed]
  have value : e.eval (fun _ => none) = .ok 2 := rfl
  have inside : product ∈ e.parts := by decide
  obtain ⟨whole, parts⟩ := constants_fold closed value
  obtain ⟨w, hw, folded, -⟩ := parts product inside
  have six : product.eval (fun _ => none) = .ok 6 := rfl
  rw [Except.ok.inj (hw.symm.trans six)] at folded
  exact ⟨closed, value, whole, folded⟩

theorem productOf_reduced {r : Reduced} (tidy : r.Tidy) : productOf r.factors = r.form := by
  cases r with
  | product fs => rfl
  | whole | sum | negation => exact productOf_factors tidy.form

theorem product_symbolic (first : ¬ e.IsLiteral) (fs : List Expr) :
    ¬ (fs.foldl mul e).IsLiteral := by
  induction fs generalizing e with
  | nil => exact first
  | cons f fs ih => exact ih (not_literal rfl)

/-- A product folds to a literal exactly where its constant is zero or nothing else is in it. -/
theorem productOf_literal_iff : (productOf fs).IsLiteral ↔
    (fs.filterMap value?).prod = 0 ∨ fs.filter (·.value?.isNone) = [] := by
  have constant : (fs.filterMap value?).foldr (· * ·) 1 = (fs.filterMap value?).prod := rfl
  simp only [productOf, constant]
  split
  · rename_i zero
    simp [zero, IsLiteral]
  · rename_i nonzero
    simp only [nonzero, false_or]
    split
    · rename_i nothing
      simp [nothing, IsLiteral]
    · rename_i f rest symbolic
      have first : f.value? = none :=
        (forall_symbolic (P := fun g => g.value? = none) (fun _ _ unknown => unknown) symbolic).1
      have chain := product_symbolic (not_literal first) rest
      simp only [symbolic, reduceCtorEq, iff_false]
      split
      · exact chain
      · exact not_literal rfl

theorem productOf_zero_iff : productOf fs = .value 0 ↔ (fs.filterMap value?).prod = 0 := by
  have constant : (fs.filterMap value?).foldr (· * ·) 1 = (fs.filterMap value?).prod := rfl
  constructor
  · intro folded
    rcases productOf_literal_iff.mp ⟨0, folded⟩ with zero | nothing
    · exact zero
    · simp only [productOf, constant, nothing] at folded
      split at folded
      · assumption
      · exact value.inj folded
  · intro zero
    simp only [productOf, constant, zero, ↓reduceIte]

theorem simplify_mul_literal_iff : (mul a b).simplify.IsLiteral ↔
    a.simplify = .value 0 ∨ b.simplify = .value 0 ∨
      a.simplify.IsLiteral ∧ b.simplify.IsLiteral := by
  have left := productOf_reduced (reduce_tidy a)
  have right := productOf_reduced (reduce_tidy b)
  have whole : (mul a b).simplify = productOf (a.reduce.factors ++ b.reduce.factors) := rfl
  rw [whole]
  unfold simplify
  rw [← left, ← right]
  simp only [productOf_zero_iff, productOf_literal_iff, List.filterMap_append, List.prod_append,
    Int.mul_eq_zero, List.filter_append, List.append_eq_nil_iff]
  tauto

theorem negated_literal_iff (normal : Normal a) : (negated a).IsLiteral ↔ a.IsLiteral := by
  cases a with
  | value v => exact ⟨fun _ => ⟨v, rfl⟩, fun _ => ⟨-v, rfl⟩⟩
  | neg b =>
    have inner : ¬ b.IsLiteral := not_literal (normal_neg.mp normal).1.1
    exact iff_of_false inner (not_literal rfl)
  | var | add | sub | mul | div | divCeil | broadcast =>
    exact iff_of_false (not_literal rfl) (not_literal rfl)

theorem alike_value : Alike a (.value v) ↔ a = .value v := bare_eq_value

theorem quotient_literal_iff {round : Int → Int → Int} {keep : Expr → Expr → Expr}
    (kept : (keep a b).value? = none) : (quotient round keep a b).IsLiteral ↔
      Alike a b ∨ a.IsLiteral ∧ b.IsLiteral ∧ b ≠ .value 0 := by
  unfold quotient
  split
  · rename_i unit
    subst unit
    rw [alike_value]
    constructor
    · intro literal
      exact .inr ⟨literal, ⟨1, rfl⟩, by simp⟩
    · rintro (rfl | ⟨literal, -⟩)
      · exact ⟨1, rfl⟩
      · exact literal
  · split
    · rename_i x y _
      rw [alike_value]
      by_cases zero : y = 0
      · subst zero
        by_cases same : x = 0
        · simp [same, IsLiteral]
        · simp [same, not_literal kept]
      · simp [zero, IsLiteral]
    · rename_i symbolic
      have unknown : ¬ (a.IsLiteral ∧ b.IsLiteral) := by
        rintro ⟨⟨x, rfl⟩, y, rfl⟩
        exact symbolic x y rfl rfl
      split
      · rename_i like
        exact iff_of_true ⟨1, rfl⟩ (.inl like)
      · rename_i unlike
        refine iff_of_false (not_literal kept) ?_
        rintro (like | ⟨left, right, -⟩)
        · exact unlike like
        · exact unknown ⟨left, right⟩

def Decides (e : Expr) : Prop := e.isKnown = true ∧ e ≠ .value 1

theorem literal_cases (literal : e.IsLiteral) : e = .value 1 ∨ e.Decides := by
  obtain ⟨x, rfl⟩ := literal
  by_cases one : x = 1
  · exact .inl (congrArg value one)
  · exact .inr ⟨rfl, fun same => one (value.inj same)⟩

theorem broadcasted_literal (literal : (broadcasted a b).IsLiteral) :
    a.Decides ∨ b.Decides ∨ a.IsLiteral ∧ b.IsLiteral := by
  unfold broadcasted at literal
  split at literal
  · rename_i like
    obtain ⟨x, rfl⟩ := literal
    exact .inr (.inr ⟨⟨x, rfl⟩, x, alike_value.mp like.symm⟩)
  · split at literal
    · rename_i x _
      rcases literal_cases ⟨x, rfl⟩ with one | decides
      · simp only [value.inj one, ↓reduceIte] at literal
        exact .inr (.inr ⟨⟨x, rfl⟩, literal⟩)
      · exact .inl decides
    · rename_i y _ _
      rcases literal_cases ⟨y, rfl⟩ with one | decides
      · simp only [value.inj one, ↓reduceIte] at literal
        exact .inr (.inr ⟨literal, y, rfl⟩)
      · exact .inr (.inl decides)
    · exact absurd literal (not_literal rfl)

theorem literal_of_decides (decides : a.Decides ∨ b.Decides) : (broadcasted a b).IsLiteral := by
  rcases decides with ⟨known, apart⟩ | ⟨known, apart⟩
  · obtain ⟨x, rfl⟩ := isKnown_iff.mp known
    have other : x ≠ 1 := fun one => apart (congrArg value one)
    unfold broadcasted
    simp only [other, ↓reduceIte]
    split
    · exact ⟨x, rfl⟩
    · split <;> exact ⟨x, rfl⟩
  · obtain ⟨y, rfl⟩ := isKnown_iff.mp known
    have other : y ≠ 1 := fun one => apart (congrArg value one)
    unfold broadcasted
    split
    · rename_i like
      exact ⟨y, alike_value.mp like⟩
    · cases a with
      | value x => simp only [value.injEq, other, ↓reduceIte]; split <;> exact ⟨_, rfl⟩
      | _ => simp only [other, ↓reduceIte]; exact ⟨y, rfl⟩

theorem broadcasted_literal_iff : (broadcasted a b).IsLiteral ↔
    a.Decides ∨ b.Decides ∨ a = .value 1 ∧ b = .value 1 := by
  constructor
  · intro literal
    rcases broadcasted_literal literal with decides | decides | ⟨left, right⟩
    · exact .inl decides
    · exact .inr (.inl decides)
    · rcases literal_cases left with one | decides
      · rcases literal_cases right with one' | decides
        · exact .inr (.inr ⟨one, one'⟩)
        · exact .inr (.inl decides)
      · exact .inl decides
  · rintro (decides | decides | ⟨rfl, rfl⟩)
    · exact literal_of_decides (.inl decides)
    · exact literal_of_decides (.inr decides)
    · exact ⟨1, rfl⟩

/-- The expression folds to a literal, whether or not it has a value. Of a product or a broadcast
one operand can be enough, and of a sum or a quotient it can be enough that operands are alike. -/
def Folds : Expr → Prop
  | .value _ => True
  | .var _ => False
  | .neg a => a.Folds
  | .add a b => Balanced (add a b).reduce.terms
  | .sub a b => Balanced (sub a b).reduce.terms
  | .mul a b => a.simplify = .value 0 ∨ b.simplify = .value 0 ∨ a.Folds ∧ b.Folds
  | .div a b | .divCeil a b =>
    Alike a.simplify b.simplify ∨ a.Folds ∧ b.Folds ∧ b.simplify ≠ .value 0
  | .broadcast a b => a.simplify.Decides ∨ b.simplify.Decides ∨
    a.simplify = .value 1 ∧ b.simplify = .value 1

instance : DecidablePred Decides := fun e =>
  inferInstanceAs (Decidable (e.isKnown = true ∧ e ≠ .value 1))

instance decidableFolds : DecidablePred Folds
  | .value _ => isTrue trivial
  | .var _ => isFalse id
  | .neg a => decidableFolds a
  | .add a b => inferInstanceAs (Decidable (Balanced (add a b).reduce.terms))
  | .sub a b => inferInstanceAs (Decidable (Balanced (sub a b).reduce.terms))
  | .mul a b =>
    have := decidableFolds a
    have := decidableFolds b
    inferInstanceAs (Decidable (a.simplify = .value 0 ∨ b.simplify = .value 0 ∨ a.Folds ∧ b.Folds))
  | .div a b | .divCeil a b =>
    have := decidableFolds a
    have := decidableFolds b
    inferInstanceAs (Decidable
      (Alike a.simplify b.simplify ∨ a.Folds ∧ b.Folds ∧ b.simplify ≠ .value 0))
  | .broadcast a b => inferInstanceAs (Decidable (a.simplify.Decides ∨ b.simplify.Decides ∨
      a.simplify = .value 1 ∧ b.simplify = .value 1))

theorem simplify_literal_iff (e : Expr) : e.simplify.IsLiteral ↔ e.Folds := by
  induction e with
  | value v => exact ⟨fun _ => trivial, fun _ => ⟨v, rfl⟩⟩
  | var s => exact iff_of_false (not_literal rfl) id
  | neg a ih => exact (negated_literal_iff (normal_simplify a)).trans ih
  | add a b => exact sumOf_literal_iff
  | sub a b => exact sumOf_literal_iff
  | mul a b iha ihb => rw [simplify_mul_literal_iff, Folds, iha, ihb]
  | div a b iha ihb =>
    rw [Folds, ← iha, ← ihb]
    exact quotient_literal_iff rfl
  | divCeil a b iha ihb =>
    rw [Folds, ← iha, ← ihb]
    exact quotient_literal_iff rfl
  | broadcast a b => exact broadcasted_literal_iff

/-- An expression without symbols is simplified to a literal exactly where it folds. Where it does
not, what is left of it fails, whatever kept the expression itself from having a value. -/
theorem known_failure_kept (closed : e.Closed) :
    ((∃ v, e.simplify = .value v) ↔ e.Folds) ∧
      (¬ e.Folds → ∀ τ, e.simplify.eval τ = .error .divisionByZero) := by
  refine ⟨simplify_literal_iff e, fun stays τ => ?_⟩
  have symbolic : ¬ e.simplify.IsLiteral := fun literal => stays ((simplify_literal_iff e).mp literal)
  exact (normal_cases (normal_simplify e) (closed_simplify closed) τ).resolve_left symbolic

/-- A part that is dropped takes no other failure away with it, and neither does one operand that
decides about the other. -/
theorem known_failure_kept_beside_dropped :
    let five : Expr := .div (.value 5) (.value 0)
    let seven : Expr := .div (.value 7) (.value 0)
    ∀ e ∈ [Expr.add (.mul (.value 0) five) seven, .add (.sub five five) seven,
        .div (.broadcast (.value 2) (.value 3)) (.value 0)],
      e.Closed ∧ (∃ why, e.eval (fun _ => none) = .error why) ∧ ¬ e.Folds ∧
        e.simplify.eval (fun _ => none) = .error .divisionByZero := by
  intro five seven e member
  have known : ∀ e ∈ [Expr.add (.mul (.value 0) five) seven, .add (.sub five five) seven,
      .div (.broadcast (.value 2) (.value 3)) (.value 0)],
        e.symbols = [] ∧ (e.eval (fun _ => none)).isOk = false ∧ ¬ e.Folds := by
    decide +kernel
  obtain ⟨closed, failure, stays⟩ := known e member
  have closed := closed_iff.mpr closed
  refine ⟨closed, ?_, stays, (known_failure_kept closed).2 stays _⟩
  cases value : e.eval (fun _ => none) with
  | error why => exact ⟨why, rfl⟩
  | ok v =>
    rw [value] at failure
    cases failure

/-- Each of the identities folds a failure away. -/
theorem identities_drop_known_failures :
    let σ : Binding := fun _ => none
    let fails : Expr := .div (.value 5) (.value 0)
    let product : Expr := .mul (.value 0) fails
    let difference : Expr := .sub fails fails
    let quotient : Expr := .div fails fails
    let broadcast : Expr := .broadcast fails (.value 3)
    (product.Closed ∧ product.eval σ = .error .divisionByZero ∧ product.simplify = .value 0) ∧
      (difference.Closed ∧ difference.eval σ = .error .divisionByZero ∧
        difference.simplify = .value 0) ∧
      (quotient.Closed ∧ quotient.eval σ = .error .divisionByZero ∧
        quotient.simplify = .value 1) ∧
      broadcast.Closed ∧ broadcast.eval σ = .error .divisionByZero ∧
        broadcast.simplify = .value 3 := by
  intro σ fails product difference quotient broadcast
  have closed : fails.Closed := ⟨trivial, trivial⟩
  refine ⟨⟨⟨trivial, closed⟩, rfl, ?_⟩, ⟨⟨closed, closed⟩, rfl, ?_⟩, ⟨⟨closed, closed⟩, rfl, ?_⟩,
    ⟨closed, trivial⟩, rfl, ?_⟩
  all_goals decide +kernel

end ShapeFlow.Expr
