import ShapeFlow.Proofs.Expr.SimplifySound
import ShapeFlow.Proofs.Expr.Symbols
/-!
Expressions without symbols. One that has a value simplifies to that value, so a test for literal
sizes sees every known size once it is simplified. The argument goes through the normal form: without
symbols it is a literal, or it divides by zero.
-/
namespace ShapeFlow.Expr
variable {σ : Binding} {e a b : Expr} {v : Int}

def Closed : Expr → Prop
  | .value _ => True
  | .var _ => False
  | .neg a => a.Closed
  | .add a b | .sub a b | .mul a b | .div a b | .divCeil a b | .broadcast a b =>
    a.Closed ∧ b.Closed

/-- Without symbols, the binding makes no difference. -/
theorem eval_closed (closed : e.Closed) (σ τ : Binding) : e.eval σ = e.eval τ := by
  induction e with
  | value v => rfl
  | var s => exact closed.elim
  | neg a ih => simp only [eval, ih closed]
  | add a b iha ihb | sub a b iha ihb | mul a b iha ihb =>
    simp only [eval, iha closed.1, ihb closed.2]
  | div a b iha ihb | divCeil a b iha ihb | broadcast a b iha ihb =>
    simp only [eval, iha closed.1, ihb closed.2]

/-- What has a value where no symbol has one is closed. -/
theorem closed_of_eval (known : e.eval (fun _ => none) = .ok v) : e.Closed := by
  induction e generalizing v with
  | value c => trivial
  | var s => cases known
  | neg a ih =>
    obtain ⟨x, hx, -⟩ := eval_neg_ok.mp known
    exact ih hx
  | add a b iha ihb | sub a b iha ihb | mul a b iha ihb | div a b iha ihb | divCeil a b iha ihb
  | broadcast a b iha ihb =>
    obtain ⟨x, hx, rest⟩ := bind_eq_ok.mp known
    obtain ⟨y, hy, -⟩ := bind_eq_ok.mp rest
    exact ⟨iha hx, ihb hy⟩

def IsLiteral (e : Expr) : Prop := ∃ v, e = .value v

theorem isKnown_iff : e.isKnown = true ↔ e.IsLiteral := by
  cases e <;> simp [isKnown, value?, IsLiteral]

theorem closed_operands (e : Expr) (closed : e.Closed) : ∀ a ∈ e.operands, a.Closed := by
  cases e with
  | value | var => nofun
  | neg a => exact List.forall_mem_singleton.mpr closed
  | add a b | sub a b | mul a b | div a b | divCeil a b | broadcast a b =>
    exact List.forall_mem_cons.mpr ⟨closed.1, List.forall_mem_singleton.mpr closed.2⟩

/-- An expression without symbols has no part with symbols. -/
theorem closed_parts (closed : e.Closed) : ∀ s ∈ e.parts, s.Closed :=
  forall_parts closed_operands closed

theorem closed_iff : e.Closed ↔ e.symbols = [] := by
  induction e <;> simp_all [Closed, symbols]

theorem closed_simplify (closed : e.Closed) : e.simplify.Closed := by
  have fewer := symbols_simplify e
  rw [closed_iff.mp closed] at fewer
  exact closed_iff.mpr (List.subset_nil.mp fewer)

/-- An operation fails with its operands, unless both of them are literals. -/
theorem eval_stuck {f : Int → Int → Except EvalError Int}
    (left : a.IsLiteral ∨ a.eval σ = .error .divisionByZero)
    (right : b.IsLiteral ∨ b.eval σ = .error .divisionByZero)
    (stuck : ¬(a.IsLiteral ∧ b.IsLiteral)) :
    (do f (← a.eval σ) (← b.eval σ)) = .error .divisionByZero := by
  rcases left with ⟨x, rfl⟩ | left
  · rcases right with literal | right
    · exact absurd ⟨⟨x, rfl⟩, literal⟩ stuck
    · rw [right]
      rfl
  · rw [left]
    rfl

theorem quotient_stuck {round : Int → Int → Int} (kept : QuotientKept a b)
    (left : a.IsLiteral ∨ a.eval σ = .error .divisionByZero)
    (right : b.IsLiteral ∨ b.eval σ = .error .divisionByZero) :
    (do checkedQuotient round (← a.eval σ) (← b.eval σ)) = .error .divisionByZero := by
  by_cases both : a.IsLiteral ∧ b.IsLiteral
  · obtain ⟨⟨x, rfl⟩, y, rfl⟩ := both
    obtain rfl := kept.symbolic x y rfl rfl
    rfl
  · exact eval_stuck left right both

theorem not_literal (symbolic : e.value? = none) : ¬ e.IsLiteral := by
  rintro ⟨v, rfl⟩
  cases symbolic

/-- An expression in normal form without symbols is a literal or divides by zero. -/
theorem normal_cases (normal : Normal e) (closed : e.Closed) (σ : Binding) :
    e.IsLiteral ∨ e.eval σ = .error .divisionByZero := by
  induction e with
  | value v => exact .inl ⟨v, rfl⟩
  | var => exact closed.elim
  | neg a ih =>
    obtain ⟨⟨symbolic, -⟩, na⟩ := normal_neg.mp normal
    have fails := (ih na closed).resolve_left (not_literal symbolic)
    exact .inr (by rw [eval, fails]; rfl)
  | add a b iha ihb =>
    obtain ⟨⟨-, collected⟩, na, nb⟩ := normal_add.mp normal
    refine .inr (eval_stuck (iha na closed.1) (ihb nb closed.2) ?_)
    rintro ⟨⟨x, rfl⟩, y, rfl⟩
    cases collected.last _ List.mem_cons_self
  | sub a b iha ihb =>
    obtain ⟨⟨-, collected⟩, na, nb⟩ := normal_sub.mp normal
    refine .inr (eval_stuck (iha na closed.1) (ihb nb closed.2) ?_)
    rintro ⟨⟨x, rfl⟩, y, rfl⟩
    cases collected.last _ List.mem_cons_self
  | mul a b iha ihb =>
    obtain ⟨product, na, nb⟩ := normal_mul.mp normal
    refine .inr (eval_stuck (iha na closed.1) (ihb nb closed.2) ?_)
    rintro ⟨-, y, rfl⟩
    rcases product with chain | ⟨-, -, -, -, chain⟩
    · exact chain.2
    · exact chain
  | div a b iha ihb =>
    obtain ⟨kept, na, nb⟩ := normal_div.mp normal
    exact .inr (quotient_stuck kept (iha na closed.1) (ihb nb closed.2))
  | divCeil a b iha ihb =>
    obtain ⟨kept, na, nb⟩ := normal_divCeil.mp normal
    exact .inr (quotient_stuck kept (iha na closed.1) (ihb nb closed.2))
  | broadcast a b iha ihb =>
    obtain ⟨⟨symbolic, -⟩, na, nb⟩ := normal_broadcast.mp normal
    exact .inr (eval_stuck (iha na closed.1) (ihb nb closed.2) fun both =>
      not_literal symbolic both.1)

/-- What has a value without symbols simplifies to that value. -/
theorem simplify_closed (closed : e.Closed) (h : e.eval σ = .ok v) : e.simplify = .value v := by
  have same : e.simplify.eval σ = .ok v := (reduce_means h).form
  rcases normal_cases (normal_simplify e) (closed_simplify closed) σ with ⟨w, literal⟩ | fails
  · rw [literal, eval_value_ok] at same
    rw [literal, same]
  · rw [fails] at same
    cases same

end ShapeFlow.Expr
