import ShapeFlow.Expr.Eval
/-!
What it takes for an expression to have a value: its operands have values, and its own is theirs
put together. A count is stored as it is as long as a signed word holds it.
-/
namespace ShapeFlow

theorem bind_eq_ok {ε α β : Type} {x : Except ε α} {f : α → Except ε β} {b : β} :
    (x >>= f) = .ok b ↔ ∃ a, x = .ok a ∧ f a = .ok b := by
  cases x with
  | error e => simp [bind, Except.bind]
  | ok a => simp [bind, Except.bind]

theorem bind_eq_error {ε α β : Type} {x : Except ε α} {f : α → Except ε β} {e : ε} :
    (x >>= f) = .error e ↔ x = .error e ∨ ∃ a, x = .ok a ∧ f a = .error e := by
  cases x with
  | error e => simp [bind, Except.bind]
  | ok a => simp [bind, Except.bind]

theorem pure_eq_ok {ε α : Type} {a b : α} : (pure a : Except ε α) = .ok b ↔ a = b := by
  simp [pure, Except.pure]

theorem map_eq_ok {ε α β : Type} {f : α → β} {x : Except ε α} {b : β} :
    x.map f = .ok b ↔ ∃ a, x = .ok a ∧ f a = b := by
  cases x with
  | error d => simp [Except.map]
  | ok a => simp [Except.map]

theorem ite_throw_eq_ok {ε α : Type} {p : Prop} [Decidable p] {e : ε} {x : Except ε α} {a : α} :
    (if p then throw e else x) = .ok a ↔ ¬p ∧ x = .ok a := by
  by_cases refused : p
  · simp [refused, throw, throwThe, MonadExceptOf.throw]
  · simp [refused]

theorem Word.add_lt_count {m n : Nat} (hm : m ≤ greatest) (hn : n ≤ greatest) : m + n < count := by
  unfold greatest at hm hn
  unfold count
  omega

namespace Expr
variable {σ : Binding} {a b : Expr} {v x y : Int}

theorem wrap_le (n : Nat) : wrap n ≤ n := by
  simp only [wrap, Word.count, Int.bmod_def]
  omega

theorem wrap_small {n : Nat} (small : n ≤ Word.greatest) : wrap n = n := by
  unfold Word.greatest at small
  simp only [wrap, Word.count, Int.bmod_def]
  omega

/-- A signed word keeps a count or is a whole word short of it. -/
theorem wrap_cases {n : Nat} (below : n < Word.count) :
    n ≤ Word.greatest ∧ wrap n = n ∨ Word.greatest < n ∧ wrap n = n - Word.count := by
  unfold Word.count at below
  simp only [wrap, Word.greatest, Word.count, Int.bmod_def]
  omega

@[simp] theorem eval_value_ok : (value x).eval σ = .ok v ↔ x = v := by
  simp [eval]

@[simp] theorem eval_neg_ok : (neg a).eval σ = .ok v ↔ ∃ x, a.eval σ = .ok x ∧ -x = v := by
  simp only [eval, bind_eq_ok, pure_eq_ok]

@[simp] theorem eval_add_ok :
    (add a b).eval σ = .ok v ↔ ∃ x, a.eval σ = .ok x ∧ ∃ y, b.eval σ = .ok y ∧ x + y = v := by
  simp only [eval, bind_eq_ok, pure_eq_ok]

@[simp] theorem eval_sub_ok :
    (sub a b).eval σ = .ok v ↔ ∃ x, a.eval σ = .ok x ∧ ∃ y, b.eval σ = .ok y ∧ x - y = v := by
  simp only [eval, bind_eq_ok, pure_eq_ok]

@[simp] theorem eval_mul_ok :
    (mul a b).eval σ = .ok v ↔ ∃ x, a.eval σ = .ok x ∧ ∃ y, b.eval σ = .ok y ∧ x * y = v := by
  simp only [eval, bind_eq_ok, pure_eq_ok]

theorem checkedQuotient_ok {round : Int → Int → Int} :
    checkedQuotient round x y = .ok v ↔ y ≠ 0 ∧ round x y = v := by
  unfold checkedQuotient
  split <;> simp_all

@[simp] theorem eval_div_ok : (div a b).eval σ = .ok v ↔
    ∃ x, a.eval σ = .ok x ∧ ∃ y, b.eval σ = .ok y ∧ y ≠ 0 ∧ Division.floor x y = v := by
  simp only [eval, bind_eq_ok, checkedQuotient_ok]

@[simp] theorem eval_divCeil_ok : (divCeil a b).eval σ = .ok v ↔
    ∃ x, a.eval σ = .ok x ∧ ∃ y, b.eval σ = .ok y ∧ y ≠ 0 ∧ Division.ceil x y = v := by
  simp only [eval, bind_eq_ok, checkedQuotient_ok]

theorem broadcastSize_ok : broadcastSize x y = .ok v ↔ x = v ∧ (y = v ∨ y = 1) ∨ x = 1 ∧ y = v := by
  unfold broadcastSize
  split
  · simp only [Except.ok.injEq]; omega
  · split
    · simp only [Except.ok.injEq]; omega
    · simp only [reduceCtorEq, false_iff]; omega

@[simp] theorem eval_broadcast_ok : (broadcast a b).eval σ = .ok v ↔
    ∃ x, a.eval σ = .ok x ∧ ∃ y, b.eval σ = .ok y ∧ broadcastSize x y = .ok v := by
  simp only [eval, bind_eq_ok]

theorem bare_eq_value : a.bare = .value v ↔ a = .value v := by
  cases a <;> simp [bare]

end Expr
end ShapeFlow
