import ShapeFlow.Arithmetic
import ShapeFlow.Expr.Basic
/-!
The value of a size expression under a binding of its symbols, in unbounded integers. The left
operand is evaluated first, so its error is the one reported.
-/
namespace ShapeFlow.Expr

inductive EvalError where
  | unbound (name : String)
  | divisionByZero
  | broadcastMismatch
  deriving DecidableEq

def EvalError.message : EvalError → String
  | .unbound name => "no value for symbol \"" ++ name ++ "\""
  | .divisionByZero => "division by zero"
  | .broadcastMismatch => "sizes cannot be broadcast"

abbrev Binding := String → Option Int

def checkedQuotient (round : Int → Int → Int) (x y : Int) : Except EvalError Int :=
  if y = 0 then .error .divisionByZero else .ok (round x y)

def broadcastSize (x y : Int) : Except EvalError Int :=
  if x = y ∨ y = 1 then .ok x else if x = 1 then .ok y else .error .broadcastMismatch

def eval (σ : Binding) : Expr → Except EvalError Int
  | .value v => .ok v
  | .var s => match σ s.name with
    | some v => .ok v
    | none => .error (.unbound s.name)
  | .neg a => do return -(← eval σ a)
  | .add a b => do
    let x ← eval σ a
    let y ← eval σ b
    return x + y
  | .sub a b => do
    let x ← eval σ a
    let y ← eval σ b
    return x - y
  | .mul a b => do
    let x ← eval σ a
    let y ← eval σ b
    return x * y
  | .div a b => do
    let x ← eval σ a
    let y ← eval σ b
    checkedQuotient Division.floor x y
  | .divCeil a b => do
    let x ← eval σ a
    let y ← eval σ b
    checkedQuotient Division.ceil x y
  | .broadcast a b => do
    let x ← eval σ a
    let y ← eval σ b
    broadcastSize x y

/-- Evaluation reads names only. -/
theorem eval_bare (σ : Binding) (e : Expr) : e.bare.eval σ = e.eval σ := by
  induction e with
  | value v => rfl
  | var s => rfl
  | neg a ih => simp only [bare, eval, ih]
  | add a b iha ihb | sub a b iha ihb | mul a b iha ihb => simp only [bare, eval, iha, ihb]
  | div a b iha ihb | divCeil a b iha ihb | broadcast a b iha ihb =>
    simp only [bare, eval, iha, ihb]

theorem eval_alike {σ : Binding} {a b : Expr} (like : a.Alike b) : a.eval σ = b.eval σ := by
  rw [← eval_bare σ a, like, eval_bare]

end ShapeFlow.Expr
