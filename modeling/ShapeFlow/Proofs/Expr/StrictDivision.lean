import ShapeFlow.Expr.Simplify
/-!
Simplification where every division is carried out strictly: it has no answer to a divisor of zero.
It is the simplification of a machine, which stops only at the quotient that no word holds. So a
division by zero is never carried out.
-/
namespace ShapeFlow

/-- The rounded quotient, absent for a divisor of zero and where no word holds it. -/
def Division.strict (round : Int → Int → Int) (x y : Int) : Option Int :=
  if y = 0 ∨ overflows x y = true then none else some (round x y)

namespace Expr
variable {round : Int → Int → Int} {keep : Expr → Expr → Expr} {a b : Expr}

def strictQuotient (round : Int → Int → Int) (keep : Expr → Expr → Expr) (a b : Expr) :
    Option Expr :=
  if b = .value 1 then some a
  else match a, b with
    | .value x, .value y =>
      if y ≠ 0 then do return .value (← Division.strict round x y)
      else some (if x = y then .value 1 else keep a b)
    | a, b => some (if Alike a b then .value 1 else keep a b)

def strictReduce : Expr → Option Reduced
  | .value v => some (.whole (.value v))
  | .var s => some (.whole (.var s))
  | .neg a => do return .negation (← a.strictReduce)
  | .add a b => do
    let a ← a.strictReduce
    let b ← b.strictReduce
    return .sum (a.terms ++ b.terms)
  | .sub a b => do
    let a ← a.strictReduce
    let b ← b.strictReduce
    return .sum (a.terms ++ b.terms.map .flip)
  | .mul a b => do
    let a ← a.strictReduce
    let b ← b.strictReduce
    return .product (a.factors ++ b.factors)
  | .div a b => do
    let a ← a.strictReduce
    let b ← b.strictReduce
    return .whole (← strictQuotient Division.floor .div a.form b.form)
  | .divCeil a b => do
    let a ← a.strictReduce
    let b ← b.strictReduce
    return .whole (← strictQuotient Division.ceil .divCeil a.form b.form)
  | .broadcast a b => do
    let a ← a.strictReduce
    let b ← b.strictReduce
    return .whole (broadcasted a.form b.form)

def strictSimplify (e : Expr) : Option Expr := do return (← e.strictReduce).form

/-- Constants are divided only by a divisor other than zero and one. -/
theorem strictQuotient_eq :
    strictQuotient round keep a b =
      if bothValues Division.overflows a.value? b.value? then none
      else some (quotient round keep a b) := by
  unfold strictQuotient quotient
  by_cases unit : b = .value 1
  · subst unit
    cases a <;> simp [bothValues, value?, Division.overflows]
  · simp only [unit, ↓reduceIte]
    split
    · rename_i x y
      by_cases zero : y = 0
      · simp [zero, bothValues, value?, Division.overflows]
      · by_cases stops : Division.overflows x y = true <;>
          simp [Division.strict, zero, stops, bothValues, value?]
    · rename_i symbolic
      -- One of the operands is no literal, so nothing is divided.
      have undivided : bothValues Division.overflows a.value? b.value? = false := by
        cases a with
        | value x =>
          cases b with
          | value y => exact (symbolic x y rfl rfl).elim
          | _ => rfl
        | _ => rfl
      simp only [undivided]
      rfl

theorem strictReduce_eq (e : Expr) :
    e.strictReduce = if e.simplifyOverflows then none else some e.reduce := by
  induction e with
  | value v => rfl
  | var s => rfl
  | neg a ih =>
    simp only [strictReduce, simplifyOverflows, ih]
    by_cases ha : a.simplifyOverflows <;> simp [ha, reduce]
  | add a b iha ihb | sub a b iha ihb | mul a b iha ihb | broadcast a b iha ihb =>
    simp only [strictReduce, simplifyOverflows, iha, ihb]
    by_cases ha : a.simplifyOverflows <;> by_cases hb : b.simplifyOverflows <;> simp [ha, hb, reduce]
  | div a b iha ihb | divCeil a b iha ihb =>
    simp only [strictReduce, simplifyOverflows, iha, ihb, simplify]
    by_cases ha : a.simplifyOverflows <;> by_cases hb : b.simplifyOverflows <;> simp [ha, hb, reduce]
    rw [strictQuotient_eq]
    split <;> rfl

theorem strictSimplify_eq (e : Expr) : e.strictSimplify = e.simplify? := by
  unfold strictSimplify simplify?
  rw [strictReduce_eq]
  split <;> rfl

end Expr
end ShapeFlow
