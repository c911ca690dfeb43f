import ShapeFlow.Arithmetic
import ShapeFlow.Expr.Basic
import ShapeFlow.Expr.Eval
/-!
Folding of constants and removal of identities. A sum collects its constants into one trailing
term and strikes out equal terms of opposite sign; a product collects its constants into one
leading factor. One structural recursion computes, for each subexpression, what it reduces to: its
simplified form can be read off that, and the terms or factors that it adds to an enclosing sum or
product. A machine of signed words folds and evaluates likewise, but stops at the one quotient that
no word holds.
-/
namespace ShapeFlow.Expr

structure Term where
  negated : Bool
  body : Expr
  deriving DecidableEq

namespace Term

def flip (t : Term) : Term := ⟨!t.negated, t.body⟩

def value? : Term → Option Int
  | ⟨false, .value v⟩ => some v
  | ⟨true, .value v⟩ => some (-v)
  | _ => none

def cancels (t s : Term) : Bool := (s.negated != t.negated) && decide (Alike s.body t.body)

def toExpr (t : Term) : Expr := if t.negated then .neg t.body else t.body

def after (e : Expr) (t : Term) : Expr := if t.negated then .sub e t.body else .add e t.body

end Term

def terms : Expr → List Term
  | .add a b => a.terms ++ b.terms
  | .sub a b => a.terms ++ b.terms.map .flip
  | .neg a => a.terms.map .flip
  | e => [⟨false, e⟩]

def factors : Expr → List Expr
  | .mul a b => a.factors ++ b.factors
  | e => [e]

/-- A term joins a sum by striking out the first term that cancels it, or else at the end. -/
def cancelOrAppend (sum : List Term) (t : Term) : List Term :=
  if sum.any t.cancels then sum.eraseP t.cancels else sum ++ [t]

def addConstant (e : Expr) (c : Int) : Expr :=
  if c = 0 then e else if c < 0 then .sub e (.value (-c)) else .add e (.value c)

def sumOf (ts : List Term) : Expr :=
  let constant := (ts.filterMap Term.value?).foldr (· + ·) 0
  match (ts.filter (·.value?.isNone)).foldl cancelOrAppend [] with
  | [] => .value constant
  | t :: rest => addConstant (rest.foldl Term.after t.toExpr) constant

def productOf (fs : List Expr) : Expr :=
  let constant := (fs.filterMap value?).foldr (· * ·) 1
  if constant = 0 then .value 0
  else match fs.filter (·.value?.isNone) with
    | [] => .value constant
    | f :: rest =>
      let symbolic := rest.foldl .mul f
      if constant = 1 then symbolic else .mul (.value constant) symbolic

def negated : Expr → Expr
  | .value v => .value (-v)
  | .neg a => a
  | e => .neg e

/-- The quotient of simplified operands, for a rounding `fold` and its unfolded form `keep`. A
quotient by 1 is its dividend and a quotient of alike operands is 1, even that of 0 by 0. -/
def quotient (fold : Int → Int → Int) (keep : Expr → Expr → Expr) (a b : Expr) : Expr :=
  if b = .value 1 then a
  else match a, b with
    | .value x, .value y =>
      if y ≠ 0 then .value (fold x y) else if x = y then .value 1 else keep a b
    | a, b => if Alike a b then .value 1 else keep a b

/-- The broadcast of simplified operands. A known size other than 1 decides the result, and of two
known sizes the left one does. -/
def broadcasted (a b : Expr) : Expr :=
  if Alike a b then a
  else match a, b with
    | .value x, b => if x = 1 then b else if b = .value 1 then a else .value x
    | a, .value y => if y = 1 then a else .value y
    | a, b => .broadcast a b

/-- What an expression reduces to. Sums and products keep the terms and factors that they add to an
enclosing sum or product, taken before any of them cancel, because what cancels depends on the
whole. -/
inductive Reduced where
  | whole (e : Expr)
  | sum (ts : List Term)
  | product (fs : List Expr)
  | negation (of : Reduced)

namespace Reduced

def form : Reduced → Expr
  | .whole e => e
  | .sum ts => sumOf ts
  | .product fs => productOf fs
  | .negation r => negated r.form

/-- What is added to an enclosing sum. A simplified expression that is no sum itself adds the terms
of its own outermost operators. -/
def terms : Reduced → List Term
  | .sum ts => ts
  | .negation r => r.terms.map .flip
  | r => r.form.terms

def factors : Reduced → List Expr
  | .product fs => fs
  | r => r.form.factors

end Reduced

def reduce : Expr → Reduced
  | .value v => .whole (.value v)
  | .var s => .whole (.var s)
  | .neg a => .negation a.reduce
  | .add a b => .sum (a.reduce.terms ++ b.reduce.terms)
  | .sub a b => .sum (a.reduce.terms ++ b.reduce.terms.map .flip)
  | .mul a b => .product (a.reduce.factors ++ b.reduce.factors)
  | .div a b => .whole (quotient Division.floor .div a.reduce.form b.reduce.form)
  | .divCeil a b => .whole (quotient Division.ceil .divCeil a.reduce.form b.reduce.form)
  | .broadcast a b => .whole (broadcasted a.reduce.form b.reduce.form)

def simplify (e : Expr) : Expr := e.reduce.form

def bothValues (p : Int → Int → Bool) (a b : Option Int) : Bool :=
  match a, b with
  | some x, some y => p x y
  | _, _ => false

/-- Whether some quotient folded during simplification is the one that no word holds. Every
subexpression is simplified, so every quotient counts. -/
def simplifyOverflows : Expr → Bool
  | .value _ | .var _ => false
  | .neg a => a.simplifyOverflows
  | .add a b | .sub a b | .mul a b | .broadcast a b =>
    a.simplifyOverflows || b.simplifyOverflows
  | .div a b | .divCeil a b =>
    a.simplifyOverflows || b.simplifyOverflows ||
      bothValues Division.overflows a.simplify.value? b.simplify.value?

/-- Whether evaluation reaches the quotient that no word holds before an error ends it. -/
def evalOverflows (σ : Binding) : Expr → Bool
  | .value _ | .var _ => false
  | .neg a => a.evalOverflows σ
  | .add a b | .sub a b | .mul a b | .broadcast a b =>
    a.evalOverflows σ || ((a.eval σ).isOk && b.evalOverflows σ)
  | .div a b | .divCeil a b =>
    a.evalOverflows σ || ((a.eval σ).isOk && b.evalOverflows σ) ||
      bothValues Division.overflows (a.eval σ).toOption (b.eval σ).toOption

def simplify? (e : Expr) : Option Expr :=
  if e.simplifyOverflows then none else some e.simplify

def eval? (σ : Binding) (e : Expr) : Option (Except EvalError Int) :=
  if e.evalOverflows σ then none else some (e.eval σ)

end ShapeFlow.Expr
