import ShapeFlow.Expr.Basic
/-!
The three texts of a size expression: the infix text with as few parentheses as the operators'
ranks ask for, the text that shows what is assumed of a bare symbol, and the fully bracketed tree.
-/
namespace ShapeFlow.Expr

def decimal (v : Int) : String := toString v

def rank : Expr → Nat
  | .add _ _ | .sub _ _ => 1
  | .mul _ _ => 2
  | .div _ _ => 3
  | .value _ | .var _ | .neg _ | .divCeil _ _ | .broadcast _ _ => 4

def parenthesize (needed : Bool) (text : String) : String :=
  if needed then "(" ++ text ++ ")" else text

/-- The infix text. An operand is parenthesized if it ranks below its operator, and the right
operand of a difference or a quotient also if it ranks equal. -/
def render : Expr → String
  | .value v => decimal v
  | .var s => s.name
  | .neg a => "-" ++ parenthesize (a.rank < 4) a.render
  | .add a b =>
    parenthesize (a.rank < 1) a.render ++ " + " ++ parenthesize (b.rank < 1) b.render
  | .sub a b =>
    parenthesize (a.rank < 1) a.render ++ " - " ++ parenthesize (b.rank ≤ 1) b.render
  | .mul a b =>
    parenthesize (a.rank < 2) a.render ++ " * " ++ parenthesize (b.rank < 2) b.render
  | .div a b =>
    parenthesize (a.rank < 3) a.render ++ " / " ++ parenthesize (b.rank ≤ 3) b.render
  | .divCeil a b => "ceil_div(" ++ a.render ++ ", " ++ b.render ++ ")"
  | .broadcast a b => "broadcast(" ++ a.render ++ ", " ++ b.render ++ ")"

/-- The infix text, but a bare symbol is quoted and followed by `u` if it is assumed to be at least
zero and by `i` if not. -/
def inspect : Expr → String
  | .var s => "\"" ++ s.name ++ "\"" ++ (if s.positive then "u" else "i")
  | e => e.render

def tree : Expr → String
  | .value v => decimal v
  | .var s => if s.positive then s.name else s.name ++ "?"
  | .neg a => "(neg " ++ a.tree ++ ")"
  | .add a b => "(+ " ++ a.tree ++ " " ++ b.tree ++ ")"
  | .sub a b => "(- " ++ a.tree ++ " " ++ b.tree ++ ")"
  | .mul a b => "(* " ++ a.tree ++ " " ++ b.tree ++ ")"
  | .div a b => "(/ " ++ a.tree ++ " " ++ b.tree ++ ")"
  | .divCeil a b => "(ceil " ++ a.tree ++ " " ++ b.tree ++ ")"
  | .broadcast a b => "(bc " ++ a.tree ++ " " ++ b.tree ++ ")"

end ShapeFlow.Expr
