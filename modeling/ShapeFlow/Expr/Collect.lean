import ShapeFlow.Expr.Simplify
/-!
Simplification by collecting over again. An operand that is no sum may simplify to one; its terms are
then collected from the simplified form, each of them simplified once more, and factors likewise. So
the calls do not follow the expression downwards. Here the calls inside each other are counted, and
where there are not enough of them the answer is `none`.
-/
namespace ShapeFlow.Expr

def isSum : Expr → Bool
  | .add _ _ | .sub _ _ | .neg _ => true
  | _ => false

def isProduct : Expr → Bool
  | .mul _ _ => true
  | _ => false

mutual

def simplifyWithin : Nat → Expr → Option Expr
  | 0, _ => none
  | _ + 1, .value v => some (.value v)
  | _ + 1, .var s => some (.var s)
  | n + 1, .neg a => do return negated (← simplifyWithin n a)
  | n + 1, .add a b => do return sumOf (← collectTerms n false (.add a b))
  | n + 1, .sub a b => do return sumOf (← collectTerms n false (.sub a b))
  | n + 1, .mul a b => do return productOf (← collectFactors n (.mul a b))
  | n + 1, .div a b => do
    return quotient Division.floor .div (← simplifyWithin n a) (← simplifyWithin n b)
  | n + 1, .divCeil a b => do
    return quotient Division.ceil .divCeil (← simplifyWithin n a) (← simplifyWithin n b)
  | n + 1, .broadcast a b => do return broadcasted (← simplifyWithin n a) (← simplifyWithin n b)

def collectTerms : Nat → Bool → Expr → Option (List Term)
  | 0, _, _ => none
  | n + 1, negated, .add a b => do
    return (← collectTerms n negated a) ++ (← collectTerms n negated b)
  | n + 1, negated, .sub a b => do
    return (← collectTerms n negated a) ++ (← collectTerms n (!negated) b)
  | n + 1, negated, .neg a => collectTerms n (!negated) a
  | n + 1, negated, e => do
    let t ← simplifyWithin n e
    if t.isSum then collectTerms n negated t else return [⟨negated, t⟩]

def collectFactors : Nat → Expr → Option (List Expr)
  | 0, _ => none
  | n + 1, .mul a b => do return (← collectFactors n a) ++ (← collectFactors n b)
  | n + 1, e => do
    let f ← simplifyWithin n e
    if f.isProduct then collectFactors n f else return [f]

end

end ShapeFlow.Expr
