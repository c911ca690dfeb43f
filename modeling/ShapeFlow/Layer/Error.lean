import ShapeFlow.Expr.Printer
import ShapeFlow.Shape
/-!
Why a layer refuses its inputs. A refusal means that the shapes are known not to fit; sizes that
are not known are never a reason.
-/
namespace ShapeFlow

inductive ShapeError where
  | inputCount (expected actual : Nat)
  | rank (expected : String) (actual : Nat)
  | mismatch (what : String) (expected actual : Expr)
  | zeroStride
  | tooSmall (input : Expr) (kernel : Nat) (output : Int)
  | wideBorder (width size : Int)
  | axisOutside (axis : Int) (ndim : Nat)
  | axisOutOfRange (axis : Int) (ndim : Nat)
  | notCallable (className : String)
  deriving DecidableEq

def ShapeError.message : ShapeError → String
  | .inputCount expected actual =>
    "expected " ++ toString expected ++ " inputs, got " ++ toString actual
  | .rank expected actual => "expected " ++ expected ++ " input, got " ++ toString actual ++ "D input"
  | .mismatch what expected actual =>
    what ++ " mismatch: expected " ++ expected.render ++ ", got " ++ actual.render
  | .zeroStride => "stride must be positive, got 0"
  | .tooSmall input kernel output =>
    "input size " ++ input.render ++ " is too small for kernel size " ++ toString kernel ++
      ", output size would be " ++ toString output
  | .wideBorder width size =>
    "padding size should be less than the corresponding input dimension, but got padding " ++
      toString width ++ " for dimension of size " ++ toString size
  | .axisOutside axis ndim =>
    "dimension " ++ toString axis ++ " out of range for " ++ toString ndim ++ "D input"
  | .axisOutOfRange axis ndim =>
    "dimension out of range (expected to be in range of [" ++ toString (-(ndim : Int)) ++ ", " ++
      toString (ndim - 1) ++ "], but got " ++ toString axis ++ ")"
  | .notCallable className => className ++ " is not callable"

/-- How an application can fail: the layer refuses its inputs, or it reaches for a position that a
shape does not have. -/
inductive Fault where
  | refused (why : ShapeError)
  | outOfBounds
  deriving DecidableEq

abbrev Applied : Type → Type := Except Fault

namespace Applied

def refuse {α : Type} (why : ShapeError) : Applied α := .error (.refused why)

def inBounds {α : Type} : Option α → Applied α
  | some a => .ok a
  | none => .error .outOfBounds

end Applied

namespace Shape

/-- The position that lies `k` places before the end. A shape with fewer dimensions has none. -/
def fromEnd (s : Shape) (k : Nat) : Applied Nat :=
  if k ≤ s.ndim then .ok (s.ndim - k) else .error .outOfBounds

def sizeAt (s : Shape) (i : Nat) : Applied Expr := .inBounds (s.dim? i)

def setSize (s : Shape) (i : Nat) (size : Expr) : Applied Shape := .inBounds (s.withDim? i size)

def dropAxis (s : Shape) (i : Nat) : Applied Shape := .inBounds (s.withoutDim? i)

end Shape
end ShapeFlow
