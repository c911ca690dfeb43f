import ShapeFlow.Expr.Simplify
import ShapeFlow.Expr.Printer
/-!
Shapes: the sizes of a tensor's dimensions in order, each known or symbolic. Positions outside a
shape have no answer, and the functions that ask for one say so with `none`.
-/
namespace ShapeFlow

structure Shape where
  dims : List Expr
  deriving DecidableEq, Inhabited

namespace Shape

def scalar : Shape := ⟨[]⟩

def ofSizes (sizes : List Nat) : Shape := ⟨sizes.map .ofNat⟩

def ndim (s : Shape) : Nat := s.dims.length

def dim? (s : Shape) (i : Nat) : Option Expr := s.dims[i]?

def withDim? (s : Shape) (i : Nat) (size : Expr) : Option Shape :=
  if i < s.ndim then some ⟨s.dims.set i size⟩ else none

def withoutDim? (s : Shape) (i : Nat) : Option Shape :=
  if i < s.ndim then some ⟨s.dims.eraseIdx i⟩ else none

/-- The position that an axis in `[-n, n)` names among `n` dimensions; negative axes count from the
end. The count is read as a signed 64-bit word. -/
def resolveAxis (n : Nat) (axis : Int) : Option Nat :=
  let count := Expr.wrap n
  if axis < -count ∨ count ≤ axis then none
  else some (if 0 ≤ axis then axis else count + axis).toNat

def dimAt? (s : Shape) (axis : Int) : Option Expr :=
  (resolveAxis s.ndim axis).bind s.dim?

def fixedSize? (e : Expr) : Option Nat :=
  e.value?.bind fun v => if v < 0 then none else some v.toNat

def fixed? (s : Shape) : Option (List Nat) := s.dims.mapM fixedSize?

def isFixed (s : Shape) : Bool := s.dims.all (·.isKnown)

def product (s : Shape) : Expr := s.dims.foldl .mul (.value 1)

def numel (s : Shape) : Expr := s.product.simplify

def numel? (s : Shape) : Option Expr := s.product.simplify?

def simplify (s : Shape) : Shape := ⟨s.dims.map (·.simplify)⟩

def simplify? (s : Shape) : Option Shape := do return ⟨← s.dims.mapM (·.simplify?)⟩

def Alike (s t : Shape) : Prop := s.dims.map (·.bare) = t.dims.map (·.bare)

instance (s t : Shape) : Decidable (Alike s t) :=
  inferInstanceAs (Decidable (s.dims.map (·.bare) = t.dims.map (·.bare)))

/-- A tuple of sizes; a comma follows the size of a one-dimensional shape. -/
def render (s : Shape) : String :=
  "(" ++ ", ".intercalate (s.dims.map (·.render)) ++ (if s.ndim = 1 then ",)" else ")")

end Shape
end ShapeFlow
