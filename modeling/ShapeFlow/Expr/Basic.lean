import ShapeFlow.Arithmetic
/-!
Sizes of tensor dimensions as integer expressions over named symbols. Nothing is ever proved about
a symbol; expressions are built, folded, evaluated and printed.
-/
namespace ShapeFlow

structure Symbol where
  name : String
  positive : Bool
  deriving DecidableEq, Inhabited

/-- An integer expression for the size of a dimension. `div` rounds down, `divCeil` rounds up, and
`broadcast` joins two sizes that are equal or of which one is 1. -/
inductive Expr where
  | value (v : Int)
  | var (s : Symbol)
  | add (a b : Expr)
  | sub (a b : Expr)
  | mul (a b : Expr)
  | div (a b : Expr)
  | divCeil (a b : Expr)
  | broadcast (a b : Expr)
  | neg (a : Expr)
  deriving DecidableEq, Inhabited

namespace Expr

def free (name : String) : Expr := .var ⟨name, false⟩

def size (name : String) : Expr := .var ⟨name, true⟩

/-- The integer that a signed 64-bit word stores when given `n`. -/
def wrap (n : Int) : Int := n.bmod Word.count

def ofNat (n : Nat) : Expr := .value (wrap n)

def value? : Expr → Option Int
  | .value v => some v
  | _ => none

def symbol? : Expr → Option Symbol
  | .var s => some s
  | _ => none

/-- Only a literal integer counts as known; a constant compound does not until it is simplified. -/
def isKnown (e : Expr) : Bool := e.value?.isSome

/-- A cheap sign test that answers `true` only where no operand could be negative. -/
def isPositive : Expr → Bool
  | .value v => decide (0 ≤ v)
  | .var s => s.positive
  | .add a b | .mul a b | .div a b | .divCeil a b => a.isPositive && b.isPositive
  | .broadcast _ _ => true
  | .neg _ | .sub _ _ => false

def bare : Expr → Expr
  | .value v => .value v
  | .var s => .var ⟨s.name, false⟩
  | .add a b => .add a.bare b.bare
  | .sub a b => .sub a.bare b.bare
  | .mul a b => .mul a.bare b.bare
  | .div a b => .div a.bare b.bare
  | .divCeil a b => .divCeil a.bare b.bare
  | .broadcast a b => .broadcast a.bare b.bare
  | .neg a => .neg a.bare

theorem bare_bare (e : Expr) : e.bare.bare = e.bare := by
  induction e with
  | value | var => rfl
  | neg a ih => simp only [bare, ih]
  | add a b iha ihb | sub a b iha ihb | mul a b iha ihb => simp only [bare, iha, ihb]
  | div a b iha ihb | divCeil a b iha ihb | broadcast a b iha ihb => simp only [bare, iha, ihb]

/-- Two expressions are alike when they are the same tree over the same names: symbols of one name
are one symbol, whatever is assumed of them. -/
def Alike (a b : Expr) : Prop := a.bare = b.bare

instance (a b : Expr) : Decidable (Alike a b) := inferInstanceAs (Decidable (a.bare = b.bare))

theorem alike_refl (a : Expr) : Alike a a := rfl

theorem Alike.symm {a b : Expr} (h : Alike a b) : Alike b a := Eq.symm h

theorem Alike.trans {a b c : Expr} (h : Alike a b) (k : Alike b c) : Alike a c := Eq.trans h k

end Expr

structure SymbolSupply where
  stem : String := "dim"
  issued : UInt32 := 0
  deriving DecidableEq

namespace SymbolSupply

def nameOf (stem : String) (n : UInt32) : String := stem ++ "_" ++ toString n.toNat

def fresh (s : SymbolSupply) : Expr × SymbolSupply :=
  (.size (nameOf s.stem (s.issued + 1)), ⟨s.stem, s.issued + 1⟩)

def take : Nat → SymbolSupply → List Expr × SymbolSupply
  | 0, s => ([], s)
  | n + 1, s =>
    let (e, s) := s.fresh
    let (es, s) := take n s
    (e :: es, s)

end SymbolSupply
end ShapeFlow
