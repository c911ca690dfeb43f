import ShapeFlow.Expr.Printer
import ShapeFlow.Random.Source
import ShapeFlow.Shape
/-!
Policies: how the sizes of a new shape are chosen, dimension by dimension.
-/
namespace ShapeFlow

inductive DimPolicy where
  | fixed (size : Int)
  | range (r : IntRange)
  | symbolic (e : Expr)
  deriving DecidableEq

namespace DimPolicy

def ofExpr : Expr → DimPolicy
  | .value v => .fixed v
  | e => .symbolic e

def between (lower upper : Int64) : Except PolicyError DimPolicy :=
  (IntRange.of lower upper).map .range

def isFixed : DimPolicy → Bool
  | .fixed _ => true
  | _ => false

def sample {σ : Type} [RandomSource σ] : DimPolicy → σ → Expr × σ
  | .fixed size, s => (.value size, s)
  | .range r, s => let (v, s) := RandomSource.draw r s; (.value v, s)
  | .symbolic e, s => (e, s)

def admits : DimPolicy → Expr → Bool
  | .fixed size, .value v => decide (size = v)
  | .range r, .value v => r.contains v
  | .symbolic e, size => decide (e.Alike size)
  | _, _ => false

def inspect : DimPolicy → String
  | .fixed size => "Fixed(" ++ toString size ++ ")"
  | .range r =>
    "Range(IntRange \x7b lo: " ++ toString r.lo ++ ", hi: " ++ toString r.hi ++ " \x7d)"
  | .symbolic e => "Symbolic(" ++ e.inspect ++ ")"

end DimPolicy

structure ShapePolicy where
  dims : List DimPolicy
  deriving DecidableEq

namespace ShapePolicy

def ofSizes (sizes : List Int) : ShapePolicy := ⟨sizes.map .fixed⟩

def ndim (p : ShapePolicy) : Nat := p.dims.length

def withDim? (p : ShapePolicy) (i : Nat) (d : DimPolicy) : Option ShapePolicy :=
  if i < p.ndim then some ⟨p.dims.set i d⟩ else none

def isFixed (p : ShapePolicy) : Bool := p.dims.all (·.isFixed)

def sampleDims {σ : Type} [RandomSource σ] : List DimPolicy → σ → List Expr × σ
  | [], s => ([], s)
  | d :: ds, s =>
    let (e, s) := d.sample s
    let (es, s) := sampleDims ds s
    (e :: es, s)

def sample {σ : Type} [RandomSource σ] (p : ShapePolicy) (s : σ) : Shape × σ :=
  let (dims, s) := sampleDims p.dims s
  (⟨dims⟩, s)

def admitsDims : List DimPolicy → List Expr → Bool
  | [], [] => true
  | d :: ds, e :: es => d.admits e && admitsDims ds es
  | _, _ => false

def admits (p : ShapePolicy) (s : Shape) : Bool := admitsDims p.dims s.dims

def inspect (p : ShapePolicy) : String :=
  "[" ++ ", ".intercalate (p.dims.map (·.inspect)) ++ "]"

end ShapePolicy
end ShapeFlow
