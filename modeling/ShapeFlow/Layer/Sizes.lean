import ShapeFlow.Layer.Error
/-!
Sizes of outputs. Two shapes are joined dimension by dimension from the right, where a missing
dimension counts as size 1. Along one direction so many windows of a convolution or pooling layer
fit; counts enter that formula as signed 64-bit words.
-/
namespace ShapeFlow.Shape

/-- The joined size. Sizes that are alike stay, size 1 gives way, and a known size stands against a
symbolic one, which can only fit by having the same value. -/
def joinSize (a b : Expr) : Except ShapeError Expr :=
  if a.Alike b then .ok a
  else match a, b with
    | .value x, b =>
      if x = 1 then .ok b
      else match b with
        | .value y => if y = 1 then .ok a else .error (.mismatch "broadcast dimension" a b)
        | _ => .ok a
    | a, .value y => if y = 1 then .ok a else .ok (.value y)
    | a, b => .ok (.broadcast a b)

def joinSizes : List Expr → List Expr → Except ShapeError (List Expr)
  | a :: as, b :: bs => do
    let c ← joinSize a b
    let cs ← joinSizes as bs
    return c :: cs
  | _, _ => return []

def padTo (n : Nat) (dims : List Expr) : List Expr :=
  List.replicate (n - dims.length) (.value 1) ++ dims

def join (s t : Shape) : Except ShapeError Shape := do
  let n := max s.ndim t.ndim
  return ⟨← joinSizes (padTo n s.dims) (padTo n t.dims)⟩

end ShapeFlow.Shape

namespace ShapeFlow

/-- A window that slides along one direction. With `ceil` a last window that does not fit entirely
counts too. -/
structure Window where
  kernel : Nat
  stride : Nat
  dilation : Nat
  padding : Nat
  ceil : Bool
  deriving DecidableEq

namespace Window

def reach (w : Window) : Nat := w.dilation * (w.kernel - 1)

def offset (w : Window) : Int := Expr.wrap (2 * w.padding) - Expr.wrap w.reach - 1

def formula (w : Window) (input : Expr) : Expr :=
  let free := Expr.add input (.value w.offset)
  let step := Expr.value (Expr.wrap w.stride)
  .add (if w.ceil then .divCeil free step else .div free step) (.value 1)

/-- A last window that would start in the padding behind a known input is dropped. -/
def dropOverhang (w : Window) (input : Expr) (n : Int) : Int :=
  match w.ceil, input with
  | true, .value size =>
    if size + Expr.wrap w.padding ≤ (n - 1) * Expr.wrap w.stride then n - 1 else n
  | _, _ => n

def checkFit (w : Window) (input folded : Expr) : Except ShapeError Expr :=
  match folded with
  | .value n =>
    let n := w.dropOverhang input n
    if n < 1 then .error (.tooSmall input w.kernel n) else .ok (.value n)
  | e => .ok e

def outputSizeWith {m : Type → Type} [Monad m] (fold : Expr → m Expr) (w : Window) (input : Expr) :
    m (Except ShapeError Expr) :=
  if w.stride = 0 then return .error .zeroStride
  else return w.checkFit input (← fold (w.formula input))

def outputSize (w : Window) (input : Expr) : Except ShapeError Expr :=
  Id.run (w.outputSizeWith (fun e => pure e.simplify) input)

theorem outputSize_eq (w : Window) (input : Expr) : w.outputSize input =
    if w.stride = 0 then .error .zeroStride else w.checkFit input (w.formula input).simplify := by
  unfold outputSize outputSizeWith
  split <;> rfl

end Window
end ShapeFlow
