import ShapeFlow.Call.Signature
/-!
Typed readings of bound arguments. An argument of `None` reads like one that was not passed, so
that defaults apply. A value that has been read can be removed, and is absent for later readings.
-/
namespace ShapeFlow

abbrev Reading (α : Type) := Except ArgError α

namespace Place

def typeError (p : Place) (expected : String) (a : Argument) : ArgError :=
  .invalidType p expected a.typeName

def valueError (p : Place) (why : Objection) : ArgError := .invalidValue p why

def integer (p : Place) : Argument → Reading Int
  | .int n => .ok n.toInt
  | a => .error (p.typeError "int" a)

def positive (p : Place) (v : Int) : Reading Nat :=
  if 0 < v then .ok v.toNat else .error (p.valueError (.notPositive v))

def nonNegative (p : Place) (v : Int) : Reading Nat :=
  if 0 ≤ v then .ok v.toNat else .error (p.valueError (.negative v))

/-- An integer stands for that many equal ones; otherwise a tuple has to hold exactly `n`. -/
def integers (p : Place) (n : Nat) : Argument → Reading (Vector Int n)
  | .int v => .ok (Vector.replicate n v.toInt)
  | .tuple items =>
    if h : items.length = n then
      (⟨items.toArray, by simp [h]⟩ : Vector Argument n).mapM p.integer
    else .error (p.valueError (.wrongLength n items.length))
  | a => .error (p.typeError "int or tuple" a)

def naturals (p : Place) (n : Nat) (a : Argument) : Reading (Vector Nat n) := do
  (← p.integers n a).mapM p.nonNegative

def toExtent (v : Vector Nat 2) : Extent := ⟨v[0], v[1]⟩

def extent (p : Place) (a : Argument) : Reading Extent := do
  return toExtent (← (← p.integers 2 a).mapM p.positive)

def amounts (p : Place) (a : Argument) : Reading Extent := do
  return toExtent (← p.naturals 2 a)

def openSize (p : Place) : Argument → Reading (Option Nat)
  | .none => .ok none
  | a => do return some (← p.positive (← p.integer a))

def outputSizes (p : Place) : Argument → Reading (Option Nat × Option Nat)
  | .int v => do
    let n ← p.positive v.toInt
    return (some n, some n)
  | .tuple [height, width] => do
    let height ← p.openSize height
    let width ← p.openSize width
    return (height, width)
  | a => .error (p.typeError "int or tuple" a)

def positiveSize (p : Place) : Argument → Reading Expr
  | .int v => do return .ofNat (← p.positive v.toInt)
  | .dim e => .ok e
  | a => .error (p.typeError "int" a)

def decimal (p : Place) : Argument → Reading Float
  | .float x => .ok x
  | .int n => .ok (Float.ofInt n.toInt)
  | a => .error (p.typeError "float" a)

def text (p : Place) : Argument → Reading String
  | .str s => .ok s
  | a => .error (p.typeError "str" a)

/-- A host callable that cannot be modelled changes nothing. -/
def callable (p : Place) : Argument → Reading Transform
  | .transform t => .ok t
  | .object name => .ok (.custom name id)
  | a => .error (p.typeError "callable" a)

def layer (p : Place) : Argument → Reading Layer
  | .layer l => .ok l
  | a => .error (p.typeError "Module" a)

end Place

namespace BoundArgs

def place (b : BoundArgs) (name : String) : Place := ⟨b.className, name⟩

def value? (b : BoundArgs) (name : String) : Option Argument :=
  match b.values.lookup name with
  | some .none => none
  | v => v

/-- Whether a parameter was passed as `None`, which is not the same as not passing it. -/
def isNone (b : BoundArgs) (name : String) : Bool :=
  match b.values.lookup name with
  | some a => a.isNone
  | none => false

def without (b : BoundArgs) (name : String) : BoundArgs :=
  ⟨b.className, b.values.filter (·.1 ≠ name), b.rest⟩

def consume {α : Type} (b : BoundArgs) (name : String) (read : BoundArgs → String → α) :
    α × BoundArgs :=
  (read b name, b.without name)

def withoutRest (b : BoundArgs) : BoundArgs := ⟨b.className, b.values, []⟩

def required (b : BoundArgs) (name : String) : Reading Argument :=
  match b.value? name with
  | some a => .ok a
  | none => .error (.missing (b.place name))

def optional {α : Type} (b : BoundArgs) (name : String) (read : Place → Argument → Reading α) :
    Reading (Option α) :=
  match b.value? name with
  | some a => do return some (← read (b.place name) a)
  | none => .ok none

def mandatory {α : Type} (b : BoundArgs) (name : String) (read : Place → Argument → Reading α) :
    Reading α := do
  read (b.place name) (← b.required name)

def orDefault {α : Type} (b : BoundArgs) (name : String) (read : Place → Argument → Reading α)
    (default : α) : Reading α := do
  return (← b.optional name read).getD default

def flag (b : BoundArgs) (name : String) (default : Bool) : Bool :=
  match b.value? name with
  | some a => a.isTruthy
  | none => default

/-- A probability lies between 0 and 1; the default is held to this too. -/
def probability (b : BoundArgs) (name : String) (default : Float) : Reading Float := do
  let p ← b.orDefault name Place.decimal default
  if 0.0 ≤ p ∧ p ≤ 1.0 then return p
  else throw ((b.place name).valueError (.notProbability p))

end BoundArgs
end ShapeFlow
