import ShapeFlow.Dataset.Stream
import ShapeFlow.Decimal
import ShapeFlow.Notice
import ShapeFlow.Table
import ShapeFlow.Text.Characters
import ShapeFlow.Arithmetic
/-!
Configurations: a seed, a wish for notices, and changes to the profiles of datasets by class name.
-/
namespace ShapeFlow

inductive SizeSpec where
  | fixed (size : Int64)
  | symbol (name : String)
  | range (min max : Int64)
  deriving DecidableEq

def SizeSpec.policy : SizeSpec → Except PolicyError DimPolicy
  | .fixed size => .ok (.fixed size.toInt)
  | .symbol name => .ok (.symbolic (.size name))
  | .range min max => DimPolicy.between min max

/-- The bounds of labels as they are written, in either order. -/
structure LabelBounds where
  min : Int64
  max : Int64
  deriving DecidableEq

structure Override where
  length : Option Nat := none
  trainLength : Option Nat := none
  evalLength : Option Nat := none
  classCount : Option Nat := none
  labels : Option LabelBounds := none
  channels : Option SizeSpec := none
  height : Option SizeSpec := none
  width : Option SizeSpec := none
  deriving DecidableEq

namespace Override

/-- The labels that the changes ask for. Bounds take precedence over a number of classes. -/
def labelRange (o : Override) : Except PolicyError (Option IntRange) :=
  match o.labels, o.classCount with
  | some b, _ => (IntRange.of b.min b.max).map some
  | none, some n => (IntRange.classes n).map some
  | none, none => .ok none

def sizeSpecs (o : Override) : List (Option SizeSpec) := [o.channels, o.height, o.width]

def validateSpecs : List (Option SizeSpec) → Except PolicyError Unit
  | [] => .ok ()
  | none :: rest => validateSpecs rest
  | some s :: rest => do
    let _ ← s.policy
    validateSpecs rest

def validate (o : Override) : Except PolicyError Unit := do
  let _ ← o.labelRange
  validateSpecs o.sizeSpecs

def replaceSpecified : List (Option SizeSpec) → List DimPolicy → Except PolicyError (List DimPolicy)
  | none :: specs, d :: ds => do
    let ds ← replaceSpecified specs ds
    return d :: ds
  | some s :: specs, _ :: ds => do
    let d ← s.policy
    let ds ← replaceSpecified specs ds
    return d :: ds
  | _, ds => .ok ds

def imagePolicy (o : Override) (p : ShapePolicy) : Except PolicyError ShapePolicy :=
  if p.ndim < 3 then .ok p
  else do
    let front := p.dims.take (p.ndim - 3)
    let back ← replaceSpecified o.sizeSpecs (p.dims.drop (p.ndim - 3))
    return ⟨front ++ back⟩

/-- The profile with the changes made. A length of one split takes precedence over the length of
both. -/
def apply (o : Override) (p : Profile) : Except PolicyError Profile := do
  let labels ← o.labelRange
  let image ← o.imagePolicy p.image
  return ⟨(o.trainLength <|> o.length).getD p.trainLength,
    (o.evalLength <|> o.length).getD p.evalLength, labels.getD p.labels, image⟩

end Override

inductive ConfigError where
  | unreadable
  | malformed
  | invalidOverride (dataset : String) (why : PolicyError)
  | invalidVariable (name value : String)
  deriving DecidableEq

namespace ConfigError

def message : ConfigError → String
  | .unreadable => "the configuration file cannot be read"
  | .malformed => "JSON error"
  | .invalidOverride dataset why => "invalid override for " ++ dataset ++ ": " ++ why.message
  | .invalidVariable name value => "invalid value \"" ++ value ++ "\" for " ++ name

def cause? : ConfigError → Option PolicyError
  | .invalidOverride _ why => some why
  | _ => none

end ConfigError

structure Config where
  seed : Option UInt64 := none
  verbose : Bool := false
  datasets : Table Override := .empty
  deriving DecidableEq

def parseWord? (text : String) : Option UInt64 :=
  let digits := match text.toList with
    | '+' :: r => r
    | cs => cs
  let n := Decimal.digitsValue digits
  if !digits.isEmpty && digits.all Char.isDigit && decide (n < Word.count) then some (.ofNat n)
  else none

namespace Config

def named {α : Type} (dataset : String) : Except PolicyError α → Except ConfigError α
  | .ok a => .ok a
  | .error why => .error (.invalidOverride dataset why)

def validateAll : List (String × Override) → Except ConfigError Unit
  | [] => .ok ()
  | (name, o) :: rest => do
    named name o.validate
    validateAll rest

def validate (c : Config) : Except ConfigError Unit := validateAll c.datasets.entries

def profileFor (c : Config) (name : String) (default : Profile) : Except ConfigError Profile :=
  match c.datasets.lookup name with
  | some o => named name (o.apply default)
  | none => .ok default

def withSeed (c : Config) : Option String → Except ConfigError Config
  | none => .ok c
  | some text => match parseWord? (Text.trim text) with
    | some seed => .ok { c with seed := some seed }
    | none => .error (.invalidVariable "PYSTUB_SEED" text)

def withVerbose (c : Config) : Option String → Logged Config
  | none => pure c
  | some text => do return { c with verbose := ← readFlag text }

def withEnvironment (c : Config) (env : Environment) : Except ConfigError (Logged Config) := do
  return (← c.withSeed env.seed).withVerbose env.verbose

end Config
end ShapeFlow
