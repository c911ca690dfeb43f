import ShapeFlow.Decimal
import ShapeFlow.Layer.Basic
import ShapeFlow.Table
import ShapeFlow.Transform
/-!
Calls: the values that a host passes to constructors, the parameter lists of constructors, and how
the arguments are matched to parameters. Positional arguments fill the parameters in order; a keyword
fills the parameter of its name, once. An error names the parameter that it is about.
-/
namespace ShapeFlow

inductive Argument where
  | none
  | bool (b : Bool)
  | int (n : Int64)
  | float (x : Float)
  | str (s : String)
  | dim (e : Expr)
  | tuple (items : List Argument)
  | transform (t : Transform)
  | layer (l : Layer)
  | object (name : String)

namespace Argument

def ofExpr : Expr → Argument
  | .value v => .int (.ofInt v)
  | e => .dim e

def isNone : Argument → Bool
  | .none => true
  | _ => false

def typeName : Argument → String
  | .none => "NoneType"
  | .bool _ => "bool"
  | .int _ => "int"
  | .float _ => "float"
  | .str _ => "str"
  | .dim _ => "SymInt"
  | .tuple _ => "tuple"
  | .transform _ => "function"
  | .layer _ => "Module"
  | .object _ => "object"

/-- Whether the value counts as true: numbers unless zero, texts and tuples unless empty, and every
size, callable and layer. -/
def isTruthy : Argument → Bool
  | .none => false
  | .bool b => b
  | .int n => n != 0
  | .float x => x != 0.0
  | .str s => !s.isEmpty
  | .tuple items => !items.isEmpty
  | .dim _ => true
  | .transform _ => true
  | .layer _ => true
  | .object _ => true

end Argument

inductive Objection where
  | notPositive (v : Int)
  | negative (v : Int)
  | wrongLength (expected actual : Nat)
  | notProbability (p : Float)
  | unknownPadding (text : String)
  | groups (v : Int)
  | indivisible (channels : String)
  | stridedSame
  | unknownPaddingMode (text : String)
  | widePadding
  | zeroDivisor
  | unknownReduction (text : String)
  | smoothing
  | stated (text : String)
  deriving DecidableEq

def Objection.message : Objection → String
  | .notPositive v => "expected a positive integer, got " ++ toString v
  | .negative v => "expected a non-negative integer, got " ++ toString v
  | .wrongLength expected actual =>
    "expected " ++ toString expected ++ " values, got " ++ toString actual
  | .notProbability p =>
    "probability has to be between 0 and 1, but got " ++ Decimal.plain p
  | .unknownPadding text => "invalid padding string '" ++ text ++ "'"
  | .groups v => "groups must be a positive integer, got " ++ toString v
  | .indivisible channels => channels ++ " must be divisible by groups"
  | .stridedSame => "padding='same' is not supported for strided convolutions"
  | .unknownPaddingMode text => "unsupported padding mode '" ++ text ++ "'"
  | .widePadding => "pad should be at most half of effective kernel size"
  | .zeroDivisor => "divisor must be not zero"
  | .unknownReduction text => text ++ " is not a valid value for reduction"
  | .smoothing => "label_smoothing must be between 0.0 and 1.0"
  | .stated text => text

structure Place where
  className : String
  param : String
  deriving DecidableEq

inductive ArgError where
  | missing (place : Place)
  | unexpectedKeyword (place : Place)
  | tooManyPositional (className : String) (max given : Nat)
  | duplicate (place : Place)
  | invalidType (place : Place) (expected actual : String)
  | invalidValue (place : Place) (why : Objection)
  deriving DecidableEq

def ArgError.message : ArgError → String
  | .missing p => p.className ++ "() missing required argument '" ++ p.param ++ "'"
  | .unexpectedKeyword p =>
    p.className ++ "() got an unexpected keyword argument '" ++ p.param ++ "'"
  | .tooManyPositional className max given =>
    className ++ "() takes at most " ++ toString max ++ " positional arguments but " ++
      toString given ++ " were given"
  | .duplicate p => p.className ++ "() got multiple values for argument '" ++ p.param ++ "'"
  | .invalidType p expected actual =>
    p.className ++ "() argument '" ++ p.param ++ "' must be " ++ expected ++ ", not " ++ actual
  | .invalidValue p why =>
    p.className ++ "() invalid value for '" ++ p.param ++ "': " ++ why.message

structure Call where
  positional : List Argument := []
  keywords : List (String × Argument) := []

/-- The parameters of a constructor in positional order. A variadic one collects all positional
arguments and fills no parameter with them. -/
structure Signature where
  params : List String
  variadic : Bool := false
  deriving DecidableEq

structure BoundArgs where
  className : String
  values : List (String × Argument)
  rest : List Argument

namespace Signature

def fill (params : List String) (args : List Argument) : List (String × Argument) :=
  (params.zip args).foldl (fun values p => Entries.put p.1 p.2 values) []

def addKeywords (sig : Signature) (className : String) :
    List (String × Argument) → List (String × Argument) → Except ArgError (List (String × Argument))
  | values, [] => .ok values
  | values, (name, a) :: rest =>
    if name ∉ sig.params then .error (.unexpectedKeyword ⟨className, name⟩)
    else if (values.lookup name).isSome then .error (.duplicate ⟨className, name⟩)
    else addKeywords sig className (values ++ [(name, a)]) rest

def bind (sig : Signature) (className : String) (call : Call) : Except ArgError BoundArgs :=
  if sig.variadic then do
    return ⟨className, ← sig.addKeywords className [] call.keywords, call.positional⟩
  else if sig.params.length < call.positional.length then
    .error (.tooManyPositional className sig.params.length call.positional.length)
  else do
    let filled := fill sig.params call.positional
    return ⟨className, ← sig.addKeywords className filled call.keywords, []⟩

end Signature
end ShapeFlow
