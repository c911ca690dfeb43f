import ShapeFlow.Policy
import ShapeFlow.Text.Characters
/-!
Notices: the lines that are written beside results when the program is asked to be verbose. A
computation with notices yields a value and a log, and the value never depends on the log.
-/
namespace ShapeFlow

inductive Notice where
  | unrecognizedFlag (text : String)
  | datasetOpened (className root : String) (train : Bool) (length : Nat) (labels : IntRange)
      (image : ShapePolicy)
  | itemDrawn (className : String) (index : Int) (image : Shape) (label : Int)
  | notModeled (name : String)
  deriving DecidableEq

namespace Notice

def ofProgram (text : String) : String := "pystub: " ++ text

def render : Notice → String
  | .unrecognizedFlag text => "Unrecognized boolean value \"" ++ text ++ "\""
  | .datasetOpened className root train length labels image =>
    ofProgram (className ++ "(root=" ++ Text.quote root ++ ", train=" ++
      (if train then "true" else "false") ++ ") len=" ++ toString length ++ " labels=" ++
      labels.render ++ " image=" ++ image.inspect)
  | .itemDrawn className index image label =>
    ofProgram (className ++ "[" ++ toString index ++ "] -> image " ++ image.render ++ " label " ++
      toString label)
  | .notModeled name => ofProgram (name ++ " is not modeled")

/-- The lines that a notice is written on; more than one if a name in it holds line feeds. -/
def lines (n : Notice) : List String := Text.lines n.render

end Notice

structure Logged (α : Type) where
  value : α
  log : List Notice
  deriving DecidableEq

namespace Logged

def noteIf (wanted : Bool) (n : Notice) : Logged Unit := ⟨(), if wanted then [n] else []⟩

instance : Monad Logged where
  pure a := ⟨a, []⟩
  bind x f := ⟨(f x.value).value, x.log ++ (f x.value).log⟩

end Logged

inductive FileState where
  | missing
  | bytes (content : ByteArray)

def FileState.text? : FileState → Option String
  | .missing => none
  | .bytes content => String.fromUTF8? content

structure Environment where
  seed : Option String := none
  verbose : Option String := none
  configFile : Option FileState := none

def flag? (text : String) : Option Bool :=
  if text ∈ ["1", "true", "t", "yes", "y"] then some true
  else if text ∈ ["0", "false", "f", "no", "n"] then some false
  else none

def readFlag (text : String) : Logged Bool :=
  match flag? text with
  | some b => pure b
  | none => ⟨false, [.unrecognizedFlag text]⟩

/-- Whether notices are wanted; a text that names no truth value is noted each time it is read. -/
def Environment.wantsNotices (env : Environment) : Logged Bool :=
  match env.verbose with
  | some text => readFlag text
  | none => pure false

end ShapeFlow
