import ShapeFlow.Config.Basic
import ShapeFlow.Random.Source
import ShapeFlow.Text.Json
/-!
Reading configurations from JSON, and the context that one gives a run. A record is an object with
known members, each at most once, or an array of its members in order; integers have to be written
as such and fit a 64-bit word.
-/
namespace ShapeFlow.Config

open Text (Json)

def natural? : Json → Option Nat
  | .integer n => if 0 ≤ n ∧ n < Word.count then some n.toNat else none
  | _ => none

def signed? : Json → Option Int64
  | .integer n => Word.of? n
  | _ => none

def flag? : Json → Option Bool
  | .bool b => some b
  | _ => none

def nullable {α : Type} (read : Json → Option α) : Json → Option (Option α)
  | .null => some none
  | j => (read j).map some

/-- The members of an object, if all their names are known and no name occurs twice. -/
def knownMembers? (names : List String) : List (String × Json) → Option (List (String × Json))
  | [] => some []
  | (name, v) :: rest => do
    let rest ← knownMembers? names rest
    if name ∈ names ∧ (rest.lookup name).isNone then some ((name, v) :: rest) else none

def member {α : Type} (members : List (String × Json)) (name : String) (read : Json → Option α)
    (default : α) : Option α :=
  match members.lookup name with
  | some v => read v
  | none => some default

def single? (name : String) (members : List (String × Json)) : Option Json :=
  match members.filter (·.1 = name) with
  | [(_, v)] => some v
  | _ => none

/-- A size is an integer, a name, or an object with a least and a greatest value. That object alone
may have further members. -/
def sizeSpec? : Json → Option SizeSpec
  | .string name => some (.symbol name)
  | .object members => do
    let min ← signed? (← single? "min" members)
    let max ← signed? (← single? "max" members)
    return .range min max
  | j => (signed? j).map .fixed

def labelBounds? : Json → Option LabelBounds
  | .object members => do
    let members ← knownMembers? ["min", "max"] members
    return ⟨← signed? (← members.lookup "min"), ← signed? (← members.lookup "max")⟩
  | .array [min, max] => do return ⟨← signed? min, ← signed? max⟩
  | _ => none

def overrideNames : List String :=
  ["len", "train_len", "eval_len", "num_classes", "labels", "channels", "height", "width"]

def override? : Json → Option Override
  | .object members => do
    let ms ← knownMembers? overrideNames members
    return ⟨← member ms "len" (nullable natural?) none,
      ← member ms "train_len" (nullable natural?) none,
      ← member ms "eval_len" (nullable natural?) none,
      ← member ms "num_classes" (nullable natural?) none,
      ← member ms "labels" (nullable labelBounds?) none,
      ← member ms "channels" (nullable sizeSpec?) none,
      ← member ms "height" (nullable sizeSpec?) none,
      ← member ms "width" (nullable sizeSpec?) none⟩
  | .array [length, train, eval, classes, labels, channels, height, width] => do
    return ⟨← nullable natural? length, ← nullable natural? train, ← nullable natural? eval,
      ← nullable natural? classes, ← nullable labelBounds? labels, ← nullable sizeSpec? channels,
      ← nullable sizeSpec? height, ← nullable sizeSpec? width⟩
  | _ => none

/-- Adds the changes of datasets in order; later changes of a name replace earlier ones. -/
def readOverrides : Table Override → List (String × Json) → Option (Table Override)
  | done, [] => some done
  | done, (name, v) :: rest => do
    let o ← override? v
    readOverrides (done.put name o) rest

def overrides? : Json → Option (Table Override)
  | .object members => readOverrides .empty members
  | _ => none

def seed? (j : Json) : Option UInt64 := (natural? j).map .ofNat

/-- A configuration. What is not given has its default; written as an array it may end early. -/
def ofJson? : Json → Option Config
  | .object members => do
    let ms ← knownMembers? ["seed", "verbose", "datasets"] members
    return ⟨← member ms "seed" (nullable seed?) none, ← member ms "verbose" flag? false,
      ← member ms "datasets" overrides? .empty⟩
  | .array [] => some {}
  | .array [seed] => do return ⟨← nullable seed? seed, false, .empty⟩
  | .array [seed, verbose] => do return ⟨← nullable seed? seed, ← flag? verbose, .empty⟩
  | .array [seed, verbose, datasets] => do
    return ⟨← nullable seed? seed, ← flag? verbose, ← overrides? datasets⟩
  | _ => none

def parse (text : String) : Except ConfigError Config :=
  match (Json.ofString? text).bind ofJson? with
  | some c => .ok c
  | none => .error .malformed

def ofText (text : String) : Except ConfigError Config := do
  let c ← parse text
  c.validate
  return c

def ofFile (file : FileState) : Except ConfigError Config :=
  match file.text? with
  | some text => ofText text
  | none => .error .unreadable

end ShapeFlow.Config

namespace ShapeFlow

structure Context (γ : Type) where
  config : Config
  generator : γ
  verbose : Bool
  deriving DecidableEq

namespace Context
variable {γ : Type}

def profileFor (c : Context γ) (name : String) (default : Profile) : Except ConfigError Profile :=
  c.config.profileFor name default

variable [SeededSource γ]

/-- A context with the seed of its configuration, or with a seed from the surroundings. Whether
notices are wanted there is only looked up if the configuration does not want them. -/
def ofConfig (env : Environment) (entropy : UInt64) (config : Config) :
    Logged (Context γ) := do
  let verbose ← if config.verbose then pure true else env.wantsNotices
  return ⟨config, SeededSource.ofSeed (config.seed.getD entropy), verbose⟩

def ofEnvironment (env : Environment) (entropy : UInt64) :
    Except ConfigError (Logged (Context γ)) := do
  let config ← match env.configFile with
    | some file => Config.ofFile file
    | none => .ok {}
  let config ← config.withEnvironment env
  return config >>= ofConfig env entropy

def fork (c : Context γ) : γ × Context γ :=
  let (seed, generator) := SeededSource.word c.generator
  (SeededSource.ofSeed seed, { c with generator })

end Context
end ShapeFlow
