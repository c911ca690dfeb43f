import ShapeFlow.Config.Context
import ShapeFlow.Dataset.Class
import ShapeFlow.Layer.Construct
import ShapeFlow.Layer.Fields
import ShapeFlow.Random.Source
/-!
The catalog of classes that a program can name. A name that is not in it is not modelled; a name
that is leads to the construction of a layer or of a dataset.
-/
namespace ShapeFlow

/-- A class of the catalog. The base class of layers is only there to be derived from. -/
inductive Export where
  | base
  | layer (c : LayerClass)
  | dataset (c : DatasetClass)
  deriving DecidableEq

namespace Export

def name : Export → String
  | .base => "Module"
  | .layer c => c.name
  | .dataset c => c.name

def package : Export → String
  | .base => "torch.nn"
  | .layer _ => "torch.nn"
  | .dataset _ => "torchvision.datasets"

def qualifiedName (e : Export) : String := e.package ++ "." ++ e.name

def kindName : Export → String
  | .base => "BaseClass"
  | .layer _ => "Module"
  | .dataset _ => "Dataset"

def signature? : Export → Option Signature
  | .base => none
  | .layer c => some c.signature
  | .dataset c => some c.signature

def isConstructible : Export → Bool
  | .base => false
  | .layer _ => true
  | .dataset _ => true

def inspect (e : Export) : String :=
  Layer.record "Export"
    [("namespace", Text.quote e.package), ("name", Text.quote e.name), ("kind", e.kindName)]

def all : List Export :=
  [.base] ++
    [LayerClass.leakyRelu, .relu, .softmax, .batchNorm2d, .sequential, .moduleList, .conv2d,
      .cosineSimilarity, .channelDropout, .dropout, .linear, .crossEntropyLoss, .mseLoss,
      .adaptiveAvgPool2d, .avgPool2d, .maxPool2d, .instanceNorm2d, .reflectionPad2d].map .layer ++
    DatasetClass.all.map .dataset

def find? (name : String) : Option Export := all.find? (·.qualifiedName == name)

def namesIn (package : String) : List String :=
  (all.filter (·.package == package)).map (·.name)

end Export

inductive Constructed (γ : Type) where
  | layer (l : Layer)
  | dataset (d : ImageDataset (Generator γ))

namespace Constructed
variable {γ : Type}

def layer? : Constructed γ → Option Layer
  | .layer l => some l
  | .dataset _ => none

def dataset? : Constructed γ → Option (ImageDataset (Generator γ))
  | .layer _ => none
  | .dataset d => some d

def inspect : Constructed γ → String
  | .layer l => "Module(" ++ l.inspect ++ ")"
  | .dataset d => "Dataset(len=" ++ toString d.length ++ ")"

end Constructed

inductive ConstructError where
  | notModeled (name : String)
  | notConstructible (name : String)
  | args (why : ArgError)
  | config (why : ConfigError)
  deriving DecidableEq

namespace ConstructError

def message : ConstructError → String
  | .notModeled name => name ++ " is not modeled"
  | .notConstructible name => name ++ " is a base class and cannot be constructed"
  | .args why => why.message
  | .config why => "configuration error: " ++ why.message

def causeText? : ConstructError → Option String
  | .notModeled name => some (name ++ " is not modeled")
  | .notConstructible _ => none
  | .args why => some why.message
  | .config why => some why.message

end ConstructError

structure Catalog where
  verbose : Bool
  deriving DecidableEq

namespace Catalog
variable {γ : Type}

def new (env : Environment) : Logged Catalog := do return ⟨← env.wantsNotices⟩

def resolve (c : Catalog) (name : String) : Logged (Option Export) :=
  match Export.find? name with
  | some e => pure (some e)
  | none => do
    Logged.noteIf c.verbose (.notModeled name)
    return none

def buildLayer (c : LayerClass) (call : Call) : Except ArgError Layer := do
  c.build (← c.signature.bind c.name call)

def datasetPlan (c : DatasetClass) (call : Call) (ctx : Context γ) :
    Except ConstructError (DatasetOptions × Profile) := do
  let options ← ((c.signature.bind c.name call).bind c.options).mapError .args
  let profile ← (ctx.profileFor c.name c.defaultProfile).mapError .config
  return (options, profile)

variable [SeededSource γ]

def openDataset (env : Environment) (c : DatasetClass) (options : DatasetOptions) (profile : Profile)
    (ctx : Context γ) : Logged (ImageDataset (Generator γ) × Context γ) := do
  let (generator, ctx) := ctx.fork
  let d ← c.create env options profile (Generator.seeded generator)
  return (d.setVerbose ctx.verbose, ctx)

/-- Constructs an object by the name of its class. A construction that fails leaves the context as
it was, and so does that of a layer. -/
def construct (c : Catalog) (env : Environment) (name : String) (call : Call) (ctx : Context γ) :
    Logged (Except ConstructError (Constructed γ) × Context γ) := do
  match ← c.resolve name with
  | none => return (.error (.notModeled name), ctx)
  | some .base => return (.error (.notConstructible Export.base.name), ctx)
  | some (.layer l) => return (((buildLayer l call).mapError .args).map .layer, ctx)
  | some (.dataset d) =>
    match datasetPlan d call ctx with
    | .error why => return (.error why, ctx)
    | .ok (options, profile) => do
      let (dataset, ctx) ← openDataset env d options profile ctx
      return (.ok (.dataset dataset), ctx)

end Catalog
end ShapeFlow
