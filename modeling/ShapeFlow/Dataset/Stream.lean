import ShapeFlow.Notice
import ShapeFlow.Policy
import ShapeFlow.Transform
/-!
Image datasets. A profile tells how many items there are, what the labels are, and what the images
look like. An item is drawn anew each time it is asked for, whatever its index: first the sizes of
the image, then the label, then both pass through the dataset's transforms.
-/
namespace ShapeFlow

structure Profile where
  trainLength : Nat
  evalLength : Nat
  labels : IntRange
  image : ShapePolicy
  deriving DecidableEq

namespace Profile

def length (p : Profile) (train : Bool) : Nat := if train then p.trainLength else p.evalLength

end Profile

def Raw.draw {σ : Type} [RandomSource σ] (image : ShapePolicy) (labels : IntRange) (s : σ) :
    (Shape × Int) × σ :=
  let (shape, s) := image.sample s
  let (label, s) := RandomSource.draw labels s
  ((shape, label), s)

structure DatasetOptions where
  root : String
  train : Bool := true
  pipeline : Pipeline := {}

structure ImageDataset (σ : Type) where
  className : String
  root : String
  length : Nat
  labels : IntRange
  image : ShapePolicy
  pipeline : Pipeline
  source : σ
  verbose : Bool

namespace ImageDataset

variable {σ : Type} [RandomSource σ]

def create (env : Environment) (className : String) (options : DatasetOptions) (profile : Profile)
    (source : σ) : Logged (ImageDataset σ) := do
  let verbose ← env.wantsNotices
  let length := profile.length options.train
  Logged.noteIf verbose
    (.datasetOpened className options.root options.train length profile.labels profile.image)
  return ⟨className, options.root, length, profile.labels, profile.image, options.pipeline, source,
    verbose⟩

def setVerbose (d : ImageDataset σ) (verbose : Bool) : ImageDataset σ := { d with verbose }

def draw (d : ImageDataset σ) : (Shape × Int) × ImageDataset σ :=
  let (raw, source) := Raw.draw d.image d.labels d.source
  (raw, { d with source })

def item (d : ImageDataset σ) (index : Int) : Logged ((Item × Item) × ImageDataset σ) := do
  let ((shape, label), next) := d.draw
  Logged.noteIf d.verbose (.itemDrawn d.className index shape label)
  return (d.pipeline.apply (.ofShape shape) (.int label), next)

def items (d : ImageDataset σ) : List Int → Logged (List (Item × Item) × ImageDataset σ)
  | [] => pure ([], d)
  | i :: rest => do
    let (pair, d) ← d.item i
    let (pairs, d) ← items d rest
    return (pair :: pairs, d)

end ImageDataset
end ShapeFlow
