import ShapeFlow.Call.Read
import ShapeFlow.Dataset.Stream
/-!
The dataset classes that can be opened by name, with their default profiles and their parameters.
-/
namespace ShapeFlow

inductive DatasetClass where
  | cifar10
  | cifar100
  | imageFolder
  deriving DecidableEq

namespace DatasetClass

def name : DatasetClass → String
  | .cifar10 => "CIFAR10"
  | .cifar100 => "CIFAR100"
  | .imageFolder => "ImageFolder"

def all : List DatasetClass := [.cifar10, .cifar100, .imageFolder]

def smallImages (labels : IntRange) : Profile := ⟨500, 100, labels, .ofSizes [3, 28, 28]⟩

def folderSizes : IntRange := ⟨256, 1280, by decide⟩

def defaultProfile : DatasetClass → Profile
  | .cifar10 => smallImages ⟨0, 9, by decide⟩
  | .cifar100 => smallImages ⟨0, 99, by decide⟩
  | .imageFolder =>
    ⟨100, 100, ⟨0, 9, by decide⟩, ⟨[.fixed 1, .range folderSizes, .range folderSizes]⟩⟩

def classCount (c : DatasetClass) : Nat := c.defaultProfile.labels.size

def signature : DatasetClass → Signature
  | .cifar10 => ⟨["root", "train", "transform", "target_transform", "download"], false⟩
  | .cifar100 => ⟨["root", "train", "transform", "target_transform", "download"], false⟩
  | .imageFolder => ⟨["root", "transform", "target_transform", "loader", "is_valid_file"], false⟩

def hasSplits : DatasetClass → Bool
  | .cifar10 => true
  | .cifar100 => true
  | .imageFolder => false

/-- The options that bound arguments describe. What concerns downloading and loading is accepted
and not kept. -/
def options (c : DatasetClass) (b : BoundArgs) : Reading DatasetOptions := do
  let root ← b.mandatory "root" Place.text
  let sample ← b.optional "transform" Place.callable
  let label ← b.optional "target_transform" Place.callable
  return ⟨root, if c.hasSplits then b.flag "train" true else true, ⟨sample, label⟩⟩

def create {σ : Type} [RandomSource σ] (c : DatasetClass) (env : Environment)
    (options : DatasetOptions) (profile : Profile) (source : σ) : Logged (ImageDataset σ) :=
  let options := if c.hasSplits then options else { options with train := true }
  ImageDataset.create env c.name options profile source

end DatasetClass
end ShapeFlow
