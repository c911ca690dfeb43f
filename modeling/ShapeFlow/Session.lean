import ShapeFlow.Catalog
import ShapeFlow.Layer.Apply
import ShapeFlow.Table
/-!
Sessions: a catalog, a context, and the layers and datasets that a host has made and named. Layers
and datasets have separate names.
-/
namespace ShapeFlow

structure Session (γ : Type) where
  env : Environment
  catalog : Catalog
  context : Context γ
  layers : Table Layer := .empty
  datasets : Table (ImageDataset (Generator γ)) := .empty

namespace Session
variable {γ : Type}

inductive Command where
  | resolve (name : String)
  | construct (slot name : String) (call : Call)
  | probe (name : String) (call : Call)
  | apply (slot : String) (inputs : List Shape)
  | item (slot : String) (index : Int)
  | setVerbose (verbose : Bool)
  | setDatasetVerbose (slot : String) (verbose : Bool)

inductive Outcome (γ : Type) where
  | resolved (e : Option Export)
  | constructed (r : Except ConstructError (Constructed γ))
  | applied (r : Applied Shape)
  | item (sample label : Item)
  /-- Nothing has the name that the command gives. -/
  | noObject
  | done

def start (env : Environment) (context : Context γ) : Logged (Session γ) := do
  return { env, catalog := ← Catalog.new env, context }

def layer? (s : Session γ) (slot : String) : Option Layer := s.layers.lookup slot

def dataset? (s : Session γ) (slot : String) : Option (ImageDataset (Generator γ)) :=
  s.datasets.lookup slot

def putLayer (s : Session γ) (slot : String) (l : Layer) : Session γ :=
  { s with layers := s.layers.put slot l }

def putDataset (s : Session γ) (slot : String) (d : ImageDataset (Generator γ)) : Session γ :=
  { s with datasets := s.datasets.put slot d }

/-- Names what was constructed; a construction that failed names nothing. -/
def keep (s : Session γ) (slot : String) : Except ConstructError (Constructed γ) → Session γ
  | .ok (.layer l) => s.putLayer slot l
  | .ok (.dataset d) => s.putDataset slot d
  | .error _ => s

variable [SeededSource γ]

def step (s : Session γ) : Command → Logged (Outcome γ × Session γ)
  | .resolve name => do return (.resolved (← s.catalog.resolve name), s)
  | .construct slot name call => do
    let (r, context) ← s.catalog.construct s.env name call s.context
    return (.constructed r, { s with context }.keep slot r)
  | .probe name call => do
    let (r, context) ← s.catalog.construct s.env name call s.context
    return (.constructed r, { s with context })
  | .apply slot inputs =>
    match s.layer? slot with
    | some l => pure (.applied (l.apply inputs), s)
    | none => pure (.noObject, s)
  | .item slot index =>
    match s.dataset? slot with
    | some d => do
      let ((sample, label), d) ← d.item index
      return (.item sample label, s.putDataset slot d)
    | none => pure (.noObject, s)
  | .setVerbose verbose => pure (.done, { s with catalog := ⟨verbose⟩ })
  | .setDatasetVerbose slot verbose =>
    match s.dataset? slot with
    | some d => pure (.done, s.putDataset slot (d.setVerbose verbose))
    | none => pure (.noObject, s)

def run (s : Session γ) : List Command → Logged (List (Outcome γ) × Session γ)
  | [] => pure ([], s)
  | c :: rest => do
    let (o, s) ← s.step c
    let (os, s) ← s.run rest
    return (o :: os, s)

end Session
end ShapeFlow
