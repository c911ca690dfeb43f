/-!
Observations for tests: how often each integer was drawn, for checking that drawn values stay in a
range and reach all of it, and tables of cases that are all tried, also after one has failed.
-/
namespace ShapeFlow

/-- Observed values with their counts, least value first, each value once. -/
structure Histogram where
  counts : List (Int × Nat)
  deriving DecidableEq

namespace Histogram

def empty : Histogram := ⟨[]⟩

def recordIn (v : Int) : List (Int × Nat) → List (Int × Nat)
  | [] => [(v, 1)]
  | (w, n) :: rest =>
    if v < w then (v, 1) :: (w, n) :: rest
    else if v = w then (w, n + 1) :: rest
    else (w, n) :: recordIn v rest

def record (h : Histogram) (v : Int) : Histogram := ⟨recordIn v h.counts⟩

def ofList (vs : List Int) : Histogram := vs.foldl record empty

def total (h : Histogram) : Nat := h.counts.foldr (fun p n => p.2 + n) 0

def count (h : Histogram) (v : Int) : Nat := (h.counts.lookup v).getD 0

def min? (h : Histogram) : Option Int := h.counts.head?.map (·.1)

def max? (h : Histogram) : Option Int := h.counts.getLast?.map (·.1)

def interval (lo hi : Int) : List Int := (List.range (hi + 1 - lo).toNat).map fun k : Nat => lo + k

def missing (h : Histogram) (lo hi : Int) : List Int :=
  (interval lo hi).filter fun v => (h.counts.lookup v).isNone

def coversExactly (h : Histogram) (lo hi : Int) : Bool :=
  h.min? == some lo && h.max? == some hi && (h.missing lo hi).isEmpty

end Histogram

structure Trial (α : Type) where
  tried : Nat
  failures : List α

namespace Trial

def run {α : Type} (passes : α → Bool) (cases : List α) : Trial α :=
  ⟨cases.length, cases.filter fun c => !passes c⟩

def passed {α : Type} (t : Trial α) : Bool := t.failures.isEmpty

end Trial
end ShapeFlow
