import Mathlib.Data.List.Forall2
import ShapeFlow.Layer.Apply
import ShapeFlow.Proofs.Expr.Evaluation
/-!
Settling: every size of a shape, and every size that a layer has as a parameter, is replaced by its
value under a binding. A layer and its settled form differ in nothing else.
-/
namespace ShapeFlow

namespace Expr

def settle (σ : Binding) (e : Expr) : Except EvalError Expr := do return .value (← e.eval σ)

def settleAll (σ : Binding) : List Expr → Except EvalError (List Expr)
  | [] => .ok []
  | e :: es => do
    let e ← e.settle σ
    let es ← settleAll σ es
    return e :: es

def SettlesTo (σ : Binding) (e e' : Expr) : Prop := e.settle σ = .ok e'

theorem settlesTo_iff {σ : Binding} {e e' : Expr} :
    e.SettlesTo σ e' ↔ ∃ v, e.eval σ = .ok v ∧ .value v = e' := by
  simp only [SettlesTo, settle, bind_eq_ok, pure_eq_ok]

theorem settlesTo_value {σ : Binding} {v : Int} : (value v).SettlesTo σ (.value v) := rfl

theorem settleAll_ok {σ : Binding} {es es' : List Expr} :
    settleAll σ es = .ok es' ↔ List.Forall₂ (SettlesTo σ) es es' := by
  induction es generalizing es' with
  | nil =>
    rw [settleAll, List.forall₂_nil_left_iff, Except.ok.injEq, eq_comm]
  | cons e es ih =>
    simp only [settleAll, bind_eq_ok, pure_eq_ok, List.forall₂_cons_left_iff, ih, SettlesTo]
    constructor
    · rintro ⟨e', he, es', hes, rfl⟩
      exact ⟨e', es', he, hes, rfl⟩
    · rintro ⟨e', es', he, hes, rfl⟩
      exact ⟨e', he, es', hes, rfl⟩

end Expr

namespace Shape

def settle (σ : Expr.Binding) (s : Shape) : Except Expr.EvalError Shape := do
  return ⟨← Expr.settleAll σ s.dims⟩

def settleAll (σ : Expr.Binding) : List Shape → Except Expr.EvalError (List Shape)
  | [] => .ok []
  | s :: rest => do
    let s ← s.settle σ
    let rest ← settleAll σ rest
    return s :: rest

def SettlesTo (σ : Expr.Binding) (s s' : Shape) : Prop := s.settle σ = .ok s'

theorem settlesTo_iff {σ : Expr.Binding} {s s' : Shape} :
    s.SettlesTo σ s' ↔ List.Forall₂ (Expr.SettlesTo σ) s.dims s'.dims := by
  simp only [SettlesTo, settle, bind_eq_ok, pure_eq_ok, Expr.settleAll_ok]
  constructor
  · rintro ⟨dims, h, rfl⟩
    exact h
  · intro h
    exact ⟨s'.dims, h, rfl⟩

theorem settleAll_ok {σ : Expr.Binding} {inputs inputs' : List Shape} :
    settleAll σ inputs = .ok inputs' ↔ List.Forall₂ (SettlesTo σ) inputs inputs' := by
  induction inputs generalizing inputs' with
  | nil =>
    rw [settleAll, List.forall₂_nil_left_iff, Except.ok.injEq, eq_comm]
  | cons s rest ih =>
    simp only [settleAll, bind_eq_ok, pure_eq_ok, List.forall₂_cons_left_iff, ih, SettlesTo]
    constructor
    · rintro ⟨s', hs, rest', hrest, rfl⟩
      exact ⟨s', rest', hs, hrest, rfl⟩
    · rintro ⟨s', rest', hs, hrest, rfl⟩
      exact ⟨s', hs, rest', hrest, rfl⟩

end Shape

namespace Layer

mutual

def settle (σ : Expr.Binding) : Layer → Except Expr.EvalError Layer
  | .linear l => do
    let inFeatures ← l.inFeatures.settle σ
    let outFeatures ← l.outFeatures.settle σ
    return .linear { l with inFeatures, outFeatures }
  | .conv2d c => do
    let inChannels ← c.inChannels.settle σ
    let outChannels ← c.outChannels.settle σ
    return .conv2d { c with inChannels, outChannels }
  | .batchNorm2d n => do
    let numFeatures ← n.numFeatures.settle σ
    return .batchNorm2d { n with numFeatures }
  | .instanceNorm2d n => do
    let numFeatures ← n.numFeatures.settle σ
    return .instanceNorm2d { n with numFeatures }
  | .sequential layers => do return .sequential (← settleAll σ layers)
  | .moduleList layers => do return .moduleList (← settleAll σ layers)
  | l => .ok l

def settleAll (σ : Expr.Binding) : List Layer → Except Expr.EvalError (List Layer)
  | [] => .ok []
  | l :: rest => do
    let l ← settle σ l
    let rest ← settleAll σ rest
    return l :: rest

end

def windows : Layer → List Window
  | .conv2d c => match c.padding with
    | .same => []
    | .fixed padding => [(c.windows padding).1, (c.windows padding).2]
  | .maxPool2d p => [p.windows.1, p.windows.2]
  | .avgPool2d p => [p.windows.1, p.windows.2]
  | _ => []

mutual

def EveryWindow (P : Window → Prop) : Layer → Prop
  | .sequential layers => EveryWindowIn P layers
  | .moduleList layers => EveryWindowIn P layers
  | l => ∀ w ∈ l.windows, P w

def EveryWindowIn (P : Window → Prop) : List Layer → Prop
  | [] => True
  | l :: rest => EveryWindow P l ∧ EveryWindowIn P rest

end

end Layer
end ShapeFlow
