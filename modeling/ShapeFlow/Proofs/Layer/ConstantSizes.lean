import ShapeFlow.Layer.Construct
import ShapeFlow.Proofs.Layer.Bounds
import ShapeFlow.Proofs.Layer.CeilPooling
import ShapeFlow.Proofs.Layer.SettledSizes
import ShapeFlow.Proofs.Layer.Tracking
/-!
Inputs whose sizes are constant expressions. Layers compare sizes as they are written, so an
expression passes where the value that it has is refused. That is the only difference, and there is
none once the inputs are simplified.
-/
namespace ShapeFlow
variable {σ : Expr.Binding} {e e' : Expr} {w : Window} {inputs inputs' : List Shape} {l : Layer}

namespace Expr

def Constant (e e' : Expr) : Prop := ∀ σ, e.SettlesTo σ e'

def SameValue (e e' : Expr) : Prop := ∀ σ, e.eval σ = e'.eval σ

theorem constant_of_closed (closed : e.Closed) (h : e.SettlesTo σ e') : e.Constant e' := by
  obtain ⟨v, hv, rfl⟩ := settlesTo_iff.mp h
  intro τ
  exact settlesTo_iff.mpr ⟨v, (eval_closed closed τ σ).trans hv, rfl⟩

theorem closed_of_constant (h : e.Constant e') : e.Closed := by
  obtain ⟨v, hv, -⟩ := settlesTo_iff.mp (h fun _ => none)
  exact closed_of_eval hv

theorem constant_sameValue (h : e.Constant e') : e.SameValue e' := by
  intro σ
  obtain ⟨v, hv, rfl⟩ := settlesTo_iff.mp (h σ)
  exact hv

theorem simplify_constant (h : e.Constant e') : e.simplify = e' := by
  obtain ⟨v, hv, rfl⟩ := settlesTo_iff.mp (h fun _ => none)
  exact simplify_closed (closed_of_constant h) hv

end Expr

/-- The formula of a window folds either way, so the counts are the same where none is dropped. -/
theorem tracks_outputSize_constant {E : ShapeError → Prop} (fits : w.StrideFits) (steady : w.Steady)
    (h : e.Constant e') : Tracks (· = ·) E (w.outputSize e) (w.outputSize e') := by
  obtain ⟨n, hn, rfl⟩ := Expr.settlesTo_iff.mp (h fun _ => none)
  by_cases stride : w.stride = 0
  · simp only [Window.outputSize_eq, stride, ↓reduceIte]
    exact tracks_error
  · rw [Window.outputSize_closed stride fits (Expr.closed_of_constant h) hn,
      Window.outputSize_value stride fits, Window.dropOverhang_of_steady steady hn, steady n]
    split
    · exact tracks_error
    · exact tracks_ok rfl

/-- Constant inputs against their values. What a layer computes from them is either folded or left
as it is. -/
def folding : Comparison where
  given := Expr.Constant
  met := fun e e' => e = e' ∨ e.Constant e'
  window := fun w => w.StrideFits ∧ w.Steady
  border := fun _ _ => True
  excuse := ShapeError.IsConflict

theorem folding_sound : folding.Sound where
  met_of_given _ _ h := .inr h
  literal v e' := by
    rintro (rfl | h)
    · rfl
    · exact settlesTo_literal (h fun _ => none)
  one _ := Expr.settlesTo_value
  mismatch _ _ _ := trivial
  window w e e' := by
    rintro ⟨fits, steady⟩ (rfl | h)
    · exact tracks_self fun _ _ => .inl rfl
    · exact tracks_mono (tracks_outputSize_constant fits steady h) (fun _ _ => .inl) fun _ h => h
  border first last e e' _ := by
    rintro (rfl | h)
    · exact tracks_self fun _ _ => .inl rfl
    · have tracks := tracks_forall fun σ => tracks_reflectSize (h σ) first last
      exact tracks_mono tracks (fun _ _ => .inr) fun _ h => h
  join a a' b b' ha hb := tracks_forall fun σ => tracks_joinSize (ha σ) (hb σ)

theorem constant_of_settleAll (closed : ∀ s ∈ inputs, ∀ e ∈ s.dims, e.Closed)
    (shapes : Shape.settleAll σ inputs = .ok inputs') :
    List.Forall₂ (Shape.Related Expr.Constant) inputs inputs' := by
  apply ((List.forall₂_and_left _ _).mpr ⟨closed, Shape.settleAll_ok.mp shapes⟩).imp
  intro s s' ⟨sizes, h⟩
  apply ((List.forall₂_and_left _ _).mpr ⟨sizes, Shape.settlesTo_iff.mp h⟩).imp
  intro e e' ⟨known, he⟩
  exact Expr.constant_of_closed known he

theorem simplify_inputs (constant : List.Forall₂ (Shape.Related Expr.Constant) inputs inputs') :
    inputs.map Shape.simplify = inputs' := by
  induction constant with
  | nil => rfl
  | @cons s s' _ _ h _ ih =>
    have sizes : s.dims.map Expr.simplify = s'.dims := by
      rw [← List.forall₂_eq_eq_eq, List.forall₂_map_left_iff]
      exact h.imp fun _ _ => Expr.simplify_constant
    rw [List.map_cons, ih, Shape.simplify, sizes]

namespace Layer

/-- Constant inputs pass wherever their values do, and give an output of the same values. Where only
the values are refused, they show two sizes in conflict that the expressions hide. -/
theorem constant_inputs_agree (windows : l.EveryWindow fun w => w.StrideFits ∧ w.Steady)
    (closed : ∀ s ∈ inputs, ∀ e ∈ s.dims, e.Closed)
    (shapes : Shape.settleAll σ inputs = .ok inputs') :
    (∀ u, l.apply inputs' = .ok u →
      ∃ t, l.apply inputs = .ok t ∧ t.Related Expr.SameValue u) ∧
    (∀ t fault, l.apply inputs = .ok t → l.apply inputs' = .error fault →
      ∃ why, fault = .refused why ∧ why.IsConflict) ∧
    inputs.map Shape.simplify = inputs' := by
  have constant := constant_of_settleAll closed shapes
  have alike : l.Matches folding l :=
    matches_self (fun _ => Or.inl rfl) (fun _ _ => trivial) windows
  have tracks := tracks_apply folding_sound alike (.given constant)
  refine ⟨?_, ?_, simplify_inputs constant⟩
  · intro u answer
    obtain ⟨t, ht, related⟩ := tracks.follows u answer
    refine ⟨t, ht, related_mono ?_ related⟩
    rintro e e' (rfl | h)
    · exact fun _ => rfl
    · exact Expr.constant_sameValue h
  · intro t fault answer failed
    have due := tracks.excused t fault answer failed
    cases fault with
    | refused why => exact ⟨why, rfl, due⟩
    | outOfBounds => exact due.elim

theorem constant_inputs_disagree_on_hidden_mismatch :
    let args : BoundArgs := ⟨"Linear", [("in_features", .int 5), ("out_features", .int 3)], []⟩
    let dense : Layer := .linear ⟨.value 5, .value 3, true⟩
    let pool : Layer := .maxPool2d ⟨.square 3, .square 2, .square 0, .square 1, false, true⟩
    let stack : Layer := .sequential [dense, pool]
    let s : Shape := ⟨[.value 1, .value 6, .add (.value 2) (.value 2)]⟩
    let s' : Shape := ⟨[.value 1, .value 6, .value 4]⟩
    let why : ShapeError := .mismatch "input features" (.value 5) (.value 4)
    LayerClass.linear.build args = .ok dense ∧
      stack.apply [s] = .ok ⟨[.value 1, .value 3, .value 1]⟩ ∧
      stack.apply [s'] = .error (.refused why) ∧ why.IsConflict ∧ [s.simplify] = [s'] := by
  intro args dense pool stack s s' why
  have expected : args.mandatory "in_features" Place.positiveSize = .ok (.value 5) := by
    decide +kernel
  have given : args.mandatory "out_features" Place.positiveSize = .ok (.value 3) := by
    decide +kernel
  have built : LayerClass.linear.build args = .ok dense := by
    rw [LayerClass.build, expected, given]
    rfl
  have hidden : stack.apply [s] = .ok ⟨[.value 1, .value 3, .value 1]⟩ := by decide +kernel
  have refused : stack.apply [s'] = .error (.refused why) := by decide +kernel
  have shapes : Shape.settleAll (fun _ => none) [s] = .ok [s'] := rfl
  have closed : ∀ t ∈ [s], ∀ e ∈ t.dims, e.Closed := by simp [s, Expr.Closed]
  let w : Window := ⟨3, 2, 1, 0, true⟩
  have fits : w.StrideFits := by decide
  have steady : w.Steady := by
    rw [Window.steady_iff, Window.overhangs_nowhere_iff rfl] <;> decide
  have windows : stack.EveryWindow fun w => w.StrideFits ∧ w.Steady := by
    refine ⟨List.forall_mem_nil _, ?_, trivial⟩
    exact List.forall_mem_cons.mpr ⟨⟨fits, steady⟩, List.forall_mem_singleton.mpr ⟨fits, steady⟩⟩
  obtain ⟨-, conflict, simplified⟩ := constant_inputs_agree windows closed shapes
  obtain ⟨why', same, due⟩ := conflict _ _ hidden refused
  obtain rfl := Fault.refused.inj same
  exact ⟨built, hidden, refused, due, simplified⟩

end Layer
end ShapeFlow
