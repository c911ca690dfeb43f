import ShapeFlow.Proofs.Layer.Bounds
import ShapeFlow.Proofs.Layer.SettledSizes
import ShapeFlow.Proofs.Layer.Tracking
/-!
A layer on symbolic sizes agrees with its settled form on their values: the two match, and settling
is a comparison that every computation with sizes keeps to.
-/
namespace ShapeFlow
variable {σ : Expr.Binding} {inputs inputs' : List Shape} {l l' : Layer}

def Window.Plain (w : Window) : Prop := w.ceil = false ∧ w.StrideFits

def settling (σ : Expr.Binding) : Comparison where
  given := Expr.SettlesTo σ
  met := Expr.SettlesTo σ
  window := Window.Plain
  border := fun _ _ => True
  excuse := fun _ => True

theorem settling_sound : (settling σ).Sound where
  met_of_given _ _ h := h
  literal _ _ h := settlesTo_literal h
  one := Expr.settlesTo_value
  mismatch _ _ _ := trivial
  window w e e' plain he := by
    have follows := follows_outputSize (Window.steady_of_floor plain.1) plain.2 he
    exact tracks_of_follows follows fun _ => trivial
  border first last e e' _ he :=
    tracks_mono (tracks_reflectSize he first last) (fun _ _ h => h) fun _ _ => trivial
  join a a' b b' ha hb :=
    tracks_mono (tracks_joinSize ha hb) (fun _ _ h => h) fun _ _ => trivial

theorem settling_inputs (shapes : Shape.settleAll σ inputs = .ok inputs') :
    (settling σ).Inputs inputs inputs' := by
  apply Comparison.Inputs.given
  exact (Shape.settleAll_ok.mp shapes).imp fun _ _ h => Shape.settlesTo_iff.mp h

namespace Layer

mutual

theorem matches_of_settle : ∀ {l l' : Layer}, l.settle σ = .ok l' →
    l.EveryWindow Window.Plain → l.Matches (settling σ) l'
  | .relu _, _, settled, _ => (Except.ok.inj settled).symm
  | .leakyRelu _ _, _, settled, _ => (Except.ok.inj settled).symm
  | .softmax _, _, settled, _ => (Except.ok.inj settled).symm
  | .dropout _ _, _, settled, _ => (Except.ok.inj settled).symm
  | .channelDropout _ _, _, settled, _ => (Except.ok.inj settled).symm
  | .cosineSimilarity _ _, _, settled, _ => (Except.ok.inj settled).symm
  | .crossEntropyLoss _ _ _, _, settled, _ => (Except.ok.inj settled).symm
  | .mseLoss _, _, settled, _ => (Except.ok.inj settled).symm
  | .maxPool2d _, _, settled, plain => ⟨plain, (Except.ok.inj settled).symm⟩
  | .avgPool2d _, _, settled, plain => ⟨plain, (Except.ok.inj settled).symm⟩
  | .adaptiveAvgPool2d _ _, _, settled, _ =>
    ⟨fun _ _ => Expr.settlesTo_value, (Except.ok.inj settled).symm⟩
  | .reflectionPad2d _, _, settled, _ => ⟨trivial, trivial, (Except.ok.inj settled).symm⟩
  | .linear _, _, settled, _ => by
    simp only [settle, bind_eq_ok, pure_eq_ok] at settled
    obtain ⟨inFeatures, expected, outFeatures, given, rfl⟩ := settled
    exact ⟨inFeatures, outFeatures, expected, given, rfl⟩
  | .conv2d _, _, settled, plain => by
    simp only [settle, bind_eq_ok, pure_eq_ok] at settled
    obtain ⟨inChannels, expected, outChannels, given, rfl⟩ := settled
    exact ⟨plain, inChannels, outChannels, expected, given, rfl⟩
  | .batchNorm2d _, _, settled, _ => by
    simp only [settle, bind_eq_ok, pure_eq_ok] at settled
    obtain ⟨numFeatures, expected, rfl⟩ := settled
    exact ⟨numFeatures, expected, rfl⟩
  | .instanceNorm2d _, _, settled, _ => by
    simp only [settle, bind_eq_ok, pure_eq_ok] at settled
    obtain ⟨numFeatures, expected, rfl⟩ := settled
    exact ⟨numFeatures, expected, rfl⟩
  | .sequential _, _, settled, plain => by
    simp only [settle, bind_eq_ok, pure_eq_ok] at settled
    obtain ⟨layers', all, rfl⟩ := settled
    exact ⟨layers', matchesAll_of_settle all plain, rfl⟩
  | .moduleList _, _, settled, plain => by
    simp only [settle, bind_eq_ok, pure_eq_ok] at settled
    obtain ⟨layers', all, rfl⟩ := settled
    exact ⟨layers', matchesAll_of_settle all plain, rfl⟩

theorem matchesAll_of_settle : ∀ {layers layers' : List Layer}, settleAll σ layers = .ok layers' →
    EveryWindowIn Window.Plain layers → MatchesAll (settling σ) layers layers'
  | [], _, settled, _ => (Except.ok.inj settled).symm
  | _ :: _, _, settled, plain => by
    simp only [settleAll, bind_eq_ok, pure_eq_ok] at settled
    obtain ⟨l', layer, rest', others, rfl⟩ := settled
    exact ⟨l', rest', matches_of_settle layer plain.1, matchesAll_of_settle others plain.2, rfl⟩

end

theorem follows_apply (layer : l.settle σ = .ok l') (plain : l.EveryWindow Window.Plain)
    (shapes : Shape.settleAll σ inputs = .ok inputs') :
    Follows (Shape.SettlesTo σ) (l.apply inputs) (l'.apply inputs') := by
  have alike := matches_of_settle layer plain
  have tracks := tracks_apply settling_sound alike (settling_inputs shapes)
  intro u answer
  obtain ⟨t, ht, related⟩ := tracks.follows u answer
  exact ⟨t, ht, Shape.settlesTo_iff.mpr related⟩

/-- Where no window rounds up, symbolic sizes refuse nothing that their values do not, and an output
that both give is the same. -/
theorem symbolic_application_agrees (layer : l.settle σ = .ok l')
    (shapes : Shape.settleAll σ inputs = .ok inputs') (plain : l.EveryWindow Window.Plain) :
    (∀ fault, l.apply inputs = .error fault →
      ∃ why, l'.apply inputs' = .error (.refused why)) ∧
    (∀ t u, l.apply inputs = .ok t → l'.apply inputs' = .ok u → t.settle σ = .ok u) := by
  have follows := follows_apply layer plain shapes
  constructor
  · intro fault refusal
    cases concrete : l'.apply inputs' with
    | ok u =>
      obtain ⟨t, answer, _⟩ := follows u concrete
      rw [refusal] at answer
      cases answer
    | error fault' =>
      obtain ⟨why, refused⟩ := apply_refuses concrete
      exact ⟨why, concrete.symm.trans refused⟩
  · intro t u symbolic concrete
    obtain ⟨t', answer, settled⟩ := follows u concrete
    obtain rfl := Except.ok.inj (symbolic.symm.trans answer)
    exact settled

theorem symbolic_application_agrees_on_stack :
    let σ : Expr.Binding := fun name =>
      if name = "c" then some 3 else if name = "k" then some 8 else if name = "h" then some 21
      else none
    let stack (c k : Expr) : Layer := .sequential
      [.conv2d ⟨c, k, .square 3, .square 2, .fixed (.square 1), .square 1, 1, true, .zeros⟩,
        .sequential [.reflectionPad2d ⟨2, 2, 1, 1⟩,
          .maxPool2d ⟨.square 2, .square 2, .square 0, .square 1, false, false⟩]]
    let height : Expr := .add (.div (.sub (.size "h") (.value 1)) (.value 2)) (.value 1)
    let s : Shape := ⟨[.size "c", .size "h", .value 33]⟩
    let t : Shape := ⟨[.size "k", .add (.div height (.value 2)) (.value 1), .value 10]⟩
    let u : Shape := ⟨[.value 8, .value 6, .value 10]⟩
    (stack (.size "c") (.size "k")).apply [s] = .ok t ∧
      (stack (.value 3) (.value 8)).apply [⟨[.value 3, .value 21, .value 33]⟩] = .ok u ∧
      t.settle σ = .ok u := by
  intro σ stack height s t u
  have symbolic : (stack (.size "c") (.size "k")).apply [s] = .ok t := by decide +kernel
  have concrete : (stack (.value 3) (.value 8)).apply [⟨[.value 3, .value 21, .value 33]⟩] =
      .ok u := by decide +kernel
  have layer : (stack (.size "c") (.size "k")).settle σ = .ok (stack (.value 3) (.value 8)) := rfl
  have shapes : Shape.settleAll σ [s] = .ok [⟨[.value 3, .value 21, .value 33]⟩] := rfl
  have plain : (stack (.size "c") (.size "k")).EveryWindow Window.Plain := by
    simp only [stack, EveryWindow, EveryWindowIn, windows, Window.Plain, Window.StrideFits,
      List.forall_mem_cons]
    decide
  exact ⟨symbolic, concrete, (symbolic_application_agrees layer shapes plain).2 t u symbolic concrete⟩

end Layer
end ShapeFlow
