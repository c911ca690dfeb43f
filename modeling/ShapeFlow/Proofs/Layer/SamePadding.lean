import ShapeFlow.Proofs.Layer.Follow
import ShapeFlow.Proofs.Layer.Image
import ShapeFlow.Proofs.Layer.Window
/-!
Padding that keeps the size of an image. A convolution that is told to keep the height and the width
copies them; one that is given the fitting amount computes them. Both come to the same sizes, but
only the second one refuses an image without places.
-/
namespace ShapeFlow
open Applied

namespace Window
variable {σ : Expr.Binding} {w : Window} {e t : Expr} {n : Int} {why : ShapeError}

structure Keeps (w : Window) : Prop where
  down : w.ceil = false
  stride : w.stride = 1
  padding : 2 * w.padding = w.reach

namespace Keeps

theorem strideFits (keeps : w.Keeps) : w.StrideFits := by
  rw [StrideFits, keeps.stride]
  decide

theorem stride_positive (keeps : w.Keeps) : w.stride ≠ 0 := by
  rw [keeps.stride]
  decide

-- Both casts are of one number, so it makes no difference whether a signed word holds it.
theorem offset_eq (keeps : w.Keeps) : w.offset = -1 := by
  rw [offset, ← keeps.padding]
  push_cast
  omega

theorem step_eq (keeps : w.Keeps) : Expr.wrap w.stride = 1 := by
  rw [keeps.stride]
  rfl

theorem count_eq (keeps : w.Keeps) : w.count n = n := by
  rw [count, keeps.down, keeps.offset_eq, keeps.step_eq]
  simp only [Bool.false_eq_true, ↓reduceIte, Division.floor, Int.fdiv_one]
  omega

theorem eval_outputSize (keeps : w.Keeps) (he : e.eval σ = .ok n)
    (answer : w.outputSize e = .ok t) : t.eval σ = .ok n := by
  rw [Window.eval_outputSize keeps.strideFits he answer, dropOverhang_floor keeps.down,
    keeps.count_eq]

/-- A size with a value of at least 1 is never refused. -/
theorem outputSize_answers (keeps : w.Keeps) (he : e.eval σ = .ok n) (positive : 1 ≤ n) :
    ∃ t, w.outputSize e = .ok t := by
  cases answer : w.outputSize e with
  | ok t => exact ⟨t, rfl⟩
  | error why =>
    have small := outputSize_refused keeps.stride_positive keeps.strideFits he answer
    rw [dropOverhang_floor keeps.down, keeps.count_eq] at small
    omega

theorem outputSize_var (keeps : w.Keeps) (s : Symbol) :
    w.outputSize (.var s) = .ok (.var s) := by
  have formula_eq : w.formula (.var s) =
      .add (.div (.add (.var s) (.value (-1))) (.value 1)) (.value 1) := by
    rw [formula, keeps.offset_eq, keeps.step_eq, keeps.down]
    rfl
  have folded : (w.formula (.var s)).simplify = .var s := by
    rw [formula_eq]
    rfl
  simp only [outputSize_eq, checkFit, keeps.stride_positive, ↓reduceIte, folded]

end Keeps
end Window

section Image
variable {v w : Window} {σ : Expr.Binding} {front : List Expr} {channels out a a' b b' : Expr}
  (high : v.Keeps) (wide : w.Keeps) (answer : v.outputSize a = .ok a')
  (answerWide : w.outputSize b = .ok b')
include high wide answer answerWide

/-- Two windows that keep sizes leave every size of an image with its value. -/
theorem related_of_keeps (values : ∀ e ∈ front ++ [channels, a, b], ∃ v, e.eval σ = .ok v) :
    Shape.Related (fun e e' => e.eval σ = e'.eval σ ∧ (e = out ∨ ∃ v, e.eval σ = .ok v))
      ⟨front ++ [out, a, b]⟩ ⟨front ++ [out, a', b']⟩ := by
  obtain ⟨m, hm⟩ := values a (by simp)
  obtain ⟨n, hn⟩ := values b (by simp)
  have first : List.Forall₂ (fun e e' : Expr => e.eval σ = e'.eval σ ∧
      (e = out ∨ ∃ v, e.eval σ = .ok v)) front front := by
    rw [List.forall₂_same]
    intro e member
    exact ⟨rfl, .inr (values e (List.mem_append_left _ member))⟩
  have height := hm.trans (high.eval_outputSize hm answer).symm
  have width := hn.trans (wide.eval_outputSize hn answerWide).symm
  exact List.rel_append first
    (.cons ⟨rfl, .inl rfl⟩ (.cons ⟨height, .inr ⟨m, hm⟩⟩ (.cons ⟨width, .inr ⟨n, hn⟩⟩ .nil)))

theorem symbol_of_keeps {i : Nat} {symbol : Symbol}
    (found : (⟨front ++ [channels, a, b]⟩ : Shape).spatial[i]? = some (.var symbol)) :
    (⟨front ++ [out, a', b']⟩ : Shape).spatial[i]? = some (.var symbol) := by
  rw [channels_append, spatial_append_pair] at found ⊢
  match i with
  | 0 =>
    obtain rfl : a = .var symbol := Option.some.inj found
    rw [high.outputSize_var, Except.ok.injEq] at answer
    exact congrArg some answer.symm
  | 1 =>
    obtain rfl : b = .var symbol := Option.some.inj found
    rw [wide.outputSize_var, Except.ok.injEq] at answerWide
    exact congrArg some answerWide.symm
  | _ + 2 => cases found

end Image

namespace Layer
variable {c : Convolution} {amount : Extent}

/-- A padding given as an amount that keeps the height and the width of an image leads to the sizes
that the padding by name leads to, wherever the input has values, and to the very symbol that such a
size may be. It refuses no image that has a place in some binding. -/
theorem same_padding_agrees (strides : c.stride = .square 1)
    (height : 2 * amount.height = c.dilation.height * (c.kernel.height - 1))
    (width : 2 * amount.width = c.dilation.width * (c.kernel.width - 1)) (inputs : List Shape) :
    let same : Layer := .conv2d { c with padding := .same }
    let fixed : Layer := .conv2d { c with padding := .fixed amount }
    (∀ u, fixed.apply inputs = .ok u → ∃ t, same.apply inputs = .ok t ∧
      (∀ σ, (∀ s ∈ inputs, ∀ e ∈ s.dims, ∃ v, e.eval σ = .ok v) →
        t.Related (fun e e' => e.eval σ = e'.eval σ ∧
          (e = c.outChannels ∨ ∃ v, e.eval σ = .ok v)) u) ∧
      ∀ s ∈ inputs, ∀ (i : Nat) (symbol : Symbol),
        s.spatial[i]? = some (.var symbol) → u.spatial[i]? = some (.var symbol)) ∧
    ((∃ t, same.apply inputs = .ok t) →
      (∀ s ∈ inputs, ∀ e ∈ s.spatial, ∃ σ v, e.eval σ = .ok v ∧ 1 ≤ v) →
        ∃ u, fixed.apply inputs = .ok u) := by
  intro same fixed
  have high : (Convolution.windows { c with padding := .fixed amount } amount).1.Keeps :=
    ⟨rfl, congrArg Extent.height strides, height⟩
  have wide : (Convolution.windows { c with padding := .fixed amount } amount).2.Keeps :=
    ⟨rfl, congrArg Extent.width strides, width⟩
  constructor
  · intro u answer
    obtain ⟨s, rfl, answer⟩ := apply_conv2d_eq_ok.mp answer
    obtain ⟨front, channels, a, b, batch, rfl, checked, a', b', ha, hb, rfl⟩ :=
      convolution_eq_ok.mp answer
    refine ⟨⟨front ++ [c.outChannels, a, b]⟩, ?_, ?_, ?_⟩
    · exact apply_conv2d_eq_ok.mpr
        ⟨_, rfl, convolution_eq_ok.mpr ⟨front, channels, a, b, batch, rfl, checked, rfl⟩⟩
    · intro σ values
      exact related_of_keeps high wide ha hb (values _ List.mem_cons_self)
    · intro s member i symbol found
      obtain rfl := List.mem_singleton.mp member
      exact symbol_of_keeps high wide ha hb found
  · rintro ⟨t, answer⟩ places
    obtain ⟨s, rfl, answer⟩ := apply_conv2d_eq_ok.mp answer
    obtain ⟨front, channels, a, b, batch, rfl, checked, -⟩ := convolution_eq_ok.mp answer
    have places := places _ List.mem_cons_self
    rw [channels_append, spatial_append_pair] at places
    obtain ⟨σ, m, hm, some⟩ := places a (by simp)
    obtain ⟨τ, n, hn, someWide⟩ := places b (by simp)
    obtain ⟨a', ha⟩ := high.outputSize_answers hm some
    obtain ⟨b', hb⟩ := wide.outputSize_answers hn someWide
    refine ⟨⟨front ++ [c.outChannels, a', b']⟩, apply_conv2d_eq_ok.mpr ⟨_, rfl, ?_⟩⟩
    exact convolution_eq_ok.mpr
      ⟨front, channels, a, b, batch, rfl, checked, a', b', ha, hb, rfl⟩

theorem same_padding_agrees_on_symbolic_image :
    let σ : Expr.Binding := fun _ => some 7
    let c : Convolution := ⟨.value 3, .value 8, ⟨3, 5⟩, .square 1, .same, ⟨2, 1⟩, 1, true, .zeros⟩
    let s : Shape := ⟨[.value 3, .size "h", .add (.size "w") (.value 1)]⟩
    let u : Shape := ⟨[.value 8, .size "h", .add (.size "w") (.value 1)]⟩
    c.stride = .square 1 ∧ 2 * 2 = c.dilation.height * (c.kernel.height - 1) ∧
      2 * 2 = c.dilation.width * (c.kernel.width - 1) ∧
      (conv2d { c with padding := .fixed ⟨2, 2⟩ }).apply [s] = .ok u ∧
      ∃ t, (conv2d c).apply [s] = .ok t ∧ t.Related (fun e e' => e.eval σ = e'.eval σ ∧
        (e = c.outChannels ∨ ∃ v, e.eval σ = .ok v)) u := by
  intro σ c s u
  have answer : (conv2d { c with padding := .fixed ⟨2, 2⟩ }).apply [s] = .ok u := by
    decide +kernel
  obtain ⟨agrees, -⟩ := @same_padding_agrees c ⟨2, 2⟩ rfl rfl rfl [s]
  obtain ⟨t, same, values, -⟩ := agrees u answer
  have known : ∀ s' ∈ [s], ∀ e ∈ s'.dims, ∃ v, e.eval σ = .ok v := by
    simp [s, σ, Expr.eval, Expr.size, bind, Except.bind, pure, Except.pure]
  exact ⟨rfl, rfl, rfl, answer, t, same, values σ known⟩

end Layer
end ShapeFlow
