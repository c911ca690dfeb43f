import ShapeFlow.Layer.Construct
import ShapeFlow.Proofs.Layer.Image
import ShapeFlow.Proofs.Layer.Settle
import ShapeFlow.Proofs.Layer.Window
/-!
Pooling that rounds up. A last window that starts in the padding behind the input is dropped, but
only where the size of the input is a literal. So a symbolic size and its value agree exactly where
there is no such window.
-/
namespace ShapeFlow

namespace Window
variable {σ : Expr.Binding} {w : Window} {e t u : Expr} {n : Int}

def Overhangs (w : Window) (n : Int) : Prop :=
  w.ceil = true ∧ n + Expr.wrap w.padding ≤ (w.count n - 1) * Expr.wrap w.stride

instance : Decidable (w.Overhangs n) :=
  inferInstanceAs (Decidable
    (w.ceil = true ∧ n + Expr.wrap w.padding ≤ (w.count n - 1) * Expr.wrap w.stride))

theorem dropOverhang_value_eq_count :
    w.dropOverhang (.value n) (w.count n) = w.count n ↔ ¬w.Overhangs n := by
  unfold dropOverhang Overhangs
  cases ceil : w.ceil with
  | false => simp
  | true =>
    simp only [true_and]
    split <;> omega

theorem steady_iff : w.Steady ↔ ∀ n, ¬w.Overhangs n :=
  forall_congr' fun _ => dropOverhang_value_eq_count

theorem settles_iff (fits : w.StrideFits) (he : e.eval σ = .ok n)
    (symbolic : w.outputSize e = .ok t) (concrete : w.outputSize (.value n) = .ok u) :
    t.SettlesTo σ u ↔ e.IsLiteral ∨ ¬w.Overhangs n := by
  have value := eval_outputSize fits he symbolic
  rw [outputSize_value (stride_positive concrete) fits] at concrete
  split at concrete
  · cases concrete
  · obtain rfl := Except.ok.inj concrete
    have same : t.SettlesTo σ (.value (w.dropOverhang (.value n) (w.count n))) ↔
        w.dropOverhang e (w.count n) = w.dropOverhang (.value n) (w.count n) := by
      rw [Expr.settlesTo_iff, value]
      simp
    rw [same]
    by_cases literal : e.IsLiteral
    · -- A literal is its own value, so both runs test for an overhang.
      obtain ⟨m, rfl⟩ := literal
      rw [Expr.eval_value_ok] at he
      simp [he, Expr.IsLiteral]
    · rw [dropOverhang_symbolic literal, eq_comm, dropOverhang_value_eq_count]
      simp [literal]

theorem ceil_mul (x : Int) {step : Int} (positive : 0 < step) :
    Division.ceil x step * step = x + -x % step := by
  have split := Int.emod_add_mul_ediv (-x) step
  rw [Division.ceil, Int.fdiv_eq_ediv_of_nonneg _ (by omega), Int.neg_mul, Int.mul_comm]
  omega

/-- The windows that overhang on no input, and so agree on all: those of a step that, the padding
included, the first window outreaches. -/
theorem overhangs_nowhere_iff (up : w.ceil = true) (positive : 0 < w.stride)
    (stride : w.stride ≤ Word.greatest) (padding : (2 * w.padding : Nat) ≤ Word.greatest)
    (reach : w.reach ≤ Word.greatest) :
    (∀ n, ¬w.Overhangs n) ↔ w.stride + w.padding ≤ w.reach + 1 := by
  have step : (0 : Int) < w.stride := by omega
  have last (n : Int) : (w.count n - 1) * Expr.wrap w.stride =
      n + 2 * w.padding - w.reach - 1 + -(n + 2 * w.padding - w.reach - 1) % w.stride := by
    rw [count, if_pos up, Int.add_sub_cancel, Expr.wrap_small stride, ceil_mul _ step,
      InWords.offset_eq ⟨stride, padding, reach⟩]
    simp only [Int.add_sub_assoc]
  have overhangs (n : Int) : w.Overhangs n ↔ n + w.padding ≤
      n + 2 * w.padding - w.reach - 1 + -(n + 2 * w.padding - w.reach - 1) % w.stride := by
    rw [Overhangs, last, Expr.wrap_small (show (w.padding : Int) ≤ Word.greatest by omega)]
    simp [up]
  constructor
  · intro nowhere
    -- An input one place longer than the first window is where the next step reaches furthest.
    have here := nowhere (w.reach + 2 - 2 * w.padding)
    have one : (w.reach + 2 - 2 * w.padding : Int) + 2 * w.padding - w.reach - 1 = 1 := by omega
    have rest : (-1 : Int) % w.stride = w.stride - 1 := by
      rw [Int.neg_emod_eq_sub_emod]
      exact Int.emod_eq_of_lt (by omega) (by omega)
    rw [overhangs, one, rest] at here
    omega
  · intro short n overhang
    rw [overhangs] at overhang
    have rest := Int.emod_lt_of_pos (-(n + 2 * w.padding - w.reach - 1)) step
    omega

end Window

variable {σ : Expr.Binding} {l : Layer} {w : Window × Window} {front : List Expr} {a b : Expr}
  {m n : Int} {s' t u : Shape}

theorem forall₂_append_pair {α β : Type} {R : α → β → Prop} {as : List α} {x y : α} {bs : List β}
    (h : List.Forall₂ R (as ++ [x, y]) bs) :
    ∃ front x' y', List.Forall₂ R as front ∧ R x x' ∧ R y y' ∧ bs = front ++ [x', y'] := by
  induction as generalizing bs with
  | nil =>
    obtain _ | ⟨hx, _ | ⟨hy, _ | _⟩⟩ := h
    exact ⟨[], _, _, .nil, hx, hy, rfl⟩
  | cons c as ih =>
    obtain _ | ⟨hc, rest⟩ := h
    obtain ⟨front, x', y', same, hx, hy, rfl⟩ := ih rest
    exact ⟨_ :: front, x', y', .cons hc same, hx, hy, rfl⟩

theorem forall₂_append_pair_iff {α β : Type} {R : α → β → Prop} {as : List α} {bs : List β}
    {x y : α} {x' y' : β} (h : List.Forall₂ R as bs) :
    List.Forall₂ R (as ++ [x, y]) (bs ++ [x', y']) ↔ R x x' ∧ R y y' := by
  induction h with
  | nil => simp
  | cons hc _ ih => simp [hc, ih]

namespace Layer

def poolWindows? : Layer → Option (Window × Window)
  | .maxPool2d p => some p.windows
  | .avgPool2d p => some p.windows
  | _ => none

theorem apply_pooling {s : Shape} (pool : l.poolWindows? = some w) :
    l.apply [s] = poolImageWith exactly w s := by
  cases l <;> cases pool <;> rfl

/-- A pooling layer gives a symbolic size and its value the same output exactly where the size is
written as a literal or no window overhangs. -/
theorem pooling_agrees_iff (pool : l.poolWindows? = some w)
    (fits : w.1.StrideFits ∧ w.2.StrideFits) (height : a.eval σ = .ok m) (width : b.eval σ = .ok n)
    (shape : Shape.settle σ ⟨front ++ [a, b]⟩ = .ok s')
    (symbolic : l.apply [⟨front ++ [a, b]⟩] = .ok t) (concrete : l.apply [s'] = .ok u) :
    t.settle σ = .ok u ↔
      (a.IsLiteral ∨ ¬w.1.Overhangs m) ∧ (b.IsLiteral ∨ ¬w.2.Overhangs n) := by
  obtain ⟨front', a', b', same, ha, hb, dims⟩ := forall₂_append_pair (Shape.settlesTo_iff.mp shape)
  obtain ⟨dims'⟩ := s'
  subst dims
  obtain ⟨m', hm, rfl⟩ := Expr.settlesTo_iff.mp ha
  obtain ⟨n', hn, rfl⟩ := Expr.settlesTo_iff.mp hb
  obtain rfl := Except.ok.inj (height.symm.trans hm)
  obtain rfl := Except.ok.inj (width.symm.trans hn)
  rw [apply_pooling pool] at symbolic concrete
  obtain ⟨high, wide, hhigh, hwide, rfl⟩ := poolImage_ok symbolic
  obtain ⟨high', wide', hhigh', hwide', rfl⟩ := poolImage_ok concrete
  rw [← Window.settles_iff fits.1 hm hhigh hhigh', ← Window.settles_iff fits.2 hn hwide hwide']
  exact Shape.settlesTo_iff.trans (forall₂_append_pair_iff same)

theorem pooling_disagrees_on_padded_window :
    let σ : Expr.Binding := fun _ => some 5
    let args : BoundArgs :=
      ⟨"MaxPool2d", [("kernel_size", .int 2), ("padding", .int 1), ("ceil_mode", .bool true)], []⟩
    let l : Layer := .maxPool2d ⟨.square 2, .square 2, .square 1, .square 1, false, true⟩
    let s : Shape := ⟨[.value 1, .size "h", .value 5]⟩
    let t : Shape := ⟨[.value 1, .add (.divCeil (.size "h") (.value 2)) (.value 1), .value 3]⟩
    let u : Shape := ⟨[.value 1, .value 3, .value 3]⟩
    LayerClass.maxPool2d.build args = .ok l ∧ l.apply [s] = .ok t ∧
      l.apply [⟨[.value 1, .value 5, .value 5]⟩] = .ok u ∧ t.settle σ ≠ .ok u := by
  intro σ args l s t u
  have built : LayerClass.maxPool2d.build args = .ok l := by with_unfolding_all rfl
  have symbolic : l.apply [s] = .ok t := by decide +kernel
  have concrete : l.apply [⟨[.value 1, .value 5, .value 5]⟩] = .ok u := by decide +kernel
  have shape : Shape.settle σ ⟨[.value 1] ++ [.size "h", .value 5]⟩ =
      .ok ⟨[.value 1, .value 5, .value 5]⟩ := rfl
  refine ⟨built, symbolic, concrete, fun agree => ?_⟩
  have agrees := pooling_agrees_iff rfl ⟨by decide, by decide⟩ rfl rfl shape symbolic concrete
  obtain ⟨literal | fits, _⟩ := agrees.mp agree
  · obtain ⟨v, written⟩ := literal
    cases written
  · exact fits ⟨rfl, by decide⟩

end Layer
end ShapeFlow
