import ShapeFlow.Proofs.Call.KnownSizes
import ShapeFlow.Proofs.Layer.Image
import ShapeFlow.Proofs.Layer.Placement
import ShapeFlow.Proofs.Layer.SettledSizes
/-!
Sizes behind padding. What padding adds and what a window takes away are stored in signed words
before they meet the size of the input. The size that a layer computes is the one its parameters
promise exactly where the words keep these amounts, or lose the same from both.
-/
namespace ShapeFlow

inductive Direction where
  | border (first last : Nat)
  | window (w : Window)

namespace Direction
variable {σ : Expr.Binding} {d : Direction} {w : Window} {first last : Nat} {e e' : Expr} {n : Int}

def apply : Direction → Expr → Except ShapeError Expr
  | .border first last, e => reflectSize e first last
  | .window w, e => w.outputSize e

def promised : Direction → Int → Int
  | .border first last, n => n + first + last
  | .window w, n => Division.floor (n + 2 * w.padding - w.reach - 1) w.stride + 1

/-- Signed words keep what is added, and what a window takes away, or they keep neither. -/
def Kept : Direction → Prop
  | .border first last => (first + last : Nat) ≤ Word.greatest
  | .window w => (2 * w.padding : Nat) ≤ Word.greatest ↔ w.reach ≤ Word.greatest

/-- The parameters are ones that a constructor lets pass, and an unsigned word holds the reach. -/
def Admitted : Direction → Prop
  | .border first last => first ≤ Word.greatest ∧ last ≤ Word.greatest
  | .window w => w.ceil = false ∧ (0 < w.stride ∧ w.stride ≤ Word.greatest) ∧
    w.padding ≤ Word.greatest ∧ w.reach < Word.count

theorem border_exact_iff (admitted : (border first last).Admitted) :
    n + Expr.wrap (first + last : Nat) = (border first last).promised n ↔
      (border first last).Kept := by
  obtain ⟨wordFirst, wordLast⟩ := admitted
  have positive : 0 < Word.count := by decide
  simp only [promised, Kept]
  have below := Word.add_lt_count wordFirst wordLast
  rcases Expr.wrap_cases below with ⟨kept, same⟩ | ⟨lost, short⟩ <;> omega

/-- What padding adds less what a window takes away is kept, or a whole word off. -/
theorem offset_cases (padding : 2 * w.padding < Word.count) (reach : w.reach < Word.count) :
    (window w).Kept ∧ w.offset = 2 * w.padding - w.reach - 1 ∨
      ¬(window w).Kept ∧ (w.offset = 2 * w.padding - w.reach - 1 - Word.count ∨
        w.offset = 2 * w.padding - w.reach - 1 + Word.count) := by
  have added := Expr.wrap_cases padding
  have taken := Expr.wrap_cases reach
  push_cast at added
  simp only [Window.offset, Kept]
  omega

theorem window_exact_iff (admitted : (window w).Admitted) :
    w.count n = (window w).promised n ↔ (window w).Kept := by
  obtain ⟨down, ⟨positive, stride⟩, padding, reach⟩ := admitted
  have twice := Word.add_lt_count padding padding
  have step : (0 : Int) < w.stride := by omega
  have short : w.stride < Word.count := Window.strideFits_of_word stride
  rw [Window.count, down, Expr.wrap_small stride, promised]
  simp only [Bool.false_eq_true, ↓reduceIte]
  -- A whole word is more than one step, so quotients differ as soon as their numerators do.
  rcases offset_cases (by omega) reach with ⟨kept, same⟩ | ⟨lost, less | more⟩
  · refine iff_of_true ?_ kept
    rw [same, ← Int.add_sub_assoc, ← Int.add_sub_assoc]
  · refine iff_of_false (fun equal => ?_) lost
    have := Division.floor_lt_floor (x := n + w.offset) (y := n + 2 * w.padding - w.reach - 1) step
      (by omega)
    omega
  · refine iff_of_false (fun equal => ?_) lost
    have := Division.floor_lt_floor (x := n + 2 * w.padding - w.reach - 1) (y := n + w.offset) step
      (by omega)
    omega

/-- Where a size has a value, what a direction makes of it is the promised size exactly if signed
words keep the amounts. -/
theorem Admitted.exact_iff (admitted : d.Admitted) (he : e.eval σ = .ok n)
    (answer : d.apply e = .ok e') :
    ∃ v, e'.eval σ = .ok v ∧ (v = d.promised n ↔ d.Kept) := by
  cases d with
  | border first last => exact ⟨_, eval_reflectSize he answer, border_exact_iff admitted⟩
  | window w =>
    have promise := window_exact_iff (n := n) admitted
    obtain ⟨down, ⟨-, stride⟩, -⟩ := admitted
    have value := Window.eval_outputSize (Window.strideFits_of_word stride) he answer
    rw [Window.dropOverhang_floor down] at value
    exact ⟨_, value, promise⟩

end Direction

namespace Layer
variable {σ : Expr.Binding} {b : BoundArgs} {l : Layer} {d : Direction × Direction}
  {inputs : List Shape} {s t : Shape}

def directions? : Layer → Option (Direction × Direction)
  | .conv2d c => match c.padding with
    | .fixed amount => some (.window (c.windows amount).1, .window (c.windows amount).2)
    | .same => none
  | .reflectionPad2d b => some (.border b.top b.bottom, .border b.left b.right)
  | _ => none

theorem directions_ok (directions : l.directions? = some d) (answer : l.apply inputs = .ok t) :
    ∃ s height width height' width', inputs = [s] ∧ s.spatial = [height, width] ∧
      t.spatial = [height', width'] ∧ d.1.apply height = .ok height' ∧
      d.2.apply width = .ok width' := by
  unfold directions? at directions
  split at directions
  · rename_i c
    split at directions
    · rename_i amount fixed
      obtain rfl := Option.some.inj directions
      obtain ⟨s, rfl, answer⟩ := apply_conv2d_eq_ok.mp answer
      obtain ⟨front, channels, height, width, -, rfl, -, answer⟩ := convolution_eq_ok.mp answer
      rw [fixed] at answer
      obtain ⟨height', width', hheight, hwidth, rfl⟩ := answer
      simp only [channels_append]
      exact ⟨_, height, width, height', width', rfl, spatial_append_pair, spatial_append_pair,
        hheight, hwidth⟩
    · cases directions
  · rename_i border
    obtain rfl := Option.some.inj directions
    obtain ⟨s, rfl, answer⟩ := apply_reflectionPad2d_eq_ok.mp answer
    obtain ⟨front, height, width, height', width', rfl, hheight, hwidth, rfl⟩ := border_ok answer
    exact ⟨_, height, width, height', width', rfl, spatial_append_pair, spatial_append_pair,
      hheight, hwidth⟩
  · cases directions

theorem admitted_border {border : Border} (word : border.IsWord) :
    (Direction.border border.top border.bottom).Admitted ∧
      (Direction.border border.left border.right).Admitted := by
  simp only [Border.IsWord, Border.toList, List.forall_mem_cons] at word
  obtain ⟨left, right, top, bottom, -⟩ := word
  exact ⟨⟨top, bottom⟩, left, right⟩

theorem admitted_of_built (built : LayerClass.conv2d.build b = .ok l ∨
    LayerClass.reflectionPad2d.build b = .ok l)
    (directions : l.directions? = some d) (reach : ∀ w ∈ l.windows, w.reach < Word.count) :
    d.1.Admitted ∧ d.2.Admitted := by
  rcases built with built | built
  · simp only [LayerClass.build, bind_eq_ok, pure_eq_ok] at built
    obtain ⟨c, read, rfl⟩ := built
    have reads := BoundArgs.convolution_ok read
    have positive := BoundArgs.orDefault_extent_positive ⟨by decide, by decide⟩ reads.stride
    obtain ⟨stride, padding⟩ := BoundArgs.convolution_words reads
    simp only [directions?] at directions
    split at directions
    · rename_i amount fixed
      obtain rfl := Option.some.inj directions
      simp only [windows, fixed, List.forall_mem_cons] at reach
      obtain ⟨high, wide⟩ := padding amount fixed
      exact ⟨⟨rfl, ⟨positive.1, stride.1⟩, high, reach.1⟩,
        ⟨rfl, ⟨positive.2, stride.2⟩, wide, reach.2.1⟩⟩
    · cases directions
  · simp only [LayerClass.build, bind_eq_ok, pure_eq_ok] at built
    obtain ⟨border, read, rfl⟩ := built
    obtain rfl := Option.some.inj directions
    obtain ⟨a, -, read⟩ := BoundArgs.mandatory_ok read
    exact admitted_border (Place.border_isWord read)

/-- Wherever a height or a width has a value, a layer that pads makes the promised size of it
exactly if signed words keep the amounts that the size is computed from. -/
theorem padded_sizes_exact_iff (built : LayerClass.conv2d.build b = .ok l ∨
    LayerClass.reflectionPad2d.build b = .ok l)
    (directions : l.directions? = some d) (reach : ∀ w ∈ l.windows, w.reach < Word.count)
    (answer : l.apply inputs = .ok t) :
    ∃ s height width height' width', inputs = [s] ∧ s.spatial = [height, width] ∧
      t.spatial = [height', width'] ∧
      (∀ σ n, height.eval σ = .ok n →
        ∃ v, height'.eval σ = .ok v ∧ (v = d.1.promised n ↔ d.1.Kept)) ∧
      ∀ σ n, width.eval σ = .ok n →
        ∃ v, width'.eval σ = .ok v ∧ (v = d.2.promised n ↔ d.2.Kept) := by
  obtain ⟨admitted, admittedWidth⟩ := admitted_of_built built directions reach
  obtain ⟨s, height, width, height', width', rfl, spatial, spatial', hheight, hwidth⟩ :=
    directions_ok directions answer
  refine ⟨s, height, width, height', width', rfl, spatial, spatial', ?_, ?_⟩
  · intro σ n value
    exact admitted.exact_iff value hheight
  · intro σ n value
    exact admittedWidth.exact_iff value hwidth

theorem padded_sizes_inexact_at_widest_padding :
    let b : BoundArgs := ⟨"Conv2d", [("in_channels", .int 3), ("out_channels", .int 8),
      ("kernel_size", .int 1), ("stride", .int 16), ("padding", .int 0x7fffffffffffffff)], []⟩
    let c : Convolution := ⟨.value 3, .value 8, .square 1, .square 16,
      .fixed (.square 0x7fffffffffffffff), .square 1, 1, true, .zeros⟩
    let d : Direction := .window (c.windows (.square 0x7fffffffffffffff)).1
    LayerClass.conv2d.build b = .ok (.conv2d c) ∧
      (∀ w ∈ (conv2d c).windows, w.reach < Word.count) ∧
      (conv2d c).apply [⟨[.value 3, .value 10, .value 10]⟩] =
        .ok ⟨[.value 8, .value 1, .value 1]⟩ ∧
      d.promised 10 = 1152921504606846977 ∧ ¬d.Kept := by
  intro b c d
  have read : b.convolution = .ok c := by decide +kernel
  have built : LayerClass.conv2d.build b = .ok (.conv2d c) := by
    rw [LayerClass.build, read]
    rfl
  have reach : ∀ w ∈ (conv2d c).windows, w.reach < Word.count := by
    simp [windows, c, Convolution.windows, Window.reach, Extent.square, Word.count]
  have answer : (conv2d c).apply [⟨[.value 3, .value 10, .value 10]⟩] =
      .ok ⟨[.value 8, .value 1, .value 1]⟩ := by decide +kernel
  have promised : d.promised 10 = 1152921504606846977 := by decide +kernel
  obtain ⟨s, height, width, height', width', same, spatial, spatial', high, -⟩ :=
    padded_sizes_exact_iff (d := (d, d)) (.inl built) rfl reach answer
  obtain ⟨rfl, -⟩ := List.cons.inj same
  obtain ⟨rfl, -⟩ := List.cons.inj spatial
  obtain ⟨rfl, -⟩ := List.cons.inj spatial'
  obtain ⟨v, value, promise⟩ := high (fun _ => none) 10 rfl
  obtain rfl : 1 = v := Expr.eval_value_ok.mp value
  refine ⟨built, reach, answer, promised, fun kept => ?_⟩
  have equal := promise.mpr kept
  rw [promised] at equal
  omega

end Layer
end ShapeFlow
