import ShapeFlow.Proofs.Call.KnownSizes
import ShapeFlow.Proofs.Layer.SettledSizes
import ShapeFlow.Proofs.Layer.Tracking
/-!
Networks that are built from arguments without symbolic sizes. Applied to shapes of positive sizes
they give a shape of positive sizes: the checks of the constructors and of the layers leave no
other, and constants always fold.
-/
namespace ShapeFlow
variable {e e' a b : Expr} {w : Window} {inputs : List Shape} {s t : Shape} {l : Layer}

theorem positive_outputSize {n : Int} {u : Expr} (fits : w.StrideFits)
    (answer : w.outputSize (.value n) = .ok u) : u.Positive := by
  rw [Window.outputSize_value (Window.stride_positive answer) fits] at answer
  split at answer
  · cases answer
  · obtain rfl := Except.ok.inj answer
    exact ⟨_, rfl, by omega⟩

theorem positive_reflectSize {n : Int} {u : Expr} {first last : Nat}
    (word : (first + last : Nat) ≤ Word.greatest)
    (answer : reflectSize (.value n) first last = .ok u) : u.Positive := by
  rw [reflectSize_value] at answer
  split at answer
  · cases answer
  · rename_i wide
    obtain rfl := Except.ok.inj answer
    have cast : (max first last : Int) = (max first last : Nat) := by omega
    rw [cast, Expr.wrap_small (by omega)] at wide
    rw [Expr.wrap_small word]
    exact ⟨_, rfl, by omega⟩

theorem positive_joinSize {u : Expr} (ha : a.Positive) (hb : b.Positive)
    (answer : Shape.joinSize a b = .ok u) : u.Positive := by
  obtain ⟨x, rfl, hx⟩ := ha
  obtain ⟨y, rfl, hy⟩ := hb
  obtain ⟨v, joined, rfl⟩ := joinSize_values answer
  rw [Expr.broadcastSize_ok] at joined
  exact ⟨v, rfl, by omega⟩

def keepingPositive : Comparison where
  given := fun e e' => e = e' ∧ e.Positive
  met := fun e e' => e = e' ∧ e.Positive
  window := Window.StrideFits
  border := fun first last => (first + last : Nat) ≤ Word.greatest
  excuse := fun _ => True

theorem keepingPositive_sound : keepingPositive.Sound where
  met_of_given _ _ h := h
  literal _ _ h := h.1.symm
  one := ⟨rfl, 1, rfl, by decide⟩
  mismatch _ _ _ := trivial
  window w e e' fits := by
    rintro ⟨rfl, n, rfl, -⟩
    exact tracks_self fun _ answer => ⟨rfl, positive_outputSize fits answer⟩
  border first last e e' word := by
    rintro ⟨rfl, n, rfl, -⟩
    exact tracks_self fun _ answer => ⟨rfl, positive_reflectSize word answer⟩
  join a a' b b' := by
    rintro ⟨rfl, ha⟩ ⟨rfl, hb⟩
    exact tracks_self fun _ answer => ⟨rfl, positive_joinSize ha hb answer⟩

namespace Layer

/-- A network built from arguments without symbolic sizes, as the layers among these are. -/
inductive Built : Layer → Prop
  | of {c : LayerClass} {b : BoundArgs} {l : Layer} : (∀ x ∈ b.leaves, x.Known) →
    (∀ part, .layer part ∈ b.leaves → Built part) → c.build b = .ok l → Built l

mutual

/-- Wherever the network reflects borders, two that belong together sum up to a signed word. -/
def BordersFit : Layer → Prop
  | .reflectionPad2d b =>
    (b.top + b.bottom : Nat) ≤ Word.greatest ∧ (b.left + b.right : Nat) ≤ Word.greatest
  | .sequential layers => BordersFitIn layers
  | .moduleList layers => BordersFitIn layers
  | _ => True

def BordersFitIn : List Layer → Prop
  | [] => True
  | l :: rest => BordersFit l ∧ BordersFitIn rest

end

theorem matchesAll_of_each {C : Comparison} {layers : List Layer} (fit : BordersFitIn layers)
    (each : ∀ l ∈ layers, l.BordersFit → l.Matches C l) : MatchesAll C layers layers := by
  induction layers with
  | nil => rfl
  | cons l rest ih =>
    have others := ih fit.2 fun l' member => each l' (List.mem_cons_of_mem l member)
    exact ⟨l, rest, each l List.mem_cons_self fit.1, others, rfl⟩

theorem strideFits_pair {w : Window × Window} {stride : Extent} (word : stride.IsWord)
    (height : w.1.stride = stride.height) (width : w.2.stride = stride.width) :
    ∀ v ∈ [w.1, w.2], v.StrideFits := by
  rw [Extent.IsWord, ← height, ← width] at word
  simp only [List.forall_mem_cons]
  exact ⟨Window.strideFits_of_word word.1, Window.strideFits_of_word word.2, nofun⟩

theorem matches_of_built (built : l.Built) : l.BordersFit → l.Matches keepingPositive l := by
  induction built with
  | @of c b l known _ made ih =>
    intro fit
    cases c with
    | relu =>
      obtain rfl := Except.ok.inj made
      rfl
    | leakyRelu | softmax | mseLoss | dropout | channelDropout =>
      simp only [LayerClass.build, bind_eq_ok, pure_eq_ok] at made
      obtain ⟨_, -, rfl⟩ := made
      rfl
    | cosineSimilarity =>
      simp only [LayerClass.build, bind_eq_ok, pure_eq_ok] at made
      obtain ⟨_, -, _, -, rfl⟩ := made
      rfl
    | crossEntropyLoss =>
      simp only [LayerClass.build, BoundArgs.crossEntropyLoss, bind_eq_ok] at made
      obtain ⟨_, -, _, -, _, -, made⟩ := made
      split at made
      · obtain rfl := Except.ok.inj made
        rfl
      · cases made
    | linear =>
      simp only [LayerClass.build, bind_eq_ok, pure_eq_ok] at made
      obtain ⟨inFeatures, expected, outFeatures, given, rfl⟩ := made
      exact ⟨inFeatures, outFeatures, ⟨rfl, b.mandatory_positiveSize known expected⟩,
        ⟨rfl, b.mandatory_positiveSize known given⟩, rfl⟩
    | conv2d =>
      simp only [LayerClass.build, bind_eq_ok, pure_eq_ok] at made
      obtain ⟨c, hc, rfl⟩ := made
      have reads := BoundArgs.convolution_ok hc
      have expected := b.mandatory_positiveSize known reads.inChannels
      have given := b.mandatory_positiveSize known reads.outChannels
      have stride := (BoundArgs.convolution_words reads).1
      refine ⟨?_, c.inChannels, c.outChannels, ⟨rfl, expected⟩, ⟨rfl, given⟩, rfl⟩
      cases padding : c.padding with
      | same =>
        simp [windows, padding]
      | fixed amount =>
        simp only [windows, padding]
        exact strideFits_pair stride rfl rfl
    | batchNorm2d | instanceNorm2d =>
      simp only [LayerClass.build, bind_eq_ok, pure_eq_ok] at made
      obtain ⟨n, hn, rfl⟩ := made
      exact ⟨n.numFeatures, ⟨rfl, BoundArgs.normalization_ok known hn⟩, rfl⟩
    | maxPool2d =>
      simp only [LayerClass.build, bind_eq_ok, pure_eq_ok] at made
      obtain ⟨w, hw, dilation, -, rfl⟩ := made
      have reads := BoundArgs.poolingWindow_ok hw
      exact ⟨strideFits_pair (b.pooling_words reads).2 rfl rfl, rfl⟩
    | avgPool2d =>
      simp only [LayerClass.build, bind_eq_ok, pure_eq_ok] at made
      obtain ⟨p, hp, rfl⟩ := made
      have reads := BoundArgs.averagePooling_ok hp
      exact ⟨strideFits_pair (b.pooling_words reads).2 rfl rfl, rfl⟩
    | adaptiveAvgPool2d =>
      simp only [LayerClass.build, bind_eq_ok, pure_eq_ok] at made
      obtain ⟨sizes, hsizes, rfl⟩ := made
      obtain ⟨a, -, read⟩ := BoundArgs.mandatory_ok hsizes
      exact ⟨fun n chosen => ⟨rfl, Place.outputSizes_ok read chosen⟩, rfl⟩
    | reflectionPad2d =>
      simp only [LayerClass.build, bind_eq_ok, pure_eq_ok] at made
      obtain ⟨border, -, rfl⟩ := made
      exact ⟨fit.1, fit.2, rfl⟩
    | sequential =>
      simp only [LayerClass.build, bind_eq_ok, pure_eq_ok] at made
      obtain ⟨layers, read, rfl⟩ := made
      refine ⟨layers, matchesAll_of_each fit fun part member => ih part ?_, rfl⟩
      exact BoundArgs.rest_leaves (Place.layers_ok read part member) List.mem_cons_self
    | moduleList =>
      simp only [LayerClass.build, bind_eq_ok, pure_eq_ok] at made
      obtain ⟨layers, given, rfl⟩ := made
      refine ⟨layers, matchesAll_of_each fit fun part member => ih part ?_, rfl⟩
      rcases BoundArgs.orDefault_ok given with rfl | ⟨a, found, read⟩
      · cases member
      · exact BoundArgs.value_leaves found (Place.layerList_ok read part member)

end Layer

theorem fixed_of_positive (positive : ∀ e ∈ s.dims, e.Positive) :
    ∃ sizes, s.fixed? = some sizes := by
  obtain ⟨dims⟩ := s
  unfold Shape.fixed?
  induction dims with
  | nil => exact ⟨[], rfl⟩
  | cons e rest ih =>
    obtain ⟨n, rfl, bound⟩ := positive e List.mem_cons_self
    obtain ⟨sizes, others⟩ := ih fun e member => positive e (List.mem_cons_of_mem _ member)
    have first : Shape.fixedSize? (.value n) = some n.toNat := if_neg (by omega)
    exact ⟨n.toNat :: sizes, by simp only [List.mapM_cons, first, others]; rfl⟩

namespace Layer

/-- Through a network built from arguments without symbolic sizes, positive sizes stay positive, as
long as the borders that it reflects sum up to words. -/
theorem positive_sizes_stay_positive (built : l.Built) (fit : l.BordersFit)
    (positive : ∀ s ∈ inputs, ∀ e ∈ s.dims, e.Positive) (answer : l.apply inputs = .ok t) :
    (∀ e ∈ t.dims, e.Positive) ∧ ∃ sizes, t.fixed? = some sizes := by
  have given : keepingPositive.Inputs inputs inputs := by
    apply Comparison.Inputs.given
    rw [List.forall₂_same]
    intro s member
    exact List.forall₂_same.mpr fun e inside => ⟨rfl, positive s member e inside⟩
  have tracks := tracks_apply keepingPositive_sound (matches_of_built built fit) given
  obtain ⟨t', same, related⟩ := tracks.follows t answer
  obtain rfl := Except.ok.inj (answer.symm.trans same)
  have sizes : ∀ e ∈ t.dims, e.Positive := fun e member => (List.forall₂_same.mp related e member).2
  exact ⟨sizes, fixed_of_positive sizes⟩

theorem positive_sizes_stay_positive_in_nested_stack :
    let conv : Layer := .conv2d ⟨.value 3, .value 8, .square 3, .square 2, .fixed (.square 1),
      .square 1, 1, true, .zeros⟩
    let pad : Layer := .reflectionPad2d ⟨2, 2, 1, 1⟩
    let pool : Layer := .maxPool2d ⟨.square 2, .square 2, .square 1, .square 1, false, true⟩
    let stack : Layer := .sequential [conv, .sequential [pad, pool]]
    let s : Shape := ⟨[.value 3, .value 21, .value 33]⟩
    let t : Shape := ⟨[.value 8, .value 7, .value 11]⟩
    stack.Built ∧ stack.BordersFit ∧ stack.apply [s] = .ok t ∧
      (∀ e ∈ t.dims, e.Positive) ∧ ∃ sizes, t.fixed? = some sizes := by
  intro conv pad pool stack s t
  have hconv : conv.Built := by
    let b : BoundArgs := ⟨"Conv2d", [("in_channels", .int 3), ("out_channels", .int 8),
      ("kernel_size", .int 3), ("stride", .int 2), ("padding", .int 1)], []⟩
    have read : b.convolution = .ok ⟨.value 3, .value 8, .square 3, .square 2,
        .fixed (.square 1), .square 1, 1, true, .zeros⟩ := by
      decide +kernel
    apply Built.of (c := .conv2d) (b := b)
    · simp [b]
    · simp [b]
    · rw [LayerClass.build, read]
      rfl
  have hpad : pad.Built := by
    apply Built.of (c := .reflectionPad2d)
      (b := ⟨"ReflectionPad2d", [("padding", .tuple [.int 2, .int 2, .int 1, .int 1])], []⟩)
    · simp
    · simp
    · with_unfolding_all rfl
  have hpool : pool.Built := by
    apply Built.of (c := .maxPool2d) (b := ⟨"MaxPool2d", [("kernel_size", .int 2),
      ("padding", .int 1), ("ceil_mode", .bool true)], []⟩)
    · simp
    · simp
    · with_unfolding_all rfl
  have hinner : (Layer.sequential [pad, pool]).Built := by
    apply Built.of (c := .sequential) (b := ⟨"Sequential", [], [.layer pad, .layer pool]⟩)
    · simp
    · simp [hpad, hpool]
    · rfl
  have hstack : stack.Built := by
    apply Built.of (c := .sequential)
      (b := ⟨"Sequential", [], [.layer conv, .layer (.sequential [pad, pool])]⟩)
    · simp
    · simp [hconv, hinner]
    · rfl
  have borders : pad.BordersFit := ⟨by decide, by decide⟩
  have fit : stack.BordersFit := ⟨trivial, ⟨borders, trivial, trivial⟩, trivial⟩
  have positive : ∀ u : Shape, u ∈ [s] → ∀ e ∈ u.dims, e.Positive := by simp [s, Expr.Positive]
  have answer : stack.apply [s] = .ok t := by decide +kernel
  exact ⟨hstack, fit, answer, positive_sizes_stay_positive hstack fit positive answer⟩

end Layer
end ShapeFlow
