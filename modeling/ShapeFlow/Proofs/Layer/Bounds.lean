import ShapeFlow.Layer.Apply
import ShapeFlow.Proofs.Expr.Evaluation
/-!
Every position that a layer asks for is one that the shape has: a layer answers or refuses. Each
position is tied to the check of the rank that comes before it.
-/
namespace ShapeFlow

theorem resolveAxis_lt {n i : Nat} {axis : Int} (found : Shape.resolveAxis n axis = some i) :
    i < n := by
  have count := Expr.wrap_le n
  unfold Shape.resolveAxis at found
  dsimp only at found
  split at found
  · cases found
  · obtain rfl := Option.some.inj found
    split <;> omega

namespace Applied
variable {α β : Type} {s t : Shape} {e : Expr} {i : Nat} {w : Window × Window}

def InBounds (x : Applied α) : Prop := x ≠ .error .outOfBounds

theorem inBounds_ok (a : α) : InBounds (.ok a) := by
  intro fault
  cases fault

theorem inBounds_refuse (why : ShapeError) : InBounds (refuse (α := α) why) := by
  intro fault
  cases fault

theorem inBounds_bind {x : Applied α} {f : α → Applied β} (first : InBounds x)
    (rest : ∀ a, x = .ok a → InBounds (f a)) : InBounds (x >>= f) := by
  cases x with
  | error fault => intro failed; exact first (congrArg Except.error (Except.error.inj failed))
  | ok a => exact rest a rfl

theorem inBounds_unlessRefused (x : Except ShapeError α) : InBounds (unlessRefused x) := by
  cases x with
  | error why => exact inBounds_refuse why
  | ok a => exact inBounds_ok a

theorem inBounds_oneInput (inputs : List Shape) : InBounds (oneInput inputs) := by
  unfold oneInput
  split
  · exact inBounds_ok _
  · exact inBounds_refuse _

theorem inBounds_twoInputs (inputs : List Shape) : InBounds (twoInputs inputs) := by
  unfold twoInputs
  split
  · exact inBounds_ok _
  · exact inBounds_refuse _

theorem inBounds_checkRank (s : Shape) (least greatest : Nat) (expected : String) :
    InBounds (checkRank s least greatest expected) := by
  unfold checkRank
  split
  · exact inBounds_ok _
  · exact inBounds_refuse _

theorem checkRank_ok {least greatest : Nat} {expected : String} {u : Unit}
    (passed : checkRank s least greatest expected = .ok u) : least ≤ s.ndim := by
  unfold checkRank at passed
  split at passed
  · rename_i rank
    exact rank.1
  · cases passed

theorem inBounds_checkSize (what : String) (expected actual : Expr) :
    InBounds (checkSize what expected actual) := by
  unfold checkSize
  split
  · split
    · exact inBounds_refuse _
    · exact inBounds_ok _
  · exact inBounds_ok _

theorem inBounds_checkSizes (what : String) (es as : List Expr) :
    InBounds (checkSizes what es as) := by
  induction es generalizing as with
  | nil => exact inBounds_ok _
  | cons e es ih =>
    cases as with
    | nil => exact inBounds_ok _
    | cons a as => exact inBounds_bind (inBounds_checkSize what e a) fun _ _ => ih as

theorem fromEnd_eq {k : Nat} (rank : k ≤ s.ndim) : s.fromEnd k = .ok (s.ndim - k) := if_pos rank

theorem inBounds_fromEnd {k : Nat} (rank : k ≤ s.ndim) : InBounds (s.fromEnd k) := by
  rw [fromEnd_eq rank]
  exact inBounds_ok _

theorem sizeAt_eq (inside : i < s.ndim) : s.sizeAt i = .ok s.dims[i] := by
  simp only [Shape.sizeAt, Shape.dim?, List.getElem?_eq_getElem inside, inBounds]

theorem setSize_eq (inside : i < s.ndim) : s.setSize i e = .ok ⟨s.dims.set i e⟩ := by
  simp only [Shape.setSize, Shape.withDim?, inside, ↓reduceIte, inBounds]

theorem dropAxis_eq (inside : i < s.ndim) : s.dropAxis i = .ok ⟨s.dims.eraseIdx i⟩ := by
  simp only [Shape.dropAxis, Shape.withoutDim?, inside, ↓reduceIte, inBounds]

theorem inBounds_sizeAt (inside : i < s.ndim) : InBounds (s.sizeAt i) := by
  rw [sizeAt_eq inside]
  exact inBounds_ok _

theorem inBounds_setSize (inside : i < s.ndim) : InBounds (s.setSize i e) := by
  rw [setSize_eq inside]
  exact inBounds_ok _

theorem inBounds_dropAxis (inside : i < s.ndim) : InBounds (s.dropAxis i) := by
  rw [dropAxis_eq inside]
  exact inBounds_ok _

theorem setSize_ndim (answer : s.setSize i e = .ok t) : t.ndim = s.ndim := by
  by_cases inside : i < s.ndim
  · rw [setSize_eq inside] at answer
    obtain rfl := Except.ok.inj answer
    exact List.length_set
  · simp only [Shape.setSize, Shape.withDim?, inside, ↓reduceIte, inBounds] at answer
    cases answer

theorem fromEnd_add {k axis : Nat} (found : s.fromEnd k = .ok axis) : axis + k = s.ndim := by
  unfold Shape.fromEnd at found
  split at found
  · obtain rfl := Except.ok.inj found
    omega
  · cases found

theorem inBounds_dense (l : Dense) (s : Shape) : InBounds (l.apply s) := by
  unfold Dense.apply
  split
  · exact inBounds_refuse _
  · refine inBounds_bind (inBounds_fromEnd (by omega)) fun last found => ?_
    have inside := fromEnd_add found
    refine inBounds_bind (inBounds_sizeAt (by omega)) fun _ _ => ?_
    refine inBounds_bind (inBounds_checkSize _ _ _) fun _ _ => ?_
    exact inBounds_setSize (by omega)

theorem inBounds_replaceSpatial {height width : Expr → Applied Expr}
    (high : ∀ e, InBounds (height e)) (wide : ∀ e, InBounds (width e)) (rank : 2 ≤ s.ndim)
    (same : t.ndim = s.ndim) : InBounds (replaceSpatial height width s t) := by
  refine inBounds_bind (inBounds_fromEnd rank) fun axis found => ?_
  have inside := fromEnd_add found
  refine inBounds_bind (inBounds_sizeAt (by omega)) fun _ _ => ?_
  refine inBounds_bind (high _) fun _ _ => ?_
  refine inBounds_bind (inBounds_setSize (by omega)) fun u hu => ?_
  refine inBounds_bind (inBounds_sizeAt (by omega)) fun _ _ => ?_
  refine inBounds_bind (wide _) fun _ _ => ?_
  exact inBounds_setSize (by rw [setSize_ndim hu]; omega)

theorem inBounds_slideWith (w : Window) (e : Expr) : InBounds (w.slideWith exactly e) := by
  rw [slideWith_exactly]
  exact inBounds_unlessRefused _

theorem inBounds_reflectWith (e : Expr) (first last : Nat) :
    InBounds (reflectWith exactly e first last) := by
  rw [reflectWith_exactly]
  exact inBounds_unlessRefused _

theorem inBounds_slideWindows (rank : 2 ≤ s.ndim) (same : t.ndim = s.ndim) :
    InBounds (slideWindowsWith exactly w s t) :=
  inBounds_replaceSpatial (inBounds_slideWith w.1) (inBounds_slideWith w.2) rank same

theorem inBounds_poolImage (w : Window × Window) (s : Shape) :
    InBounds (poolImageWith exactly w s) := by
  refine inBounds_bind (inBounds_checkRank _ _ _ _) fun _ passed => ?_
  have rank := checkRank_ok passed
  exact inBounds_slideWindows (by omega) rfl

theorem inBounds_convolution (c : Convolution) (s : Shape) :
    InBounds (c.applyWith exactly s) := by
  refine inBounds_bind (inBounds_checkRank _ _ _ _) fun _ passed => ?_
  have rank := checkRank_ok passed
  refine inBounds_bind (inBounds_fromEnd rank) fun axis found => ?_
  have inside := fromEnd_add found
  refine inBounds_bind (inBounds_sizeAt (by omega)) fun _ _ => ?_
  refine inBounds_bind (inBounds_checkSize _ _ _) fun _ _ => ?_
  refine inBounds_bind (inBounds_setSize (by omega)) fun out hout => ?_
  split
  · exact inBounds_replaceSpatial inBounds_ok inBounds_ok (by omega) (setSize_ndim hout)
  · exact inBounds_slideWindows (by omega) (setSize_ndim hout)

theorem inBounds_adaptSize {size : Option Nat} {i : Nat} (rank : 2 ≤ s.ndim) (last : i < 2) :
    InBounds (adaptSize s i size) := by
  cases size with
  | none => exact inBounds_ok _
  | some n =>
    refine inBounds_bind (inBounds_fromEnd rank) fun axis found => ?_
    have inside := fromEnd_add found
    exact inBounds_setSize (by omega)

theorem adaptSize_ndim {size : Option Nat} (answer : adaptSize s i size = .ok t) :
    t.ndim = s.ndim := by
  cases size with
  | none =>
    obtain rfl := Except.ok.inj answer
    rfl
  | some n =>
    obtain ⟨axis, -, changed⟩ := bind_eq_ok.mp answer
    exact setSize_ndim changed

theorem inBounds_adaptImage (height width : Option Nat) (s : Shape) :
    InBounds (adaptImage height width s) := by
  refine inBounds_bind (inBounds_checkRank _ _ _ _) fun _ passed => ?_
  have rank := checkRank_ok passed
  refine inBounds_bind (inBounds_adaptSize (by omega) (by decide)) fun u hu => ?_
  exact inBounds_adaptSize (by rw [adaptSize_ndim hu]; omega) (by decide)

theorem inBounds_border (b : Border) (s : Shape) : InBounds (b.applyWith exactly s) := by
  refine inBounds_bind (inBounds_checkRank _ _ _ _) fun _ passed => ?_
  have rank := checkRank_ok passed
  refine inBounds_bind (inBounds_fromEnd (by omega)) fun row hrow => ?_
  have first := fromEnd_add hrow
  refine inBounds_bind (inBounds_sizeAt (by omega)) fun _ _ => ?_
  refine inBounds_bind (inBounds_reflectWith _ _ _) fun _ _ => ?_
  refine inBounds_bind (inBounds_fromEnd (by omega)) fun column hcolumn => ?_
  have last := fromEnd_add hcolumn
  refine inBounds_bind (inBounds_sizeAt (by omega)) fun _ _ => ?_
  refine inBounds_bind (inBounds_reflectWith _ _ _) fun _ _ => ?_
  refine inBounds_bind (inBounds_setSize (by omega)) fun u hu => ?_
  exact inBounds_setSize (by rw [setSize_ndim hu]; omega)

theorem inBounds_normalizeBatch (n : Normalization) (s : Shape) :
    InBounds (normalizeBatch n s) := by
  refine inBounds_bind (inBounds_checkRank _ _ _ _) fun _ passed => ?_
  have rank := checkRank_ok passed
  refine inBounds_bind (inBounds_sizeAt (by omega)) fun _ _ => ?_
  exact inBounds_bind (inBounds_checkSize _ _ _) fun _ _ => inBounds_ok _

theorem inBounds_normalizeInstances (n : Normalization) (s : Shape) :
    InBounds (normalizeInstances n s) := by
  refine inBounds_bind (inBounds_checkRank _ _ _ _) fun _ passed => ?_
  have rank := checkRank_ok passed
  split
  · refine inBounds_bind (inBounds_fromEnd rank) fun axis found => ?_
    have inside := fromEnd_add found
    refine inBounds_bind (inBounds_sizeAt (by omega)) fun _ _ => ?_
    exact inBounds_bind (inBounds_checkSize _ _ _) fun _ _ => inBounds_ok _
  · exact inBounds_ok _

theorem inBounds_checkAxis (rank : Nat) (axis : Int) : InBounds (checkAxis rank axis) := by
  unfold checkAxis
  split
  · exact inBounds_ok _
  · exact inBounds_refuse _

theorem inBounds_checkSoftmaxAxis (s : Shape) (axis : Option Int) :
    InBounds (checkSoftmaxAxis s axis) := by
  cases axis with
  | none => exact inBounds_ok _
  | some axis =>
    rw [checkSoftmaxAxis]
    exact inBounds_checkAxis _ axis

theorem inBounds_cosineShape (axis : Int) (s t : Shape) : InBounds (cosineShape axis s t) := by
  refine inBounds_bind (inBounds_unlessRefused _) fun joined _ => ?_
  split
  · rename_i found
    exact inBounds_dropAxis (resolveAxis_lt found)
  · exact inBounds_refuse _

theorem inBounds_crossEntropyShape (r : Reduction) (s t : Shape) :
    InBounds (crossEntropyShape r s t) := by
  unfold crossEntropyShape
  split
  · exact inBounds_refuse _
  · have classes : (if s.ndim = 1 then 0 else 1) < s.ndim := by split <;> omega
    refine inBounds_bind (inBounds_dropAxis classes) fun _ _ => ?_
    split
    · exact inBounds_bind (inBounds_checkSizes _ _ _) fun _ _ => inBounds_ok _
    · split
      · exact inBounds_bind (inBounds_checkSizes _ _ _) fun _ _ => inBounds_ok _
      · exact inBounds_refuse _

end Applied

namespace Layer
open Applied

mutual

theorem inBounds_apply : ∀ (l : Layer) (inputs : List Shape), InBounds (l.apply inputs)
  | .relu _, inputs => inBounds_oneInput inputs
  | .leakyRelu _ _, inputs => inBounds_oneInput inputs
  | .dropout _ _, inputs => inBounds_oneInput inputs
  | .channelDropout _ _, inputs => inBounds_oneInput inputs
  | .softmax axis, inputs =>
    inBounds_bind (inBounds_oneInput inputs) fun s _ =>
      inBounds_bind (inBounds_checkSoftmaxAxis s axis) fun _ _ => inBounds_ok s
  | .linear l, inputs => inBounds_bind (inBounds_oneInput inputs) fun s _ => inBounds_dense l s
  | .conv2d c, inputs =>
    inBounds_bind (inBounds_oneInput inputs) fun s _ => inBounds_convolution c s
  | .batchNorm2d n, inputs =>
    inBounds_bind (inBounds_oneInput inputs) fun s _ => inBounds_normalizeBatch n s
  | .instanceNorm2d n, inputs =>
    inBounds_bind (inBounds_oneInput inputs) fun s _ => inBounds_normalizeInstances n s
  | .maxPool2d p, inputs =>
    inBounds_bind (inBounds_oneInput inputs) fun s _ => inBounds_poolImage p.windows s
  | .avgPool2d p, inputs =>
    inBounds_bind (inBounds_oneInput inputs) fun s _ => inBounds_poolImage p.windows s
  | .adaptiveAvgPool2d height width, inputs =>
    inBounds_bind (inBounds_oneInput inputs) fun s _ => inBounds_adaptImage height width s
  | .reflectionPad2d b, inputs =>
    inBounds_bind (inBounds_oneInput inputs) fun s _ => inBounds_border b s
  | .cosineSimilarity axis _, inputs =>
    inBounds_bind (inBounds_twoInputs inputs) fun p _ => inBounds_cosineShape axis p.1 p.2
  | .crossEntropyLoss r _ _, inputs =>
    inBounds_bind (inBounds_twoInputs inputs) fun p _ => inBounds_crossEntropyShape r p.1 p.2
  | .mseLoss _, inputs =>
    inBounds_bind (inBounds_twoInputs inputs) fun _ _ =>
      inBounds_bind (inBounds_unlessRefused _) fun _ _ => inBounds_ok _
  | .sequential layers, inputs =>
    inBounds_bind (inBounds_oneInput inputs) fun s _ => inBounds_applyAll layers s
  | .moduleList _, _ => inBounds_refuse _

theorem inBounds_applyAll : ∀ (layers : List Layer) (s : Shape), InBounds (applyAll layers s)
  | [], s => inBounds_ok s
  | l :: rest, s => inBounds_bind (inBounds_apply l [s]) fun t _ => inBounds_applyAll rest t

end

/-- A layer that fails refuses its inputs. -/
theorem apply_refuses {l : Layer} {inputs : List Shape} {fault : Fault}
    (failed : l.apply inputs = .error fault) : ∃ why, l.apply inputs = .error (.refused why) := by
  cases fault with
  | refused why => exact ⟨why, failed⟩
  | outOfBounds => exact absurd failed (inBounds_apply l inputs)

end Layer
end ShapeFlow
