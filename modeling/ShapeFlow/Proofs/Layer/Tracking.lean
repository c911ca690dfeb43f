import ShapeFlow.Proofs.Layer.Follow
import ShapeFlow.Proofs.Layer.Settle
/-!
Two runs of layers that match. Whatever a comparison relates, each layer keeps related, by the steps
that it is made of; the layers of a stack do so one after the other.
-/
namespace ShapeFlow
open Applied

namespace Layer

mutual

/-- The second layer is the first one up to sizes, which are related, and the comparison allows the
windows and borders of both. -/
def Matches (C : Comparison) : Layer → Layer → Prop
  | .linear l, l' => ∃ inFeatures outFeatures, C.met l.inFeatures inFeatures ∧
    C.met l.outFeatures outFeatures ∧ l' = .linear { l with inFeatures, outFeatures }
  | .conv2d c, l' => (∀ w ∈ (conv2d c).windows, C.window w) ∧
    ∃ inChannels outChannels, C.met c.inChannels inChannels ∧ C.met c.outChannels outChannels ∧
      l' = .conv2d { c with inChannels, outChannels }
  | .batchNorm2d n, l' => ∃ numFeatures, C.met n.numFeatures numFeatures ∧
    l' = .batchNorm2d { n with numFeatures }
  | .instanceNorm2d n, l' => ∃ numFeatures, C.met n.numFeatures numFeatures ∧
    l' = .instanceNorm2d { n with numFeatures }
  | .maxPool2d p, l' => (∀ w ∈ (maxPool2d p).windows, C.window w) ∧ l' = .maxPool2d p
  | .avgPool2d p, l' => (∀ w ∈ (avgPool2d p).windows, C.window w) ∧ l' = .avgPool2d p
  | .adaptiveAvgPool2d height width, l' =>
    (∀ n, height = some n ∨ width = some n → C.met (.ofNat n) (.ofNat n)) ∧
      l' = .adaptiveAvgPool2d height width
  | .reflectionPad2d b, l' => C.border b.top b.bottom ∧ C.border b.left b.right ∧
    l' = .reflectionPad2d b
  | .sequential layers, l' => ∃ layers', MatchesAll C layers layers' ∧ l' = .sequential layers'
  | .moduleList layers, l' => ∃ layers', MatchesAll C layers layers' ∧ l' = .moduleList layers'
  | l, l' => l' = l

def MatchesAll (C : Comparison) : List Layer → List Layer → Prop
  | [], layers' => layers' = []
  | l :: rest, layers' => ∃ l' rest', Matches C l l' ∧ MatchesAll C rest rest' ∧
    layers' = l' :: rest'

end

mutual

/-- A layer matches itself where sizes may be the same and its windows and borders are allowed. -/
theorem matches_self {C : Comparison} (same : ∀ e, C.met e e) (border : ∀ m n, C.border m n) :
    ∀ {l : Layer}, l.EveryWindow C.window → l.Matches C l
  | .relu _, _ => rfl
  | .leakyRelu _ _, _ => rfl
  | .softmax _, _ => rfl
  | .dropout _ _, _ => rfl
  | .channelDropout _ _, _ => rfl
  | .cosineSimilarity _ _, _ => rfl
  | .crossEntropyLoss _ _ _, _ => rfl
  | .mseLoss _, _ => rfl
  | .linear _, _ => ⟨_, _, same _, same _, rfl⟩
  | .conv2d _, allowed => ⟨allowed, _, _, same _, same _, rfl⟩
  | .batchNorm2d _, _ => ⟨_, same _, rfl⟩
  | .instanceNorm2d _, _ => ⟨_, same _, rfl⟩
  | .maxPool2d _, allowed => ⟨allowed, rfl⟩
  | .avgPool2d _, allowed => ⟨allowed, rfl⟩
  | .adaptiveAvgPool2d _ _, _ => ⟨fun _ _ => same _, rfl⟩
  | .reflectionPad2d _, _ => ⟨border _ _, border _ _, rfl⟩
  | .sequential _, allowed => ⟨_, matchesAll_self same border allowed, rfl⟩
  | .moduleList _, allowed => ⟨_, matchesAll_self same border allowed, rfl⟩

theorem matchesAll_self {C : Comparison} (same : ∀ e, C.met e e) (border : ∀ m n, C.border m n) :
    ∀ {layers : List Layer}, EveryWindowIn C.window layers → MatchesAll C layers layers
  | [], _ => rfl
  | _ :: _, allowed =>
    ⟨_, _, matches_self same border allowed.1, matchesAll_self same border allowed.2, rfl⟩

end

end Layer

/-- A single input may have any sizes that a run meets, since only two of them are ever joined. -/
inductive Comparison.Inputs (C : Comparison) : List Shape → List Shape → Prop
  | one {s s' : Shape} : s.Related C.met s' → Inputs C [s] [s']
  | given {inputs inputs' : List Shape} : List.Forall₂ (Shape.Related C.given) inputs inputs' →
    Inputs C inputs inputs'

section Parts
variable {R : Expr → Expr → Prop} {E : Fault → Prop} {s s' t t' : Shape}

theorem tracks_checkSoftmaxAxis (h : s.Related R s') (axis : Option Int) :
    Tracks (fun _ _ => True) E (checkSoftmaxAxis s axis) (checkSoftmaxAxis s' axis) := by
  have same : checkSoftmaxAxis s axis = checkSoftmaxAxis s' axis := by
    unfold checkSoftmaxAxis
    rw [related_ndim h]
  rw [same]
  exact tracks_same

theorem tracks_adaptSize (h : s.Related R s') (i : Nat) {size : Option Nat}
    (kept : ∀ n, size = some n → R (.ofNat n) (.ofNat n)) :
    Tracks (Shape.Related R) E (adaptSize s i size) (adaptSize s' i size) := by
  cases size with
  | none => exact tracks_ok h
  | some n =>
    apply tracks_bind (tracks_fromEnd h 2)
    rintro axis _ rfl
    exact tracks_setSize h (kept n rfl) _

theorem tracks_adaptImage (h : s.Related R s') {height width : Option Nat}
    (kept : ∀ n, height = some n ∨ width = some n → R (.ofNat n) (.ofNat n)) :
    Tracks (Shape.Related R) E (adaptImage height width s) (adaptImage height width s') := by
  apply tracks_bind (tracks_checkRank (related_ndim h) 3 4 _)
  intro _ _ _
  apply tracks_bind (tracks_adaptSize h 0 fun n found => kept n (.inl found))
  intro t t' ht
  exact tracks_adaptSize ht 1 fun n found => kept n (.inr found)

theorem tracks_replaceSpatial {high high' wide wide' : Expr → Applied Expr}
    (height : ∀ e e', R e e' → Tracks R E (high e) (high' e'))
    (width : ∀ e e', R e e' → Tracks R E (wide e) (wide' e')) (hs : s.Related R s')
    (ht : t.Related R t') :
    Tracks (Shape.Related R) E (replaceSpatial high wide s t) (replaceSpatial high' wide' s' t') := by
  apply tracks_bind (tracks_fromEnd hs 2)
  rintro axis _ rfl
  apply tracks_bind (tracks_sizeAt hs axis)
  intro a a' ha
  apply tracks_bind (height a a' ha)
  intro a a' ha
  apply tracks_bind (tracks_setSize ht ha axis)
  intro u u' hu
  apply tracks_bind (tracks_sizeAt hs (axis + 1))
  intro b b' hb
  apply tracks_bind (width b b' hb)
  intro b b' hb
  exact tracks_setSize hu hb (axis + 1)

theorem related_reduction (r : Reduction) (h : s.Related R s') :
    (r.apply s).Related R (r.apply s') := by
  cases r with
  | none => exact h
  | mean => exact .nil
  | sum => exact .nil

end Parts

section Sound
variable {C : Comparison} (sound : C.Sound) {s s' t t' : Shape} {w : Window × Window}
  {inputs inputs' : List Shape}
include sound

theorem met_of_given (h : s.Related C.given s') : s.Related C.met s' :=
  related_mono sound.met_of_given h

theorem tracks_oneInput (h : C.Inputs inputs inputs') :
    Tracks (Shape.Related C.met) (Fault.DueTo C.excuse) (oneInput inputs) (oneInput inputs') := by
  cases h with
  | one h => exact tracks_ok h
  | given h =>
    cases h with
    | nil => exact tracks_error
    | cons first rest =>
      cases rest with
      | nil => exact tracks_ok (met_of_given sound first)
      | cons => exact tracks_error

omit sound in
theorem tracks_twoInputs (h : C.Inputs inputs inputs') :
    Tracks (fun p q => p.1.Related C.given q.1 ∧ p.2.Related C.given q.2) (Fault.DueTo C.excuse)
      (twoInputs inputs) (twoInputs inputs') := by
  cases h with
  | one h => exact tracks_error
  | given h =>
    cases h with
    | nil => exact tracks_error
    | cons first rest =>
      cases rest with
      | nil => exact tracks_error
      | cons second rest =>
        cases rest with
        | nil => exact tracks_ok ⟨first, second⟩
        | cons => exact tracks_error

theorem tracks_dense {l : Dense} {inFeatures outFeatures : Expr}
    (expected : C.met l.inFeatures inFeatures) (given : C.met l.outFeatures outFeatures)
    (h : s.Related C.met s') :
    Tracks (Shape.Related C.met) (Fault.DueTo C.excuse) (l.apply s)
      (Dense.apply { l with inFeatures, outFeatures } s') := by
  unfold Dense.apply
  rw [related_ndim h]
  split
  · exact tracks_error
  · apply tracks_bind (tracks_fromEnd h 1)
    rintro last _ rfl
    apply tracks_bind (tracks_sizeAt h last)
    intro a a' ha
    apply tracks_bind (tracks_checkSize sound _ expected ha)
    intro _ _ _
    exact tracks_setSize h given last

theorem tracks_slideWith {v : Window} (allowed : C.window v) (e e' : Expr) (h : C.met e e') :
    Tracks C.met (Fault.DueTo C.excuse) (v.slideWith exactly e) (v.slideWith exactly e') := by
  rw [slideWith_exactly, slideWith_exactly]
  exact tracks_unlessRefused (sound.window v e e' allowed h)

theorem tracks_reflectWith {first last : Nat} (allowed : C.border first last) {e e' : Expr}
    (h : C.met e e') : Tracks C.met (Fault.DueTo C.excuse) (reflectWith exactly e first last)
      (reflectWith exactly e' first last) := by
  rw [reflectWith_exactly, reflectWith_exactly]
  exact tracks_unlessRefused (sound.border first last e e' allowed h)

theorem tracks_slideWindows (allowed : ∀ v ∈ [w.1, w.2], C.window v) (hs : s.Related C.met s')
    (ht : t.Related C.met t') :
    Tracks (Shape.Related C.met) (Fault.DueTo C.excuse) (slideWindowsWith exactly w s t)
      (slideWindowsWith exactly w s' t') :=
  tracks_replaceSpatial (tracks_slideWith sound (allowed w.1 (by simp)))
    (tracks_slideWith sound (allowed w.2 (by simp))) hs ht

theorem tracks_poolImage (allowed : ∀ v ∈ [w.1, w.2], C.window v) (h : s.Related C.met s') :
    Tracks (Shape.Related C.met) (Fault.DueTo C.excuse) (poolImageWith exactly w s)
      (poolImageWith exactly w s') := by
  apply tracks_bind (tracks_checkRank (related_ndim h) 3 4 _)
  intro _ _ _
  exact tracks_slideWindows sound allowed h h

theorem tracks_convolution {c : Convolution} {inChannels outChannels : Expr}
    (allowed : ∀ w ∈ (Layer.conv2d c).windows, C.window w)
    (expected : C.met c.inChannels inChannels) (given : C.met c.outChannels outChannels)
    (h : s.Related C.met s') :
    Tracks (Shape.Related C.met) (Fault.DueTo C.excuse) (c.applyWith exactly s)
      (Convolution.applyWith exactly { c with inChannels, outChannels } s') := by
  apply tracks_bind (tracks_checkRank (related_ndim h) 3 4 _)
  intro _ _ _
  apply tracks_bind (tracks_fromEnd h 3)
  rintro axis _ rfl
  apply tracks_bind (tracks_sizeAt h axis)
  intro a a' ha
  apply tracks_bind (tracks_checkSize sound _ expected ha)
  intro _ _ _
  apply tracks_bind (tracks_setSize h given axis)
  intro out out' hout
  cases padding : c.padding with
  | same => exact tracks_replaceSpatial (fun _ _ => tracks_ok) (fun _ _ => tracks_ok) h hout
  | fixed amount =>
    simp only [Layer.windows, padding] at allowed
    exact tracks_slideWindows sound allowed h hout

theorem tracks_border {b : Border} (vertical : C.border b.top b.bottom)
    (horizontal : C.border b.left b.right) (h : s.Related C.met s') :
    Tracks (Shape.Related C.met) (Fault.DueTo C.excuse) (b.applyWith exactly s)
      (b.applyWith exactly s') := by
  apply tracks_bind (tracks_checkRank (related_ndim h) 3 4 _)
  intro _ _ _
  apply tracks_bind (tracks_fromEnd h 2)
  rintro row _ rfl
  apply tracks_bind (tracks_sizeAt h row)
  intro a a' ha
  apply tracks_bind (tracks_reflectWith sound vertical ha)
  intro height height' hheight
  apply tracks_bind (tracks_fromEnd h 1)
  rintro column _ rfl
  apply tracks_bind (tracks_sizeAt h column)
  intro c c' hc
  apply tracks_bind (tracks_reflectWith sound horizontal hc)
  intro width width' hwidth
  apply tracks_bind (tracks_setSize h hheight row)
  intro t t' ht
  exact tracks_setSize ht hwidth column

theorem tracks_normalizeBatch {n : Normalization} {numFeatures : Expr}
    (expected : C.met n.numFeatures numFeatures) (h : s.Related C.met s') :
    Tracks (Shape.Related C.met) (Fault.DueTo C.excuse) (normalizeBatch n s)
      (normalizeBatch { n with numFeatures } s') := by
  apply tracks_bind (tracks_checkRank (related_ndim h) 4 4 _)
  intro _ _ _
  apply tracks_bind (tracks_sizeAt h 1)
  intro a a' ha
  apply tracks_bind (tracks_checkSize sound _ expected ha)
  intro _ _ _
  exact tracks_ok h

theorem tracks_normalizeInstances {n : Normalization} {numFeatures : Expr}
    (expected : C.met n.numFeatures numFeatures) (h : s.Related C.met s') :
    Tracks (Shape.Related C.met) (Fault.DueTo C.excuse) (normalizeInstances n s)
      (normalizeInstances { n with numFeatures } s') := by
  apply tracks_bind (tracks_checkRank (related_ndim h) 3 4 _)
  intro _ _ _
  dsimp only
  split
  · apply tracks_bind (tracks_fromEnd h 3)
    rintro axis _ rfl
    apply tracks_bind (tracks_sizeAt h axis)
    intro a a' ha
    apply tracks_bind (tracks_checkSize sound _ expected ha)
    intro _ _ _
    exact tracks_ok h
  · exact tracks_ok h

theorem tracks_cosineShape (axis : Int) (hs : s.Related C.given s') (ht : t.Related C.given t') :
    Tracks (Shape.Related C.met) (Fault.DueTo C.excuse) (cosineShape axis s t)
      (cosineShape axis s' t') := by
  apply tracks_bind (tracks_unlessRefused (tracks_join sound hs ht))
  intro u u' hu
  rw [related_ndim hu]
  split
  · exact tracks_dropAxis (met_of_given sound hu) _
  · exact tracks_error

theorem tracks_crossEntropyShape (r : Reduction) (hs : s.Related C.met s')
    (ht : t.Related C.met t') :
    Tracks (Shape.Related C.met) (Fault.DueTo C.excuse) (crossEntropyShape r s t)
      (crossEntropyShape r s' t') := by
  unfold crossEntropyShape
  rw [related_ndim hs, related_ndim ht]
  split
  · exact tracks_error
  · apply tracks_bind (tracks_dropAxis hs _)
    intro u u' hu
    have reduced : (r.apply u).Related C.met (r.apply u') := related_reduction r hu
    split
    · apply tracks_bind (tracks_checkSizes sound _ hs ht)
      intro _ _ _
      exact tracks_ok reduced
    · split
      · apply tracks_bind (tracks_checkSizes sound _ hu ht)
        intro _ _ _
        exact tracks_ok reduced
      · exact tracks_error

end Sound

namespace Layer
variable {C : Comparison}

mutual

theorem tracks_apply (sound : C.Sound) : ∀ {l l' : Layer}, l.Matches C l' →
    ∀ {inputs inputs'}, C.Inputs inputs inputs' →
      Tracks (Shape.Related C.met) (Fault.DueTo C.excuse) (l.apply inputs) (l'.apply inputs')
  | .relu _, l', alike, inputs, inputs', h => by
    obtain rfl := alike
    exact tracks_oneInput sound h
  | .leakyRelu _ _, l', alike, inputs, inputs', h => by
    obtain rfl := alike
    exact tracks_oneInput sound h
  | .dropout _ _, l', alike, inputs, inputs', h => by
    obtain rfl := alike
    exact tracks_oneInput sound h
  | .channelDropout _ _, l', alike, inputs, inputs', h => by
    obtain rfl := alike
    exact tracks_oneInput sound h
  | .softmax axis, l', alike, inputs, inputs', h => by
    obtain rfl := alike
    apply tracks_bind (tracks_oneInput sound h)
    intro s s' hs
    apply tracks_bind (tracks_checkSoftmaxAxis hs axis)
    intro _ _ _
    exact tracks_ok hs
  | .linear l, l', alike, inputs, inputs', h => by
    obtain ⟨inFeatures, outFeatures, expected, given, rfl⟩ := alike
    apply tracks_bind (tracks_oneInput sound h)
    intro s s' hs
    exact tracks_dense sound expected given hs
  | .conv2d c, l', alike, inputs, inputs', h => by
    obtain ⟨allowed, inChannels, outChannels, expected, given, rfl⟩ := alike
    apply tracks_bind (tracks_oneInput sound h)
    intro s s' hs
    exact tracks_convolution sound allowed expected given hs
  | .batchNorm2d n, l', alike, inputs, inputs', h => by
    obtain ⟨numFeatures, expected, rfl⟩ := alike
    apply tracks_bind (tracks_oneInput sound h)
    intro s s' hs
    exact tracks_normalizeBatch sound expected hs
  | .instanceNorm2d n, l', alike, inputs, inputs', h => by
    obtain ⟨numFeatures, expected, rfl⟩ := alike
    apply tracks_bind (tracks_oneInput sound h)
    intro s s' hs
    exact tracks_normalizeInstances sound expected hs
  | .maxPool2d p, l', alike, inputs, inputs', h => by
    obtain ⟨allowed, rfl⟩ := alike
    apply tracks_bind (tracks_oneInput sound h)
    intro s s' hs
    exact tracks_poolImage sound allowed hs
  | .avgPool2d p, l', alike, inputs, inputs', h => by
    obtain ⟨allowed, rfl⟩ := alike
    apply tracks_bind (tracks_oneInput sound h)
    intro s s' hs
    exact tracks_poolImage sound allowed hs
  | .adaptiveAvgPool2d height width, l', alike, inputs, inputs', h => by
    obtain ⟨kept, rfl⟩ := alike
    apply tracks_bind (tracks_oneInput sound h)
    intro s s' hs
    exact tracks_adaptImage hs kept
  | .reflectionPad2d b, l', alike, inputs, inputs', h => by
    obtain ⟨vertical, horizontal, rfl⟩ := alike
    apply tracks_bind (tracks_oneInput sound h)
    intro s s' hs
    exact tracks_border sound vertical horizontal hs
  | .cosineSimilarity axis _, l', alike, inputs, inputs', h => by
    obtain rfl := alike
    apply tracks_bind (tracks_twoInputs h)
    intro p q hp
    exact tracks_cosineShape sound axis hp.1 hp.2
  | .crossEntropyLoss r _ _, l', alike, inputs, inputs', h => by
    obtain rfl := alike
    apply tracks_bind (tracks_twoInputs h)
    intro p q hp
    exact tracks_crossEntropyShape sound r (met_of_given sound hp.1) (met_of_given sound hp.2)
  | .mseLoss r, l', alike, inputs, inputs', h => by
    obtain rfl := alike
    apply tracks_bind (tracks_twoInputs h)
    intro p q hp
    apply tracks_bind (tracks_unlessRefused (tracks_join sound hp.1 hp.2))
    intro t t' ht
    exact tracks_ok (related_reduction r (met_of_given sound ht))
  | .sequential layers, l', alike, inputs, inputs', h => by
    obtain ⟨layers', all, rfl⟩ := alike
    apply tracks_bind (tracks_oneInput sound h)
    intro s s' hs
    exact tracks_applyAll sound all hs
  | .moduleList layers, l', alike, inputs, inputs', h => by
    obtain ⟨layers', -, rfl⟩ := alike
    exact tracks_error

theorem tracks_applyAll (sound : C.Sound) : ∀ {layers layers' : List Layer},
    MatchesAll C layers layers' → ∀ {s s'}, s.Related C.met s' →
      Tracks (Shape.Related C.met) (Fault.DueTo C.excuse) (applyAll layers s) (applyAll layers' s')
  | [], layers', all, s, s', h => by
    obtain rfl := all
    exact tracks_ok h
  | l :: rest, layers', all, s, s', h => by
    obtain ⟨l', rest', alike, others, rfl⟩ := all
    apply tracks_bind (tracks_apply sound alike (.one h))
    intro t t' ht
    exact tracks_applyAll sound others ht

end

end Layer
end ShapeFlow
