import ShapeFlow.Proofs.Layer.Bounds
/-!
Layers on images. An image has its height and width last and its channels before them, alone or
after the size of a batch. When a layer answers on an image, and what, is said here once for each
layer.
-/
namespace ShapeFlow
open Applied
variable {w : Window × Window} {front front' : List Expr} {channels a a' b b' e : Expr}
  {inputs : List Shape} {s t : Shape}

def Shape.spatial (s : Shape) : List Expr := s.dims.drop (s.ndim - 2)

theorem unlessRefused_eq_ok {α : Type} {x : Except ShapeError α} {y : α} :
    unlessRefused x = .ok y ↔ x = .ok y := by
  cases x with
  | error why => exact ⟨nofun, nofun⟩
  | ok z => exact ⟨fun h => congrArg Except.ok (Except.ok.inj h), congrArg _⟩

theorem oneInput_eq_ok : oneInput inputs = .ok s ↔ inputs = [s] := by
  constructor
  · intro answer
    unfold oneInput at answer
    split at answer
    · rw [Except.ok.inj answer]
    · cases answer
  · rintro rfl
    rfl

theorem ndim_append_pair : (⟨front ++ [a, b]⟩ : Shape).ndim = front.length + 2 := by
  simp [Shape.ndim]

theorem spatial_append_pair : (⟨front ++ [a, b]⟩ : Shape).spatial = [a, b] := by
  rw [Shape.spatial, ndim_append_pair, Nat.add_sub_cancel, List.drop_left]

theorem sizeAt_height : (⟨front ++ [a, b]⟩ : Shape).sizeAt front.length = .ok a := by
  simp [Shape.sizeAt, Shape.dim?, inBounds]

theorem sizeAt_width : (⟨front ++ [a, b]⟩ : Shape).sizeAt (front.length + 1) = .ok b := by
  simp [Shape.sizeAt, Shape.dim?, inBounds]

theorem setSize_height :
    (⟨front ++ [a, b]⟩ : Shape).setSize front.length e = .ok ⟨front ++ [e, b]⟩ := by
  simp [Shape.setSize, Shape.withDim?, ndim_append_pair, inBounds]

theorem setSize_width :
    (⟨front ++ [a, b]⟩ : Shape).setSize (front.length + 1) e = .ok ⟨front ++ [a, e]⟩ := by
  simp [Shape.setSize, Shape.withDim?, ndim_append_pair, inBounds]

/-- The last two positions of an image. -/
theorem fromEnd_height : (⟨front ++ [a, b]⟩ : Shape).fromEnd 2 = .ok front.length := by
  rw [fromEnd_eq (by simp [Shape.ndim]), ndim_append_pair, Nat.add_sub_cancel]

theorem fromEnd_width : (⟨front ++ [a, b]⟩ : Shape).fromEnd 1 = .ok (front.length + 1) := by
  rw [fromEnd_eq (by simp [Shape.ndim]), ndim_append_pair]
  rfl

/-- What is made of the height and the width of an image takes their places. -/
theorem replaceSpatial_eq_ok {high wide : Expr → Applied Expr}
    (same : front'.length = front.length) :
    replaceSpatial high wide ⟨front ++ [a, b]⟩ ⟨front' ++ [a', b']⟩ = .ok t ↔
      ∃ height width, high a = .ok height ∧ wide b = .ok width ∧
        t = ⟨front' ++ [height, width]⟩ := by
  have change {e : Expr} : (⟨front' ++ [a', b']⟩ : Shape).setSize front.length e =
      .ok ⟨front' ++ [e, b']⟩ := by rw [← same, setSize_height]
  have changeWidth {d e : Expr} : (⟨front' ++ [d, b']⟩ : Shape).setSize (front.length + 1) e =
      .ok ⟨front' ++ [d, e]⟩ := by rw [← same, setSize_width]
  simp only [replaceSpatial, monadLift_self, fromEnd_height, bind_eq_ok, Except.ok.injEq]
  constructor
  · rintro ⟨_, rfl, _, found, height, hheight, _, changed, _, foundWidth, width, hwidth, last⟩
    rw [sizeAt_height, Except.ok.injEq] at found
    rw [sizeAt_width, Except.ok.injEq] at foundWidth
    rw [change, Except.ok.injEq] at changed
    subst found foundWidth changed
    rw [changeWidth, Except.ok.injEq] at last
    exact ⟨height, width, hheight, hwidth, last.symm⟩
  · rintro ⟨height, width, hheight, hwidth, rfl⟩
    exact ⟨_, rfl, a, sizeAt_height, height, hheight, _, change, b, sizeAt_width, width, hwidth,
      changeWidth⟩

/-- What slides over an image answers where both of its windows do. -/
theorem slideWindows_eq_ok (same : front'.length = front.length) :
    slideWindowsWith exactly w ⟨front ++ [a, b]⟩ ⟨front' ++ [a', b']⟩ = .ok t ↔
      ∃ height width, w.1.outputSize a = .ok height ∧ w.2.outputSize b = .ok width ∧
        t = ⟨front' ++ [height, width]⟩ := by
  rw [slideWindowsWith, replaceSpatial_eq_ok same]
  simp only [slideWith_exactly, unlessRefused_eq_ok]

theorem poolImage_ok (answer : poolImageWith exactly w ⟨front ++ [a, b]⟩ = .ok t) :
    ∃ height width, w.1.outputSize a = .ok height ∧ w.2.outputSize b = .ok width ∧
      t = ⟨front ++ [height, width]⟩ := by
  obtain ⟨_, -, slid⟩ := bind_eq_ok.mp answer
  exact (slideWindows_eq_ok rfl).mp slid

/-- A shape that passes the check for images has channels, a height and a width. -/
theorem checkImage_eq_ok {u : Unit} : checkImage s = .ok u ↔
    ∃ front channels a b, front.length ≤ 1 ∧ s = ⟨front ++ [channels, a, b]⟩ := by
  constructor
  · intro passed
    obtain ⟨dims⟩ := s
    match dims with
    | [channels, a, b] => exact ⟨[], channels, a, b, Nat.zero_le 1, rfl⟩
    | [batch, channels, a, b] => exact ⟨[batch], channels, a, b, Nat.le_refl 1, rfl⟩
    | [] | [_] | [_, _] | _ :: _ :: _ :: _ :: _ :: _ =>
      unfold checkImage checkRank at passed
      simp [Shape.ndim, refuse] at passed
  · rintro ⟨front, channels, a, b, batch, rfl⟩
    have rank : 3 ≤ (⟨front ++ [channels, a, b]⟩ : Shape).ndim ∧
        (⟨front ++ [channels, a, b]⟩ : Shape).ndim ≤ 4 := by
      simp only [Shape.ndim, List.length_append, List.length_cons, List.length_nil]
      omega
    rw [checkImage, checkRank, if_pos rank]

theorem channels_append : front ++ [channels, a, b] = (front ++ [channels]) ++ [a, b] := by simp

theorem sizeAt_channels :
    (⟨front ++ [channels, a, b]⟩ : Shape).sizeAt front.length = .ok channels := by
  simp [Shape.sizeAt, Shape.dim?, inBounds]

theorem setSize_channels :
    (⟨front ++ [channels, a, b]⟩ : Shape).setSize front.length e = .ok ⟨front ++ [e, a, b]⟩ := by
  simp [Shape.setSize, Shape.withDim?, Shape.ndim, inBounds]

theorem fromEnd_channels :
    (⟨front ++ [channels, a, b]⟩ : Shape).fromEnd 3 = .ok front.length := by
  rw [fromEnd_eq (by simp [Shape.ndim])]
  simp [Shape.ndim]

theorem replaceSpatial_image_eq_ok {out : Expr} {high wide : Expr → Applied Expr} :
    replaceSpatial high wide ⟨front ++ [channels, a, b]⟩ ⟨front ++ [out, a, b]⟩ = .ok t ↔
      ∃ height width, high a = .ok height ∧ wide b = .ok width ∧
        t = ⟨front ++ [out, height, width]⟩ := by
  simp only [channels_append]
  exact replaceSpatial_eq_ok (by simp)

theorem slideWindows_image_eq_ok {out : Expr} :
    slideWindowsWith exactly w ⟨front ++ [channels, a, b]⟩ ⟨front ++ [out, a, b]⟩ = .ok t ↔
      ∃ height width, w.1.outputSize a = .ok height ∧ w.2.outputSize b = .ok width ∧
        t = ⟨front ++ [out, height, width]⟩ := by
  rw [slideWindowsWith, replaceSpatial_image_eq_ok]
  simp only [slideWith_exactly, unlessRefused_eq_ok]

/-- A convolution answers on an image with fitting channels, and there, unless it keeps the height
and the width, where both of its windows do. -/
theorem convolution_eq_ok {c : Convolution} : c.applyWith exactly s = .ok t ↔
    ∃ front channels a b, front.length ≤ 1 ∧ s = ⟨front ++ [channels, a, b]⟩ ∧
      checkSize "input channels" c.inChannels channels = .ok () ∧
      match c.padding with
      | .same => t = ⟨front ++ [c.outChannels, a, b]⟩
      | .fixed padding => ∃ height width, (c.windows padding).1.outputSize a = .ok height ∧
        (c.windows padding).2.outputSize b = .ok width ∧
          t = ⟨front ++ [c.outChannels, height, width]⟩ := by
  simp only [Convolution.applyWith, monadLift_self, bind_eq_ok, checkImage_eq_ok]
  constructor
  · rintro ⟨_, ⟨front, channels, a, b, batch, rfl⟩, axis, hAxis, _, found, ⟨⟩, checked, out, changed,
      answer⟩
    obtain rfl := Except.ok.inj (fromEnd_channels.symm.trans hAxis)
    obtain rfl := Except.ok.inj (sizeAt_channels.symm.trans found)
    obtain rfl := Except.ok.inj (setSize_channels.symm.trans changed)
    refine ⟨front, channels, a, b, batch, rfl, checked, ?_⟩
    cases padding : c.padding with
    | same =>
      rw [padding] at answer
      obtain ⟨_, _, ⟨⟩, ⟨⟩, rfl⟩ := replaceSpatial_image_eq_ok.mp answer
      rfl
    | fixed amount =>
      rw [padding] at answer
      exact slideWindows_image_eq_ok.mp answer
  · rintro ⟨front, channels, a, b, batch, rfl, checked, answer⟩
    refine ⟨(), ⟨front, channels, a, b, batch, rfl⟩, _, fromEnd_channels, channels, sizeAt_channels,
      (), checked, ⟨front ++ [c.outChannels, a, b]⟩, setSize_channels, ?_⟩
    cases padding : c.padding with
    | same =>
      rw [padding] at answer
      exact replaceSpatial_image_eq_ok.mpr ⟨a, b, rfl, rfl, answer⟩
    | fixed amount =>
      rw [padding] at answer
      exact slideWindows_image_eq_ok.mpr answer

theorem Layer.apply_conv2d_eq_ok {c : Convolution} :
    (conv2d c).apply inputs = .ok t ↔ ∃ s, inputs = [s] ∧ c.applyWith exactly s = .ok t := by
  simp only [apply, applyWith, monadLift_self, bind_eq_ok, oneInput_eq_ok]

theorem Layer.apply_reflectionPad2d_eq_ok {border : Border} :
    (reflectionPad2d border).apply inputs = .ok t ↔
      ∃ s, inputs = [s] ∧ border.applyWith exactly s = .ok t := by
  simp only [apply, applyWith, monadLift_self, bind_eq_ok, oneInput_eq_ok]

/-- A border is added to both spatial sizes of an image. -/
theorem border_ok {border : Border} (answer : border.applyWith exactly s = .ok t) :
    ∃ front a b height width, s = ⟨front ++ [a, b]⟩ ∧
      reflectSize a border.top border.bottom = .ok height ∧
      reflectSize b border.left border.right = .ok width ∧ t = ⟨front ++ [height, width]⟩ := by
  obtain ⟨_, passed, answer⟩ := bind_eq_ok.mp answer
  obtain ⟨front, channels, a, b, -, rfl⟩ := checkImage_eq_ok.mp passed
  rw [channels_append] at answer ⊢
  simp only [monadLift_self, fromEnd_height, fromEnd_width, reflectWith_exactly, bind_eq_ok,
    unlessRefused_eq_ok, Except.ok.injEq] at answer
  obtain ⟨_, rfl, _, found, height, high, _, rfl, _, foundWidth, width, wide, _, changed, last⟩ :=
    answer
  obtain rfl := Except.ok.inj (sizeAt_height.symm.trans found)
  obtain rfl := Except.ok.inj (sizeAt_width.symm.trans foundWidth)
  obtain rfl := Except.ok.inj (setSize_height.symm.trans changed)
  obtain rfl := Except.ok.inj (setSize_width.symm.trans last)
  exact ⟨front ++ [channels], a, b, height, width, rfl, high, wide, rfl⟩

end ShapeFlow
