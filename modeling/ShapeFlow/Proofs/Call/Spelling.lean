import ShapeFlow.Dataset.Class
import ShapeFlow.Layer.Construct
/-!
Bound arguments that no constructor tells apart. An argument of `None` reads like an absent one, and
where one or several integers are asked for, an integer reads like a tuple of copies of it, down to
the error that either gives.
-/
namespace ShapeFlow

def Argument.copies (n : Nat) (v : Int64) : Argument := .tuple (List.replicate n (.int v))

def Spreads {α : Type} (n : Nat) (read : Place → Argument → Reading α) : Prop :=
  ∀ p v, read p (.copies n v) = read p (.int v)

namespace Place

theorem spreads_integers (n : Nat) : Spreads n (fun p => p.integers n) := by
  intro p v
  have same : ∀ h, (⟨(List.replicate n (Argument.int v)).toArray, h⟩ : Vector Argument n) =
      (Vector.replicate n v).map .int := by
    intro h
    ext i
    simp
  have reads : (p.integer ∘ Argument.int) = fun v => pure v.toInt := rfl
  simp only [Argument.copies, integers, List.length_replicate, dite_true, same, Vector.mapM_map]
  rw [reads, Vector.mapM_pure, Vector.map_replicate]
  rfl

theorem spreads_naturals (n : Nat) : Spreads n (fun p => p.naturals n) := by
  intro p v
  simp only [naturals, spreads_integers n p v]

theorem spreads_extent : Spreads 2 extent := by
  intro p v
  simp only [extent, spreads_integers 2 p v]

theorem spreads_amounts : Spreads 2 amounts := by
  intro p v
  simp only [amounts, spreads_naturals 2 p v]

theorem spreads_convPadding : Spreads 2 convPadding := by
  intro p v
  change (p.amounts (.copies 2 v) >>= fun a => pure (ConvPadding.fixed a)) =
    p.amounts (.int v) >>= fun a => pure (ConvPadding.fixed a)
  rw [spreads_amounts p v]

theorem spreads_border : Spreads 4 border := by
  intro p v
  simp only [border, spreads_naturals 4 p v]

theorem openSize_int (p : Place) (v : Int64) :
    p.openSize (.int v) = p.positive v.toInt >>= fun n => pure (some n) := rfl

theorem spreads_outputSizes : Spreads 2 outputSizes := by
  intro p v
  change (p.openSize (.int v) >>= fun height => p.openSize (.int v) >>= fun width =>
      pure (height, width)) = p.positive v.toInt >>= fun n => pure (some n, some n)
  rw [openSize_int]
  cases p.positive v.toInt with
  | error e => rfl
  | ok n => rfl

end Place

namespace BoundArgs

/-- The arguments read alike, except that an integer given for a parameter that takes several may
stand for a tuple of copies. A momentum of `None` is `None` in both. -/
structure Alike (width? : String → Option Nat) (b b' : BoundArgs) : Prop where
  className : b'.className = b.className
  rest : b'.rest = b.rest
  value (name : String) : b'.value? name = b.value? name ∨ ∃ n v, width? name = some n ∧
    b.value? name = some (.int v) ∧ b'.value? name = some (.copies n v)
  momentum : b'.isNone "momentum" = b.isNone "momentum"

variable {α : Type} {width? : String → Option Nat} {b b' : BoundArgs} {name : String}
  {read : Place → Argument → Reading α}

theorem Alike.place (alike : b.Alike width? b') (name : String) : b'.place name = b.place name := by
  rw [BoundArgs.place, BoundArgs.place, alike.className]

section single

theorem Alike.single (alike : b.Alike width? b') (single : width? name = none) :
    b'.value? name = b.value? name := by
  rcases alike.value name with same | ⟨n, v, wide, -⟩
  · exact same
  · rw [single] at wide
    cases wide

theorem Alike.optional (alike : b.Alike width? b') (single : width? name = none) :
    b'.optional name read = b.optional name read := by
  rw [BoundArgs.optional, BoundArgs.optional, alike.place, alike.single single]

theorem Alike.mandatory (alike : b.Alike width? b') (single : width? name = none) :
    b'.mandatory name read = b.mandatory name read := by
  rw [BoundArgs.mandatory, BoundArgs.mandatory, BoundArgs.required, BoundArgs.required, alike.place,
    alike.single single]

theorem Alike.orDefault (alike : b.Alike width? b') (single : width? name = none) (default : α) :
    b'.orDefault name read default = b.orDefault name read default := by
  rw [BoundArgs.orDefault, BoundArgs.orDefault, alike.optional single]

theorem Alike.flag (alike : b.Alike width? b') (single : width? name = none) (default : Bool) :
    b'.flag name default = b.flag name default := by
  rw [BoundArgs.flag, BoundArgs.flag, alike.single single]

theorem Alike.probability (alike : b.Alike width? b') (single : width? name = none)
    (default : Float) : b'.probability name default = b.probability name default := by
  rw [BoundArgs.probability, BoundArgs.probability, alike.orDefault single, alike.place]

end single

section tuple

variable {n : Nat}

theorem Alike.value_tuple (alike : b.Alike width? b') (wide : width? name = some n) :
    b'.value? name = b.value? name ∨
      ∃ v, b.value? name = some (.int v) ∧ b'.value? name = some (.copies n v) := by
  rcases alike.value name with same | ⟨m, v, width, int, tuple⟩
  · exact .inl same
  · rw [wide] at width
    cases width
    exact .inr ⟨v, int, tuple⟩

theorem Alike.optional_tuple (alike : b.Alike width? b') (name : String)
    (wide : width? name = some n) (spreads : Spreads n read) :
    b'.optional name read = b.optional name read := by
  unfold BoundArgs.optional
  rw [alike.place]
  rcases alike.value_tuple wide with same | ⟨v, int, tuple⟩
  · rw [same]
  · rw [int, tuple]
    dsimp only
    rw [spreads]

theorem Alike.mandatory_tuple (alike : b.Alike width? b') (name : String)
    (wide : width? name = some n) (spreads : Spreads n read) :
    b'.mandatory name read = b.mandatory name read := by
  unfold BoundArgs.mandatory BoundArgs.required
  rw [alike.place]
  rcases alike.value_tuple wide with same | ⟨v, int, tuple⟩
  · rw [same]
  · rw [int, tuple]
    exact spreads (b.place name) v

theorem Alike.orDefault_tuple (alike : b.Alike width? b') (name : String)
    (wide : width? name = some n) (spreads : Spreads n read) (default : α) :
    b'.orDefault name read default = b.orDefault name read default := by
  rw [BoundArgs.orDefault, BoundArgs.orDefault, alike.optional_tuple name wide spreads]

end tuple

section values

variable {className p : String} {values before after : List (String × Argument)}
  {rest : List Argument}

theorem Alike.refl (width? : String → Option Nat) (b : BoundArgs) : b.Alike width? b :=
  ⟨rfl, rfl, fun _ => .inl rfl, rfl⟩

/-- Arguments are alike if a single parameter has another value and reads alike. -/
theorem Alike.of_others (p : String) (className : b'.className = b.className)
    (rest : b'.rest = b.rest)
    (others : ∀ name, name ≠ p → b'.values.lookup name = b.values.lookup name)
    (value : b'.value? p = b.value? p ∨ ∃ n v, width? p = some n ∧
      b.value? p = some (.int v) ∧ b'.value? p = some (.copies n v))
    (momentum : p = "momentum" → b'.isNone p = b.isNone p) : b.Alike width? b' := by
  refine ⟨className, rest, ?_, ?_⟩
  · intro name
    by_cases same : name = p
    · rw [same]
      exact value
    · rw [BoundArgs.value?, BoundArgs.value?, others name same]
      exact .inl rfl
  · by_cases same : p = "momentum"
    · rw [← same]
      exact momentum same
    · rw [BoundArgs.isNone, BoundArgs.isNone, others "momentum" (Ne.symm same)]

theorem alike_none (plain : p ≠ "momentum") : BoundArgs.Alike width? ⟨className, values, rest⟩
    ⟨className, values ++ [(p, .none)], rest⟩ := by
  refine Alike.of_others p rfl rfl ?_ ?_ ?_
  · intro name ne
    rw [Entries.lookup_middle_of_ne _ _ _ ne, List.append_nil]
  · refine .inl ?_
    unfold BoundArgs.value?
    rw [Entries.lookup_middle_self]
    cases values.lookup p with
    | none => rfl
    | some a => rfl
  · intro same
    exact absurd same plain

/-- Only the first value of a name is read, so a name that occurs before makes no difference. -/
theorem alike_copies {n : Nat} (wide : width? p = some n) (v : Int64) :
    BoundArgs.Alike width? ⟨className, before ++ (p, .int v) :: after, rest⟩
      ⟨className, before ++ (p, .copies n v) :: after, rest⟩ := by
  refine Alike.of_others p rfl rfl ?_ ?_ ?_
  · intro name ne
    rw [Entries.lookup_middle_of_ne _ _ _ ne, Entries.lookup_middle_of_ne _ _ _ ne]
  · unfold BoundArgs.value?
    rw [Entries.lookup_middle_self, Entries.lookup_middle_self]
    cases before.lookup p with
    | none => exact .inr ⟨n, v, wide, rfl, rfl⟩
    | some a => exact .inl rfl
  · intro _
    unfold BoundArgs.isNone
    rw [Entries.lookup_middle_self, Entries.lookup_middle_self]
    cases before.lookup p with
    | none => rfl
    | some a => rfl

end values

/-- The momentum is the one value that tells `None` from an absent argument. -/
theorem momentum_tells_none (unread : b.value? "momentum" = none) :
    b.momentum = .ok (if b.isNone "momentum" then none else some 0.1) := by
  unfold momentum orDefault optional
  rw [unread]
  rfl

end BoundArgs

namespace LayerClass

def sizeTuples : LayerClass → List (String × Nat)
  | .conv2d => [("kernel_size", 2), ("stride", 2), ("padding", 2), ("dilation", 2)]
  | .maxPool2d => [("kernel_size", 2), ("stride", 2), ("padding", 2), ("dilation", 2)]
  | .avgPool2d => [("kernel_size", 2), ("stride", 2), ("padding", 2)]
  | .adaptiveAvgPool2d => [("output_size", 2)]
  | .reflectionPad2d => [("padding", 4)]
  | _ => []

def width? (c : LayerClass) (name : String) : Option Nat := c.sizeTuples.lookup name

end LayerClass

namespace BoundArgs.Alike

variable {width? : String → Option Nat} {b b' : BoundArgs}

theorem normalization (alike : b.Alike width? b') (single : ∀ name, width? name = none)
    (flags : Bool) : b'.normalization flags = b.normalization flags := by
  simp only [BoundArgs.normalization, BoundArgs.momentum, alike.momentum,
    alike.mandatory (single _), alike.orDefault (single _), alike.flag (single _)]

theorem reduction (alike : b.Alike width? b') (single : width? "reduction" = none) :
    b'.reduction = b.reduction := by
  simp only [BoundArgs.reduction, alike.orDefault single, alike.place]

theorem poolingWindow (alike : b.Alike width? b') (kernel : width? "kernel_size" = some 2)
    (stride : width? "stride" = some 2) (padding : width? "padding" = some 2) :
    b'.poolingWindow = b.poolingWindow := by
  simp only [BoundArgs.poolingWindow, alike.place,
    alike.mandatory_tuple "kernel_size" kernel Place.spreads_extent,
    alike.orDefault_tuple "stride" stride Place.spreads_extent,
    alike.orDefault_tuple "padding" padding Place.spreads_amounts]

theorem convolution (alike : b.Alike LayerClass.conv2d.width? b') :
    b'.convolution = b.convolution := by
  have kernel := alike.mandatory_tuple "kernel_size" rfl Place.spreads_extent
  have stride := alike.orDefault_tuple "stride" rfl Place.spreads_extent
  have padding := alike.orDefault_tuple "padding" rfl Place.spreads_convPadding
  have dilation := alike.orDefault_tuple "dilation" rfl Place.spreads_extent
  simp (disch := decide) only [BoundArgs.convolution, kernel, stride, padding, dilation,
    alike.mandatory, alike.orDefault, alike.flag, alike.place]

/-- Layers are built alike from arguments that are alike for their class. -/
theorem build (c : LayerClass) (alike : b.Alike c.width? b') : c.build b' = c.build b := by
  cases c with
  | leakyRelu => simp (disch := decide) only [LayerClass.build, alike.orDefault, alike.flag]
  | relu => simp (disch := decide) only [LayerClass.build, alike.flag]
  | softmax => simp (disch := decide) only [LayerClass.build, alike.optional]
  | batchNorm2d => simp only [LayerClass.build, alike.normalization fun _ => rfl]
  | sequential => simp only [LayerClass.build, alike.place, alike.rest]
  | moduleList => simp (disch := decide) only [LayerClass.build, alike.orDefault]
  | conv2d => simp only [LayerClass.build, alike.convolution]
  | cosineSimilarity => simp (disch := decide) only [LayerClass.build, alike.orDefault]
  | channelDropout =>
    simp (disch := decide) only [LayerClass.build, alike.probability, alike.flag]
  | dropout => simp (disch := decide) only [LayerClass.build, alike.probability, alike.flag]
  | linear => simp (disch := decide) only [LayerClass.build, alike.mandatory, alike.flag]
  | crossEntropyLoss =>
    have reduction := alike.reduction rfl
    simp (disch := decide) only [LayerClass.build, BoundArgs.crossEntropyLoss, reduction,
      alike.orDefault, alike.place]
  | mseLoss => simp only [LayerClass.build, alike.reduction rfl]
  | adaptiveAvgPool2d =>
    have sizes := alike.mandatory_tuple "output_size" rfl Place.spreads_outputSizes
    simp only [LayerClass.build, sizes]
  | avgPool2d =>
    have window := alike.poolingWindow rfl rfl rfl
    simp (disch := decide) only [LayerClass.build, BoundArgs.averagePooling, window,
      alike.optional, alike.flag, alike.place]
  | maxPool2d =>
    have window := alike.poolingWindow rfl rfl rfl
    have dilation := alike.orDefault_tuple "dilation" rfl Place.spreads_extent
    simp (disch := decide) only [LayerClass.build, window, dilation, alike.flag]
  | instanceNorm2d => simp only [LayerClass.build, alike.normalization fun _ => rfl]
  | reflectionPad2d =>
    have border := alike.mandatory_tuple "padding" rfl Place.spreads_border
    simp only [LayerClass.build, border]

theorem options (c : DatasetClass) (alike : b.Alike (fun _ => none) b') :
    c.options b' = c.options b := by
  simp only [DatasetClass.options, alike.mandatory, alike.optional, alike.flag]

end BoundArgs.Alike
end ShapeFlow
