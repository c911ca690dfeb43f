import ShapeFlow.Catalog
import ShapeFlow.Proofs.Call.Binding
import ShapeFlow.Proofs.Call.Reading
import ShapeFlow.Proofs.Catalog.Respelling
/-!
What constructors hold their layers to. A layer that is built meets the constraints of its class,
and a convolution is built exactly from arguments that stand for one that meets them.
-/
namespace ShapeFlow
variable {name : String} {e : Expr}

def Expr.Splits (e : Expr) (groups : Nat) : Prop :=
  ∀ v, e = .value v → 1 ≤ v ∧ (groups : Int) ∣ v

theorem splits_iff (e : Expr) (groups : Nat) :
    e.Splits groups ↔ e.IsSize ∧ divisible e groups = true := by
  cases e with
  | value v =>
    have shared : divisible (.value v) groups = true ↔ (groups : Int) ∣ v := by
      rw [divisible, beq_iff_eq, Int.dvd_iff_emod_eq_zero]
    rw [shared]
    constructor
    · intro splits
      exact ⟨fun w same => (splits w same).1, (splits v rfl).2⟩
    · rintro ⟨size, shares⟩ w same
      obtain rfl := Expr.value.inj same
      exact ⟨size v rfl, shares⟩
  | var | neg | add | sub | mul | div | divCeil | broadcast =>
    exact ⟨fun _ => ⟨nofun, rfl⟩, fun _ => nofun⟩

theorem PaddingMode.ofName?_eq_some {m : PaddingMode} : ofName? name = some m ↔ name = m.name := by
  constructor
  · intro found
    have named := List.find?_some found
    exact (beq_iff_eq.mp named).symm
  · rintro rfl
    cases m <;> decide

theorem PaddingMode.name_mem (m : PaddingMode) :
    m.name ∈ ["zeros", "reflect", "replicate", "circular"] := by
  cases m <;> decide

structure Convolution.Valid (c : Convolution) : Prop where
  kernel : c.kernel.Positive
  stride : c.stride.Positive
  dilation : c.dilation.Positive
  groups : 1 ≤ c.groups
  inChannels : c.inChannels.Splits c.groups
  outChannels : c.outChannels.Splits c.groups
  unstrided : c.padding = .same → c.stride = .square 1
  paddingMode : c.paddingMode.name ∈ ["zeros", "reflect", "replicate", "circular"]

def Call.leaves (call : Call) : List Argument :=
  Argument.leavesOf (call.positional ++ call.keywords.map (·.2))

/-- The value of a layer's parameter is one that the call holds. -/
theorem LayerClass.leaves_of_bind {c : LayerClass} {call : Call} {b : BoundArgs} {a : Argument}
    (bound : c.signature.bind c.name call = .ok b) (found : b.value? name = some a) :
    a.leaves ⊆ call.leaves := by
  have distinct : c.signature.params.Nodup := Export.params_nodup (.layer c) _ rfl
  exact Argument.leaves_subset (Signature.mem_of_bind distinct bound (BoundArgs.mem_values found))

namespace BoundArgs
variable {b : BoundArgs} {c : Convolution} {w : PoolingWindow} {d k : Extent}

/-- The arguments have the right types and stand for the parameters of the convolution. -/
structure Describes (b : BoundArgs) (c : Convolution) : Prop where
  inChannels : ∃ a, b.value? "in_channels" = some a ∧ a.Size c.inChannels
  outChannels : ∃ a, b.value? "out_channels" = some a ∧ a.Size c.outChannels
  kernel : ∃ a, b.value? "kernel_size" = some a ∧ a.Pair c.kernel
  stride : b.Gives "stride" Argument.Pair (.square 1) c.stride
  padding : b.Gives "padding" Argument.Padding (.fixed (.square 0)) c.padding
  dilation : b.Gives "dilation" Argument.Pair (.square 1) c.dilation
  groups : b.Gives "groups" Argument.Count 1 c.groups
  bias : c.bias = b.flag "bias" true
  paddingMode : b.Gives "padding_mode" (fun a m => a = .str m.name) .zeros c.paddingMode

theorem positive_one : (Extent.square 1).Positive := ⟨Nat.one_pos, Nat.one_pos⟩

theorem kernel_eq_ok : b.mandatory name Place.extent = .ok k ↔
    (∃ a, b.value? name = some a ∧ a.Pair k) ∧ k.Positive :=
  mandatory_eq_ok fun _ _ => Place.extent_eq_ok

theorem extent_eq_ok (positive : d.Positive) : b.orDefault name Place.extent d = .ok k ↔
    b.Gives name Argument.Pair d k ∧ k.Positive :=
  (orDefault_eq_ok fun _ => Place.extent_eq_ok).trans (gives_bounded positive)

theorem padding_eq_ok {d p : ConvPadding} : b.orDefault name Place.convPadding d = .ok p ↔
    b.Gives name Argument.Padding d p :=
  orDefault_eq_ok fun _ => Place.convPadding_eq_ok

theorem groups_eq_ok {n : Nat} : b.orDefault name Place.groupCount 1 = .ok n ↔
    b.Gives name Argument.Count 1 n ∧ 1 ≤ n :=
  (orDefault_eq_ok fun _ => Place.groupCount_eq_ok).trans (gives_bounded (Nat.le_refl 1))

theorem text_eq_ok {d s : String} : b.orDefault name Place.text d = .ok s ↔
    b.Gives name (fun a s => a = .str s) d s :=
  orDefault_eq_ok fun _ => Place.text_eq_ok

theorem gives_paddingMode {m : PaddingMode} :
    b.Gives name (fun a s => a = .str s) "zeros" m.name ↔
      b.Gives name (fun a m => a = .str m.name) .zeros m := by
  unfold Gives
  cases b.value? name with
  | none => cases m <;> decide
  | some a => rfl

section Proper
variable (proper : ∀ name a, b.value? name = some a → a.Proper)
include proper

theorem size_eq_ok : b.mandatory name Place.positiveSize = .ok e ↔
    (∃ a, b.value? name = some a ∧ a.Size e) ∧ e.IsSize :=
  mandatory_eq_ok fun a found => Place.positiveSize_eq_ok (proper name a found)

theorem describes_of_convolution (answer : b.convolution = .ok c) : b.Describes c ∧ c.Valid := by
  simp only [convolution, bind_eq_ok, ite_throw_eq_ok, Bool.not_eq_true', Bool.not_eq_false]
    at answer
  obtain ⟨inChannels, hin, outChannels, hout, kernel, hkernel, stride, hstride, padding, hpadding,
    dilation, hdilation, groups, hgroups, mode, hmode, inShared, outShared, unstrided, answer⟩ :=
      answer
  split at answer
  · cases answer
  · rename_i m named
    obtain rfl := Except.ok.inj answer
    obtain rfl := PaddingMode.ofName?_eq_some.mp named
    obtain ⟨inGiven, inSize⟩ := (size_eq_ok proper).mp hin
    obtain ⟨outGiven, outSize⟩ := (size_eq_ok proper).mp hout
    obtain ⟨kernelGiven, kernelPositive⟩ := kernel_eq_ok.mp hkernel
    obtain ⟨strideGiven, stridePositive⟩ := (extent_eq_ok positive_one).mp hstride
    obtain ⟨dilationGiven, dilationPositive⟩ := (extent_eq_ok positive_one).mp hdilation
    obtain ⟨groupsGiven, groupsPositive⟩ := groups_eq_ok.mp hgroups
    have modeGiven := gives_paddingMode.mp (text_eq_ok.mp hmode)
    have unstrided_of_same : padding = .same → stride = .square 1 := fun same =>
      Decidable.not_not.mp fun strided => unstrided ⟨same, strided⟩
    constructor
    · exact ⟨inGiven, outGiven, kernelGiven, strideGiven, padding_eq_ok.mp hpadding,
        dilationGiven, groupsGiven, rfl, modeGiven⟩
    · exact ⟨kernelPositive, stridePositive, dilationPositive, groupsPositive,
        (splits_iff _ _).mpr ⟨inSize, inShared⟩, (splits_iff _ _).mpr ⟨outSize, outShared⟩,
        unstrided_of_same, m.name_mem⟩

theorem convolution_of_describes (given : b.Describes c) (valid : c.Valid) :
    b.convolution = .ok c := by
  obtain ⟨inSize, inShared⟩ := (splits_iff _ _).mp valid.inChannels
  obtain ⟨outSize, outShared⟩ := (splits_iff _ _).mp valid.outChannels
  have hin := (size_eq_ok proper).mpr ⟨given.inChannels, inSize⟩
  have hout := (size_eq_ok proper).mpr ⟨given.outChannels, outSize⟩
  have hkernel := kernel_eq_ok.mpr ⟨given.kernel, valid.kernel⟩
  have hstride := (extent_eq_ok positive_one).mpr ⟨given.stride, valid.stride⟩
  have hpadding := padding_eq_ok.mpr given.padding
  have hdilation := (extent_eq_ok positive_one).mpr ⟨given.dilation, valid.dilation⟩
  have hgroups := groups_eq_ok.mpr ⟨given.groups, valid.groups⟩
  have hmode := text_eq_ok.mpr (gives_paddingMode.mpr given.paddingMode)
  have unstrided : ¬(c.padding = .same ∧ c.stride ≠ .square 1) := fun strided =>
    strided.2 (valid.unstrided strided.1)
  have named : PaddingMode.ofName? c.paddingMode.name = some c.paddingMode :=
    PaddingMode.ofName?_eq_some.mpr rfl
  simp only [convolution, bind_eq_ok, ite_throw_eq_ok, Bool.not_eq_true', Bool.not_eq_false]
  refine ⟨_, hin, _, hout, _, hkernel, _, hstride, _, hpadding, _, hdilation, _, hgroups, _,
    hmode, inShared, outShared, unstrided, ?_⟩
  rw [named, ← given.bias]
  rfl

theorem convolution_eq_ok : b.convolution = .ok c ↔ b.Describes c ∧ c.Valid :=
  ⟨describes_of_convolution proper,
    fun ⟨given, valid⟩ => convolution_of_describes proper given valid⟩

theorem normalization_size {flags : Bool} {n : Normalization}
    (answer : b.normalization flags = .ok n) : n.numFeatures.IsSize :=
  ((size_eq_ok proper).mp (normalization_reads answer)).2

end Proper

structure Pools (b : BoundArgs) (w : PoolingWindow) : Prop where
  kernel : w.kernel.Positive
  stride : w.stride.Positive
  height : w.padding.height ≤ w.kernel.height / 2
  width : w.padding.width ≤ w.kernel.width / 2
  unstrided : b.value? "stride" = none → w.stride = w.kernel

theorem pools_of_reads (reads : b.ReadsPooling w) : b.Pools w := by
  have kernel := mandatory_extent_positive reads.kernel
  have stride := orDefault_extent_positive kernel reads.stride
  refine ⟨kernel, stride, reads.height, reads.width, ?_⟩
  intro absent
  have given := ((extent_eq_ok kernel).mp reads.stride).1
  rw [Gives, absent] at given
  exact given

theorem averagePooling_divisor {p : AveragePooling} (answer : b.averagePooling = .ok p) :
    p.divisorOverride ≠ some 0 := by
  simp only [averagePooling, bind_eq_ok, ite_throw_eq_ok, pure_eq_ok] at answer
  obtain ⟨w, -, divisor, -, nonzero, rfl⟩ := answer
  exact nonzero

end BoundArgs

namespace Layer
variable {c : LayerClass} {b : BoundArgs} {l : Layer}

/-- What a layer that is built from these arguments is held to. -/
def Meets (b : BoundArgs) : Layer → Prop
  | .conv2d c => c.Valid
  | .maxPool2d p => b.Pools ⟨p.kernel, p.stride, p.padding⟩ ∧ p.dilation.Positive
  | .avgPool2d p => b.Pools ⟨p.kernel, p.stride, p.padding⟩ ∧ p.divisorOverride ≠ some 0
  | .adaptiveAvgPool2d height width => (∀ n ∈ height, 1 ≤ n) ∧ ∀ n ∈ width, 1 ≤ n
  | .linear l => l.inFeatures.IsSize ∧ l.outFeatures.IsSize
  | .batchNorm2d n | .instanceNorm2d n => n.numFeatures.IsSize
  | _ => True

theorem meets_of_build (proper : ∀ name a, b.value? name = some a → a.Proper)
    (made : c.build b = .ok l) : l.Meets b := by
  cases c with
  | relu =>
    obtain rfl := Except.ok.inj made
    trivial
  | leakyRelu | softmax | mseLoss | dropout | channelDropout | sequential | moduleList
  | reflectionPad2d =>
    simp only [LayerClass.build, bind_eq_ok, pure_eq_ok] at made
    obtain ⟨_, -, rfl⟩ := made
    trivial
  | cosineSimilarity =>
    simp only [LayerClass.build, bind_eq_ok, pure_eq_ok] at made
    obtain ⟨_, -, _, -, rfl⟩ := made
    trivial
  | crossEntropyLoss =>
    simp only [LayerClass.build, BoundArgs.crossEntropyLoss, bind_eq_ok] at made
    obtain ⟨_, -, _, -, _, -, made⟩ := made
    split at made
    · obtain rfl := Except.ok.inj made
      trivial
    · cases made
  | linear =>
    simp only [LayerClass.build, bind_eq_ok, pure_eq_ok] at made
    obtain ⟨inFeatures, hin, outFeatures, hout, rfl⟩ := made
    exact ⟨((BoundArgs.size_eq_ok proper).mp hin).2, ((BoundArgs.size_eq_ok proper).mp hout).2⟩
  | conv2d =>
    simp only [LayerClass.build, bind_eq_ok, pure_eq_ok] at made
    obtain ⟨c, hc, rfl⟩ := made
    exact ((BoundArgs.convolution_eq_ok proper).mp hc).2
  | batchNorm2d | instanceNorm2d =>
    simp only [LayerClass.build, bind_eq_ok, pure_eq_ok] at made
    obtain ⟨n, hn, rfl⟩ := made
    exact BoundArgs.normalization_size proper hn
  | maxPool2d =>
    simp only [LayerClass.build, bind_eq_ok, pure_eq_ok] at made
    obtain ⟨w, hw, dilation, hdilation, rfl⟩ := made
    have pools := BoundArgs.pools_of_reads (BoundArgs.poolingWindow_ok hw)
    exact ⟨pools, BoundArgs.orDefault_extent_positive BoundArgs.positive_one hdilation⟩
  | avgPool2d =>
    simp only [LayerClass.build, bind_eq_ok, pure_eq_ok] at made
    obtain ⟨p, hp, rfl⟩ := made
    have pools := BoundArgs.pools_of_reads (BoundArgs.averagePooling_ok hp)
    exact ⟨pools, BoundArgs.averagePooling_divisor hp⟩
  | adaptiveAvgPool2d =>
    simp only [LayerClass.build, bind_eq_ok, pure_eq_ok] at made
    obtain ⟨sizes, hsizes, rfl⟩ := made
    obtain ⟨a, -, read⟩ := BoundArgs.mandatory_ok hsizes
    have positive : ∀ n, sizes.1 = some n ∨ sizes.2 = some n → 1 ≤ n := by
      intro n chosen
      obtain ⟨w, positive⟩ := Place.outputSizes_word read chosen
      exact (Place.positive_eq_ok.mp positive).1
    exact ⟨fun n chosen => positive n (.inl chosen), fun n chosen => positive n (.inr chosen)⟩

theorem conv2d_eq_ok {conv : Convolution} : LayerClass.conv2d.build b = .ok (.conv2d conv) ↔
    b.convolution = .ok conv := by
  simp only [LayerClass.build, bind_eq_ok, pure_eq_ok, Layer.conv2d.injEq, exists_eq_right]

/-- A layer that is built meets what its class demands; and a call builds a convolution exactly if
its arguments stand for one that meets this. -/
theorem constructed_layers_meet_constraints (c : LayerClass) (call : Call) (b : BoundArgs)
    (proper : ∀ x ∈ call.leaves, x.Proper) (bound : c.signature.bind c.name call = .ok b) :
    (∀ l, c.build b = .ok l → l.Meets b) ∧
      (c = .conv2d → ∀ conv, c.build b = .ok (.conv2d conv) ↔ b.Describes conv ∧ conv.Valid) := by
  have values : ∀ name a, b.value? name = some a → a.Proper := fun name a found =>
    Argument.proper_of_leaves fun x inside => proper x (c.leaves_of_bind bound found inside)
  constructor
  · intro l made
    exact meets_of_build values made
  · rintro rfl conv
    rw [conv2d_eq_ok, BoundArgs.convolution_eq_ok values]

theorem constructed_layers_meet_constraints_for_grouped_convolution :
    let channels : Expr := .mul (.value 2) (Expr.size "c")
    let call : Call := ⟨[.dim channels, .int 6, .tuple [.int 3, .int 5]],
      [("padding", .str "same"), ("groups", .int 2), ("stride", .none)]⟩
    let b : BoundArgs := ⟨"Conv2d", [("in_channels", .dim channels), ("out_channels", .int 6),
      ("kernel_size", .tuple [.int 3, .int 5]), ("padding", .str "same"), ("groups", .int 2),
      ("stride", .none)], []⟩
    let conv : Convolution :=
      ⟨channels, .value 6, ⟨3, 5⟩, .square 1, .same, .square 1, 2, true, .zeros⟩
    (∀ x ∈ call.leaves, x.Proper) ∧ LayerClass.conv2d.signature.bind "Conv2d" call = .ok b ∧
      (∀ l, LayerClass.conv2d.build b = .ok l → l.Meets b) ∧
      (b.Describes conv ∧ conv.Valid) ∧ LayerClass.conv2d.build b = .ok (.conv2d conv) := by
  intro channels call b conv
  have proper : ∀ x ∈ call.leaves, x.Proper := by
    simp [call, channels, Call.leaves, Argument.Proper]
  have bound : LayerClass.conv2d.signature.bind "Conv2d" call = .ok b := by
    with_unfolding_all rfl
  have given : b.Describes conv :=
    ⟨⟨_, rfl, .symbolic _⟩, ⟨_, rfl, .known 6⟩, ⟨_, rfl, .two (.of 3 3 rfl) (.of 5 5 rfl)⟩,
      rfl, .same, rfl, .of 2 2 rfl, rfl, rfl⟩
  have valid : conv.Valid := by
    constructor <;>
      simp [conv, channels, Extent.Positive, Extent.square, Expr.Splits, PaddingMode.name]
  obtain ⟨meets, builds⟩ := constructed_layers_meet_constraints .conv2d call b proper bound
  exact ⟨proper, bound, meets, ⟨given, valid⟩, (builds rfl conv).mpr ⟨given, valid⟩⟩

end Layer
end ShapeFlow
