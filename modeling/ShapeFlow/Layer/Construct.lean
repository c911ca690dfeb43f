import ShapeFlow.Call.Read
/-!
Building layers from the arguments of a call. Arguments are read in a fixed order, so of two faults
the one read first is reported.
-/
namespace ShapeFlow

inductive LayerClass where
  | leakyRelu
  | relu
  | softmax
  | batchNorm2d
  | sequential
  | moduleList
  | conv2d
  | cosineSimilarity
  | channelDropout
  | dropout
  | linear
  | crossEntropyLoss
  | mseLoss
  | adaptiveAvgPool2d
  | avgPool2d
  | maxPool2d
  | instanceNorm2d
  | reflectionPad2d
  deriving DecidableEq

namespace LayerClass

def name : LayerClass → String
  | .leakyRelu => "LeakyReLU"
  | .relu => "ReLU"
  | .softmax => "Softmax"
  | .batchNorm2d => "BatchNorm2d"
  | .sequential => "Sequential"
  | .moduleList => "ModuleList"
  | .conv2d => "Conv2d"
  | .cosineSimilarity => "CosineSimilarity"
  | .channelDropout => "Dropout2d"
  | .dropout => "Dropout"
  | .linear => "Linear"
  | .crossEntropyLoss => "CrossEntropyLoss"
  | .mseLoss => "MSELoss"
  | .adaptiveAvgPool2d => "AdaptiveAvgPool2d"
  | .avgPool2d => "AvgPool2d"
  | .maxPool2d => "MaxPool2d"
  | .instanceNorm2d => "InstanceNorm2d"
  | .reflectionPad2d => "ReflectionPad2d"

def normalizationParams : List String :=
  ["num_features", "eps", "momentum", "affine", "track_running_stats", "device", "dtype"]

def signature : LayerClass → Signature
  | .leakyRelu => ⟨["negative_slope", "inplace"], false⟩
  | .relu => ⟨["inplace"], false⟩
  | .softmax => ⟨["dim"], false⟩
  | .batchNorm2d => ⟨normalizationParams, false⟩
  | .sequential => ⟨[], true⟩
  | .moduleList => ⟨["modules"], false⟩
  | .conv2d =>
    ⟨["in_channels", "out_channels", "kernel_size", "stride", "padding", "dilation", "groups",
      "bias", "padding_mode", "device", "dtype"], false⟩
  | .cosineSimilarity => ⟨["dim", "eps"], false⟩
  | .channelDropout => ⟨["p", "inplace"], false⟩
  | .dropout => ⟨["p", "inplace"], false⟩
  | .linear => ⟨["in_features", "out_features", "bias", "device", "dtype"], false⟩
  | .crossEntropyLoss =>
    ⟨["weight", "size_average", "ignore_index", "reduce", "reduction", "label_smoothing"], false⟩
  | .mseLoss => ⟨["size_average", "reduce", "reduction"], false⟩
  | .adaptiveAvgPool2d => ⟨["output_size"], false⟩
  | .avgPool2d =>
    ⟨["kernel_size", "stride", "padding", "ceil_mode", "count_include_pad", "divisor_override"],
      false⟩
  | .maxPool2d =>
    ⟨["kernel_size", "stride", "padding", "dilation", "return_indices", "ceil_mode"], false⟩
  | .instanceNorm2d => ⟨normalizationParams, false⟩
  | .reflectionPad2d => ⟨["padding"], false⟩

end LayerClass

namespace Place

def convPadding (p : Place) : Argument → Reading ConvPadding
  | .str "valid" => .ok (.fixed (.square 0))
  | .str "same" => .ok .same
  | .str other => .error (p.valueError (.unknownPadding other))
  | a => do return .fixed (← p.amounts a)

def groupCount (p : Place) (a : Argument) : Reading Nat := do
  let v ← p.integer a
  if 0 < v then return v.toNat else throw (p.valueError (.groups v))

def border (p : Place) (a : Argument) : Reading Border := do
  let v ← p.naturals 4 a
  return ⟨v[0], v[1], v[2], v[3]⟩

def layers (p : Place) : List Argument → Reading (List Layer)
  | [] => .ok []
  | a :: rest => do
    let l ← p.layer a
    let ls ← p.layers rest
    return l :: ls

def layerList (p : Place) : Argument → Reading (List Layer)
  | .tuple items => p.layers items
  | a => .error (p.typeError "iterable" a)

end Place

structure PoolingWindow where
  kernel : Extent
  stride : Extent
  padding : Extent
  deriving DecidableEq

/-- A known number of channels has to be a multiple of the groups. -/
def divisible (channels : Expr) (groups : Nat) : Bool :=
  match channels with
  | .value c => c % groups == 0
  | _ => true

namespace BoundArgs

/-- The stride of a pooling layer is its kernel unless given, and its padding at most half of it. -/
def poolingWindow (b : BoundArgs) : Reading PoolingWindow := do
  let kernel ← b.mandatory "kernel_size" Place.extent
  let stride ← b.orDefault "stride" Place.extent kernel
  let padding ← b.orDefault "padding" Place.amounts (.square 0)
  if kernel.height / 2 < padding.height ∨ kernel.width / 2 < padding.width then
    throw ((b.place "padding").valueError .widePadding)
  else return ⟨kernel, stride, padding⟩

/-- A momentum of `None` turns the running average off; an omitted one has a default. -/
def momentum (b : BoundArgs) : Reading (Option Float) := do
  let value ← b.orDefault "momentum" Place.decimal 0.1
  return if b.isNone "momentum" then none else some value

def normalization (b : BoundArgs) (flags : Bool) : Reading Normalization := do
  let numFeatures ← b.mandatory "num_features" Place.positiveSize
  let eps ← b.orDefault "eps" Place.decimal 1e-5
  let momentum ← b.momentum
  return ⟨numFeatures, eps, momentum, b.flag "affine" flags, b.flag "track_running_stats" flags⟩

def reduction (b : BoundArgs) : Reading Reduction := do
  let text ← b.orDefault "reduction" Place.text "mean"
  match Reduction.ofName? text with
  | some r => return r
  | none => throw ((b.place "reduction").valueError (.unknownReduction text))

def convolution (b : BoundArgs) : Reading Convolution := do
  let inChannels ← b.mandatory "in_channels" Place.positiveSize
  let outChannels ← b.mandatory "out_channels" Place.positiveSize
  let kernel ← b.mandatory "kernel_size" Place.extent
  let stride ← b.orDefault "stride" Place.extent (.square 1)
  let padding ← b.orDefault "padding" Place.convPadding (.fixed (.square 0))
  let dilation ← b.orDefault "dilation" Place.extent (.square 1)
  let groups ← b.orDefault "groups" Place.groupCount 1
  let mode ← b.orDefault "padding_mode" Place.text "zeros"
  if !divisible inChannels groups then
    throw ((b.place "in_channels").valueError (.indivisible "in_channels"))
  else if !divisible outChannels groups then
    throw ((b.place "out_channels").valueError (.indivisible "out_channels"))
  else if padding = .same ∧ stride ≠ .square 1 then
    throw ((b.place "padding").valueError .stridedSame)
  else match PaddingMode.ofName? mode with
    | none => throw ((b.place "padding_mode").valueError (.unknownPaddingMode mode))
    | some mode =>
      return ⟨inChannels, outChannels, kernel, stride, padding, dilation, groups,
        b.flag "bias" true, mode⟩

def averagePooling (b : BoundArgs) : Reading AveragePooling := do
  let w ← b.poolingWindow
  let divisor ← b.optional "divisor_override" Place.integer
  if divisor = some 0 then throw ((b.place "divisor_override").valueError .zeroDivisor)
  else return ⟨w.kernel, w.stride, w.padding, b.flag "ceil_mode" false,
    b.flag "count_include_pad" true, divisor⟩

def crossEntropyLoss (b : BoundArgs) : Reading Layer := do
  let ignoreIndex ← b.orDefault "ignore_index" Place.integer (-100)
  let reduction ← b.reduction
  let smoothing ← b.orDefault "label_smoothing" Place.decimal 0.0
  if 0.0 ≤ smoothing ∧ smoothing ≤ 1.0 then
    return .crossEntropyLoss reduction ignoreIndex smoothing
  else throw ((b.place "label_smoothing").valueError .smoothing)

end BoundArgs

def LayerClass.build (c : LayerClass) (b : BoundArgs) : Reading Layer :=
  match c with
  | .leakyRelu => do
    return .leakyRelu (← b.orDefault "negative_slope" Place.decimal 0.01) (b.flag "inplace" false)
  | .relu => .ok (.relu (b.flag "inplace" false))
  | .softmax => do return .softmax (← b.optional "dim" Place.integer)
  | .batchNorm2d => do return .batchNorm2d (← b.normalization true)
  | .instanceNorm2d => do return .instanceNorm2d (← b.normalization false)
  | .sequential => do return .sequential (← (b.place "args").layers b.rest)
  | .moduleList => do return .moduleList (← b.orDefault "modules" Place.layerList [])
  | .conv2d => do return .conv2d (← b.convolution)
  | .cosineSimilarity => do
    let axis ← b.orDefault "dim" Place.integer 1
    let eps ← b.orDefault "eps" Place.decimal 1e-8
    return .cosineSimilarity axis eps
  | .channelDropout => do
    return .channelDropout (← b.probability "p" 0.5) (b.flag "inplace" false)
  | .dropout => do return .dropout (← b.probability "p" 0.5) (b.flag "inplace" false)
  | .linear => do
    let inFeatures ← b.mandatory "in_features" Place.positiveSize
    let outFeatures ← b.mandatory "out_features" Place.positiveSize
    return .linear ⟨inFeatures, outFeatures, b.flag "bias" true⟩
  | .crossEntropyLoss => b.crossEntropyLoss
  | .mseLoss => do return .mseLoss (← b.reduction)
  | .adaptiveAvgPool2d => do
    let sizes ← b.mandatory "output_size" Place.outputSizes
    return .adaptiveAvgPool2d sizes.1 sizes.2
  | .avgPool2d => do return .avgPool2d (← b.averagePooling)
  | .maxPool2d => do
    let w ← b.poolingWindow
    let dilation ← b.orDefault "dilation" Place.extent (.square 1)
    return .maxPool2d ⟨w.kernel, w.stride, w.padding, dilation, b.flag "return_indices" false,
      b.flag "ceil_mode" false⟩
  | .reflectionPad2d => do return .reflectionPad2d (← b.mandatory "padding" Place.border)

end ShapeFlow
