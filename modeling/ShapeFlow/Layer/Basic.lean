import ShapeFlow.Expr.Basic
/-!
Layers of a network, as far as the shapes of their inputs and outputs are concerned: their
parameters, and stacks of layers.
-/
namespace ShapeFlow

structure Extent where
  height : Nat
  width : Nat
  deriving DecidableEq

namespace Extent

def square (n : Nat) : Extent := ⟨n, n⟩

def toList (e : Extent) : List Nat := [e.height, e.width]

end Extent

inductive ConvPadding where
  | fixed (amount : Extent)
  | same
  deriving DecidableEq

inductive PaddingMode where
  | zeros
  | reflect
  | replicate
  | circular
  deriving DecidableEq

namespace PaddingMode

def name : PaddingMode → String
  | .zeros => "zeros"
  | .reflect => "reflect"
  | .replicate => "replicate"
  | .circular => "circular"

def ofName? (s : String) : Option PaddingMode :=
  [zeros, reflect, replicate, circular].find? (·.name == s)

end PaddingMode

structure Convolution where
  inChannels : Expr
  outChannels : Expr
  kernel : Extent
  stride : Extent := .square 1
  padding : ConvPadding := .fixed (.square 0)
  dilation : Extent := .square 1
  groups : Nat := 1
  bias : Bool := true
  paddingMode : PaddingMode := .zeros
  deriving DecidableEq

structure MaxPooling where
  kernel : Extent
  stride : Extent := kernel
  padding : Extent := .square 0
  dilation : Extent := .square 1
  returnIndices : Bool := false
  ceilMode : Bool := false
  deriving DecidableEq

structure AveragePooling where
  kernel : Extent
  stride : Extent := kernel
  padding : Extent := .square 0
  ceilMode : Bool := false
  countIncludePad : Bool := true
  divisorOverride : Option Int := none
  deriving DecidableEq

structure Normalization where
  numFeatures : Expr
  eps : Float := 1e-5
  momentum : Option Float := some 0.1
  affine : Bool
  trackRunningStats : Bool
  deriving DecidableEq

structure Dense where
  inFeatures : Expr
  outFeatures : Expr
  bias : Bool := true
  deriving DecidableEq

structure Border where
  left : Nat
  right : Nat
  top : Nat
  bottom : Nat
  deriving DecidableEq

def Border.toList (b : Border) : List Nat := [b.left, b.right, b.top, b.bottom]

inductive Reduction where
  | none
  | mean
  | sum
  deriving DecidableEq

namespace Reduction

def name : Reduction → String
  | .none => "none"
  | .mean => "mean"
  | .sum => "sum"

def ofName? (s : String) : Option Reduction := [none, mean, sum].find? (·.name == s)

end Reduction

inductive Layer where
  | relu (inplace : Bool)
  | leakyRelu (negativeSlope : Float) (inplace : Bool)
  | softmax (axis : Option Int)
  | dropout (p : Float) (inplace : Bool)
  | channelDropout (p : Float) (inplace : Bool)
  | linear (l : Dense)
  | conv2d (c : Convolution)
  | batchNorm2d (n : Normalization)
  | instanceNorm2d (n : Normalization)
  | maxPool2d (p : MaxPooling)
  | avgPool2d (p : AveragePooling)
  | adaptiveAvgPool2d (height width : Option Nat)
  | reflectionPad2d (b : Border)
  | cosineSimilarity (axis : Int) (eps : Float)
  | crossEntropyLoss (reduction : Reduction) (ignoreIndex : Int) (labelSmoothing : Float)
  | mseLoss (reduction : Reduction)
  | sequential (layers : List Layer)
  /-- A list of layers that is only a store and cannot itself be applied. -/
  | moduleList (layers : List Layer)

namespace Layer

def className : Layer → String
  | .relu _ => "ReLU"
  | .leakyRelu _ _ => "LeakyReLU"
  | .softmax _ => "Softmax"
  | .dropout _ _ => "Dropout"
  | .channelDropout _ _ => "Dropout2d"
  | .linear _ => "Linear"
  | .conv2d _ => "Conv2d"
  | .batchNorm2d _ => "BatchNorm2d"
  | .instanceNorm2d _ => "InstanceNorm2d"
  | .maxPool2d _ => "MaxPool2d"
  | .avgPool2d _ => "AvgPool2d"
  | .adaptiveAvgPool2d _ _ => "AdaptiveAvgPool2d"
  | .reflectionPad2d _ => "ReflectionPad2d"
  | .cosineSimilarity _ _ => "CosineSimilarity"
  | .crossEntropyLoss _ _ _ => "CrossEntropyLoss"
  | .mseLoss _ => "MSELoss"
  | .sequential _ => "Sequential"
  | .moduleList _ => "ModuleList"

def children : Layer → List Layer
  | .sequential layers => layers
  | .moduleList layers => layers
  | _ => []

end Layer
end ShapeFlow
