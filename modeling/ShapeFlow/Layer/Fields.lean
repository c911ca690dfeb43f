import ShapeFlow.Decimal
import ShapeFlow.Expr.Printer
import ShapeFlow.Layer.Basic
import ShapeFlow.Shape
/-!
What a layer holds: its parameters by name, in the order in which it lists them, the one-line text
that shows them all, and the layers of a list by their places.
-/
namespace ShapeFlow

inductive FieldValue where
  | flag (b : Bool)
  | integer (n : Int)
  | decimal (x : Float)
  | size (e : Expr)
  | counts (ns : List Nat)
  | convPadding (p : ConvPadding)
  | paddingMode (m : PaddingMode)
  | reduction (r : Reduction)
  | optionalInteger (n : Option Int)
  | optionalDecimal (x : Option Float)
  | optionalCounts (ns : List (Option Nat))

namespace FieldValue

def listText (items : List String) : String := "[" ++ ", ".intercalate items ++ "]"

def countsText (ns : List Nat) : String := listText (ns.map toString)

def optionText : Option String → String
  | some s => "Some(" ++ s ++ ")"
  | none => "None"

def flagText (b : Bool) : String := if b then "true" else "false"

def inspect : FieldValue → String
  | .flag b => flagText b
  | .integer n => toString n
  | .decimal x => Decimal.inspect x
  | .size e => e.inspect
  | .counts ns => countsText ns
  | .convPadding (.fixed amount) => "Fixed(" ++ countsText amount.toList ++ ")"
  | .convPadding .same => "Same"
  | .paddingMode m => "\"" ++ m.name ++ "\""
  | .reduction .none => "None"
  | .reduction .mean => "Mean"
  | .reduction .sum => "Sum"
  | .optionalInteger n => optionText (n.map toString)
  | .optionalDecimal x => optionText (x.map Decimal.inspect)
  | .optionalCounts ns => listText (ns.map fun n => optionText (n.map toString))

end FieldValue

namespace Normalization

def fields (n : Normalization) : List (String × FieldValue) :=
  [("num_features", .size n.numFeatures), ("eps", .decimal n.eps),
    ("momentum", .optionalDecimal n.momentum), ("affine", .flag n.affine),
    ("track_running_stats", .flag n.trackRunningStats)]

end Normalization

namespace Layer

def fields : Layer → List (String × FieldValue)
  | .relu inplace => [("inplace", .flag inplace)]
  | .leakyRelu slope inplace => [("negative_slope", .decimal slope), ("inplace", .flag inplace)]
  | .softmax axis => [("dim", .optionalInteger axis)]
  | .dropout p inplace => [("p", .decimal p), ("inplace", .flag inplace)]
  | .channelDropout p inplace => [("p", .decimal p), ("inplace", .flag inplace)]
  | .linear l =>
    [("in_features", .size l.inFeatures), ("out_features", .size l.outFeatures),
      ("bias", .flag l.bias)]
  | .conv2d c =>
    [("in_channels", .size c.inChannels), ("out_channels", .size c.outChannels),
      ("kernel_size", .counts c.kernel.toList), ("stride", .counts c.stride.toList),
      ("padding", .convPadding c.padding), ("dilation", .counts c.dilation.toList),
      ("groups", .integer c.groups), ("bias", .flag c.bias),
      ("padding_mode", .paddingMode c.paddingMode)]
  | .batchNorm2d n => n.fields
  | .instanceNorm2d n => n.fields
  | .maxPool2d p =>
    [("kernel_size", .counts p.kernel.toList), ("stride", .counts p.stride.toList),
      ("padding", .counts p.padding.toList), ("dilation", .counts p.dilation.toList),
      ("return_indices", .flag p.returnIndices), ("ceil_mode", .flag p.ceilMode)]
  | .avgPool2d p =>
    [("kernel_size", .counts p.kernel.toList), ("stride", .counts p.stride.toList),
      ("padding", .counts p.padding.toList), ("ceil_mode", .flag p.ceilMode),
      ("count_include_pad", .flag p.countIncludePad),
      ("divisor_override", .optionalInteger p.divisorOverride)]
  | .adaptiveAvgPool2d height width => [("output_size", .optionalCounts [height, width])]
  | .reflectionPad2d b => [("padding", .counts b.toList)]
  | .cosineSimilarity axis eps => [("dim", .integer axis), ("eps", .decimal eps)]
  | .crossEntropyLoss r ignoreIndex smoothing =>
    [("reduction", .reduction r), ("ignore_index", .integer ignoreIndex),
      ("label_smoothing", .decimal smoothing)]
  | .mseLoss r => [("reduction", .reduction r)]
  | .sequential _ => []
  | .moduleList _ => []

def record (className : String) (fields : List (String × String)) : String :=
  className ++ " \x7b " ++ ", ".intercalate (fields.map fun f => f.1 ++ ": " ++ f.2) ++ " \x7d"

mutual

def inspect : Layer → String
  | .sequential layers =>
    record "Sequential" [("modules", FieldValue.listText (inspectAll layers))]
  | .moduleList layers =>
    record "ModuleList" [("modules", FieldValue.listText (inspectAll layers))]
  | l => record l.className (l.fields.map fun f => (f.1, f.2.inspect))

def inspectAll : List Layer → List String
  | [] => []
  | l :: rest => inspect l :: inspectAll rest

end

end Layer
end ShapeFlow

namespace ShapeFlow.Layer

def get? (l : Layer) (index : Int) : Option Layer :=
  match l with
  | .moduleList layers => (Shape.resolveAxis layers.length index).bind (layers[·]?)
  | _ => none

def push : Layer → Layer → Layer
  | .moduleList layers, l => .moduleList (layers ++ [l])
  | other, _ => other

end ShapeFlow.Layer
