import ShapeFlow.Item
/-!
Transforms: functions from items to items that a dataset applies to what it yields. A transform
leaves items of a kind that it does not handle as they are.
-/
namespace ShapeFlow

inductive Transform where
  | compose (parts : List Transform)
  | toTensor
  | resize (height width : Expr)
  /-- A crop larger than its input is padded, so the result always has the size asked for. -/
  | centerCrop (height width : Expr)
  | normalize (mean std : List Float)
  | custom (label : String) (f : Item → Item)

namespace Transform

def lambda (f : Item → Item) : Transform := .custom "Lambda" f

def name : Transform → String
  | .compose _ => "Compose"
  | .toTensor => "ToTensor"
  | .resize _ _ => "Resize"
  | .centerCrop _ _ => "CenterCrop"
  | .normalize _ _ => "Normalize"
  | .custom label _ => label

def inspect (t : Transform) : String := "Transform(" ++ t.name ++ ")"

def convert : Item → Item
  | .image i => .tensor (.ofShape i.shape)
  | item => item

def withLastTwo (dims : List Expr) (height width : Expr) : List Expr :=
  if dims.length < 2 then dims else dims.take (dims.length - 2) ++ [height, width]

def resizeItem (height width : Expr) : Item → Item
  | .image i => .image (i.resized height width)
  | .tensor t => .tensor ⟨⟨withLastTwo t.shape.dims height width⟩, t.dtype⟩
  | .int n => .int n

mutual

def apply : Transform → Item → Item
  | .compose parts, item => applyAll parts item
  | .toTensor, item => convert item
  | .resize height width, item => resizeItem height width item
  | .centerCrop height width, item => resizeItem height width item
  | .normalize _ _, item => item
  | .custom _ f, item => f item

def applyAll : List Transform → Item → Item
  | [], item => item
  | t :: rest, item => applyAll rest (apply t item)

end

end Transform

structure Pipeline where
  sample : Option Transform := none
  label : Option Transform := none

namespace Pipeline

def applyOptional : Option Transform → Item → Item
  | none, item => item
  | some t, item => t.apply item

def apply (p : Pipeline) (sample label : Item) : Item × Item :=
  (applyOptional p.sample sample, applyOptional p.label label)

end Pipeline
end ShapeFlow
