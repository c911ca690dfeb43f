import ShapeFlow.Shape
/-!
The values that a dataset yields and that transforms pass on: images, tensors and integers. Images
and tensors have a shape and no content.
-/
namespace ShapeFlow

inductive DType where
  | float32
  | int64
  | bool
  deriving DecidableEq

namespace DType

def render : DType → String
  | .float32 => "float32"
  | .int64 => "int64"
  | .bool => "bool"

def ofName? (s : String) : Option DType := [float32, int64, bool].find? (·.render == s)

end DType

structure Tensor where
  shape : Shape
  dtype : DType
  deriving DecidableEq

namespace Tensor

def ofShape (s : Shape) : Tensor := ⟨s, .float32⟩

def ndim (t : Tensor) : Nat := t.shape.ndim

def render (t : Tensor) : String := "Tensor" ++ t.shape.render ++ " " ++ t.dtype.render

end Tensor

/-- An image always has three sizes; its shape lists them as channels, height, width. -/
structure Image where
  channels : Expr
  height : Expr
  width : Expr
  deriving DecidableEq

namespace Image

def shape (i : Image) : Shape := ⟨[i.channels, i.height, i.width]⟩

def ofShape? (s : Shape) : Option Image :=
  match s.dims with
  | [channels, height, width] => some ⟨channels, height, width⟩
  | _ => none

def mode? (i : Image) : Option String :=
  match i.channels with
  | .value 1 => some "L"
  | .value 3 => some "RGB"
  | .value 4 => some "RGBA"
  | _ => none

def resized (i : Image) (height width : Expr) : Image := ⟨i.channels, height, width⟩

def Alike (i j : Image) : Prop := i.shape.Alike j.shape

instance (i j : Image) : Decidable (Alike i j) := inferInstanceAs (Decidable (i.shape.Alike j.shape))

def render (i : Image) : String := "Image" ++ i.shape.render

end Image

inductive Item where
  | image (i : Image)
  | tensor (t : Tensor)
  | int (n : Int)
  deriving DecidableEq

namespace Item

def shape? : Item → Option Shape
  | .image i => some i.shape
  | .tensor t => some t.shape
  | .int _ => none

def int? : Item → Option Int
  | .int n => some n
  | _ => none

def typeName : Item → String
  | .image _ => "PIL.Image.Image"
  | .tensor _ => "torch.Tensor"
  | .int _ => "int"

def render : Item → String
  | .image i => i.render
  | .tensor t => t.render
  | .int n => toString n

def ofShape (s : Shape) : Item :=
  match Image.ofShape? s with
  | some i => .image i
  | none => .tensor (.ofShape s)

end Item
end ShapeFlow
