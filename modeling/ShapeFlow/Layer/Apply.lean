import ShapeFlow.Expr.Simplify
import ShapeFlow.Item
import ShapeFlow.Layer.Basic
import ShapeFlow.Layer.Error
import ShapeFlow.Layer.Sizes
/-!
Applying a layer to the shapes of its inputs. The result is the shape of the output, and nothing is
computed but sizes. What folds a size is a parameter: exact integers give the answer of the theory,
words stop where folding would meet the one quotient no word holds. Sizes are folded in the order
the layer reaches them, so a refusal that comes before that quotient is the answer.
-/
namespace ShapeFlow

namespace Applied

def unlessRefused {α : Type} : Except ShapeError α → Applied α
  | .ok a => .ok a
  | .error why => .error (.refused why)

def oneInput : List Shape → Applied Shape
  | [s] => .ok s
  | inputs => refuse (.inputCount 1 inputs.length)

def twoInputs : List Shape → Applied (Shape × Shape)
  | [s, t] => .ok (s, t)
  | inputs => refuse (.inputCount 2 inputs.length)

def checkRank (s : Shape) (least greatest : Nat) (expected : String) : Applied Unit :=
  if least ≤ s.ndim ∧ s.ndim ≤ greatest then .ok () else refuse (.rank expected s.ndim)

def checkImage (s : Shape) : Applied Unit := checkRank s 3 4 "3D or 4D"

def checkSize (what : String) (expected actual : Expr) : Applied Unit :=
  match expected, actual with
  | .value e, .value a =>
    if e ≠ a then refuse (.mismatch what expected actual) else .ok ()
  | _, _ => .ok ()

def checkSizes (what : String) : List Expr → List Expr → Applied Unit
  | e :: es, a :: as => do
    checkSize what e a
    checkSizes what es as
  | _, _ => .ok ()

end Applied

open Applied

def Dense.apply (l : Dense) (s : Shape) : Applied Shape :=
  if s.ndim = 0 then refuse (.rank "at least 1D" 0)
  else do
    let last ← s.fromEnd 1
    checkSize "input features" l.inFeatures (← s.sizeAt last)
    s.setSize last l.outFeatures

namespace Convolution

def windows (c : Convolution) (padding : Extent) : Window × Window :=
  (⟨c.kernel.height, c.stride.height, c.dilation.height, padding.height, false⟩,
    ⟨c.kernel.width, c.stride.width, c.dilation.width, padding.width, false⟩)

end Convolution

namespace MaxPooling

def windows (p : MaxPooling) : Window × Window :=
  (⟨p.kernel.height, p.stride.height, p.dilation.height, p.padding.height, p.ceilMode⟩,
    ⟨p.kernel.width, p.stride.width, p.dilation.width, p.padding.width, p.ceilMode⟩)

end MaxPooling

namespace AveragePooling

def windows (p : AveragePooling) : Window × Window :=
  (⟨p.kernel.height, p.stride.height, 1, p.padding.height, p.ceilMode⟩,
    ⟨p.kernel.width, p.stride.width, 1, p.padding.width, p.ceilMode⟩)

end AveragePooling

def checkBorders (size : Expr) (first last : Nat) : Except ShapeError Unit :=
  match size with
  | .value v =>
    let widest := Expr.wrap (max first last)
    if v ≤ widest then .error (.wideBorder widest v) else .ok ()
  | _ => .ok ()

/-! Layers that compute sizes take the function `fold` that simplifies them, and run where it does:
in exact arithmetic, or on a machine that may stop. -/

section Folding
variable {m : Type → Type} [Monad m] (fold : Expr → m Expr)

def reflectSizeWith (size : Expr) (first last : Nat) : m (Except ShapeError Expr) :=
  match checkBorders size first last with
  | .error why => return .error why
  | .ok () => return .ok (← fold (.add size (.ofNat (first + last))))

variable [MonadLiftT (Except Fault) m]

def reflectWith (size : Expr) (first last : Nat) : m Expr := do
  unlessRefused (← reflectSizeWith fold size first last)

def replaceSpatial (height width : Expr → m Expr) (input out : Shape) : m Shape := do
  let axis ← input.fromEnd 2
  let out ← out.setSize axis (← height (← input.sizeAt axis))
  out.setSize (axis + 1) (← width (← input.sizeAt (axis + 1)))

def Window.slideWith (w : Window) (size : Expr) : m Expr := do
  unlessRefused (← w.outputSizeWith fold size)

def slideWindowsWith (w : Window × Window) (input out : Shape) : m Shape :=
  replaceSpatial (w.1.slideWith fold) (w.2.slideWith fold) input out

def Convolution.applyWith (c : Convolution) (s : Shape) : m Shape := do
  checkImage s
  let axis ← s.fromEnd 3
  checkSize "input channels" c.inChannels (← s.sizeAt axis)
  let out ← s.setSize axis c.outChannels
  match c.padding with
  | .same => replaceSpatial pure pure s out
  | .fixed padding => slideWindowsWith fold (c.windows padding) s out

def poolImageWith (w : Window × Window) (s : Shape) : m Shape := do
  checkImage s
  slideWindowsWith fold w s s

def Border.applyWith (b : Border) (s : Shape) : m Shape := do
  checkImage s
  let row ← s.fromEnd 2
  let height ← reflectWith fold (← s.sizeAt row) b.top b.bottom
  let column ← s.fromEnd 1
  let width ← reflectWith fold (← s.sizeAt column) b.left b.right
  (← s.setSize row height).setSize column width

end Folding

def reflectSize (size : Expr) (first last : Nat) : Except ShapeError Expr :=
  Id.run (reflectSizeWith (fun e => pure e.simplify) size first last)

def exactly (e : Expr) : Applied Expr := .ok e.simplify

theorem reflectSize_eq (size : Expr) (first last : Nat) : reflectSize size first last =
    (checkBorders size first last).map
      fun _ => (Expr.add size (.ofNat (first + last))).simplify := by
  unfold reflectSize reflectSizeWith
  cases checkBorders size first last <;> rfl

theorem reflectWith_exactly (size : Expr) (first last : Nat) :
    reflectWith exactly size first last = unlessRefused (reflectSize size first last) := by
  rw [reflectSize_eq]
  unfold reflectWith reflectSizeWith
  cases checkBorders size first last <;> rfl

theorem slideWith_exactly (w : Window) (size : Expr) :
    w.slideWith exactly size = unlessRefused (w.outputSize size) := by
  rw [Window.outputSize_eq]
  unfold Window.slideWith Window.outputSizeWith
  split <;> rfl

def adaptSize (s : Shape) (i : Nat) : Option Nat → Applied Shape
  | some n => do s.setSize ((← s.fromEnd 2) + i) (.ofNat n)
  | none => .ok s

def adaptImage (height width : Option Nat) (s : Shape) : Applied Shape := do
  checkImage s
  adaptSize (← adaptSize s 0 height) 1 width

/-- A batch of images has its features second. -/
def normalizeBatch (n : Normalization) (s : Shape) : Applied Shape := do
  checkRank s 4 4 "4D"
  checkSize "num_features" n.numFeatures (← s.sizeAt 1)
  return s

/-- The features are compared only where the normalization has parameters for each. -/
def normalizeInstances (n : Normalization) (s : Shape) : Applied Shape := do
  checkImage s
  if n.affine then
    checkSize "num_features" n.numFeatures (← s.sizeAt (← s.fromEnd 3))
    return s
  else return s

def checkAxis (rank : Nat) (axis : Int) : Applied Unit :=
  if (Shape.resolveAxis rank axis).isSome then .ok () else refuse (.axisOutOfRange axis rank)

/-- A single element has the axes of one dimension. -/
def checkSoftmaxAxis (s : Shape) : Option Int → Applied Unit
  | none => .ok ()
  | some axis => checkAxis (max s.ndim 1) axis

def cosineShape (axis : Int) (s t : Shape) : Applied Shape := do
  let joined ← unlessRefused (s.join t)
  match Shape.resolveAxis joined.ndim axis with
  | some i => joined.dropAxis i
  | none => refuse (.axisOutside axis joined.ndim)

def Reduction.apply : Reduction → Shape → Shape
  | .none, s => s
  | .mean, _ => .scalar
  | .sum, _ => .scalar

/-- The classes are the first dimension of a single input and the second of a batch. The target
either has the input's shape or lacks the dimension of the classes. -/
def crossEntropyShape (r : Reduction) (input target : Shape) : Applied Shape :=
  if input.ndim = 0 then refuse (.rank "at least 1D" 0)
  else do
    let perElement ← input.dropAxis (if input.ndim = 1 then 0 else 1)
    if target.ndim = input.ndim then
      checkSizes "target size" input.dims target.dims
      return r.apply perElement
    else if target.ndim + 1 = input.ndim then
      checkSizes "target size" perElement.dims target.dims
      return r.apply perElement
    else refuse (.rank "target with the input rank or one less" target.ndim)

namespace Layer

section Folding
variable {m : Type → Type} [Monad m] [MonadLiftT (Except Fault) m] (fold : Expr → m Expr)

mutual

def applyWith : Layer → List Shape → m Shape
  | .relu _, inputs => oneInput inputs
  | .leakyRelu _ _, inputs => oneInput inputs
  | .dropout _ _, inputs => oneInput inputs
  | .channelDropout _ _, inputs => oneInput inputs
  | .softmax axis, inputs => do
    let s ← oneInput inputs
    checkSoftmaxAxis s axis
    return s
  | .linear l, inputs => do l.apply (← oneInput inputs)
  | .conv2d c, inputs => do c.applyWith fold (← oneInput inputs)
  | .batchNorm2d n, inputs => do normalizeBatch n (← oneInput inputs)
  | .instanceNorm2d n, inputs => do normalizeInstances n (← oneInput inputs)
  | .maxPool2d p, inputs => do poolImageWith fold p.windows (← oneInput inputs)
  | .avgPool2d p, inputs => do poolImageWith fold p.windows (← oneInput inputs)
  | .adaptiveAvgPool2d height width, inputs => do adaptImage height width (← oneInput inputs)
  | .reflectionPad2d b, inputs => do b.applyWith fold (← oneInput inputs)
  | .cosineSimilarity axis _, inputs => do
    let (s, t) ← twoInputs inputs
    cosineShape axis s t
  | .crossEntropyLoss r _ _, inputs => do
    let (s, t) ← twoInputs inputs
    crossEntropyShape r s t
  | .mseLoss r, inputs => do
    let (s, t) ← twoInputs inputs
    return r.apply (← unlessRefused (s.join t))
  | .sequential layers, inputs => do applyAllWith layers (← oneInput inputs)
  | .moduleList _, _ => (refuse (.notCallable "ModuleList") : Applied Shape)

def applyAllWith : List Layer → Shape → m Shape
  | [], s => return s
  | l :: rest, s => do
    let s ← applyWith l [s]
    applyAllWith rest s

end

end Folding

def apply (l : Layer) (inputs : List Shape) : Applied Shape := l.applyWith exactly inputs

def applyAll (layers : List Layer) (s : Shape) : Applied Shape := applyAllWith exactly layers s

def outputType : List Tensor → DType
  | [] => .float32
  | t :: _ => t.dtype

section Folding
variable {m : Type → Type} [Monad m] [MonadLiftT (Except Fault) m] (fold : Expr → m Expr)

def callWith (l : Layer) (inputs : List Tensor) : m Tensor := do
  return ⟨← l.applyWith fold (inputs.map (·.shape)), outputType inputs⟩

end Folding

def call (l : Layer) (inputs : List Tensor) : Applied Tensor := l.callWith exactly inputs

end Layer

abbrev Stopping : Type → Type := ExceptT Fault Option

namespace Layer

def inWords (e : Expr) : Stopping Expr := liftM e.simplify?

def applied? (l : Layer) (inputs : List Shape) : Option (Applied Shape) :=
  (l.applyWith inWords inputs).run

def call? (l : Layer) (inputs : List Tensor) : Option (Applied Tensor) :=
  (l.callWith inWords inputs).run

end Layer
end ShapeFlow
