import ShapeFlow.Layer.Apply
import ShapeFlow.Proofs.Expr.StrictDivision
import ShapeFlow.Proofs.Layer.Bounds
/-!
Runs of layers on a machine whose divisions are strict. They have the outcome that the layer has on
a machine of words: only the quotient that no word holds stops them, and no divisor of zero does.
Where the machine does not stop, its outcome is that of exact arithmetic.
-/
namespace ShapeFlow
open Applied

section Agreement
variable {α β : Type} {x : Stopping α} {y : Applied α} {f : α → Stopping β} {g : α → Applied β}

def Agrees (x : Stopping α) (y : Applied α) : Prop := x.run = none ∨ x.run = some y

theorem agrees_lift (y : Applied α) : Agrees (liftM y) y := .inr rfl

theorem agrees_bind (first : Agrees x y) (rest : ∀ a, Agrees (f a) (g a)) :
    Agrees (x >>= f) (y >>= g) := by
  unfold Agrees
  rw [ExceptT.run_bind]
  rcases first with stopped | went
  · rw [stopped]
    exact .inl rfl
  · rw [went]
    cases y with
    | error fault => exact .inr rfl
    | ok a => exact rest a

end Agreement

section Parts
variable {fold : Expr → Stopping Expr} (agrees : ∀ e, Agrees (fold e) (exactly e))
  {w : Window × Window} {s t : Shape}

theorem agrees_inWords (e : Expr) : Agrees (Layer.inWords e) (exactly e) := by
  unfold Layer.inWords Expr.simplify?
  cases e.simplifyOverflows with
  | true => exact .inl rfl
  | false => exact .inr rfl

theorem agrees_replaceSpatial {high wide : Expr → Stopping Expr} {high' wide' : Expr → Applied Expr}
    (height : ∀ e, Agrees (high e) (high' e)) (width : ∀ e, Agrees (wide e) (wide' e)) :
    Agrees (replaceSpatial high wide s t) (replaceSpatial high' wide' s t) := by
  refine agrees_bind (agrees_lift _) fun axis => ?_
  refine agrees_bind (agrees_lift _) fun a => ?_
  refine agrees_bind (height a) fun a => ?_
  refine agrees_bind (agrees_lift _) fun out => ?_
  refine agrees_bind (agrees_lift _) fun b => ?_
  exact agrees_bind (width b) fun b => agrees_lift _

include agrees

theorem agrees_slideWith (v : Window) (e : Expr) :
    Agrees (v.slideWith fold e) (v.slideWith exactly e) := by
  refine agrees_bind ?_ fun size => agrees_lift _
  unfold Window.outputSizeWith
  split
  · exact agrees_lift _
  · exact agrees_bind (agrees _) fun folded => agrees_lift _

theorem agrees_reflectWith (e : Expr) (first last : Nat) :
    Agrees (reflectWith fold e first last) (reflectWith exactly e first last) := by
  refine agrees_bind ?_ fun size => agrees_lift _
  unfold reflectSizeWith
  split
  · exact agrees_lift _
  · exact agrees_bind (agrees _) fun folded => agrees_lift _

theorem agrees_convolution (c : Convolution) (s : Shape) :
    Agrees (c.applyWith fold s) (c.applyWith exactly s) := by
  refine agrees_bind (agrees_lift _) fun _ => ?_
  refine agrees_bind (agrees_lift _) fun axis => ?_
  refine agrees_bind (agrees_lift _) fun channels => ?_
  refine agrees_bind (agrees_lift _) fun _ => ?_
  refine agrees_bind (agrees_lift _) fun out => ?_
  split
  · exact agrees_replaceSpatial (fun e => agrees_lift _) fun e => agrees_lift _
  · exact agrees_replaceSpatial (agrees_slideWith agrees _) (agrees_slideWith agrees _)

theorem agrees_poolImage (w : Window × Window) (s : Shape) :
    Agrees (poolImageWith fold w s) (poolImageWith exactly w s) := by
  refine agrees_bind (agrees_lift _) fun _ => ?_
  exact agrees_replaceSpatial (agrees_slideWith agrees _) (agrees_slideWith agrees _)

theorem agrees_border (b : Border) (s : Shape) :
    Agrees (b.applyWith fold s) (b.applyWith exactly s) := by
  refine agrees_bind (agrees_lift _) fun _ => ?_
  refine agrees_bind (agrees_lift _) fun row => ?_
  refine agrees_bind (agrees_lift _) fun height => ?_
  refine agrees_bind (agrees_reflectWith agrees height _ _) fun height => ?_
  refine agrees_bind (agrees_lift _) fun column => ?_
  refine agrees_bind (agrees_lift _) fun width => ?_
  refine agrees_bind (agrees_reflectWith agrees width _ _) fun width => ?_
  exact agrees_bind (agrees_lift _) fun out => agrees_lift _

end Parts

namespace Layer

def strictly (e : Expr) : Stopping Expr := liftM e.strictSimplify

def strictApply (l : Layer) (inputs : List Shape) : Stopping Shape := l.applyWith strictly inputs

section Runs
variable {fold : Expr → Stopping Expr}

mutual

theorem agrees_applyWith (agrees : ∀ e, Agrees (fold e) (exactly e)) :
    ∀ (l : Layer) (inputs : List Shape),
      Agrees (l.applyWith fold inputs) (l.applyWith exactly inputs)
  | .conv2d c, _ => agrees_bind (agrees_lift _) (agrees_convolution agrees c)
  | .maxPool2d p, _ => agrees_bind (agrees_lift _) (agrees_poolImage agrees p.windows)
  | .avgPool2d p, _ => agrees_bind (agrees_lift _) (agrees_poolImage agrees p.windows)
  | .reflectionPad2d b, _ => agrees_bind (agrees_lift _) (agrees_border agrees b)
  | .sequential layers, _ => agrees_bind (agrees_lift _) (agrees_applyAllWith agrees layers)
  | .softmax _, _ => agrees_bind (agrees_lift _) fun _ => agrees_bind (agrees_lift _) fun _ =>
    agrees_lift _
  | .mseLoss _, _ => agrees_bind (agrees_lift _) fun _ => agrees_bind (agrees_lift _) fun _ =>
    agrees_lift _
  | .relu _, _ | .leakyRelu _ _, _ | .dropout _ _, _ | .channelDropout _ _, _
  | .moduleList _, _ => agrees_lift _
  | .linear _, _ | .batchNorm2d _, _ | .instanceNorm2d _, _ | .adaptiveAvgPool2d _ _, _
  | .cosineSimilarity _ _, _ | .crossEntropyLoss _ _ _, _ =>
    agrees_bind (agrees_lift _) fun _ => agrees_lift _

theorem agrees_applyAllWith (agrees : ∀ e, Agrees (fold e) (exactly e)) :
    ∀ (layers : List Layer) (s : Shape),
      Agrees (applyAllWith fold layers s) (applyAllWith exactly layers s)
  | [], _ => agrees_lift _
  | l :: rest, s => agrees_bind (agrees_applyWith agrees l [s]) (agrees_applyAllWith agrees rest)

end

end Runs

/-- An application answers or refuses, and in its course no division by zero is carried out: with
strict divisions, which have no answer to a divisor of zero, the outcome is that of a machine of
words, which only a quotient that no word holds can stop on the way to the same answer. -/
theorem application_answers_or_refuses (l : Layer) (inputs : List Shape) :
    ((∃ t, l.apply inputs = .ok t) ∨ ∃ why, l.apply inputs = .error (.refused why)) ∧
      (l.strictApply inputs).run = l.applied? inputs ∧
      (l.applied? inputs = none ∨ l.applied? inputs = some (l.apply inputs)) := by
  refine ⟨?_, ?_, agrees_applyWith agrees_inWords l inputs⟩
  · cases outcome : l.apply inputs with
    | ok t => exact .inl ⟨t, rfl⟩
    | error fault =>
      obtain ⟨why, refused⟩ := apply_refuses outcome
      exact .inr ⟨why, outcome.symm.trans refused⟩
  · have folds : strictly = inWords := by
      funext e
      rw [strictly, inWords, Expr.strictSimplify_eq]
    rw [strictApply, applied?, folds]

end Layer
end ShapeFlow
