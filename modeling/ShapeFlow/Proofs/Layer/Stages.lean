import Mathlib.Data.List.Basic
import ShapeFlow.Layer.Apply
/-!
Stacks inside of stacks. A stack only says in which order its layers run, so it makes no difference
how they are grouped: the first layer that refuses is the same one, and it refuses the same sizes.
-/
namespace ShapeFlow.Layer
open Applied
variable {grouped flat layers : List Layer}

mutual

def stages : Layer → List Layer
  | .sequential layers => stagesOf layers
  | .moduleList layers => [.moduleList (stagesOf layers)]
  | l => [l]

def stagesOf : List Layer → List Layer
  | [] => []
  | l :: rest => l.stages ++ stagesOf rest

end

mutual

def Unstacked : Layer → Prop
  | .sequential _ => False
  | .moduleList layers => UnstackedIn layers
  | _ => True

def UnstackedIn : List Layer → Prop
  | [] => True
  | l :: rest => Unstacked l ∧ UnstackedIn rest

end

/-- The first list is the second one with neighbours put into stacks, at any depth. A stack may be
put round nothing at all. -/
inductive Groups : List Layer → List Layer → Prop where
  | nil : Groups [] []
  | keep (l : Layer) {grouped flat : List Layer} :
      Groups grouped flat → Groups (l :: grouped) (l :: flat)
  | stack {inner flat grouped rest : List Layer} :
      Groups inner flat → Groups grouped rest → Groups (.sequential inner :: grouped) (flat ++ rest)
  | list {inner flat grouped rest : List Layer} : Groups inner flat → Groups grouped rest →
      Groups (.moduleList inner :: grouped) (.moduleList flat :: rest)

/-- The layers answer alike and refuse alike, and a machine of words stops in both or in neither. -/
def SameOutcome (l l' : Layer) : Prop :=
  ∀ inputs, l.apply inputs = l'.apply inputs ∧ l.applied? inputs = l'.applied? inputs

theorem unstackedIn_append (xs ys : List Layer) :
    UnstackedIn (xs ++ ys) ↔ UnstackedIn xs ∧ UnstackedIn ys := by
  induction xs with
  | nil => simp [UnstackedIn]
  | cons l rest ih => simp only [List.cons_append, UnstackedIn, ih, and_assoc]

mutual

theorem unstacked_stages : ∀ l : Layer, UnstackedIn l.stages
  | .sequential layers => unstacked_stagesOf layers
  | .moduleList layers => ⟨unstacked_stagesOf layers, trivial⟩
  | .relu _ | .leakyRelu _ _ | .softmax _ | .dropout _ _ | .channelDropout _ _ | .linear _
  | .conv2d _ | .batchNorm2d _ | .instanceNorm2d _ | .maxPool2d _ | .avgPool2d _
  | .adaptiveAvgPool2d _ _ | .reflectionPad2d _ | .cosineSimilarity _ _ | .crossEntropyLoss _ _ _
  | .mseLoss _ => ⟨trivial, trivial⟩

theorem unstacked_stagesOf : ∀ layers : List Layer, UnstackedIn (stagesOf layers)
  | [] => trivial
  | l :: rest => (unstackedIn_append _ _).mpr ⟨unstacked_stages l, unstacked_stagesOf rest⟩

end

theorem groups_refl (layers : List Layer) : Groups layers layers := by
  induction layers with
  | nil => exact .nil
  | cons l rest ih => exact .keep l ih

mutual

/-- A layer in front of grouped layers comes down to its stages. -/
theorem groups_stages : ∀ (l : Layer) {grouped flat : List Layer}, Groups grouped flat →
    Groups (l :: grouped) (l.stages ++ flat)
  | .sequential layers, _, _, rest => .stack (groups_stagesOf layers) rest
  | .moduleList layers, _, _, rest => .list (groups_stagesOf layers) rest
  | .relu _, _, _, rest | .leakyRelu _ _, _, _, rest | .softmax _, _, _, rest
  | .dropout _ _, _, _, rest | .channelDropout _ _, _, _, rest | .linear _, _, _, rest
  | .conv2d _, _, _, rest | .batchNorm2d _, _, _, rest | .instanceNorm2d _, _, _, rest
  | .maxPool2d _, _, _, rest | .avgPool2d _, _, _, rest | .adaptiveAvgPool2d _ _, _, _, rest
  | .reflectionPad2d _, _, _, rest | .cosineSimilarity _ _, _, _, rest
  | .crossEntropyLoss _ _ _, _, _, rest | .mseLoss _, _, _, rest => .keep _ rest

theorem groups_stagesOf : ∀ layers : List Layer, Groups layers (stagesOf layers)
  | [] => .nil
  | l :: rest => groups_stages l (groups_stagesOf rest)

end

theorem groups_empty (front back : List Layer) :
    Groups (front ++ .sequential [] :: back) (front ++ back) := by
  induction front with
  | nil => exact .stack .nil (groups_refl back)
  | cons l rest ih => exact .keep l ih

section Folding
variable {m : Type → Type} [Monad m] [MonadLiftT (Except Fault) m] {fold : Expr → m Expr}

theorem applyWith_stack (layers : List Layer) (inputs : List Shape) :
    applyWith fold (.sequential layers) inputs =
      liftM (oneInput inputs) >>= applyAllWith fold layers := by
  rw [applyWith]

variable [LawfulMonad m]

theorem applyAllWith_append (xs ys : List Layer) (s : Shape) :
    applyAllWith fold (xs ++ ys) s = applyAllWith fold xs s >>= applyAllWith fold ys := by
  induction xs generalizing s with
  | nil => simp only [List.nil_append, applyAllWith, pure_bind]
  | cons l rest ih => simp only [List.cons_append, applyAllWith, bind_assoc, ih]

variable [LawfulMonadLiftT (Except Fault) m]

theorem applyWith_stack_one (layers : List Layer) (s : Shape) :
    applyWith fold (.sequential layers) [s] = applyAllWith fold layers s := by
  rw [applyWith_stack]
  exact (congrArg (· >>= applyAllWith fold layers) (liftM_pure s)).trans (pure_bind s _)

/-- A run through grouped layers is the run through the layers themselves, on any machine. -/
theorem applyAllWith_groups (groups : Groups grouped flat) (s : Shape) :
    applyAllWith fold grouped s = applyAllWith fold flat s := by
  induction groups generalizing s with
  | nil => rfl
  | keep l _ ih => simp only [applyAllWith, ih]
  | stack _ _ first others =>
    simp only [applyAllWith, applyAllWith_append, applyWith_stack_one, first, others]
  | list _ _ _ others => simp only [applyAllWith, applyWith, others]

end Folding

theorem sameOutcome_groups (groups : Groups grouped flat) :
    (sequential grouped).SameOutcome (sequential flat) := by
  intro inputs
  constructor
  · rw [apply, apply, applyWith_stack, applyWith_stack, funext (applyAllWith_groups groups)]
  · rw [applied?, applied?, applyWith_stack, applyWith_stack, funext (applyAllWith_groups groups)]

/-- A stack comes to the same as the stack of what its layers come down to, in which there are no
stacks left. However layers are grouped, the outcome is that of the layers one after another, and
an empty stack may stand anywhere. -/
theorem grouping_makes_no_difference (layers : List Layer) :
    UnstackedIn (stagesOf layers) ∧ (sequential layers).SameOutcome (sequential (stagesOf layers)) ∧
      (∀ grouped, Groups grouped layers → (sequential grouped).SameOutcome (sequential layers)) ∧
      ∀ front back, front ++ back = layers →
        (sequential (front ++ .sequential [] :: back)).SameOutcome (sequential layers) := by
  refine ⟨unstacked_stagesOf layers, sameOutcome_groups (groups_stagesOf layers), ?_, ?_⟩
  · intro grouped groups
    exact sameOutcome_groups groups
  · rintro front back rfl
    exact sameOutcome_groups (groups_empty front back)

/-- The pooling refuses what the padding before it makes of the image, in whatever stack it is. -/
theorem grouping_makes_no_difference_to_refusal :
    let pad : Layer := .reflectionPad2d ⟨1, 1, 1, 1⟩
    let pool : Layer :=
      .maxPool2d ⟨.square 9, .square 2, .square 0, .square 1, false, false⟩
    let act : Layer := .relu false
    let nested : List Layer :=
      [.sequential [], .sequential [pad, .sequential [.sequential [pool]]], act]
    let flat : List Layer := [pad, pool, act]
    let s : Shape := ⟨[.value 3, .value 5, Expr.size "w"]⟩
    stagesOf nested = flat ∧ Groups [.sequential [pad], .sequential [pool, act]] flat ∧
      [pad] ++ [pool, act] = flat ∧
      apply (.sequential nested) [s] = .error (.refused (.tooSmall (.value 7) 9 0)) ∧
      apply (.sequential flat) [s] = .error (.refused (.tooSmall (.value 7) 9 0)) ∧
      apply (.sequential [.sequential [pad], .sequential [pool, act]]) [s] =
        .error (.refused (.tooSmall (.value 7) 9 0)) ∧
      apply (.sequential ([pad] ++ .sequential [] :: [pool, act])) [s] =
        .error (.refused (.tooSmall (.value 7) 9 0)) := by
  intro pad pool act nested flat s
  have refused : apply (.sequential flat) [s] = .error (.refused (.tooSmall (.value 7) 9 0)) := by
    decide +kernel
  have paired : Groups [.sequential [pad], .sequential [pool, act]] flat :=
    .stack (groups_refl [pad]) (.stack (groups_refl [pool, act]) .nil)
  obtain ⟨-, same, -, -⟩ := grouping_makes_no_difference nested
  obtain ⟨-, -, regrouped, empty⟩ := grouping_makes_no_difference flat
  refine ⟨rfl, paired, rfl, ?_, refused, ?_, ?_⟩
  · exact (same [s]).1.trans refused
  · exact (regrouped _ paired [s]).1.trans refused
  · exact (empty [pad] [pool, act] rfl [s]).1.trans refused

end ShapeFlow.Layer
