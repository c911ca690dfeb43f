import ShapeFlow.Transform
/-!
The normal form of transforms. Whatever is composed of the library's own transforms, and however it
is nested, gives an item the last size that it asks for and makes a tensor of it if it does so
anywhere. The order of the two makes no difference.
-/
namespace ShapeFlow.Transform
variable {t s : Transform} {h w h' w' : Expr}

inductive Standard : Transform → Prop where
  | toTensor : Standard .toTensor
  | resize (height width : Expr) : Standard (.resize height width)
  | centerCrop (height width : Expr) : Standard (.centerCrop height width)
  | normalize (mean std : List Float) : Standard (.normalize mean std)
  | compose {parts : List Transform} : (∀ p ∈ parts, Standard p) → Standard (.compose parts)

mutual

def steps : Transform → List Transform
  | .compose parts => stepsOf parts
  | t => [t]

def stepsOf : List Transform → List Transform
  | [] => []
  | t :: rest => t.steps ++ stepsOf rest

end

def isConversion : Transform → Bool
  | .toTensor => true
  | _ => false

def size? : Transform → Option (Expr × Expr)
  | .resize height width => some (height, width)
  | .centerCrop height width => some (height, width)
  | _ => none

def converts (t : Transform) : Bool := t.steps.any isConversion

def lastSize? (t : Transform) : Option (Expr × Expr) := (t.steps.filterMap size?).getLast?

def Single : Transform → Prop
  | .compose _ => False
  | .custom _ _ => False
  | _ => True

theorem mem_stepsOf {parts : List Transform} : s ∈ stepsOf parts ↔ ∃ p ∈ parts, s ∈ p.steps := by
  induction parts with
  | nil => simp [stepsOf]
  | cons p rest ih => simp [stepsOf, ih]

theorem single_of_standard (standard : t.Standard) : ∀ s ∈ t.steps, s.Single := by
  induction standard with
  | toTensor | resize | centerCrop | normalize => exact List.forall_mem_singleton.mpr trivial
  | compose _ ih =>
    intro s member
    obtain ⟨p, inside, member⟩ := mem_stepsOf.mp member
    exact ih p inside s member

def run (steps : List Transform) (item : Item) : Item :=
  steps.foldl (fun item s => s.apply item) item

theorem run_append (xs ys : List Transform) (item : Item) :
    run (xs ++ ys) item = run ys (run xs item) :=
  List.foldl_append

mutual

/-- Nesting makes no difference. -/
theorem apply_eq_run : ∀ (t : Transform) (item : Item), t.apply item = run t.steps item
  | .compose parts, item => applyAll_eq_run parts item
  | .toTensor, _ | .resize _ _, _ | .centerCrop _ _, _ | .normalize _ _, _ | .custom _ _, _ => rfl

theorem applyAll_eq_run : ∀ (parts : List Transform) (item : Item),
    applyAll parts item = run (stepsOf parts) item
  | [], _ => rfl
  | t :: rest, item => by
    rw [applyAll, stepsOf, run_append, ← apply_eq_run t item]
    exact applyAll_eq_run rest _

end

theorem convert_convert (item : Item) : convert (convert item) = convert item := by
  cases item <;> rfl

theorem resizeItem_convert (h w : Expr) (item : Item) :
    resizeItem h w (convert item) = convert (resizeItem h w item) := by
  cases item <;> rfl

theorem withLastTwo_pair (front : List Expr) (a b : Expr) :
    withLastTwo (front ++ [a, b]) h w = front ++ [h, w] := by
  have pair : ¬(front ++ [a, b]).length < 2 := by simp
  rw [withLastTwo, if_neg pair]
  simp

theorem withLastTwo_withLastTwo (dims : List Expr) :
    withLastTwo (withLastTwo dims h w) h' w' = withLastTwo dims h' w' := by
  by_cases flat : dims.length < 2
  · simp only [withLastTwo, if_pos flat]
  · rw [withLastTwo.eq_def dims, if_neg flat, withLastTwo_pair, withLastTwo, if_neg flat]

/-- Of two sizes the later one stays. -/
theorem resizeItem_resizeItem (item : Item) :
    resizeItem h' w' (resizeItem h w item) = resizeItem h' w' item := by
  cases item with
  | image | int => rfl
  | tensor t => simp only [resizeItem, withLastTwo_withLastTwo]

/-- What a transform comes down to: at most one size and at most one conversion. -/
structure Effect where
  size : Option (Expr × Expr)
  conversion : Bool

namespace Effect
variable {e : Effect} {s : Transform} {steps : List Transform}

def resized : Option (Expr × Expr) → Item → Item
  | none, item => item
  | some size, item => resizeItem size.1 size.2 item

def apply (e : Effect) (item : Item) : Item :=
  if e.conversion then convert (resized e.size item) else resized e.size item

def followedBy (e f : Effect) : Effect := ⟨f.size.or e.size, e.conversion || f.conversion⟩

def ofSteps (steps : List Transform) : Effect :=
  ⟨(steps.filterMap size?).getLast?, steps.any isConversion⟩

theorem resizeItem_resized (size : Option (Expr × Expr)) (h w : Expr) (item : Item) :
    resizeItem h w (resized size item) = resizeItem h w item := by
  cases size with
  | none => rfl
  | some earlier => exact resizeItem_resizeItem item

theorem resizeItem_apply (e : Effect) (h w : Expr) (item : Item) :
    resizeItem h w (e.apply item) = (⟨some (h, w), e.conversion⟩ : Effect).apply item := by
  unfold apply
  cases e.conversion with
  | false => exact resizeItem_resized e.size h w item
  | true =>
    rw [if_pos rfl, if_pos rfl, resizeItem_convert, resizeItem_resized]
    rfl

theorem convert_apply (e : Effect) (item : Item) :
    convert (e.apply item) = (⟨e.size, true⟩ : Effect).apply item := by
  unfold apply
  cases e.conversion with
  | false => rfl
  | true => exact convert_convert _

/-- A step after an effect. -/
theorem step_apply (single : s.Single) (e : Effect) (item : Item) :
    s.apply (e.apply item) = (e.followedBy (ofSteps [s])).apply item := by
  cases s with
  | toTensor =>
    have effect : e.followedBy (ofSteps [.toTensor]) = ⟨e.size, true⟩ := by
      simp [followedBy, ofSteps, size?, isConversion]
    rw [effect]
    exact convert_apply e item
  | resize h w | centerCrop h w =>
    have effect : e.followedBy ⟨some (h, w), false⟩ = ⟨some (h, w), e.conversion⟩ := by
      simp [followedBy]
    exact (resizeItem_apply e h w item).trans (congrArg (apply · item) effect.symm)
  | normalize mean std =>
    have effect : e.followedBy (ofSteps [.normalize mean std]) = e := by
      simp [followedBy, ofSteps, size?, isConversion]
    rw [effect]
    rfl
  | compose | custom => exact single.elim

theorem followedBy_step (e : Effect) (s : Transform) (rest : List Transform) :
    (e.followedBy (ofSteps [s])).followedBy (ofSteps rest) = e.followedBy (ofSteps (s :: rest)) := by
  have size : ((s :: rest).filterMap size?).getLast? =
      (rest.filterMap size?).getLast?.or ([s].filterMap size?).getLast? := by
    rw [← List.singleton_append, List.filterMap_append, List.getLast?_append]
  simp [followedBy, ofSteps, size, Option.or_assoc, Bool.or_assoc]

/-- The steps after an effect. -/
theorem run_apply (single : ∀ s ∈ steps, s.Single) (e : Effect) (item : Item) :
    run steps (e.apply item) = (e.followedBy (ofSteps steps)).apply item := by
  induction steps generalizing e with
  | nil => simp [run, followedBy, ofSteps]
  | cons s rest ih =>
    obtain ⟨first, others⟩ := List.forall_mem_cons.mp single
    calc run (s :: rest) (e.apply item)
        = run rest (s.apply (e.apply item)) := rfl
      _ = run rest ((e.followedBy (ofSteps [s])).apply item) := by rw [step_apply first]
      _ = ((e.followedBy (ofSteps [s])).followedBy (ofSteps rest)).apply item := ih others _
      _ = (e.followedBy (ofSteps (s :: rest))).apply item := by rw [followedBy_step]

theorem apply_int (e : Effect) (n : Int) : e.apply (.int n) = .int n := by
  obtain ⟨size, conversion⟩ := e
  cases size <;> cases conversion <;> rfl

theorem apply_image (e : Effect) (i : Image) :
    let size := e.size.getD (i.height, i.width)
    e.apply (.image i) =
      if e.conversion then .tensor ⟨⟨[i.channels, size.1, size.2]⟩, .float32⟩
      else .image ⟨i.channels, size.1, size.2⟩ := by
  obtain ⟨size, conversion⟩ := e
  cases size <;> cases conversion <;> rfl

theorem apply_of_tensor (e : Effect) (x : Tensor) :
    e.apply (.tensor x) = resized e.size (.tensor x) := by
  obtain ⟨size, conversion⟩ := e
  cases size <;> cases conversion <;> rfl

theorem apply_pair (e : Effect) (front : List Expr) (height width : Expr) (dtype : DType) :
    let size := e.size.getD (height, width)
    e.apply (.tensor ⟨⟨front ++ [height, width]⟩, dtype⟩) =
      .tensor ⟨⟨front ++ [size.1, size.2]⟩, dtype⟩ := by
  rw [apply_of_tensor]
  cases e.size with
  | none => rfl
  | some size => simp only [resized, resizeItem, withLastTwo_pair, Option.getD_some]

theorem apply_flat (e : Effect) {x : Tensor} (flat : x.ndim < 2) :
    e.apply (.tensor x) = .tensor x := by
  rw [apply_of_tensor]
  cases e.size with
  | none => rfl
  | some size =>
    have kept : withLastTwo x.shape.dims size.1 size.2 = x.shape.dims := if_pos flat
    simp only [resized, resizeItem, kept]

end Effect

theorem apply_standard (standard : t.Standard) (item : Item) :
    t.apply item = (⟨t.lastSize?, t.converts⟩ : Effect).apply item := by
  have effect : (⟨none, false⟩ : Effect).followedBy (.ofSteps t.steps) =
      ⟨t.lastSize?, t.converts⟩ := by
    simp [Effect.followedBy, Effect.ofSteps, lastSize?, converts]
  calc t.apply item
      = run t.steps item := apply_eq_run t item
    _ = run t.steps ((⟨none, false⟩ : Effect).apply item) := rfl
    _ = (⟨t.lastSize?, t.converts⟩ : Effect).apply item := by
      rw [Effect.run_apply (single_of_standard standard), effect]

/-- Integers pass. An image keeps its channels and takes the last size asked for, and is a tensor of
the default element type if it is made one anywhere. A tensor keeps all but its last two sizes, and
all of them if it has fewer. Of a transform nothing but that size and whether it converts has to be
known. -/
theorem pipelines_have_normal_form (t : Transform) (standard : t.Standard) :
    (∀ n, t.apply (.int n) = .int n) ∧
      (∀ i : Image,
        let size := t.lastSize?.getD (i.height, i.width)
        t.apply (.image i) =
          if t.converts then .tensor ⟨⟨[i.channels, size.1, size.2]⟩, .float32⟩
          else .image ⟨i.channels, size.1, size.2⟩) ∧
      (∀ (front : List Expr) (height width : Expr) (dtype : DType),
        let size := t.lastSize?.getD (height, width)
        t.apply (.tensor ⟨⟨front ++ [height, width]⟩, dtype⟩) =
          .tensor ⟨⟨front ++ [size.1, size.2]⟩, dtype⟩) ∧
      (∀ x : Tensor, x.ndim < 2 → t.apply (.tensor x) = .tensor x) ∧
      ∀ t' : Transform, t'.Standard → t'.converts = t.converts → t'.lastSize? = t.lastSize? →
        ∀ item, t'.apply item = t.apply item := by
  refine ⟨?_, ?_, ?_, ?_, ?_⟩
  · intro n
    rw [apply_standard standard]
    exact Effect.apply_int _ n
  · intro i
    rw [apply_standard standard]
    exact Effect.apply_image _ i
  · intro front height width dtype
    rw [apply_standard standard]
    exact Effect.apply_pair _ front height width dtype
  · intro x flat
    rw [apply_standard standard]
    exact Effect.apply_flat _ flat
  · intro t' standard' converts size item
    rw [apply_standard standard', apply_standard standard, converts, size]

theorem pipelines_have_normal_form_of_early_conversion :
    let crop : Transform := .centerCrop (Expr.size "s") (.value 24)
    let late : Transform := .compose [.resize (.value 32) (.value 32), crop, .toTensor]
    let early : Transform :=
      .compose [.toTensor, .compose [.normalize [0.5] [0.5], .compose []], .compose [crop]]
    let i : Image := ⟨.value 3, .value 40, Expr.size "w"⟩
    let x : Tensor := ⟨⟨[.value 10]⟩, .int64⟩
    late.Standard ∧ early.Standard ∧ early.converts = late.converts ∧
      early.lastSize? = late.lastSize? ∧ x.ndim < 2 ∧
      late.apply (.image i) = .tensor ⟨⟨[.value 3, Expr.size "s", .value 24]⟩, .float32⟩ ∧
      late.apply (.tensor x) = .tensor x ∧
      early.apply (.image i) = late.apply (.image i) := by
  intro crop late early i x
  have cropped : crop.Standard := .centerCrop _ _
  have standard : late.Standard := .compose (by
    simp only [List.forall_mem_cons]
    exact ⟨.resize _ _, cropped, .toTensor, List.forall_mem_nil _⟩)
  have standard' : early.Standard := .compose (by
    simp only [List.forall_mem_cons]
    refine ⟨.toTensor, .compose ?_, .compose ?_, List.forall_mem_nil _⟩
    · simp only [List.forall_mem_cons]
      exact ⟨.normalize _ _, .compose (List.forall_mem_nil _), List.forall_mem_nil _⟩
    · exact List.forall_mem_singleton.mpr cropped)
  obtain ⟨-, image, -, flat, same⟩ := pipelines_have_normal_form late standard
  exact ⟨standard, standard', rfl, rfl, Nat.one_lt_two, image i, flat x Nat.one_lt_two,
    same early standard' rfl rfl (.image i)⟩

end ShapeFlow.Transform
