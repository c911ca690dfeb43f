import Mathlib.Logic.Relation
import ShapeFlow.Catalog
import ShapeFlow.Proofs.Call.Binding
import ShapeFlow.Proofs.Call.Spelling
import ShapeFlow.Random.Source
/-!
Spellings of a call. It does not matter to a class whether an argument is given by position or by
name, whether a parameter is left out or given as `None`, or whether equal sizes are given once or
in a tuple: the object is the same, or the error is, and so is the context.
-/
namespace ShapeFlow

namespace Signature
variable {sig : Signature} {className : String} {width? : String → Option Nat}
  {nones : List String} {call call' : Call}

/-- A call rewritten in one way: the last positional arguments are named, a parameter that was left
out is given as `None`, or an integer becomes a tuple of copies. The names in `nones` are parameters
that tell `None` from an absent argument, and `width?` has the lengths of the tuples. -/
inductive Respelling (sig : Signature) (width? : String → Option Nat) (nones : List String) :
    Call → Call → Prop where
  | named (given moved : List Argument) (keywords : List (String × Argument))
      (single : sig.variadic = false) (room : (given ++ moved).length ≤ sig.params.length) :
      Respelling sig width? nones ⟨given ++ moved, keywords⟩
        ⟨given, (sig.params.drop given.length).zip moved ++ keywords⟩
  | asNone (positional : List Argument) (keywords : List (String × Argument)) (p : String)
      (param : p ∈ sig.params) (unfilled : p ∉ sig.filled ⟨positional, keywords⟩)
      (unnamed : p ∉ keywords.map Prod.fst) (plain : p ∉ nones) :
      Respelling sig width? nones ⟨positional, keywords⟩ ⟨positional, keywords ++ [(p, .none)]⟩
  | positionalTuple (before after : List Argument) (keywords : List (String × Argument))
      (p : String) (n : Nat) (v : Int64) (single : sig.variadic = false)
      (param : sig.params[before.length]? = some p) (wide : width? p = some n) :
      Respelling sig width? nones ⟨before ++ .int v :: after, keywords⟩
        ⟨before ++ .copies n v :: after, keywords⟩
  | keywordTuple (positional : List Argument) (before after : List (String × Argument))
      (p : String) (n : Nat) (v : Int64) (wide : width? p = some n) :
      Respelling sig width? nones ⟨positional, before ++ (p, .int v) :: after⟩
        ⟨positional, before ++ (p, .copies n v) :: after⟩

inductive BindsAlike (width? : String → Option Nat) :
    Except ArgError BoundArgs → Except ArgError BoundArgs → Prop where
  | error (e : ArgError) : BindsAlike width? (.error e) (.error e)
  | ok {b b' : BoundArgs} (alike : b.Alike width? b') : BindsAlike width? (.ok b) (.ok b')

theorem BindsAlike.bind_eq {α : Type} {bound bound' : Except ArgError BoundArgs}
    {read : BoundArgs → Except ArgError α} (binds : BindsAlike width? bound bound')
    (reads : ∀ b b', b.Alike width? b' → read b' = read b) :
    bound'.bind read = bound.bind read := by
  cases binds with
  | error e => rfl
  | ok alike => exact reads _ _ alike

theorem refusal?_append (taken names more : List String) :
    sig.refusal? className taken (names ++ more) =
      (sig.refusal? className taken names).or (sig.refusal? className (taken ++ names) more) := by
  induction names generalizing taken with
  | nil => simp [refusal?]
  | cons n rest ih =>
    rw [List.cons_append, refusal?, refusal?]
    by_cases unknown : n ∉ sig.params
    · simp only [if_pos unknown, Option.some_or]
    · by_cases filled : n ∈ taken
      · simp only [if_neg unknown, if_pos filled, Option.some_or]
      · simp only [if_neg unknown, if_neg filled, ih, List.append_assoc, List.singleton_append]

theorem zip_append_right (params : List String) (given moved : List Argument) :
    params.zip (given ++ moved) = params.zip given ++ (params.drop given.length).zip moved := by
  induction params generalizing given with
  | nil => simp
  | cons p params ih =>
    cases given with
    | nil => simp
    | cons a given => simp [ih]

theorem zip_at {params : List String} {before : List Argument} {p : String}
    (param : params[before.length]? = some p) (a : Argument) (after : List Argument) :
    params.zip (before ++ a :: after) =
      params.zip before ++ (p, a) :: (params.drop (before.length + 1)).zip after := by
  obtain ⟨inside, here⟩ := List.getElem?_eq_some_iff.mp param
  rw [zip_append_right, List.drop_eq_getElem_cons inside, here, List.zip_cons_cons]

theorem refusal?_params (distinct : sig.params.Nodup) (className : String) (k m : Nat) :
    sig.refusal? className (sig.params.take k) ((sig.params.drop k).take m) = none := by
  have apart : (sig.params.take k ++ (sig.params.drop k).take m).Nodup := by
    rw [← List.take_add]
    exact distinct.sublist (List.take_sublist _ _)
  rw [List.nodup_append] at apart
  obtain ⟨-, once, early⟩ := apart
  rw [refusal?_eq_none]
  refine ⟨?_, once⟩
  intro name mem
  refine ⟨List.mem_of_mem_drop (List.mem_of_mem_take mem), ?_⟩
  intro taken
  exact early name taken name mem rfl

/-- Naming the last of the positional arguments makes no difference to what is bound. -/
theorem bind_named (distinct : sig.params.Nodup) (className : String)
    (single : sig.variadic = false) (given moved : List Argument)
    (keywords : List (String × Argument)) (room : (given ++ moved).length ≤ sig.params.length) :
    sig.bind className ⟨given, (sig.params.drop given.length).zip moved ++ keywords⟩ =
      sig.bind className ⟨given ++ moved, keywords⟩ := by
  have notFull : ∀ call : Call, call.positional.length ≤ sig.params.length →
      ¬ sig.Overfull call := by
    intro call fits full
    exact Nat.not_lt.mpr fits full.2
  have fewer : given.length ≤ sig.params.length := by
    rw [List.length_append] at room
    omega
  have refused : sig.refusal? className (sig.params.take given.length)
        (((sig.params.drop given.length).zip moved ++ keywords).map Prod.fst) =
      sig.refusal? className (sig.params.take (given ++ moved).length)
        (keywords.map Prod.fst) := by
    rw [List.map_append, zip_names, refusal?_append, refusal?_params distinct, Option.none_or,
      List.length_append, List.take_add]
  have values : sig.params.zip given ++ ((sig.params.drop given.length).zip moved ++ keywords) =
      sig.params.zip (given ++ moved) ++ keywords := by
    rw [zip_append_right, List.append_assoc]
  rw [bind_eq distinct, bind_eq distinct, if_neg (notFull _ fewer), if_neg (notFull _ room)]
  simp only [filled, Signature.given, single, Bool.false_eq_true, if_false, refused, values]

/-- Calls with as many positional arguments and the same names are refused alike. -/
theorem bindsAlike_of_alike (distinct : sig.params.Nodup) (className : String)
    (positional : call'.positional.length = call.positional.length)
    (refused : sig.refusal? className (sig.filled call) (call'.keywords.map Prod.fst) =
      sig.refusal? className (sig.filled call) (call.keywords.map Prod.fst))
    (alike : BoundArgs.Alike width?
      ⟨className, sig.given call ++ call.keywords, if sig.variadic then call.positional else []⟩
      ⟨className, sig.given call' ++ call'.keywords,
        if sig.variadic then call'.positional else []⟩) :
    BindsAlike width? (sig.bind className call) (sig.bind className call') := by
  have filled : sig.filled call' = sig.filled call := by
    rw [Signature.filled, Signature.filled, positional]
  have full : sig.Overfull call' ↔ sig.Overfull call := by
    unfold Overfull
    rw [positional]
  rw [bind_eq distinct, bind_eq distinct]
  by_cases exceeds : sig.Overfull call
  · rw [if_pos exceeds, if_pos (full.mpr exceeds), positional]
    exact .error _
  · rw [if_neg exceeds, if_neg (mt full.mp exceeds), filled, refused]
    cases sig.refusal? className (sig.filled call) (call.keywords.map Prod.fst) with
    | some e => exact .error e
    | none => exact .ok alike

theorem bind_respelled (distinct : sig.params.Nodup)
    (momentum : "momentum" ∈ sig.params → "momentum" ∈ nones) (className : String)
    (respelling : sig.Respelling width? nones call call') :
    BindsAlike width? (sig.bind className call) (sig.bind className call') := by
  cases respelling with
  | named given moved keywords single room =>
    rw [bind_named distinct className single given moved keywords room]
    cases sig.bind className ⟨given ++ moved, keywords⟩ with
    | error e => exact .error e
    | ok b => exact .ok (.refl width? b)
  | asNone positional keywords p param unfilled unnamed plain =>
    have known : p ≠ "momentum" := by
      rintro rfl
      exact plain (momentum param)
    refine bindsAlike_of_alike distinct className rfl ?_ ?_
    · rw [List.map_append, refusal?_append]
      cases refused : sig.refusal? className (sig.filled ⟨positional, keywords⟩)
          (keywords.map Prod.fst) with
      | some e => rfl
      | none =>
        rw [Option.none_or, refusal?_eq_none]
        refine ⟨?_, List.nodup_singleton p⟩
        intro name mem
        obtain rfl := List.mem_singleton.mp mem
        refine ⟨param, ?_⟩
        rw [List.mem_append, not_or]
        exact ⟨unfilled, unnamed⟩
    · rw [← List.append_assoc]
      exact BoundArgs.alike_none known
  | positionalTuple before after keywords p n v single param wide =>
    refine bindsAlike_of_alike distinct className (by simp) rfl ?_
    simp only [Signature.given, single, Bool.false_eq_true, if_false, zip_at param,
      List.append_assoc, List.cons_append]
    exact BoundArgs.alike_copies wide v
  | keywordTuple positional before after p n v wide =>
    refine bindsAlike_of_alike distinct className rfl (by simp) ?_
    rw [← List.append_assoc, ← List.append_assoc]
    exact BoundArgs.alike_copies wide v

end Signature

namespace Export

def width? : Export → String → Option Nat
  | .layer c => c.width?
  | _ => fun _ => none

def nones : Export → List String
  | .layer .batchNorm2d => ["momentum"]
  | .layer .instanceNorm2d => ["momentum"]
  | _ => []

def Respelling (e : Export) (call call' : Call) : Prop :=
  ∃ sig, e.signature? = some sig ∧ sig.Respelling e.width? e.nones call call'

theorem find?_qualifiedName (e : Export) : find? e.qualifiedName = some e := by
  cases e with
  | base => decide
  | layer c => cases c <;> decide
  | dataset c => cases c <;> decide

theorem params_nodup (e : Export) : ∀ sig ∈ e.signature?, sig.params.Nodup := by
  cases e with
  | base => decide
  | layer c => cases c <;> decide
  | dataset c => cases c <;> decide

theorem momentum_none (e : Export) :
    ∀ sig ∈ e.signature?, "momentum" ∈ sig.params → "momentum" ∈ e.nones := by
  cases e with
  | base => decide
  | layer c => cases c <;> decide
  | dataset c => cases c <;> decide

theorem bind_respelled (e : Export) {sig : Signature} {call call' : Call} (className : String)
    (known : e.signature? = some sig) (respelling : e.Respelling call call') :
    Signature.BindsAlike e.width? (sig.bind className call) (sig.bind className call') := by
  obtain ⟨same, found, respelling⟩ := respelling
  obtain rfl : sig = same := Option.some.inj (known.symm.trans found)
  exact Signature.bind_respelled (e.params_nodup sig known) (e.momentum_none sig known) className
    respelling

end Export

namespace Catalog
variable {γ : Type} {call call' : Call}

theorem buildLayer_respelled (c : LayerClass)
    (respelling : (Export.layer c).Respelling call call') :
    buildLayer c call' = buildLayer c call := by
  have binds := (Export.layer c).bind_respelled c.name rfl respelling
  exact binds.bind_eq fun _ _ alike => alike.build c

theorem datasetPlan_respelled (c : DatasetClass)
    (respelling : (Export.dataset c).Respelling call call') (ctx : Context γ) :
    datasetPlan c call' ctx = datasetPlan c call ctx := by
  have binds := (Export.dataset c).bind_respelled c.name rfl respelling
  unfold datasetPlan
  rw [binds.bind_eq fun _ _ alike => alike.options c]

variable [SeededSource γ]

theorem construct_respelled (catalog : Catalog) (env : Environment) (e : Export) (ctx : Context γ)
    (respelling : e.Respelling call call') :
    catalog.construct env e.qualifiedName call' ctx =
      catalog.construct env e.qualifiedName call ctx := by
  unfold construct resolve
  rw [e.find?_qualifiedName]
  cases e with
  | base => rfl
  | layer c =>
    have built := buildLayer_respelled c respelling
    simp only [bind, pure, built]
  | dataset c =>
    have plan := datasetPlan_respelled c respelling ctx
    simp only [bind, pure, plan]

/-- However often a call of a class is respelled, what is constructed, the notices and the context
stay the same, and so does the error when nothing is constructed. -/
theorem spellings_construct_same (catalog : Catalog) (env : Environment) (e : Export)
    (ctx : Context γ) (call call' : Call) (spellings : Relation.EqvGen e.Respelling call call') :
    catalog.construct env e.qualifiedName call ctx =
      catalog.construct env e.qualifiedName call' ctx := by
  induction spellings with
  | rel call call' respelling => exact (catalog.construct_respelled env e ctx respelling).symm
  | refl call => rfl
  | symm call call' _ ih => exact ih.symm
  | trans call mid call' _ _ first second => exact first.trans second

theorem spellings_construct_same_on_pooling_calls :
    let pooling : Export := .layer .maxPool2d
    let ctx : Context Seeded := ⟨{}, .ofSeed 7, false⟩
    let plain : Call := ⟨[.int 3, .int 2], []⟩
    let spelled : Call := ⟨[.copies 2 3], [("stride", .int 2), ("padding", .none)]⟩
    let made (call : Call) := construct ⟨false⟩ {} pooling.qualifiedName call ctx
    Relation.EqvGen pooling.Respelling plain spelled ∧ made spelled = made plain ∧
      ((made plain).value.1.toOption.bind Constructed.layer?).isSome := by
  intro pooling ctx plain spelled made
  let sized : Call := ⟨[.copies 2 3, .int 2], []⟩
  let named : Call := ⟨[.copies 2 3], [("stride", .int 2)]⟩
  have size : pooling.Respelling plain sized :=
    ⟨_, rfl, .positionalTuple [] [.int 2] [] "kernel_size" 2 3 rfl rfl rfl⟩
  have name : pooling.Respelling sized named :=
    ⟨_, rfl, .named [.copies 2 3] [.int 2] [] rfl (by decide)⟩
  have none : pooling.Respelling named spelled :=
    ⟨_, rfl, .asNone [.copies 2 3] [("stride", .int 2)] "padding" (by decide) (by decide)
      (by decide) (by decide)⟩
  have chain : Relation.EqvGen pooling.Respelling plain spelled :=
    .trans _ _ _ (.rel _ _ size) (.trans _ _ _ (.rel _ _ name) (.rel _ _ none))
  have same := spellings_construct_same ⟨false⟩ {} pooling ctx plain spelled chain
  exact ⟨chain, same.symm, by decide +kernel⟩

end Catalog
end ShapeFlow
