import ShapeFlow.Proofs.Dataset.ItemRun
import ShapeFlow.Session
/-!
The datasets that a session opens are isolated from everything else that happens in it. Each takes
one word of the context's generator, in the order of their construction, and draws from a generator
of its own after that.
-/
namespace ShapeFlow

variable {γ : Type}

namespace Session

def Outcome.opened? : Outcome γ → Option (ImageDataset (Generator γ))
  | .constructed (.ok (.dataset d)) => some d
  | _ => none

def Outcome.drawn? : Outcome γ → Option (Item × Item)
  | .item sample label => some (sample, label)
  | _ => none

end Session

namespace Catalog
variable {ctx ctx' : Context γ} {name : String} {call : Call}

def plan? (ctx : Context γ) (name : String) (call : Call) : Option (DatasetOptions × Profile) :=
  match Export.find? name with
  | some (.dataset c) => (datasetPlan c call ctx).toOption
  | _ => none

theorem plan?_of_config (same : ctx.config = ctx'.config) :
    plan? ctx name call = plan? ctx' name call := by
  unfold plan? datasetPlan Context.profileFor
  rw [same]

theorem resolve_value (c : Catalog) (name : String) :
    (c.resolve name).value = Export.find? name := by
  unfold resolve
  split
  · rename_i found
    rw [found]
    rfl
  · rename_i missing
    rw [missing]
    rfl

variable [SeededSource γ]

/-- A construction opens a dataset on the context's next word, or leaves the context as it is. -/
theorem construct_cases (c : Catalog) (env : Environment) (name : String) (call : Call)
    (ctx : Context γ) :
    (∃ d options profile, (c.construct env name call ctx).value = (.ok (.dataset d), ctx.fork.2) ∧
      plan? ctx name call = some (options, profile) ∧
      d.Draws profile options.pipeline (.seeded ctx.fork.1)) ∨
    ((Session.Outcome.constructed (c.construct env name call ctx).value.1).opened? = none ∧
      (c.construct env name call ctx).value.2 = ctx) := by
  have found := resolve_value c name
  unfold construct
  simp only [Bind.bind]
  rw [found]
  cases entry : Export.find? name with
  | none => exact .inr ⟨rfl, rfl⟩
  | some e =>
    cases e with
    | base => exact .inr ⟨rfl, rfl⟩
    | layer l =>
      -- The context is not even read, whether the layer can be built or not.
      refine .inr ⟨?_, rfl⟩
      change (Session.Outcome.constructed
        (((buildLayer l call).mapError ConstructError.args).map .layer)).opened? = none
      cases buildLayer l call <;> rfl
    | dataset cls =>
      dsimp only
      cases plan : datasetPlan cls call ctx with
      | error why => exact .inr ⟨rfl, rfl⟩
      | ok made =>
        obtain ⟨options, profile⟩ := made
        refine .inl ⟨_, options, profile, rfl, ?_, ?_⟩
        · simp [plan?, entry, plan, Except.toOption]
        · exact ImageDataset.setVerbose_draws (cls.create_draws env options profile _) _

end Catalog

namespace Session
variable {s : Session γ} {d : ImageDataset (Generator γ)} {p : Profile} {pipeline : Pipeline}
  {g : Generator γ} {slot : String}

abbrev Trace (γ : Type) := List (Command × Outcome γ)

/-- The items drawn under the name of a dataset, up to the dataset that takes the name over. -/
def itemsFrom (slot : String) : Trace γ → List (Item × Item)
  | [] => []
  | (.item other _, .item sample label) :: rest =>
    if other = slot then (sample, label) :: itemsFrom slot rest else itemsFrom slot rest
  | (.construct other _ _, .constructed (.ok (.dataset _))) :: rest =>
    if other = slot then [] else itemsFrom slot rest
  | _ :: rest => itemsFrom slot rest

/-- A dataset that was opened, with the items that it yielded. -/
structure Opening (γ : Type) where
  name : String
  call : Call
  dataset : ImageDataset (Generator γ)
  items : List (Item × Item)

/-- The datasets that were opened, in order. One that was not kept yields nothing. -/
def openings : Trace γ → List (Opening γ)
  | [] => []
  | (.construct slot name call, .constructed (.ok (.dataset d))) :: rest =>
    ⟨name, call, d, itemsFrom slot rest⟩ :: openings rest
  | (.probe name call, .constructed (.ok (.dataset d))) :: rest =>
    ⟨name, call, d, []⟩ :: openings rest
  | _ :: rest => openings rest

theorem itemsFrom_quiet {c : Command} {o : Outcome γ} {rest : Trace γ} (undrawn : o.drawn? = none)
    (unopened : o.opened? = none) : itemsFrom slot ((c, o) :: rest) = itemsFrom slot rest := by
  rw [itemsFrom]
  · intro other index sample label same
    obtain ⟨-, rfl⟩ := Prod.mk.inj same
    cases undrawn
  · intro other name call d same
    obtain ⟨-, rfl⟩ := Prod.mk.inj same
    cases unopened

theorem openings_quiet {c : Command} {o : Outcome γ} {rest : Trace γ} (unopened : o.opened? = none) :
    openings ((c, o) :: rest) = openings rest := by
  rw [openings]
  · intro slot name call d same
    obtain ⟨-, rfl⟩ := Prod.mk.inj same
    cases unopened
  · intro name call d same
    obtain ⟨-, rfl⟩ := Prod.mk.inj same
    cases unopened

def Holds (s : Session γ) (slot : String) (p : Profile) (pipeline : Pipeline) (g : Generator γ) :
    Prop :=
  ∃ d, s.dataset? slot = some d ∧ d.Draws p pipeline g

theorem holds_putDataset (s : Session γ) (slot : String) (draws : d.Draws p pipeline g) :
    (s.putDataset slot d).Holds slot p pipeline g :=
  ⟨d, Table.lookup_put_self, draws⟩

theorem holds_put_other {other : String} (held : s.Holds slot p pipeline g) (ne : slot ≠ other)
    (d : ImageDataset (Generator γ)) : (s.putDataset other d).Holds slot p pipeline g := by
  obtain ⟨kept, found, draws⟩ := held
  exact ⟨kept, (Table.lookup_put_of_ne ne).trans found, draws⟩

theorem keep_context (s : Session γ) (slot : String) (r : Except ConstructError (Constructed γ)) :
    (s.keep slot r).context = s.context := by
  rcases r with why | l | d <;> rfl

variable [SeededSource γ]

def trace (s : Session γ) (commands : List Command) : Trace γ :=
  commands.zip (s.run commands).value.1

def opened (s : Session γ) (commands : List Command) : List (Opening γ) :=
  openings (s.trace commands)

theorem trace_cons (s : Session γ) (c : Command) (rest : List Command) :
    s.trace (c :: rest) = (c, (s.step c).value.1) :: (s.step c).value.2.trace rest := rfl

theorem run_cons (s : Session γ) (c : Command) (rest : List Command) :
    (s.run (c :: rest)).value.2 = ((s.step c).value.2.run rest).value.2 := rfl

theorem step_item (found : s.dataset? slot = some d) (index : Int) :
    (s.step (.item slot index)).value =
      (.item (d.item index).value.1.1 (d.item index).value.1.2,
        s.putDataset slot (d.item index).value.2) := by
  simp only [step, found]
  rfl

theorem step_item_absent (absent : s.dataset? slot = none) (index : Int) :
    (s.step (.item slot index)).value = (.noObject, s) := by
  simp only [step, absent]
  rfl

theorem step_setDatasetVerbose (found : s.dataset? slot = some d) (verbose : Bool) :
    (s.step (.setDatasetVerbose slot verbose)).value =
      (.done, s.putDataset slot (d.setVerbose verbose)) := by
  simp only [step, found]
  rfl

theorem step_setDatasetVerbose_absent (absent : s.dataset? slot = none) (verbose : Bool) :
    (s.step (.setDatasetVerbose slot verbose)).value = (.noObject, s) := by
  simp only [step, absent]
  rfl

theorem step_apply (s : Session γ) (slot : String) (inputs : List Shape) :
    (s.step (.apply slot inputs)).value.2 = s := by
  simp only [step]
  split <;> rfl

theorem step_construct (s : Session γ) (slot name : String) (call : Call) :
    (s.step (.construct slot name call)).value =
      let made := (s.catalog.construct s.env name call s.context).value
      (.constructed made.1, { s with context := made.2 }.keep slot made.1) := rfl

theorem step_probe (s : Session γ) (name : String) (call : Call) :
    (s.step (.probe name call)).value =
      let made := (s.catalog.construct s.env name call s.context).value
      (.constructed made.1, { s with context := made.2 }) := rfl

/-- A command yields the next item of a dataset, ends it, or leaves it as it is. -/
theorem step_items (held : s.Holds slot p pipeline g) (c : Command) (rest : Trace γ) :
    (itemsFrom slot ((c, (s.step c).value.1) :: rest) =
        p.itemFrom pipeline g 0 :: itemsFrom slot rest ∧
      (s.step c).value.2.Holds slot p pipeline (p.next g)) ∨
    itemsFrom slot ((c, (s.step c).value.1) :: rest) = [] ∨
    (itemsFrom slot ((c, (s.step c).value.1) :: rest) = itemsFrom slot rest ∧
      (s.step c).value.2.Holds slot p pipeline g) := by
  cases c with
  | resolve name => exact .inr (.inr ⟨itemsFrom_quiet rfl rfl, held⟩)
  | setVerbose verbose => exact .inr (.inr ⟨itemsFrom_quiet rfl rfl, held⟩)
  | probe name call => exact .inr (.inr ⟨rfl, held⟩)
  | apply other inputs =>
    rw [step_apply]
    exact .inr (.inr ⟨rfl, held⟩)
  | construct other name call =>
    right
    rw [step_construct]
    generalize (s.catalog.construct s.env name call s.context).value = made
    obtain ⟨_ | l | opened, ctx⟩ := made
    · exact .inr ⟨itemsFrom_quiet rfl rfl, held⟩
    · exact .inr ⟨itemsFrom_quiet rfl rfl, held⟩
    · by_cases here : other = slot
      · exact .inl (if_pos here)
      · exact .inr ⟨if_neg here, holds_put_other held (Ne.symm here) opened⟩
  | item other index =>
    by_cases here : other = slot
    · subst here
      obtain ⟨d, found, draws⟩ := held
      obtain ⟨drawn, next⟩ := ImageDataset.item_draws draws index
      rw [step_item found]
      refine .inl ⟨?_, holds_putDataset s other next⟩
      rw [← drawn]
      exact if_pos rfl
    · right
      right
      cases found : s.dataset? other with
      | none =>
        rw [step_item_absent found]
        exact ⟨itemsFrom_quiet rfl rfl, held⟩
      | some d =>
        rw [step_item found]
        exact ⟨if_neg here, holds_put_other held (Ne.symm here) _⟩
  | setDatasetVerbose other verbose =>
    right
    right
    cases found : s.dataset? other with
    | none =>
      rw [step_setDatasetVerbose_absent found]
      exact ⟨itemsFrom_quiet rfl rfl, held⟩
    | some d =>
      rw [step_setDatasetVerbose found]
      refine ⟨itemsFrom_quiet rfl rfl, ?_⟩
      by_cases here : other = slot
      · subst here
        obtain ⟨kept, same, draws⟩ := held
        obtain rfl := Option.some.inj (same.symm.trans found)
        exact holds_putDataset s other (ImageDataset.setVerbose_draws draws verbose)
      · exact holds_put_other held (Ne.symm here) _

/-- Under the name of a dataset, a run draws its items in order. -/
theorem itemsFrom_run (held : s.Holds slot p pipeline g) (commands : List Command) (j : Nat)
    (pair : Item × Item) (drawn : (itemsFrom slot (s.trace commands))[j]? = some pair) :
    pair = p.itemFrom pipeline g j := by
  induction commands generalizing s g j with
  | nil => cases drawn
  | cons c rest ih =>
    rw [trace_cons] at drawn
    rcases step_items held c ((s.step c).value.2.trace rest) with ⟨yields, next⟩ | ends | ⟨same, next⟩
    · rw [yields] at drawn
      cases j with
      | zero => exact (Option.some.inj drawn).symm
      | succ j =>
        rw [Profile.itemFrom_succ]
        exact ih next j drawn
    · rw [ends] at drawn
      cases drawn
    · rw [same] at drawn
      exact ih next j drawn

def Opening.Follows (o : Opening γ) (ctx : Context γ) (seed : UInt64) : Prop :=
  let source : Generator γ := .seeded (SeededSource.ofSeed seed)
  o.dataset.source = source ∧
    ∃ options profile, Catalog.plan? ctx o.name o.call = some (options, profile) ∧
      ∀ j pair, o.items[j]? = some pair → pair = profile.itemFrom options.pipeline source j

theorem fork_next (ctx : Context γ) :
    ctx.fork.2 = { ctx with generator := SeededSource.next ctx.generator } := rfl

/-- A command opens a dataset on the context's next word, or leaves the context as it is. -/
theorem step_openings (s : Session γ) (c : Command) (rest : List Command) :
    (∃ o, s.opened (c :: rest) = o :: (s.step c).value.2.opened rest ∧
      o.Follows s.context (SeededSource.nthWord s.context.generator 0) ∧
      (s.step c).value.1.opened? = some o.dataset ∧
      (s.step c).value.2.context = s.context.fork.2) ∨
    (s.opened (c :: rest) = (s.step c).value.2.opened rest ∧
      (s.step c).value.1.opened? = none ∧ (s.step c).value.2.context = s.context) := by
  unfold opened
  rw [trace_cons]
  cases c with
  | resolve name => exact .inr ⟨openings_quiet rfl, rfl, rfl⟩
  | setVerbose verbose => exact .inr ⟨openings_quiet rfl, rfl, rfl⟩
  | apply slot inputs =>
    have quiet : (s.step (.apply slot inputs)).value.1.opened? = none := by
      simp only [step]
      split <;> rfl
    exact .inr ⟨openings_quiet quiet, quiet, by rw [step_apply]⟩
  | item slot index =>
    cases found : s.dataset? slot with
    | none =>
      rw [step_item_absent found]
      exact .inr ⟨openings_quiet rfl, rfl, rfl⟩
    | some d =>
      rw [step_item found]
      exact .inr ⟨openings_quiet rfl, rfl, rfl⟩
  | setDatasetVerbose slot verbose =>
    cases found : s.dataset? slot with
    | none =>
      rw [step_setDatasetVerbose_absent found]
      exact .inr ⟨openings_quiet rfl, rfl, rfl⟩
    | some d =>
      rw [step_setDatasetVerbose found]
      exact .inr ⟨openings_quiet rfl, rfl, rfl⟩
  | construct slot name call =>
    rw [step_construct]
    rcases Catalog.construct_cases s.catalog s.env name call s.context with
      ⟨d, options, profile, made, plan, draws⟩ | ⟨closed, same⟩
    · rw [made]
      left
      refine ⟨⟨name, call, d, _⟩, rfl, ⟨draws.source, options, profile, plan, ?_⟩, rfl, rfl⟩
      exact itemsFrom_run (holds_putDataset _ slot draws) rest
    · refine .inr ⟨openings_quiet closed, closed, ?_⟩
      rw [keep_context]
      exact same
  | probe name call =>
    rw [step_probe]
    rcases Catalog.construct_cases s.catalog s.env name call s.context with
      ⟨d, options, profile, made, plan, draws⟩ | ⟨closed, same⟩
    · rw [made]
      left
      exact ⟨⟨name, call, d, []⟩, rfl, ⟨draws.source, options, profile, plan, nofun⟩, rfl, rfl⟩
    · exact .inr ⟨openings_quiet closed, closed, same⟩

theorem opened_run (s : Session γ) (commands : List Command) (k : Nat) (o : Opening γ)
    (found : (s.opened commands)[k]? = some o) :
    o.Follows s.context (SeededSource.nthWord s.context.generator k) := by
  induction commands generalizing s k with
  | nil => cases found
  | cons c rest ih =>
    rcases step_openings s c rest with ⟨first, opens, follows, -, forked⟩ | ⟨same, -, kept⟩
    · rw [opens] at found
      cases k with
      | zero =>
        obtain rfl := Option.some.inj found
        exact follows
      | succ k =>
        -- The rest of the run starts one word later, under the same configuration.
        obtain ⟨source, options, profile, plan, items⟩ := ih _ k found
        have config : (s.step c).value.2.context.config = s.context.config := by
          rw [forked, fork_next]
        rw [Catalog.plan?_of_config config] at plan
        rw [forked, fork_next, ← SeededSource.nthWord_succ] at source items
        exact ⟨source, options, profile, plan, items⟩
    · rw [same] at found
      have follows := ih _ k found
      rwa [kept] at follows

theorem context_run (s : Session γ) (commands : List Command) :
    (s.run commands).value.2.context =
      { s.context with
        generator := SeededSource.next^[(s.opened commands).length] s.context.generator } := by
  induction commands generalizing s with
  | nil => rfl
  | cons c rest ih =>
    rw [run_cons, ih]
    rcases step_openings s c rest with ⟨first, opens, -, -, forked⟩ | ⟨same, -, kept⟩
    · rw [opens, forked, fork_next, List.length_cons, Function.iterate_succ_apply]
    · rw [same, kept]

def Opening.construction (o : Opening γ) : String × Call := (o.name, o.call)

/-- Each dataset that a session opens takes the next word of the context as its seed, and its items
depend on nothing else but what it was opened with. Nothing else moves the context, so in another
session that opens the same datasets, among whatever else, they yield the same items. -/
theorem item_streams_isolated (s : Session γ) (commands : List Command) :
    (∀ (k : Nat) (o : Opening γ), (s.opened commands)[k]? = some o →
      o.Follows s.context (SeededSource.nthWord s.context.generator k)) ∧
    (∀ (s' : Session γ) (commands' : List Command), s'.context.config = s.context.config →
      s'.context.generator = s.context.generator →
      (s'.opened commands').map Opening.construction = (s.opened commands).map Opening.construction →
      ∀ (k j : Nat) (o o' : Opening γ) (pair pair' : Item × Item),
        (s.opened commands)[k]? = some o → (s'.opened commands')[k]? = some o' →
        o.items[j]? = some pair → o'.items[j]? = some pair' → pair' = pair) ∧
    (s.run commands).value.2.context =
      { s.context with
        generator := SeededSource.next^[(s.opened commands).length] s.context.generator } ∧
    (∀ c, (s.step c).value.1.opened? = none → (s.step c).value.2.context = s.context) := by
  refine ⟨opened_run s commands, ?_, context_run s commands, ?_⟩
  · intro s' commands' config generator same k j o o' pair pair' found found' drawn drawn'
    obtain ⟨-, options, profile, plan, items⟩ := opened_run s commands k o found
    obtain ⟨-, options', profile', plan', items'⟩ := opened_run s' commands' k o' found'
    have both := congrArg (·[k]?) same
    simp only [List.getElem?_map, found, found', Option.map_some, Option.some.injEq,
      Opening.construction, Prod.mk.injEq] at both
    rw [both.1, both.2, Catalog.plan?_of_config config, plan] at plan'
    obtain ⟨rfl, rfl⟩ := Prod.mk.inj (Option.some.inj plan')
    rw [items j pair drawn, items' j pair' drawn', generator]
  · intro c closed
    rcases step_openings s c [] with ⟨first, -, -, opens, -⟩ | ⟨-, -, kept⟩
    · rw [closed] at opens
      cases opens
    · exact kept

set_option maxRecDepth 1000 in
theorem item_streams_isolated_on_interleaving :
    let s := (start {} (⟨{}, .ofSeed 7, false⟩ : Context Seeded)).value
    let folder : Call := ⟨[.str "images"], []⟩
    let plain : List Command :=
      [.construct "a" "torchvision.datasets.ImageFolder" folder,
        .construct "b" "torchvision.datasets.CIFAR10" folder, .item "b" 0]
    let mixed : List Command :=
      [.construct "r" "torch.nn.ReLU" {}, .construct "a" "torchvision.datasets.CIFAR10" {},
        .construct "a" "torchvision.datasets.ImageFolder" folder, .item "a" 3,
        .probe "torch.nn.Module" folder, .construct "b" "torchvision.datasets.CIFAR10" folder,
        .apply "r" [⟨[.size "n"]⟩], .item "a" 0, .item "b" 5]
    let first (commands : List Command) := (s.opened commands)[1]?.bind (·.items[0]?)
    (first plain).isSome ∧ (first mixed).isSome ∧ first mixed = first plain := by
  intro s folder plain mixed first
  have yields : (first plain).isSome := by decide +kernel
  have yields' : (first mixed).isSome := by decide +kernel
  have same : (s.opened mixed).map Opening.construction =
      (s.opened plain).map Opening.construction := rfl
  obtain ⟨pair, drawn⟩ := Option.isSome_iff_exists.mp yields
  obtain ⟨pair', drawn'⟩ := Option.isSome_iff_exists.mp yields'
  obtain ⟨o, found, item⟩ := Option.bind_eq_some_iff.mp drawn
  obtain ⟨o', found', item'⟩ := Option.bind_eq_some_iff.mp drawn'
  have agree := (item_streams_isolated s plain).2.1 s mixed rfl rfl same 1 0 o o' pair pair'
    found found' item item'
  exact ⟨yields, yields', by rw [drawn, drawn', agree]⟩

end Session
end ShapeFlow
