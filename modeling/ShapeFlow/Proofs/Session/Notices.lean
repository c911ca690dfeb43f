import ShapeFlow.Proofs.Session.Verbosity
/-!
What a run writes. An item is noted if the context wants notices, by the configuration or by the
surroundings. A name that is not modelled is noted by the catalog, which only ever asks the
surroundings, so what the configuration wants does not reach it.
-/
namespace ShapeFlow

namespace Text

/-- A text takes one line, and one more for each line feed in it. -/
theorem cutLines_length (cs : List Char) : (cutLines cs).length = cs.count '\n' + 1 := by
  fun_induction cutLines cs with
  | case1 => rfl
  | case2 r ih => simp [ih]
  | case3 r _ ih => simp [ih]
  | case4 c r _ other none ih =>
    rw [none] at ih
    cases ih
  | case5 c r _ other line rest cut ih =>
    rw [cut] at ih
    rw [List.count_cons_of_ne (by simpa using other), ← ih]
    rfl

end Text

theorem Notice.lines_length (n : Notice) : n.lines.length = n.render.toList.count '\n' + 1 := by
  rw [lines, Text.lines, List.length_map, Text.cutLines_length]

theorem Catalog.resolve_unknown (c : Catalog) {name : String}
    (unknown : Export.find? name = none) :
    c.resolve name = ⟨none, if c.verbose then [.notModeled name] else []⟩ := by
  unfold resolve
  rw [unknown]
  change (⟨none, (Logged.noteIf c.verbose (.notModeled name)).log ++ []⟩ : Logged _) = _
  rw [List.append_nil]
  rfl

namespace Session
variable {γ : Type} {s : Session γ} {c : Command} {d : ImageDataset (Generator γ)} {slot : String}
  {names items : Bool}

/-- Whether unmodelled names and whether items are to be noted is still what it was when the session
was started. -/
structure Heeds (s : Session γ) (names items : Bool) : Prop where
  catalog : s.catalog.verbose = names
  context : s.context.verbose = items
  datasets : ∀ slot d, s.dataset? slot = some d → d.verbose = items

theorem heeds_start (env : Environment) (ctx : Context γ) :
    (start env ctx).value.Heeds env.wantsNotices.value ctx.verbose :=
  ⟨rfl, rfl, nofun⟩

theorem heeds_put (heeds : s.Heeds names items) (verbose : d.verbose = items) :
    (s.putDataset slot d).Heeds names items := by
  refine ⟨heeds.catalog, heeds.context, ?_⟩
  intro other e found
  by_cases here : other = slot
  · subst here
    rw [dataset?, putDataset, Table.lookup_put_self] at found
    obtain rfl := Option.some.inj found
    exact verbose
  · rw [dataset?, putDataset, Table.lookup_put_of_ne here] at found
    exact heeds.datasets other e found

theorem heeds_keep (heeds : s.Heeds names items) {r : Except ConstructError (Constructed γ)}
    (opened : ∀ d, r = .ok (.dataset d) → d.verbose = items) :
    (s.keep slot r).Heeds names items := by
  rcases r with why | l | d
  · exact heeds
  · exact ⟨heeds.catalog, heeds.context, heeds.datasets⟩
  · exact heeds_put heeds (opened d rfl)

variable [SeededSource γ]

def encounters (s : Session γ) : List Command → List (Session γ × Command)
  | [] => []
  | c :: rest => (s, c) :: (s.step c).value.2.encounters rest

theorem run_log (s : Session γ) (commands : List Command) :
    (s.run commands).log = (s.encounters commands).flatMap fun p => (p.1.step p.2).log := by
  induction commands generalizing s with
  | nil => rfl
  | cons c rest ih =>
    rw [encounters, List.flatMap_cons, ← ih]
    change (s.step c).log ++ (((s.step c).value.2.run rest).log ++ []) = _
    rw [List.append_nil]

/-- A construction leaves the wish of the context, and a dataset that it opens shares it. -/
theorem construct_verbose (c : Catalog) (env : Environment) (name : String) (call : Call)
    (ctx : Context γ) :
    (c.construct env name call ctx).value.2.verbose = ctx.verbose ∧
      ∀ d, (c.construct env name call ctx).value.1 = .ok (.dataset d) →
        d.verbose = ctx.verbose := by
  rw [Catalog.construct_value]
  split
  · exact ⟨rfl, nofun⟩
  · exact ⟨rfl, nofun⟩
  · rename_i l _
    refine ⟨rfl, ?_⟩
    intro d made
    cases built : Catalog.buildLayer l call <;> rw [built] at made <;> cases made
  · split
    · exact ⟨rfl, nofun⟩
    · rw [Catalog.openDataset_value]
      dsimp only
      rw [fork_next]
      refine ⟨rfl, ?_⟩
      intro d made
      exact congrArg ImageDataset.verbose (Constructed.dataset.inj (Except.ok.inj made)).symm

theorem heeds_step (heeds : s.Heeds names items) (asks : c.isSwitch = false) :
    (s.step c).value.2.Heeds names items := by
  cases c with
  | resolve name => exact heeds
  | apply slot inputs => rwa [step_apply]
  | item slot index =>
    cases found : s.dataset? slot with
    | none => rwa [step_item_absent found]
    | some d =>
      rw [step_item found]
      exact heeds_put heeds (heeds.datasets slot d found)
  | construct slot name call =>
    obtain ⟨kept, opened⟩ := construct_verbose s.catalog s.env name call s.context
    rw [heeds.context] at kept opened
    let reached := (s.catalog.construct s.env name call s.context).value
    have before : Heeds { s with context := reached.2 } names items :=
      ⟨heeds.catalog, kept, heeds.datasets⟩
    rw [step_construct]
    exact heeds_keep before opened
  | probe name call =>
    obtain ⟨kept, -⟩ := construct_verbose s.catalog s.env name call s.context
    rw [step_probe]
    exact ⟨heeds.catalog, kept.trans heeds.context, heeds.datasets⟩
  | setVerbose | setDatasetVerbose => cases asks

theorem heeds_run (heeds : s.Heeds names items) {commands : List Command}
    (asks : ∀ c ∈ commands, c.isSwitch = false) :
    ∀ p ∈ s.encounters commands, p.1.Heeds names items := by
  induction commands generalizing s with
  | nil => exact fun _ member => absurd member List.not_mem_nil
  | cons c rest ih =>
    obtain ⟨first, others⟩ := List.forall_mem_cons.mp asks
    have next := heeds_step heeds first
    exact List.forall_mem_cons.mpr ⟨heeds, ih next others⟩

theorem item_log (found : s.dataset? slot = some d) (index : Int) :
    (s.step (.item slot index)).log =
      if d.verbose then [.itemDrawn d.className index d.draw.1.1 d.draw.1.2] else [] := by
  simp only [step, found]
  change (Logged.noteIf d.verbose _).log ++ [] ++ [] = _
  simp only [List.append_nil]
  rfl

def Command.name? : Command → Option String
  | .resolve name | .construct _ name _ | .probe name _ => some name
  | _ => none

theorem unmodeled_log {name : String} (asked : c.name? = some name)
    (unknown : Export.find? name = none) :
    (s.step c).log = if s.catalog.verbose then [.notModeled name] else [] := by
  have resolved := s.catalog.resolve_unknown unknown
  cases c with
  | resolve | construct | probe =>
    cases asked
    simp only [step, Catalog.construct, resolved, Bind.bind, Pure.pure, List.append_nil]
  | apply | item | setVerbose | setDatasetVerbose => cases asked

/-- A run writes what its commands write. Without switches among them, an item is noted exactly once
if the context wants notices, and a name that is not modelled exactly once if the surroundings asked
for notices when the catalog was made. A configuration that asks for them makes its context want
them and does not reach the catalog. A notice takes one line, unless what it names holds line
feeds. -/
theorem notices_of_run (config : Config) (contextEnv catalogEnv : Environment) (entropy : UInt64)
    (commands : List Command) (asks : ∀ c ∈ commands, c.isSwitch = false) :
    let context : Context γ := (Context.ofConfig contextEnv entropy config).value
    let started := (start catalogEnv context).value
    let found := started.encounters commands
    context.verbose = (config.verbose || contextEnv.wantsNotices.value) ∧
    (started.run commands).log = found.flatMap (fun p => (p.1.step p.2).log) ∧
    (∀ (s : Session γ) (slot : String) (index : Int) (d : ImageDataset (Generator γ)),
      (s, .item slot index) ∈ found → s.dataset? slot = some d →
      (s.step (.item slot index)).log =
        if context.verbose then [.itemDrawn d.className index d.draw.1.1 d.draw.1.2] else []) ∧
    (∀ (s : Session γ) (c : Command) (name : String),
      (s, c) ∈ found → c.name? = some name → Export.find? name = none →
      (s.step c).log = if catalogEnv.wantsNotices.value then [.notModeled name] else []) ∧
    (∀ n : Notice, n.lines.length = n.render.toList.count '\n' + 1) := by
  intro context started found
  have heeds := heeds_run (heeds_start catalogEnv context) asks
  refine ⟨?_, run_log started commands, ?_, ?_, Notice.lines_length⟩
  · rw [show context = _ from Context.ofConfig_value contextEnv entropy config]
  · intro s slot index d met there
    rw [item_log there, (heeds _ met).datasets slot d there]
  · intro s c name met asked unknown
    rw [unmodeled_log asked unknown, (heeds _ met).catalog]

/-- The configuration asks for notices and the surroundings do not: the item is noted, the name that
is not modelled is not. -/
theorem notices_of_run_in_silent_surroundings :
    let context : Context Seeded :=
      (Context.ofConfig {} 0 { seed := some 7, verbose := true }).value
    let folder : Command := .construct "a" "torchvision.datasets.ImageFolder" ⟨[.str "images"], []⟩
    let started := (start {} context).value
    let opened := (started.step folder).value.2
    let drawn := (opened.step (.item "a" 0)).value.2
    context.verbose = true ∧ (opened.step (.item "a" 0)).log.length = 1 ∧
      (drawn.step (.construct "g" "torch.nn.GRU" {})).log = [] := by
  intro context folder started opened drawn
  have run : started.encounters [folder, .item "a" 0, .construct "g" "torch.nn.GRU" {}] =
      [(started, folder), (opened, .item "a" 0), (drawn, .construct "g" "torch.nn.GRU" {})] := rfl
  obtain ⟨-, -, items, names, -⟩ :=
    @notices_of_run Seeded _ { seed := some 7, verbose := true } {} {} 0
      [folder, .item "a" 0, .construct "g" "torch.nn.GRU" {}] (by decide)
  rw [run] at items names
  have there : (opened.dataset? "a").isSome := by decide +kernel
  obtain ⟨d, found⟩ := Option.isSome_iff_exists.mp there
  refine ⟨rfl, ?_, ?_⟩
  · rw [items opened "a" 0 d (List.mem_cons_of_mem _ List.mem_cons_self) found]
    rfl
  · refine names drawn (.construct "g" "torch.nn.GRU" {}) "torch.nn.GRU" ?_ rfl rfl
    exact List.mem_cons_of_mem _ (List.mem_cons_of_mem _ List.mem_cons_self)

end Session
end ShapeFlow
