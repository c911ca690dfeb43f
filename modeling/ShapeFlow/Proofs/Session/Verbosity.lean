import ShapeFlow.Proofs.Session.Isolation
/-!
Whether notices are written never changes a result. The wish for them is kept in the configuration,
the surroundings, the context, the catalog and every dataset; with all of these struck out, a run
goes the same way whatever they were and however they change on the way.
-/
namespace ShapeFlow

namespace Table
variable {α β : Type} {name : String} {a : α} {t : Table α}

theorem names_mapped (f : α → β) (entries : List (String × α)) :
    (entries.map fun p => (p.1, f p.2)).map Prod.fst = entries.map Prod.fst := by
  rw [List.map_map]
  rfl

def mapped (f : α → β) (t : Table α) : Table β :=
  ⟨t.entries.map fun p => (p.1, f p.2), by rw [names_mapped]; exact t.distinct⟩

theorem lookup_mapped (f : α → β) (name : String) (t : Table α) :
    (t.mapped f).lookup name = (t.lookup name).map f := by
  unfold mapped lookup
  dsimp only
  induction t.entries with
  | nil => rfl
  | cons p rest ih =>
    rw [List.map_cons, List.lookup_cons, List.lookup_cons, ih]
    cases name == p.1 <;> rfl

theorem mapped_put (f : α → β) (name : String) (a : α) (t : Table α) :
    (t.put name a).mapped f = (t.mapped f).put name (f a) := by
  unfold mapped put
  rw [mk.injEq]
  dsimp only
  induction t.entries with
  | nil => rfl
  | cons p rest ih =>
    by_cases here : p.1 = name
    · simp [Entries.put, here]
    · simpa [Entries.put, here] using ih

theorem put_of_lookup (present : t.lookup name = some a) : t.put name a = t := by
  obtain ⟨entries, distinct⟩ := t
  unfold put
  rw [mk.injEq]
  unfold lookup at present
  dsimp only at present ⊢
  clear distinct
  induction entries with
  | nil => cases present
  | cons p rest ih =>
    obtain ⟨n, b⟩ := p
    by_cases here : n = name
    · simp_all [Entries.put]
    · have other : (name == n) = false := by simpa using fun e => here e.symm
      rw [List.lookup_cons, other] at present
      rw [Entries.put, if_neg here, ih present]

end Table

variable {γ : Type}

def Config.silenced (c : Config) : Config := { c with verbose := false }

def Context.silenced (c : Context γ) : Context γ := ⟨c.config.silenced, c.generator, false⟩

def ImageDataset.silenced (d : ImageDataset (Generator γ)) : ImageDataset (Generator γ) :=
  d.setVerbose false

def Constructed.silenced : Constructed γ → Constructed γ
  | .layer l => .layer l
  | .dataset d => .dataset d.silenced

namespace Context
variable [SeededSource γ]

def quiet (config : Config) (entropy : UInt64) : Context γ :=
  ⟨config.silenced, SeededSource.ofSeed (config.seed.getD entropy), false⟩

theorem ofConfig_value (env : Environment) (entropy : UInt64) (config : Config) :
    (ofConfig env entropy config : Logged (Context γ)).value =
      ⟨config, SeededSource.ofSeed (config.seed.getD entropy),
        config.verbose || env.wantsNotices.value⟩ := by
  unfold ofConfig
  cases wanted : config.verbose <;> rfl

theorem ofConfig_silenced (env : Environment) (entropy : UInt64) (config : Config) :
    (ofConfig env entropy config : Logged (Context γ)).value.silenced = quiet config entropy := by
  rw [ofConfig_value]
  rfl

def within (env : Environment) (entropy : UInt64) (config : Config) :
    Except ConfigError (Logged (Context γ)) := do
  return (← config.withEnvironment env) >>= ofConfig env entropy

theorem within_silenced (env : Environment) (text : Option String) (entropy : UInt64)
    (config : Config) :
    (within { env with verbose := text } entropy config).map (·.value.silenced) =
      (within env entropy config).map fun c : Logged (Context γ) => c.value.silenced := by
  have made : ∀ surroundings (c : Config) (asked : Option String),
      (c.withVerbose asked >>= ofConfig surroundings entropy).value.silenced =
        (quiet c entropy : Context γ) := by
    intro surroundings c asked
    have same : (quiet (c.withVerbose asked).value entropy : Context γ) = quiet c entropy := by
      cases asked <;> rfl
    rw [← same]
    exact ofConfig_silenced surroundings entropy (c.withVerbose asked).value
  unfold within Config.withEnvironment
  simp only [Bind.bind, Except.bind]
  cases config.withSeed env.seed with
  | error why => rfl
  | ok c => exact congrArg Except.ok ((made _ c text).trans (made _ c env.verbose).symm)

/-- The variable that asks for notices decides about notices alone, also where the surroundings
describe the context. -/
theorem ofEnvironment_silenced (env : Environment) (text : Option String) (entropy : UInt64) :
    (ofEnvironment { env with verbose := text } entropy).map (·.value.silenced) =
      (ofEnvironment env entropy).map fun c : Logged (Context γ) => c.value.silenced := by
  unfold ofEnvironment
  cases env.configFile with
  | none => exact within_silenced env text entropy {}
  | some file =>
    dsimp only
    cases Config.ofFile file with
    | error why => rfl
    | ok config => exact within_silenced env text entropy config

end Context

namespace Catalog

def silence (made : Except ConstructError (Constructed γ) × Context γ) :
    Except ConstructError (Constructed γ) × Context γ :=
  (made.1.map Constructed.silenced, made.2.silenced)

variable [SeededSource γ]

theorem openDataset_value (env : Environment) (c : DatasetClass) (options : DatasetOptions)
    (profile : Profile) (ctx : Context γ) :
    (openDataset env c options profile ctx).value =
      ((c.create env options profile (.seeded ctx.fork.1)).value.setVerbose ctx.verbose,
        ctx.fork.2) := rfl

theorem openDataset_silenced (env : Environment) (c : DatasetClass) (options : DatasetOptions)
    (profile : Profile) (ctx : Context γ) :
    let opened := (openDataset env c options profile ctx).value
    let quiet := (openDataset {} c options profile ctx.silenced).value
    opened.1.silenced = quiet.1.silenced ∧ opened.2.silenced = quiet.2.silenced := by
  cases c <;> exact ⟨rfl, rfl⟩

theorem construct_value (c : Catalog) (env : Environment) (name : String) (call : Call)
    (ctx : Context γ) :
    (c.construct env name call ctx).value =
      match Export.find? name with
      | none => (.error (.notModeled name), ctx)
      | some .base => (.error (.notConstructible Export.base.name), ctx)
      | some (.layer l) => (((buildLayer l call).mapError .args).map .layer, ctx)
      | some (.dataset d) =>
        match datasetPlan d call ctx with
        | .error why => (.error why, ctx)
        | .ok (options, profile) =>
          let opened := (openDataset env d options profile ctx).value
          (.ok (.dataset opened.1), opened.2) := by
  have found := resolve_value c name
  unfold construct
  simp only [Bind.bind]
  rw [found]
  cases Export.find? name with
  | none => rfl
  | some e =>
    cases e with
    | base => rfl
    | layer l => rfl
    | dataset d =>
      dsimp only
      cases datasetPlan d call ctx with
      | error why => rfl
      | ok made => rfl

theorem construct_silenced (c : Catalog) (env : Environment) (name : String) (call : Call)
    (ctx : Context γ) :
    silence (c.construct env name call ctx).value =
      silence ((Catalog.mk false).construct {} name call ctx.silenced).value := by
  rw [construct_value, construct_value]
  cases Export.find? name with
  | none => rfl
  | some e =>
    cases e with
    | base => rfl
    | layer l => rfl
    | dataset d =>
      have plan : datasetPlan d call ctx.silenced = datasetPlan d call ctx := rfl
      dsimp only
      rw [plan]
      cases datasetPlan d call ctx with
      | error why => rfl
      | ok made =>
        obtain ⟨options, profile⟩ := made
        obtain ⟨dataset, context⟩ := openDataset_silenced env d options profile ctx
        exact Prod.ext (congrArg (fun d => Except.ok (Constructed.dataset d)) dataset) context

end Catalog

namespace Session

def Outcome.silenced : Outcome γ → Outcome γ
  | .constructed r => .constructed (r.map Constructed.silenced)
  | o => o

/-- The session without any wish for notices. Nothing else of the surroundings is looked at. -/
def silenced (s : Session γ) : Session γ :=
  { env := {}, catalog := ⟨false⟩, context := s.context.silenced, layers := s.layers,
    datasets := s.datasets.mapped ImageDataset.silenced }

def silence (reached : Outcome γ × Session γ) : Outcome γ × Session γ :=
  (reached.1.silenced, reached.2.silenced)

theorem putDataset_silenced (s : Session γ) (slot : String) (d : ImageDataset (Generator γ)) :
    (s.putDataset slot d).silenced = s.silenced.putDataset slot d.silenced := by
  simp only [silenced, putDataset, Table.mapped_put]

theorem dataset?_silenced (s : Session γ) (slot : String) :
    s.silenced.dataset? slot = (s.dataset? slot).map ImageDataset.silenced :=
  Table.lookup_mapped ImageDataset.silenced slot s.datasets

theorem silenced_silenced (s : Session γ) : s.silenced.silenced = s.silenced := by
  simp only [silenced, Table.mapped, List.map_map]
  rfl

theorem silence_unchanged (s : Session γ) {o o' : Outcome γ} (same : o.silenced = o'.silenced) :
    silence (o, s) = silence (o', s.silenced) :=
  Prod.ext same s.silenced_silenced.symm

theorem silence_put (s : Session γ) (slot : String) (o : Outcome γ) {d d' : ImageDataset (Generator γ)}
    (same : d.silenced = d'.silenced) :
    silence (o, s.putDataset slot d) = silence (o, s.silenced.putDataset slot d') := by
  simp only [silence, putDataset_silenced, same, s.silenced_silenced]

theorem keep_silenced (s : Session γ) (slot : String) (r : Except ConstructError (Constructed γ)) :
    (s.keep slot r).silenced = s.silenced.keep slot (r.map Constructed.silenced) := by
  rcases r with why | l | d
  · rfl
  · rfl
  · exact putDataset_silenced s slot d

theorem withContext_silenced (s : Session γ) {c c' : Context γ} (same : c.silenced = c'.silenced) :
    { s with context := c }.silenced = { s.silenced with context := c' }.silenced := by
  change { s.silenced with context := c.silenced } =
    { s.silenced.silenced with context := c'.silenced }
  rw [s.silenced_silenced, same]

theorem silence_kept (s : Session γ) (slot : String)
    {made made' : Except ConstructError (Constructed γ) × Context γ}
    (same : Catalog.silence made = Catalog.silence made') :
    silence (.constructed made.1, { s with context := made.2 }.keep slot made.1) =
      silence (.constructed made'.1, { s.silenced with context := made'.2 }.keep slot made'.1) := by
  obtain ⟨result, context⟩ := Prod.mk.inj same
  refine Prod.ext (congrArg Outcome.constructed result) ?_
  simp only [silence, keep_silenced, withContext_silenced s context, result]

/-- What a host can tell after a command: the outcome and the states of all generators. -/
def view (reached : Outcome γ × Session γ) : Outcome γ × γ × Table (Generator γ) :=
  (reached.1.silenced, reached.2.context.generator, reached.2.datasets.mapped (·.source))

theorem view_silence (reached : Outcome γ × Session γ) : view (silence reached) = view reached := by
  obtain ⟨o, s⟩ := reached
  refine Prod.ext ?_ (Prod.ext rfl ?_)
  · rcases o with _ | r | _ | _ | _ | _
    · rfl
    · rcases r with why | l | d <;> rfl
    all_goals rfl
  · simp only [view, silence, silenced, Table.mapped, List.map_map]
    rfl

variable [SeededSource γ]

theorem step_silenced (s : Session γ) (c : Command) :
    silence (s.step c).value = silence (s.silenced.step c).value := by
  cases c with
  | resolve name =>
    have found := Catalog.resolve_value s.catalog name
    have found' := Catalog.resolve_value ⟨false⟩ name
    exact silence_unchanged s (congrArg Outcome.resolved (found.trans found'.symm))
  | setVerbose verbose => exact silence_unchanged s rfl
  | apply slot inputs =>
    have there : s.silenced.layer? slot = s.layer? slot := rfl
    simp only [step, there]
    cases s.layer? slot with
    | none => exact silence_unchanged s rfl
    | some l => exact silence_unchanged s rfl
  | construct slot name call =>
    exact silence_kept s slot (Catalog.construct_silenced s.catalog s.env name call s.context)
  | probe name call =>
    have made := Catalog.construct_silenced s.catalog s.env name call s.context
    obtain ⟨result, context⟩ := Prod.mk.inj made
    exact Prod.ext (congrArg Outcome.constructed result) (withContext_silenced s context)
  | item slot index =>
    have there := dataset?_silenced s slot
    cases found : s.dataset? slot with
    | none =>
      rw [found] at there
      rw [step_item_absent found, step_item_absent there]
      exact silence_unchanged s rfl
    | some d =>
      rw [found] at there
      rw [step_item found, step_item there]
      exact silence_put s slot _ rfl
  | setDatasetVerbose slot verbose =>
    have there := dataset?_silenced s slot
    cases found : s.dataset? slot with
    | none =>
      rw [found] at there
      rw [step_setDatasetVerbose_absent found, step_setDatasetVerbose_absent there]
      exact silence_unchanged s rfl
    | some d =>
      rw [found] at there
      rw [step_setDatasetVerbose found, step_setDatasetVerbose there]
      exact silence_put s slot _ rfl

inductive Event where
  | command (c : Command)
  | surroundings (text : Option String)

def Command.isSwitch : Command → Bool
  | .setVerbose _ | .setDatasetVerbose _ _ => true
  | _ => false

/-- The commands that ask for something, without all that turns notices on or off. -/
def asked : List Event → List Command
  | [] => []
  | .command c :: rest => if c.isSwitch then asked rest else c :: asked rest
  | .surroundings _ :: rest => asked rest

def setVariable (s : Session γ) (text : Option String) : Session γ :=
  { s with env := { s.env with verbose := text } }

def history (s : Session γ) : List Event → List (Outcome γ × Session γ)
  | [] => []
  | .command c :: rest =>
    let reached := (s.step c).value
    if c.isSwitch then reached.2.history rest else reached :: reached.2.history rest
  | .surroundings text :: rest => (s.setVariable text).history rest

theorem switch_silenced (s : Session γ) {c : Command} (switch : c.isSwitch = true) :
    (s.step c).value.2.silenced = s.silenced := by
  cases c with
  | setVerbose verbose => rfl
  | setDatasetVerbose slot verbose =>
    cases found : s.dataset? slot with
    | none => rw [step_setDatasetVerbose_absent found]
    | some d =>
      have there : s.silenced.dataset? slot = some d.silenced := by
        rw [dataset?_silenced, found]
        rfl
      rw [step_setDatasetVerbose found, putDataset_silenced]
      exact congrArg (fun datasets => { s.silenced with datasets }) (Table.put_of_lookup there)
  | resolve | construct | probe | apply | item => cases switch

theorem step_alike {s s' : Session γ} (alike : s'.silenced = s.silenced) (c : Command) :
    silence (s'.step c).value = silence (s.step c).value := by
  rw [step_silenced s', step_silenced s, alike]

/-- A run is that of its commands alone, whatever is turned on or off between them. -/
theorem history_asked {s s' : Session γ} (alike : s'.silenced = s.silenced) (events : List Event) :
    (s.history events).map silence = (s'.history ((asked events).map .command)).map silence := by
  induction events generalizing s s' with
  | nil => rfl
  | cons event rest ih =>
    cases event with
    | surroundings text => exact ih alike
    | command c =>
      by_cases switch : c.isSwitch = true
      · -- A switch is passed over; the sessions stay alike.
        rw [history, asked, if_pos switch, if_pos switch]
        exact ih (alike.trans (switch_silenced s switch).symm)
      · have reached := step_alike alike c
        rw [history, asked, if_neg switch, if_neg switch, List.map_cons, List.map_cons, history,
          if_neg switch, List.map_cons, reached, ih (congrArg Prod.snd reached)]

theorem history_alike {s s' : Session γ} {events events' : List Event}
    (alike : s'.silenced = s.silenced) (same : asked events' = asked events) :
    (s'.history events').map view = (s.history events).map view := by
  -- Both runs are the run of the commands alone, which is one run.
  have agree : (s'.history events').map silence = (s.history events).map silence := by
    rw [history_asked alike.symm events', history_asked rfl events, same]
  have seen : ∀ run : List (Outcome γ × Session γ), run.map view = (run.map silence).map view := by
    intro run
    rw [List.map_map]
    exact List.map_congr_left fun reached _ => (view_silence reached).symm
  rw [seen, agree, ← seen]

/-- Contexts of one seeded configuration are alike, however the configuration and the surroundings
ask for notices, and so are contexts that the surroundings describe. Runs that ask the same in alike
contexts agree after every command in its outcome and in the states of all generators, whatever the
surroundings ask for when the catalog or a dataset is made and whatever is switched on the way. -/
theorem verbosity_never_observed :
    (∀ (config : Config) (seed : UInt64) (verbose : Bool) (env env' : Environment)
      (entropy entropy' : UInt64), config.seed = some seed →
      (Context.ofConfig env' entropy' { config with verbose }).value.silenced =
        (Context.ofConfig env entropy config : Logged (Context γ)).value.silenced) ∧
    (∀ (env : Environment) (text : Option String) (entropy : UInt64),
      (Context.ofEnvironment { env with verbose := text } entropy).map (·.value.silenced) =
        (Context.ofEnvironment env entropy).map fun c : Logged (Context γ) => c.value.silenced) ∧
    ∀ (context context' : Context γ) (env env' : Environment) (events events' : List Event),
      context'.silenced = context.silenced → asked events' = asked events →
      ((start env' context').value.history events').map view =
        ((start env context).value.history events).map view := by
  refine ⟨?_, Context.ofEnvironment_silenced, ?_⟩
  · intro config seed verbose env env' entropy entropy' seeded
    rw [Context.ofConfig_silenced, Context.ofConfig_silenced]
    simp [Context.quiet, Config.silenced, seeded]
  · intro context context' env env' events events' alike same
    refine history_alike ?_ same
    change Session.mk {} ⟨false⟩ context'.silenced .empty .empty =
      Session.mk {} ⟨false⟩ context.silenced .empty .empty
    rw [alike]

theorem verbosity_never_observed_on_switched_run :
    let config : Config := { seed := some 7 }
    let context : Context Seeded := (Context.ofConfig {} 1 config).value
    let context' : Context Seeded :=
      (Context.ofConfig { verbose := some "y" } 2 { config with verbose := true }).value
    let folder : Command := .construct "a" "torchvision.datasets.ImageFolder" ⟨[.str "images"], []⟩
    let events : List Event := [.command folder, .command (.item "a" 3),
      .command (.resolve "torch.nn.GRU")]
    let events' : List Event := [.surroundings none, .command folder, .surroundings (some "maybe"),
      .command (.setDatasetVerbose "a" false), .command (.item "a" 3),
      .command (.setVerbose false), .command (.resolve "torch.nn.GRU")]
    context.verbose = false ∧ context'.verbose = true ∧
      ((start { verbose := some "1" } context').value.history events').map view =
        ((start {} context).value.history events).map view := by
  intro config context context' folder events events'
  obtain ⟨configured, -, runs⟩ := @verbosity_never_observed Seeded _
  have alike : context'.silenced = context.silenced :=
    configured config 7 true {} { verbose := some "y" } 1 2 rfl
  exact ⟨rfl, rfl, runs context context' {} { verbose := some "1" } events events' alike rfl⟩

end Session
end ShapeFlow
