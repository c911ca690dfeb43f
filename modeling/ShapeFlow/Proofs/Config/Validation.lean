import Mathlib.Control.Monad.Basic
import ShapeFlow.Proofs.Expr.Evaluation
import ShapeFlow.Proofs.Session.Isolation
/-!
Validation of configurations. It accepts exactly the changes that can be made to every profile of
images, and reports the fault that making them would meet first. So a configuration that was read
and accepted never stops a construction.
-/
namespace ShapeFlow

theorem map_eq_error {ε α β : Type} {f : α → β} {x : Except ε α} {e : ε} :
    x.map f = .error e ↔ x = .error e := by
  cases x with
  | error d => simp [Except.map]
  | ok a => simp [Except.map]

namespace Override
variable {o : Override} {p : Profile}

/-- Where every size has a policy to replace, replacing them meets the faults that the check of the
sizes meets. -/
theorem replaceSpecified_outcome (specs : List (Option SizeSpec)) (ds : List DimPolicy)
    (room : specs.length ≤ ds.length) :
    (replaceSpecified specs ds).map (fun _ => ()) = validateSpecs specs := by
  induction specs generalizing ds with
  | nil => cases ds <;> rfl
  | cons spec specs ih =>
    cases ds with
    | nil => simp at room
    | cons d ds =>
      have rest := ih ds (by simpa using room)
      rw [replaceSpecified.eq_def, validateSpecs.eq_def]
      cases spec with
      | none =>
        dsimp only
        rw [← rest]
        cases replaceSpecified specs ds <;> rfl
      | some s =>
        dsimp only
        rw [← rest]
        cases s.policy with
        | error why => rfl
        | ok d => cases replaceSpecified specs ds <;> rfl

theorem imagePolicy_outcome (o : Override) {p : ShapePolicy} (rank : 3 ≤ p.ndim) :
    (o.imagePolicy p).map (fun _ => ()) = validateSpecs o.sizeSpecs := by
  have room : o.sizeSpecs.length ≤ (p.dims.drop (p.ndim - 3)).length := by
    have three : o.sizeSpecs.length = 3 := rfl
    rw [three, List.length_drop]
    unfold ShapePolicy.ndim at rank ⊢
    omega
  have outcome := replaceSpecified_outcome o.sizeSpecs (p.dims.drop (p.ndim - 3)) room
  unfold imagePolicy
  rw [if_neg (by omega), ← outcome]
  cases replaceSpecified o.sizeSpecs (p.dims.drop (p.ndim - 3)) <;> rfl

/-- Checking the changes is making them, the profile that results left aside. -/
theorem apply_outcome (o : Override) (rank : 3 ≤ p.image.ndim) :
    (o.apply p).map (fun _ => ()) = o.validate := by
  unfold apply validate
  rw [← imagePolicy_outcome o rank]
  cases o.labelRange with
  | error why => rfl
  | ok labels => cases o.imagePolicy p.image <;> rfl

theorem validate_eq_error (o : Override) (rank : 3 ≤ p.image.ndim) (why : PolicyError) :
    o.validate = .error why ↔ o.apply p = .error why := by
  rw [← apply_outcome o rank, map_eq_error]

theorem validate_eq_ok (o : Override) (rank : 3 ≤ p.image.ndim) :
    o.validate = .ok () ↔ ∃ q, o.apply p = .ok q := by
  rw [← apply_outcome o rank, map_eq_ok]
  simp

/-- A profile of fewer dimensions takes only the labels, which have been checked too. -/
theorem apply_of_validate (valid : o.validate = .ok ()) (p : Profile) : ∃ q, o.apply p = .ok q := by
  by_cases rank : 3 ≤ p.image.ndim
  · exact (validate_eq_ok o rank).mp valid
  · have kept : o.imagePolicy p.image = .ok p.image := by
      rw [imagePolicy, if_pos (by omega)]
    cases labels : o.labelRange with
    | error why =>
      rw [validate, labels] at valid
      cases valid
    | ok range =>
      rw [apply, labels, kept]
      exact ⟨_, rfl⟩

end Override

namespace Config
variable {c : Config} {name : String} {o : Override}

theorem named_eq_ok {α : Type} {x : Except PolicyError α} {a : α} :
    named name x = .ok a ↔ x = .ok a := by
  cases x with
  | error why => simp [named]
  | ok b => simp [named]

theorem validateAll_eq_ok (entries : List (String × Override)) :
    validateAll entries = .ok () ↔ ∀ e ∈ entries, e.2.validate = .ok () := by
  induction entries with
  | nil => simp [validateAll]
  | cons e rest ih =>
    obtain ⟨name, o⟩ := e
    simp only [validateAll, bind_eq_ok, named_eq_ok, ih, List.forall_mem_cons]
    constructor
    · rintro ⟨_, first, others⟩
      exact ⟨first, others⟩
    · rintro ⟨first, others⟩
      exact ⟨(), first, others⟩

theorem profileFor_of_lookup (found : c.datasets.lookup name = some o) (default : Profile) :
    c.profileFor name default = named name (o.apply default) := by
  simp only [profileFor, found]

theorem profileFor_of_validate (valid : c.validate = .ok ()) (name : String) (default : Profile) :
    ∃ p, c.profileFor name default = .ok p := by
  cases found : c.datasets.lookup name with
  | none =>
    simp only [profileFor, found]
    exact ⟨default, rfl⟩
  | some o =>
    have member : (name, o) ∈ c.datasets.entries := Table.lookup_eq_some_iff.mp found
    have sound := (validateAll_eq_ok c.datasets.entries).mp valid _ member
    obtain ⟨p, made⟩ := Override.apply_of_validate sound default
    exact ⟨p, by rw [profileFor_of_lookup found, made, named]⟩

theorem validate_of_profileFor {default : Profile} (rank : 3 ≤ default.image.ndim)
    (made : ∀ name ∈ c.datasets.names, ∃ p, c.profileFor name default = .ok p) :
    c.validate = .ok () := by
  rw [validate, validateAll_eq_ok]
  intro (name, o) member
  have found : c.datasets.lookup name = some o := Table.lookup_eq_some_iff.mpr member
  obtain ⟨p, profile⟩ := made name (List.mem_map.mpr ⟨(name, o), member, rfl⟩)
  rw [profileFor_of_lookup found, named_eq_ok] at profile
  exact (Override.validate_eq_ok o rank).mpr ⟨p, profile⟩

theorem validate_of_ofText {text : String} (accepted : ofText text = .ok c) :
    c.validate = .ok () := by
  simp only [ofText, bind_eq_ok, pure_eq_ok] at accepted
  obtain ⟨read, -, _, valid, rfl⟩ := accepted
  exact valid

end Config

namespace Catalog
variable {γ : Type} {ctx : Context γ} {why : ConfigError}

theorem profileFor_of_datasetPlan {c : DatasetClass} {call : Call}
    (failed : datasetPlan c call ctx = .error (.config why)) :
    ctx.profileFor c.name c.defaultProfile = .error why := by
  unfold datasetPlan at failed
  generalize (c.signature.bind c.name call).bind c.options = read at failed
  cases read with
  | error refused => cases failed
  | ok options =>
    cases profile : ctx.profileFor c.name c.defaultProfile with
    | error cause =>
      rw [profile] at failed
      cases failed
      rfl
    | ok p =>
      rw [profile] at failed
      cases failed

variable [SeededSource γ]

/-- A construction fails for the configuration only where a dataset class is denied its profile. -/
theorem profileFor_of_construct {c : Catalog} {env : Environment} {name : String} {call : Call}
    (failed : (c.construct env name call ctx).value.1 = .error (.config why)) :
    ∃ cls : DatasetClass, ctx.profileFor cls.name cls.defaultProfile = .error why := by
  have found := resolve_value c name
  unfold construct at failed
  simp only [Bind.bind] at failed
  rw [found] at failed
  cases entry : Export.find? name with
  | none =>
    rw [entry] at failed
    cases failed
  | some e =>
    rw [entry] at failed
    cases e with
    | base => cases failed
    | layer l =>
      replace failed : ((buildLayer l call).mapError ConstructError.args).map Constructed.layer =
        .error (.config why) := failed
      cases built : buildLayer l call with
      | error refused =>
        rw [built] at failed
        cases failed
      | ok l =>
        rw [built] at failed
        cases failed
    | dataset cls =>
      dsimp only at failed
      cases plan : datasetPlan cls call ctx with
      | error cause =>
        rw [plan] at failed
        obtain rfl : cause = .config why := Except.error.inj failed
        exact ⟨cls, profileFor_of_datasetPlan plan⟩
      | ok made =>
        rw [plan] at failed
        cases failed

end Catalog

namespace Session
variable {γ : Type} [SeededSource γ] {s : Session γ} {why : ConfigError}

theorem step_config (s : Session γ) (c : Command) :
    (s.step c).value.2.context.config = s.context.config := by
  rcases step_openings s c [] with ⟨_, -, -, -, forked⟩ | ⟨-, -, kept⟩
  · rw [forked, fork_next]
  · rw [kept]

theorem profileFor_of_step {c : Command}
    (failed : (s.step c).value.1 = .constructed (.error (.config why))) :
    ∃ cls : DatasetClass, s.context.profileFor cls.name cls.defaultProfile = .error why := by
  cases c with
  | resolve name => cases failed
  | setVerbose verbose => cases failed
  | apply slot inputs =>
    simp only [step] at failed
    split at failed <;> cases failed
  | item slot index =>
    cases found : s.dataset? slot with
    | none =>
      rw [step_item_absent found] at failed
      cases failed
    | some d =>
      rw [step_item found] at failed
      cases failed
  | setDatasetVerbose slot verbose =>
    cases found : s.dataset? slot with
    | none =>
      rw [step_setDatasetVerbose_absent found] at failed
      cases failed
    | some d =>
      rw [step_setDatasetVerbose found] at failed
      cases failed
  | construct slot name call =>
    rw [step_construct] at failed
    exact Catalog.profileFor_of_construct (Outcome.constructed.inj failed)
  | probe name call =>
    rw [step_probe] at failed
    exact Catalog.profileFor_of_construct (Outcome.constructed.inj failed)

theorem run_outcomes (s : Session γ) (c : Command) (rest : List Command) :
    (s.run (c :: rest)).value.1 =
      (s.step c).value.1 :: ((s.step c).value.2.run rest).value.1 := rfl

/-- A session never changes its configuration, so one that starts with a valid configuration
constructs whatever its catalog and its arguments allow. -/
theorem run_configured (s : Session γ) (valid : s.context.config.validate = .ok ())
    (commands : List Command) (why : ConfigError) :
    .constructed (.error (.config why)) ∉ (s.run commands).value.1 := by
  induction commands generalizing s with
  | nil => nofun
  | cons c rest ih =>
    rw [run_outcomes, List.mem_cons, not_or]
    constructor
    · intro failed
      obtain ⟨cls, refused⟩ := profileFor_of_step failed.symm
      obtain ⟨p, made⟩ := Config.profileFor_of_validate valid cls.name cls.defaultProfile
      have both : Except.ok p = Except.error why := made.symm.trans refused
      cases both
    · exact ih _ (by rw [step_config, valid])

end Session

namespace Config

/-- A configuration is valid exactly if each dataset that it names has its profile, whatever images
of three or more dimensions the default has; then every profile can be made. An override that is
refused is refused for the same reason when it is made, and a configuration that was read and
accepted makes no construction of a session fail. -/
theorem validation_exact {γ : Type} [SeededSource γ] (c : Config) :
    (c.validate = .ok () ↔ ∀ name ∈ c.datasets.names, ∀ default : Profile,
      3 ≤ default.image.ndim → ∃ p, c.profileFor name default = .ok p) ∧
    (c.validate = .ok () → ∀ name default, ∃ p, c.profileFor name default = .ok p) ∧
    (∀ (o : Override) (default : Profile), 3 ≤ default.image.ndim →
      ∀ why, o.validate = .error why ↔ o.apply default = .error why) ∧
    (∀ text, ofText text = .ok c → ∀ s : Session γ, s.context.config.datasets = c.datasets →
      ∀ commands why, .constructed (.error (.config why)) ∉ (s.run commands).value.1) := by
  refine ⟨⟨?_, ?_⟩, ?_, ?_, ?_⟩
  · intro valid name _ default _
    exact profileFor_of_validate valid name default
  · intro made
    let images : Profile := DatasetClass.cifar10.defaultProfile
    have rank : 3 ≤ images.image.ndim := by decide
    exact validate_of_profileFor rank fun name member => made name member images rank
  · exact profileFor_of_validate
  · intro o default rank why
    exact o.validate_eq_error rank why
  · intro text accepted s same commands why
    have valid : s.context.config.validate = .ok () := by
      rw [validate, same]
      exact validate_of_ofText accepted
    exact s.run_configured valid commands why

theorem validation_exact_on_folder :
    let text := "\x7b\"datasets\": \x7b\"ImageFolder\": \x7b\"num_classes\": 9223372036854775808, " ++
      "\"labels\": [0, 3], \"height\": \x7b\"min\": 32, \"max\": 64\x7d\x7d\x7d\x7d"
    let folder : Override := {
      classCount := some 9223372036854775808
      labels := some ⟨0, 3⟩
      height := some (.range 32 64) }
    let c : Config := { datasets := .put .empty "ImageFolder" folder }
    let s := (Session.start {} (⟨c, .ofSeed 7, false⟩ : Context Seeded)).value
    let open? : Session.Command := .probe "torchvision.datasets.ImageFolder" ⟨[.str "images"], []⟩
    ofText text = .ok c ∧
      (∃ p, c.profileFor "ImageFolder" DatasetClass.imageFolder.defaultProfile = .ok p) ∧
      ∀ why, .constructed (.error (.config why)) ∉ (s.run [open?, open?]).value.1 := by
  intro text folder c s open?
  have accepted : ofText text = .ok c := by decide +kernel
  obtain ⟨-, made, -, runs⟩ := @validation_exact Seeded _ c
  exact ⟨accepted, made (validate_of_ofText accepted) _ _,
    runs text accepted s rfl [open?, open?]⟩

end Config
end ShapeFlow
