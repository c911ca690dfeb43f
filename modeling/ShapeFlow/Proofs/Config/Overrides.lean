import Mathlib.Data.List.Basic
import ShapeFlow.Config.Basic
import ShapeFlow.Proofs.Expr.Evaluation
import ShapeFlow.Proofs.Arithmetic
/-!
What becomes of a profile under changes. Each field is decided by the first of the changes that
names it and is kept where none does, so changes that have been made leave nothing to be changed.
-/
namespace ShapeFlow
variable {α : Type} {a default : α} {wishes : List (Option (α → Prop))}

/-- The first wish that there is holds of the value; without any the value is the default. -/
def Decided (default : α) : List (Option (α → Prop)) → α → Prop
  | [], a => a = default
  | some wish :: _, a => wish a
  | none :: rest, a => Decided default rest a

theorem decided_again (decided : Decided default wishes a) : Decided a wishes a := by
  induction wishes with
  | nil => rfl
  | cons wish rest ih =>
    cases wish with
    | none => exact ih decided
    | some wish => exact decided

theorem decided_orElse (first second : Option α) :
    Decided default [first.map Eq, second.map Eq] a ↔ (first <|> second).getD default = a := by
  cases first with
  | some x => rfl
  | none =>
    cases second with
    | some y => rfl
    | none => exact eq_comm

theorem IntRange.of_eq_ok {lower upper : Int64} {r : IntRange} :
    IntRange.of lower upper = .ok r ↔ r.lower = lower ∧ r.upper = upper := by
  obtain ⟨least, greatest, ordered⟩ := r
  unfold IntRange.of
  constructor
  · intro made
    split at made
    · cases made
      exact ⟨rfl, rfl⟩
    · cases made
  · rintro ⟨rfl, rfl⟩
    exact dif_pos ordered

inductive SizeSpec.Means : SizeSpec → DimPolicy → Prop where
  | fixed (size : Int64) : Means (.fixed size) (.fixed size.toInt)
  | symbol (name : String) : Means (.symbol name) (.symbolic (.size name))
  | range (r : IntRange) : Means (.range r.lower r.upper) (.range r)

theorem SizeSpec.policy_eq_ok {s : SizeSpec} {d : DimPolicy} : s.policy = .ok d ↔ s.Means d := by
  constructor
  · intro made
    cases s with
    | fixed size =>
      cases made
      exact .fixed size
    | symbol name =>
      cases made
      exact .symbol name
    | range min max =>
      obtain ⟨r, between, rfl⟩ := map_eq_ok.mp made
      obtain ⟨rfl, rfl⟩ := IntRange.of_eq_ok.mp between
      exact .range r
  · intro means
    cases means with
    | fixed | symbol => rfl
    | range r => exact map_eq_ok.mpr ⟨r, IntRange.of_eq_ok.mpr ⟨rfl, rfl⟩, rfl⟩

def LabelBounds.Means (b : LabelBounds) (r : IntRange) : Prop := r.lower = b.min ∧ r.upper = b.max

def IntRange.Labels (count : Nat) (r : IntRange) : Prop :=
  count ≤ Word.greatest ∧ r.lo = 0 ∧ r.hi = count - 1

theorem IntRange.classes_eq_ok {n : Nat} {r : IntRange} :
    IntRange.classes n = .ok r ↔ IntRange.Labels n r := by
  unfold classes Labels
  split
  · rename_i beyond
    exact ⟨nofun, fun within => absurd within.1 (Int.not_le.mpr beyond)⟩
  · rename_i within
    have last : (Int64.ofInt (n - 1)).toInt = n - 1 := by
      apply Word.toInt_ofInt
      · unfold Word.least
        omega
      · omega
    rw [of_eq_ok, ← Int64.toInt_inj, ← Int64.toInt_inj, last]
    exact ⟨fun made => ⟨Int.not_lt.mp within, made⟩, And.right⟩

namespace Override
variable {o : Override} {p q : Profile}

/-- The last three sizes of an image are decided each by its own change, and those before them are
kept. So is a policy of fewer dimensions. -/
inductive Resizes (o : Override) : ShapePolicy → ShapePolicy → Prop where
  | flat {p : ShapePolicy} : p.ndim < 3 → Resizes o p p
  | image {front : List DimPolicy} {c h w c' h' w' : DimPolicy} :
      Decided c [o.channels.map SizeSpec.Means] c' → Decided h [o.height.map SizeSpec.Means] h' →
      Decided w [o.width.map SizeSpec.Means] w' →
      Resizes o ⟨front ++ [c, h, w]⟩ ⟨front ++ [c', h', w']⟩

/-- The second profile is the first one with the named fields replaced. The length of one split goes
before that of both, and bounds of the labels go before a number of classes. -/
structure Changes (o : Override) (p q : Profile) : Prop where
  trainLength : Decided p.trainLength [o.trainLength.map Eq, o.length.map Eq] q.trainLength
  evalLength : Decided p.evalLength [o.evalLength.map Eq, o.length.map Eq] q.evalLength
  labels : Decided p.labels [o.labels.map LabelBounds.Means, o.classCount.map IntRange.Labels]
    q.labels
  image : o.Resizes p.image q.image

theorem Resizes.again {p q : ShapePolicy} (resizes : o.Resizes p q) : o.Resizes q q := by
  cases resizes with
  | flat rank => exact .flat rank
  | image channels height width =>
    exact .image (decided_again channels) (decided_again height) (decided_again width)

/-- Changes that have been made leave nothing to be changed. -/
theorem Changes.again (changes : o.Changes p q) : o.Changes q q :=
  ⟨decided_again changes.trainLength, decided_again changes.evalLength,
    decided_again changes.labels, changes.image.again⟩

theorem labelRange_eq_ok {old new : IntRange} :
    (∃ found, o.labelRange = .ok found ∧ found.getD old = new) ↔
      Decided old [o.labels.map LabelBounds.Means, o.classCount.map IntRange.Labels] new := by
  unfold labelRange
  cases o.labels with
  | some b =>
    simp only [map_eq_ok, IntRange.of_eq_ok]
    constructor
    · rintro ⟨_, ⟨r, bounds, rfl⟩, rfl⟩
      exact bounds
    · intro bounds
      exact ⟨_, ⟨new, bounds, rfl⟩, rfl⟩
  | none =>
    cases o.classCount with
    | some n =>
      simp only [map_eq_ok, IntRange.classes_eq_ok]
      constructor
      · rintro ⟨_, ⟨r, classes, rfl⟩, rfl⟩
        exact classes
      · intro classes
        exact ⟨_, ⟨new, classes, rfl⟩, rfl⟩
    | none =>
      constructor
      · rintro ⟨_, same, rfl⟩
        cases same
        rfl
      · rintro rfl
        exact ⟨none, rfl, rfl⟩

theorem replaceSpecified_cons {spec : Option SizeSpec} {specs : List (Option SizeSpec)}
    {d : DimPolicy} {ds es : List DimPolicy} :
    replaceSpecified (spec :: specs) (d :: ds) = .ok es ↔
      ∃ e rest, Decided d [spec.map SizeSpec.Means] e ∧ replaceSpecified specs ds = .ok rest ∧
        e :: rest = es := by
  cases spec with
  | none =>
    simp only [replaceSpecified, bind_eq_ok, pure_eq_ok, Decided, Option.map_none]
    constructor
    · rintro ⟨rest, others, rfl⟩
      exact ⟨d, rest, rfl, others, rfl⟩
    · rintro ⟨_, rest, rfl, others, rfl⟩
      exact ⟨rest, others, rfl⟩
  | some s =>
    simp only [replaceSpecified, bind_eq_ok, pure_eq_ok, Decided, Option.map_some,
      SizeSpec.policy_eq_ok]
    constructor
    · rintro ⟨e, means, rest, others, rfl⟩
      exact ⟨e, rest, means, others, rfl⟩
    · rintro ⟨e, rest, means, others, rfl⟩
      exact ⟨e, means, rest, others, rfl⟩

theorem image_cases (dims : List DimPolicy) (rank : 3 ≤ dims.length) :
    ∃ front c h w, dims = front ++ [c, h, w] := by
  have back : (dims.drop (dims.length - 3)).length = 3 := by
    rw [List.length_drop]
    omega
  obtain ⟨c, h, w, last⟩ := List.length_eq_three.mp back
  exact ⟨dims.take (dims.length - 3), c, h, w, by rw [← last, List.take_append_drop]⟩

theorem imagePolicy_append {front : List DimPolicy} {c h w : DimPolicy} :
    o.imagePolicy ⟨front ++ [c, h, w]⟩ =
      (replaceSpecified o.sizeSpecs [c, h, w]).map fun back => ⟨front ++ back⟩ := by
  have rank : (⟨front ++ [c, h, w]⟩ : ShapePolicy).ndim = front.length + 3 := by
    simp [ShapePolicy.ndim]
  rw [imagePolicy, if_neg (by omega), rank, Nat.add_sub_cancel, List.take_left, List.drop_left]
  rfl

theorem sizes_eq_ok {c h w : DimPolicy} {back : List DimPolicy} :
    replaceSpecified o.sizeSpecs [c, h, w] = .ok back ↔
      ∃ c' h' w', Decided c [o.channels.map SizeSpec.Means] c' ∧
        Decided h [o.height.map SizeSpec.Means] h' ∧
        Decided w [o.width.map SizeSpec.Means] w' ∧ back = [c', h', w'] := by
  rw [sizeSpecs]
  constructor
  · intro made
    obtain ⟨c', _, channels, others, rfl⟩ := replaceSpecified_cons.mp made
    obtain ⟨h', _, height, last, rfl⟩ := replaceSpecified_cons.mp others
    obtain ⟨w', _, width, none, rfl⟩ := replaceSpecified_cons.mp last
    obtain rfl := Except.ok.inj none
    exact ⟨c', h', w', channels, height, width, rfl⟩
  · rintro ⟨c', h', w', channels, height, width, rfl⟩
    have last := replaceSpecified_cons.mpr ⟨w', [], width, (rfl : replaceSpecified [] [] = _), rfl⟩
    have others := replaceSpecified_cons.mpr ⟨h', _, height, last, rfl⟩
    exact replaceSpecified_cons.mpr ⟨c', _, channels, others, rfl⟩

theorem imagePolicy_eq_ok {p q : ShapePolicy} : o.imagePolicy p = .ok q ↔ o.Resizes p q := by
  constructor
  · intro made
    by_cases rank : p.ndim < 3
    · rw [imagePolicy, if_pos rank] at made
      obtain rfl := Except.ok.inj made
      exact .flat rank
    · obtain ⟨front, c, h, w, same⟩ := image_cases p.dims (Nat.le_of_not_lt rank)
      obtain rfl : p = ⟨front ++ [c, h, w]⟩ := congrArg ShapePolicy.mk same
      rw [imagePolicy_append, map_eq_ok] at made
      obtain ⟨back, made, rfl⟩ := made
      obtain ⟨c', h', w', channels, height, width, rfl⟩ := sizes_eq_ok.mp made
      exact .image channels height width
  · intro resizes
    cases resizes with
    | flat rank => rw [imagePolicy, if_pos rank]
    | @image front c h w c' h' w' channels height width =>
      rw [imagePolicy_append, map_eq_ok]
      exact ⟨[c', h', w'], sizes_eq_ok.mpr ⟨c', h', w', channels, height, width, rfl⟩, rfl⟩

theorem apply_eq_ok : o.apply p = .ok q ↔ o.Changes p q := by
  simp only [apply, bind_eq_ok, pure_eq_ok, imagePolicy_eq_ok]
  constructor
  · rintro ⟨found, labels, image, resizes, rfl⟩
    exact ⟨(decided_orElse _ _).mpr rfl, (decided_orElse _ _).mpr rfl,
      labelRange_eq_ok.mp ⟨found, labels, rfl⟩, resizes⟩
  · intro changes
    obtain ⟨found, labels, same⟩ := labelRange_eq_ok.mpr changes.labels
    have train := (decided_orElse _ _).mp changes.trainLength
    have eval := (decided_orElse _ _).mp changes.evalLength
    exact ⟨found, labels, q.image, changes.image, by rw [train, eval, same]⟩

/-- Changes succeed exactly with the profile in which the named fields, and no others, have been
replaced, and making them once more changes nothing. -/
theorem changes_replace_named_fields (o : Override) (p q : Profile) :
    (o.apply p = .ok q ↔ o.Changes p q) ∧ (o.apply p = .ok q → o.apply q = .ok q) :=
  ⟨apply_eq_ok, fun made => apply_eq_ok.mpr (apply_eq_ok.mp made).again⟩

/-- Of a batch of images only the height and the width are changed. -/
theorem changes_replace_named_fields_of_batch :
    let o : Override :=
      ⟨some 20, none, some 5, some 2, none, none, some (.symbol "h"), some (.range 32 64)⟩
    let digits : IntRange := ⟨0, 9, by decide⟩
    let classes : IntRange := ⟨0, 1, by decide⟩
    let widths : IntRange := ⟨32, 64, by decide⟩
    let p : Profile := ⟨500, 100, digits, .ofSizes [8, 3, 28, 28]⟩
    let q : Profile := ⟨20, 5, classes,
      ⟨[.fixed 8, .fixed 3, .symbolic (Expr.size "h"), .range widths]⟩⟩
    o.apply p = .ok q ∧ o.Changes p q ∧ o.apply q = .ok q := by
  intro o digits classes widths p q
  have made : o.apply p = .ok q := rfl
  obtain ⟨replaces, again⟩ := changes_replace_named_fields o p q
  exact ⟨made, replaces.mp made, again made⟩

end Override
end ShapeFlow
