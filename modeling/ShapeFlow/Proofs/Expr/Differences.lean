import ShapeFlow.Proofs.Expr.Assumptions
import ShapeFlow.Proofs.Expr.Cancellation
import ShapeFlow.Proofs.Expr.FixedPoint
/-!
Differences that vanish. Two lists of terms have one sum where every symbolic expression stands as
often in the one as in the other and their constants are the same. What is collected from an
expression has the sum of what is collected from its simplified form, and terms that are subtracted
from terms of the same sum leave nothing.
-/
namespace ShapeFlow.Expr
variable {e a b : Expr} {t : Term} {ts us ts' us' : List Term}

structure EqualSums (ts us : List Term) : Prop where
  net : ∀ e, e.value? = none → net e ts = net e us
  constant : constantOf ts = constantOf us

theorem EqualSums.refl (ts : List Term) : EqualSums ts ts := ⟨fun _ _ => rfl, rfl⟩

theorem EqualSums.symm (same : EqualSums ts us) : EqualSums us ts :=
  ⟨fun e symbolic => (same.net e symbolic).symm, same.constant.symm⟩

theorem EqualSums.trans {rs : List Term} (first : EqualSums ts us) (second : EqualSums us rs) :
    EqualSums ts rs :=
  ⟨fun e symbolic => (first.net e symbolic).trans (second.net e symbolic),
    first.constant.trans second.constant⟩

theorem constantOf_append (ts us : List Term) :
    constantOf (ts ++ us) = constantOf ts + constantOf us := by
  change ((ts ++ us).filterMap Term.value?).sum =
    (ts.filterMap Term.value?).sum + (us.filterMap Term.value?).sum
  rw [List.filterMap_append, List.sum_append]

theorem value?_flip (t : Term) : t.flip.value? = t.value?.map (-·) := by
  obtain ⟨negated, body⟩ := t
  cases body <;> cases negated <;> simp [Term.flip, Term.value?]

theorem constantOf_flip (ts : List Term) : constantOf (ts.map .flip) = -constantOf ts := by
  induction ts with
  | nil => rfl
  | cons t ts ih =>
    unfold constantOf at ih ⊢
    rw [List.map_cons]
    cases known : t.value? with
    | none =>
      have opposite : t.flip.value? = none := by rw [value?_flip, known]; rfl
      rw [List.filterMap_cons_none opposite, List.filterMap_cons_none known, ih]
    | some c =>
      have opposite : t.flip.value? = some (-c) := by rw [value?_flip, known]; rfl
      rw [List.filterMap_cons_some opposite, List.filterMap_cons_some known, List.foldr_cons,
        List.foldr_cons, ih, Int.neg_add]

theorem flip_flip (ts : List Term) : (ts.map .flip).map .flip = ts := by
  have twice : Term.flip ∘ Term.flip = id := funext fun t => by simp [Term.flip]
  rw [List.map_map, twice, List.map_id]

theorem weight_flip (e : Expr) (t : Term) : t.flip.weight e = -t.weight e := by
  unfold Term.weight Term.flip
  cases t.negated <;> split <;> rfl

theorem net_flip (e : Expr) (ts : List Term) : net e (ts.map .flip) = -net e ts := by
  induction ts with
  | nil => rfl
  | cons t ts ih => rw [List.map_cons, net_cons, net_cons, ih, weight_flip, Int.neg_add]

theorem equalSums_flip (same : EqualSums ts us) : EqualSums (ts.map .flip) (us.map .flip) := by
  constructor
  · intro e symbolic
    rw [net_flip, net_flip, same.net e symbolic]
  · rw [constantOf_flip, constantOf_flip, same.constant]

/-- Literals do not count towards a symbolic expression. -/
theorem net_literals (literals : ts.filter (·.value?.isNone) = []) (symbolic : e.value? = none) :
    net e ts = 0 := by
  rw [← net_symbolic symbolic, literals]
  rfl

theorem weight_bare (e : Expr) (t : Term) : t.bare.weight e = t.weight e := by
  have same : Alike t.body.bare e ↔ Alike t.body e := by
    unfold Alike
    rw [bare_bare]
  unfold Term.weight Term.bare
  simp only [same]

/-- Assumptions do not count. -/
theorem equalSums_bare (ts : List Term) : EqualSums (ts.map Term.bare) ts := by
  constructor
  · intro e _
    have same : Term.weight e ∘ Term.bare = Term.weight e := funext (weight_bare e)
    unfold net
    rw [List.map_map, same]
  · have same : Term.value? ∘ Term.bare = Term.value? := funext signedValue_bare
    unfold constantOf
    rw [List.filterMap_map, same]

theorem equalSums_alike (like : Alike a b) : EqualSums a.terms b.terms := by
  have first := equalSums_bare a.terms
  rw [← terms_bare, like, terms_bare] at first
  exact first.symm.trans (equalSums_bare b.terms)

/-- The terms of a sum that is put together have the sum of the terms it is put together from. -/
theorem equalSums_sumOf (tidy : ∀ t ∈ ts, t.Tidy) : EqualSums (sumOf ts).terms ts := by
  have kept : ∀ e, e.value? = none → net e (standing ts) = net e ts := by
    intro e symbolic
    unfold standing
    rw [net_joined, net_symbolic symbolic]
    exact Int.zero_add _
  cases left : standing ts with
  | nil =>
    rw [sumOf_constant left]
    constructor
    · intro e symbolic
      rw [← kept e symbolic, left]
      exact net_literals rfl symbolic
    · exact Int.add_zero _
  | cons t rest =>
    obtain ⟨dropped, constant⟩ := constant_terms (constantOf ts)
    have symbolic : ∀ s ∈ standing ts, s.body.value? = none := fun s member =>
      (mem_standing member).2
    rw [(normalChain_sumOf tidy left).terms]
    constructor
    · intro e unknown
      rw [net_append, kept e unknown, net_literals dropped unknown, Int.add_zero]
    · rw [constantOf_append]
      unfold constantOf at constant ⊢
      rw [(symbolic_terms symbolic).2, constant]
      exact Int.zero_add _

theorem equalSums_negated (e : Expr) : EqualSums (negated e).terms (e.terms.map .flip) := by
  cases e with
  | value c =>
    constructor
    · intro e symbolic
      have before : net e ((value c).terms.map .flip) = 0 := net_literals rfl symbolic
      have after : net e (negated (value c)).terms = 0 := net_literals rfl symbolic
      rw [before, after]
    · rfl
  | neg a =>
    rw [terms, flip_flip]
    exact .refl _
  | var | add | sub | mul | div | divCeil | broadcast => exact .refl _

/-- An expression is collected with the sum of its simplified form. -/
theorem equalSums_reduce (e : Expr) : EqualSums e.reduce.terms e.simplify.terms := by
  induction e with
  | neg a ih => exact (equalSums_flip ih).trans (equalSums_negated a.simplify).symm
  | add a b =>
    exact (equalSums_sumOf (tidy_append (reduce_tidy a).terms (reduce_tidy b).terms)).symm
  | sub a b =>
    exact (equalSums_sumOf
      (tidy_append (reduce_tidy a).terms (tidy_flip (reduce_tidy b).terms))).symm
  | value | var | mul | div | divCeil | broadcast => exact .refl _

theorem sumOf_opposed (same : EqualSums ts us) : sumOf (ts ++ us.map .flip) = .value 0 := by
  have balanced : Balanced (ts ++ us.map .flip) := by
    intro t _ symbolic
    rw [net_append, net_flip, same.net t.body symbolic]
    exact Int.add_right_neg _
  rw [sumOf_constant (standing_eq_nil_iff.mpr balanced), constantOf_append, constantOf_flip,
    same.constant, Int.add_right_neg]

/-- The difference of two expressions that simplify alike folds to zero; so does the difference of an
expression and itself. -/
theorem difference_vanishes :
    (∀ a b : Expr, Alike a.simplify b.simplify → (sub a b).simplify = .value 0) ∧
      ∀ e : Expr, (sub e e).simplify = .value 0 := by
  have vanishes : ∀ a b : Expr, Alike a.simplify b.simplify → (sub a b).simplify = .value 0 := by
    intro a b like
    have same : EqualSums a.reduce.terms b.reduce.terms :=
      ((equalSums_reduce a).trans (equalSums_alike like)).trans (equalSums_reduce b).symm
    exact sumOf_opposed same
  exact ⟨vanishes, fun e => vanishes e e (alike_refl _)⟩

/-- Two spellings of `h - n + 3`, over symbols of which different things are assumed. -/
theorem difference_vanishes_across_spellings :
    let a : Expr := .sub (size "h") (.sub (size "n") (.value 3))
    let b : Expr := .sub (.div (.add (free "h") (.value 3)) (.value 1)) (.mul (.value 1) (free "n"))
    Alike a.simplify b.simplify ∧ a.simplify ≠ b.simplify ∧ (sub a b).simplify = .value 0 ∧
      (sub b b).simplify = .value 0 := by
  intro a b
  have like : Alike a.simplify b.simplify := by decide +kernel
  exact ⟨like, by decide +kernel, difference_vanishes.1 a b like, difference_vanishes.2 b⟩

end ShapeFlow.Expr
