import Mathlib.Algebra.Order.BigOperators.Group.List
import Mathlib.Algebra.Order.Ring.Nat
import ShapeFlow.Proofs.Expr.FixedPoint
/-!
Simplification never adds leaves. Nodes are no measure, since 5 - h becomes -h + 5, but every literal
that is put at the end of a sum or the front of a product was folded from at least one. A quotient, a
broadcast or a product that turns into a sum has kept one operand and dropped the leaves of another.
-/
namespace ShapeFlow.Expr
variable {α : Type} {e f a b : Expr} {t : Term} {ts us : List Term} {fs : List Expr} {n m : Nat}
  {r : Reduced}

def leaves : Expr → Nat
  | .value _ | .var _ => 1
  | .neg a => a.leaves
  | .add a b | .sub a b | .mul a b | .div a b | .divCeil a b | .broadcast a b =>
    a.leaves + b.leaves

def termLeaves (ts : List Term) : Nat := (ts.map fun t => t.body.leaves).sum

def factorLeaves (fs : List Expr) : Nat := (fs.map leaves).sum

theorem leaves_pos (e : Expr) : 0 < e.leaves := by
  induction e with
  | value | var => exact Nat.one_pos
  | neg a ih => exact ih
  | add a b iha _ | sub a b iha _ | mul a b iha _ | div a b iha _ | divCeil a b iha _
  | broadcast a b iha _ => exact Nat.add_pos_left iha _

theorem termLeaves_cons (t : Term) (ts : List Term) :
    termLeaves (t :: ts) = t.body.leaves + termLeaves ts := rfl

theorem factorLeaves_cons (f : Expr) (fs : List Expr) :
    factorLeaves (f :: fs) = f.leaves + factorLeaves fs := rfl

theorem termLeaves_append (ts us : List Term) :
    termLeaves (ts ++ us) = termLeaves ts + termLeaves us := by
  rw [termLeaves, List.map_append, List.sum_append]
  rfl

theorem factorLeaves_append (fs gs : List Expr) :
    factorLeaves (fs ++ gs) = factorLeaves fs + factorLeaves gs := by
  rw [factorLeaves, List.map_append, List.sum_append]
  rfl

theorem termLeaves_flip (ts : List Term) : termLeaves (ts.map .flip) = termLeaves ts := by
  rw [termLeaves, List.map_map]
  rfl

theorem termLeaves_terms (e : Expr) : termLeaves e.terms = e.leaves := by
  induction e with
  | add a b iha ihb => rw [terms, termLeaves_append, iha, ihb, leaves]
  | sub a b iha ihb => rw [terms, termLeaves_append, termLeaves_flip, iha, ihb, leaves]
  | neg a ih => rw [terms, termLeaves_flip, ih, leaves]
  | value | var | mul | div | divCeil | broadcast => exact List.sum_singleton

theorem factorLeaves_factors (e : Expr) : factorLeaves e.factors = e.leaves := by
  induction e with
  | mul a b iha ihb => rw [factors, factorLeaves_append, iha, ihb, leaves]
  | value | var | neg | add | sub | div | divCeil | broadcast => exact List.sum_singleton

theorem sum_sublist {l k : List α} (weight : α → Nat) (fewer : l.Sublist k) :
    (l.map weight).sum ≤ (k.map weight).sum :=
  (fewer.map weight).sum_le_sum fun _ _ => Nat.zero_le _

/-- What is left out by a filter counts at least one. -/
theorem sum_filter_lt {l : List α} {x : α} (weight : α → Nat) (keep : α → Bool) (inside : x ∈ l)
    (dropped : ¬ keep x) (positive : 0 < weight x) :
    ((l.filter keep).map weight).sum < (l.map weight).sum := by
  obtain ⟨before, after, rfl⟩ := List.append_of_mem inside
  have left := sum_sublist weight (before.filter_sublist (p := keep))
  have right := sum_sublist weight (after.filter_sublist (p := keep))
  rw [List.filter_append, List.filter_cons_of_neg dropped, List.map_append, List.map_append,
    List.sum_append, List.sum_append, List.map_cons, List.sum_cons]
  omega

/-- Where there is no literal, what is folded of them is the unit. -/
theorem exists_literal {l : List α} {unit : Int} (value : α → Option Int) (op : Int → Int → Int)
    (folded : (l.filterMap value).foldr op unit ≠ unit) : ∃ x ∈ l, ¬ (value x).isNone := by
  by_contra symbolic
  apply folded
  have unvalued : l.filterMap value = [] := by
    rw [List.filterMap_eq_nil_iff]
    intro x inside
    by_contra known
    exact symbolic ⟨x, inside, by rwa [Option.isNone_iff_eq_none]⟩
  rw [unvalued]
  rfl

theorem termLeaves_joined (us ts : List Term) :
    termLeaves (ts.foldl cancelOrAppend us) ≤ termLeaves us + termLeaves ts := by
  induction ts generalizing us with
  | nil => exact Nat.le_refl _
  | cons t ts ih =>
    have joined : termLeaves (cancelOrAppend us t) ≤ termLeaves us + t.body.leaves := by
      unfold cancelOrAppend
      split
      · exact Nat.le_add_right_of_le (sum_sublist _ List.eraseP_sublist)
      · rw [termLeaves_append]
        exact Nat.le_refl _
    have rest := ih (cancelOrAppend us t)
    rw [List.foldl_cons, termLeaves_cons]
    omega

theorem leaves_toExpr (t : Term) : t.toExpr.leaves = t.body.leaves := by
  unfold Term.toExpr
  split <;> rfl

theorem leaves_after (t : Term) (e : Expr) : (t.after e).leaves = e.leaves + t.body.leaves := by
  unfold Term.after
  split <;> rfl

theorem leaves_chain (ts : List Term) (e : Expr) :
    (ts.foldl Term.after e).leaves = e.leaves + termLeaves ts := by
  induction ts generalizing e with
  | nil => rfl
  | cons t ts ih =>
    rw [List.foldl_cons, ih, leaves_after, termLeaves_cons, Nat.add_assoc]

/-- The terms that are left and the constant were there before. -/
theorem termLeaves_standing (ts : List Term) :
    termLeaves (standing ts ++ constantTerms (constantOf ts)) ≤ termLeaves ts := by
  have joined := termLeaves_joined [] (ts.filter (·.value?.isNone))
  have nothing : termLeaves [] = 0 := rfl
  rw [termLeaves_append]
  unfold standing
  by_cases zero : constantOf ts = 0
  · have fewer := sum_sublist (fun t : Term => t.body.leaves)
      (ts.filter_sublist (p := (·.value?.isNone)))
    have none : termLeaves (constantTerms (constantOf ts)) = 0 := by
      rw [constantTerms, if_pos zero]
      rfl
    unfold termLeaves at *
    omega
  · have one : termLeaves (constantTerms (constantOf ts)) = 1 := by
      rw [constantTerms, if_neg zero]
      rfl
    obtain ⟨t, inside, known⟩ := exists_literal Term.value? (· + ·) zero
    have fewer := sum_filter_lt (fun t : Term => t.body.leaves) (·.value?.isNone) inside known
      (leaves_pos t.body)
    unfold termLeaves at *
    omega

theorem leaves_sumOf (nonempty : ts ≠ []) : (sumOf ts).leaves ≤ termLeaves ts := by
  have kept := termLeaves_standing ts
  cases left : standing ts with
  | nil =>
    rw [sumOf_constant left]
    obtain ⟨t, rest, rfl⟩ := List.exists_cons_of_ne_nil nonempty
    exact Nat.le_add_right_of_le (leaves_pos t.body)
  | cons t rest =>
    rw [left, List.cons_append] at kept
    rw [sumOf_chain left, leaves_chain, leaves_toExpr]
    exact kept

theorem leaves_product (fs : List Expr) (e : Expr) :
    (fs.foldl .mul e).leaves = e.leaves + factorLeaves fs := by
  induction fs generalizing e with
  | nil => rfl
  | cons f fs ih =>
    rw [List.foldl_cons, ih, leaves, factorLeaves_cons, Nat.add_assoc]

theorem factorLeaves_pos (nonempty : fs ≠ []) : 0 < factorLeaves fs := by
  obtain ⟨f, rest, rfl⟩ := List.exists_cons_of_ne_nil nonempty
  exact Nat.add_pos_left (leaves_pos f) _

theorem leaves_productOf (nonempty : fs ≠ []) : (productOf fs).leaves ≤ factorLeaves fs := by
  have positive := factorLeaves_pos nonempty
  unfold productOf
  dsimp only
  split
  · exact positive
  · split
    · exact positive
    · rename_i f rest symbolic
      have kept : f.leaves + factorLeaves rest = factorLeaves (fs.filter (·.value?.isNone)) := by
        rw [symbolic]
        rfl
      split
      · rw [leaves_product, kept]
        exact sum_sublist leaves fs.filter_sublist
      · rename_i one
        obtain ⟨g, inside, known⟩ := exists_literal value? (· * ·) one
        have fewer := sum_filter_lt leaves (·.value?.isNone) inside known (leaves_pos g)
        rw [leaves, leaves_product, kept, leaves, Nat.add_comm]
        exact fewer

theorem leaves_negated (e : Expr) : (negated e).leaves = e.leaves := by
  cases e <;> rfl

theorem leaves_quotient {round : Int → Int → Int} {keep : Expr → Expr → Expr}
    (kept : (keep a b).leaves = a.leaves + b.leaves) :
    (quotient round keep a b).leaves ≤ a.leaves + b.leaves := by
  have positive := leaves_pos a
  unfold quotient
  split
  · exact Nat.le_add_right _ _
  · split
    · split
      · exact Nat.le_add_right_of_le positive
      · split
        · exact Nat.le_add_right_of_le positive
        · exact Nat.le_of_eq kept
    · split
      · exact Nat.le_add_right_of_le positive
      · exact Nat.le_of_eq kept

theorem leaves_broadcasted (a b : Expr) : (broadcasted a b).leaves ≤ a.leaves + b.leaves := by
  have positive := leaves_pos a
  unfold broadcasted
  split
  · exact Nat.le_add_right _ _
  · split
    · split
      · exact Nat.le_add_left _ _
      · split <;> exact Nat.le_add_right_of_le positive
    · split
      · exact Nat.le_add_right _ _
      · exact Nat.le_add_right_of_le positive
    · exact Nat.le_refl _

structure Reduced.LeavesWithin (n : Nat) (r : Reduced) : Prop where
  form : r.form.leaves ≤ n
  someTerms : r.terms ≠ []
  terms : termLeaves r.terms ≤ n
  someFactors : r.factors ≠ []
  factors : factorLeaves r.factors ≤ n

theorem terms_ne_nil (e : Expr) : e.terms ≠ [] := List.ne_nil_of_length_pos (terms_length_pos e)

theorem factors_ne_nil (e : Expr) : e.factors ≠ [] := by
  intro nothing
  have none : e.leaves = 0 := by rw [← factorLeaves_factors, nothing]; rfl
  exact Nat.ne_of_gt (leaves_pos e) none

theorem termLeaves_le (within : e.leaves ≤ n) : termLeaves e.terms ≤ n := by
  rwa [termLeaves_terms]

theorem factorLeaves_le (within : e.leaves ≤ n) : factorLeaves e.factors ≤ n := by
  rwa [factorLeaves_factors]

theorem leavesWithin_whole (within : e.leaves ≤ n) : (Reduced.whole e).LeavesWithin n :=
  ⟨within, terms_ne_nil e, termLeaves_le within, factors_ne_nil e, factorLeaves_le within⟩

theorem leavesWithin_sum (nonempty : ts ≠ []) (within : termLeaves ts ≤ n) :
    (Reduced.sum ts).LeavesWithin n := by
  have form : (sumOf ts).leaves ≤ n := Nat.le_trans (leaves_sumOf nonempty) within
  exact ⟨form, nonempty, within, factors_ne_nil _, factorLeaves_le form⟩

theorem leavesWithin_product (nonempty : fs ≠ []) (within : factorLeaves fs ≤ n) :
    (Reduced.product fs).LeavesWithin n := by
  have form : (productOf fs).leaves ≤ n := Nat.le_trans (leaves_productOf nonempty) within
  exact ⟨form, terms_ne_nil _, termLeaves_le form, nonempty, within⟩

theorem leavesWithin_negation (within : r.LeavesWithin n) : (Reduced.negation r).LeavesWithin n := by
  have form : (negated r.form).leaves ≤ n := by
    rw [leaves_negated]
    exact within.form
  have someTerms : r.terms.map Term.flip ≠ [] := by
    rw [ne_eq, List.map_eq_nil_iff]
    exact within.someTerms
  have terms : termLeaves (r.terms.map .flip) ≤ n := by
    rw [termLeaves_flip]
    exact within.terms
  exact ⟨form, someTerms, terms, factors_ne_nil _, factorLeaves_le form⟩

theorem reduce_leaves (e : Expr) : e.reduce.LeavesWithin e.leaves := by
  induction e with
  | value v => exact leavesWithin_whole (Nat.le_refl _)
  | var s => exact leavesWithin_whole (Nat.le_refl _)
  | neg a ih => exact leavesWithin_negation ih
  | add a b iha ihb =>
    refine leavesWithin_sum (List.append_ne_nil_of_left_ne_nil iha.someTerms _) ?_
    rw [termLeaves_append]
    exact Nat.add_le_add iha.terms ihb.terms
  | sub a b iha ihb =>
    refine leavesWithin_sum (List.append_ne_nil_of_left_ne_nil iha.someTerms _) ?_
    rw [termLeaves_append, termLeaves_flip]
    exact Nat.add_le_add iha.terms ihb.terms
  | mul a b iha ihb =>
    refine leavesWithin_product (List.append_ne_nil_of_left_ne_nil iha.someFactors _) ?_
    rw [factorLeaves_append]
    exact Nat.add_le_add iha.factors ihb.factors
  | div a b iha ihb =>
    exact leavesWithin_whole (Nat.le_trans (leaves_quotient rfl) (Nat.add_le_add iha.form ihb.form))
  | divCeil a b iha ihb =>
    exact leavesWithin_whole (Nat.le_trans (leaves_quotient rfl) (Nat.add_le_add iha.form ihb.form))
  | broadcast a b iha ihb =>
    exact leavesWithin_whole (Nat.le_trans (leaves_broadcasted _ _) (Nat.add_le_add iha.form ihb.form))

theorem leaves_simplify (e : Expr) : e.simplify.leaves ≤ e.leaves := (reduce_leaves e).form

/-- A product is written as a sum only if that is one of its factors. -/
theorem productOf_exposes (fs : List Expr) : (productOf fs).IsTerm ∨ productOf fs ∈ fs := by
  unfold productOf
  dsimp only
  split
  · exact .inl trivial
  · split
    · exact .inl trivial
    · rename_i f rest symbolic
      split
      · rcases List.eq_nil_or_concat rest with rfl | ⟨front, g, rfl⟩
        · have inside : f ∈ fs.filter (·.value?.isNone) := by
            rw [symbolic]
            exact List.mem_cons_self
          exact .inr (List.mem_filter.mp inside).1
        · rw [List.concat_eq_append, List.foldl_concat]
          exact .inl trivial
      · exact .inl trivial

theorem quotient_exposes {round : Int → Int → Int} {keep : Expr → Expr → Expr}
    (kept : (keep a b).IsTerm) :
    (quotient round keep a b).IsTerm ∨ quotient round keep a b = a := by
  unfold quotient
  split
  · exact .inr rfl
  · left
    split
    · split
      · trivial
      · split
        · trivial
        · exact kept
    · split
      · trivial
      · exact kept

theorem broadcasted_exposes (a b : Expr) :
    (broadcasted a b).IsTerm ∨ broadcasted a b = a ∨ broadcasted a b = b := by
  unfold broadcasted
  split
  · exact .inr (.inl rfl)
  · split
    · split
      · exact .inr (.inr rfl)
      · split <;> exact .inl trivial
    · split
      · exact .inr (.inl rfl)
      · exact .inl trivial
    · exact .inl trivial

/-- What simplifies like one of its operands has lost the leaves of the other. -/
theorem leaves_operand (same : e.simplify = a.simplify) (fewer : a.leaves < e.leaves) :
    e.simplify.leaves < e.leaves := by
  rw [same]
  exact Nat.lt_of_le_of_lt (leaves_simplify a) fewer

theorem leaves_factor (inside : f ∈ a.reduce.factors) : f.leaves ≤ a.leaves :=
  Nat.le_trans (List.single_le_sum (fun _ _ => Nat.zero_le _) _ (List.mem_map_of_mem inside))
    (reduce_leaves a).factors

/-- What simplification turns into a sum loses leaves on the way. -/
theorem leaves_exposed (single : e.IsTerm) (exposed : ¬ e.simplify.IsTerm) :
    e.simplify.leaves < e.leaves := by
  have left (a b : Expr) : a.leaves < a.leaves + b.leaves :=
    Nat.lt_add_of_pos_right (leaves_pos b)
  have right (a b : Expr) : b.leaves < a.leaves + b.leaves :=
    Nat.lt_add_of_pos_left (leaves_pos a)
  cases e with
  | value | var => exact absurd trivial exposed
  | neg | add | sub => exact single.elim
  | mul a b =>
    have inside := (productOf_exposes (a.reduce.factors ++ b.reduce.factors)).resolve_left exposed
    rcases List.mem_append.mp inside with factor | factor
    · exact Nat.lt_of_le_of_lt (leaves_factor factor) (left a b)
    · exact Nat.lt_of_le_of_lt (leaves_factor factor) (right a b)
  | div a b =>
    have kept : (div a.simplify b.simplify).IsTerm := trivial
    exact leaves_operand ((quotient_exposes kept).resolve_left exposed) (left a b)
  | divCeil a b =>
    have kept : (divCeil a.simplify b.simplify).IsTerm := trivial
    exact leaves_operand ((quotient_exposes kept).resolve_left exposed) (left a b)
  | broadcast a b =>
    rcases (broadcasted_exposes _ _).resolve_left exposed with same | same
    · exact leaves_operand same (left a b)
    · exact leaves_operand same (right a b)

end ShapeFlow.Expr
