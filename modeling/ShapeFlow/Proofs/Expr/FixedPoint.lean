import ShapeFlow.Proofs.Expr.NormalForm
/-!
Simplification ends after one pass. An expression in normal form is its own reduction: collecting
its terms or factors again finds them as they were written, nothing among them cancels, and they are
put together in the same order.
-/
namespace ShapeFlow.Expr
variable {e a b f : Expr} {t : Term} {ts us rest : List Term} {fs : List Expr}

/-- A chain is built from its terms, first to last. -/
theorem sumChain_built (chain : e.SumChain) :
    ∃ t rest, e.terms = t :: rest ∧ rest.foldl Term.after t.toExpr = e := by
  induction e with
  | add a b iha ihb =>
    obtain ⟨t, rest, first, built⟩ := iha chain.1
    refine ⟨t, rest ++ [⟨false, b⟩], ?_, by simp [built, Term.after]⟩
    simp [terms, first, terms_single chain.2]
  | sub a b iha ihb =>
    obtain ⟨t, rest, first, built⟩ := iha chain.1
    refine ⟨t, rest ++ [⟨true, b⟩], ?_, by simp [built, Term.after]⟩
    simp [terms, first, terms_single chain.2, Term.flip]
  | neg a ih => exact ⟨⟨true, a⟩, [], by simp [terms, terms_single chain, Term.flip], rfl⟩
  | value | var | mul | div | divCeil | broadcast => exact ⟨_, [], rfl, rfl⟩

theorem factorChain_built (chain : e.FactorChain) :
    ∃ f fs, e.factors = f :: fs ∧ fs.foldl .mul f = e ∧ ∀ g ∈ e.factors, g.value? = none := by
  induction e with
  | mul a b iha ihb =>
    obtain ⟨longer, single⟩ := chain
    obtain ⟨f, fs, first, built, symbolic⟩ := iha longer
    have last : b.factors = [b] ∧ b.value? = none := by
      cases b <;> first | exact ⟨rfl, rfl⟩ | exact single.elim
    refine ⟨f, fs ++ [b], by simp [factors, first, last.1], by simp [built], ?_⟩
    rw [factors, last.1]
    exact List.forall_mem_append.mpr ⟨symbolic, List.forall_mem_singleton.mpr last.2⟩
  | value => exact chain.elim
  | var | neg | add | sub | div | divCeil | broadcast =>
    exact ⟨_, [], rfl, rfl, List.forall_mem_singleton.mpr rfl⟩

theorem joined_uncancelled (apart : Uncancelled (us ++ ts)) :
    ts.foldl cancelOrAppend us = us ++ ts := by
  induction ts generalizing us with
  | nil => simp
  | cons t ts ih =>
    have unmet : us.any t.cancels = false := by
      rw [List.any_eq_false]
      intro s member cancels
      simp only [Term.cancels, Bool.and_eq_true, bne_iff_ne, decide_eq_true_eq] at cancels
      exact apart s (by simp [member]) t (by simp) cancels.1 cancels.2
    rw [List.append_cons] at apart ⊢
    simpa [cancelOrAppend, unmet] using ih apart

theorem constantTerms_signed (negated : Bool) {v : Int} (positive : 0 < v) :
    constantTerms (if negated then -v else v) = [⟨negated, .value v⟩] := by
  have size : (v.natAbs : Int) = v := Int.natAbs_of_nonneg (Int.le_of_lt positive)
  have nonzero : v ≠ 0 := Int.ne_of_gt positive
  have below : ¬ v < 0 := Int.not_lt.mpr (Int.le_of_lt positive)
  cases negated with
  | false => simp [constantTerms, size, nonzero, below]
  | true => simp [constantTerms, size, nonzero, positive]

/-- Collected terms are symbolic ones that do not cancel, and what a constant adds after them. -/
theorem collected_split (collected : Collected ts) :
    ∃ us c, ts = us ++ constantTerms c ∧ (∀ t ∈ us, t.body.value? = none) ∧ Uncancelled us := by
  rcases List.eq_nil_or_concat ts with rfl | ⟨us, t, rfl⟩
  · exact ⟨[], 0, rfl, nofun, nofun⟩
  · -- Only the last term may be a literal; if it is not, nothing is added.
    obtain ⟨last, positive, apart⟩ := collected
    rw [List.concat_eq_append] at last positive apart ⊢
    rw [List.dropLast_concat] at last
    have front := uncancelled_subset apart (List.subset_append_left us [t])
    obtain ⟨negated, body⟩ := t
    cases known : body.value? with
    | none =>
      refine ⟨us ++ [⟨negated, body⟩], 0, by simp [constantTerms], ?_, apart⟩
      exact List.forall_mem_append.mpr ⟨last, List.forall_mem_singleton.mpr known⟩
    | some v =>
      cases body <;> cases known
      have above := positive _ List.mem_concat_self v rfl
      exact ⟨us, _, congrArg _ (constantTerms_signed negated above).symm, last, front⟩

theorem symbolic_terms (symbolic : ∀ t ∈ us, t.body.value? = none) :
    us.filter (·.value?.isNone) = us ∧ us.filterMap Term.value? = [] := by
  have none : ∀ t ∈ us, t.value? = none := by
    intro t member
    rw [← Option.isNone_iff_eq_none, value?_body, symbolic t member]
    rfl
  constructor
  · rw [List.filter_eq_self]
    intro t member
    rw [none t member]
    rfl
  · exact List.filterMap_eq_nil_iff.mpr none

theorem constant_terms (c : Int) :
    (constantTerms c).filter (·.value?.isNone) = [] ∧
      ((constantTerms c).filterMap Term.value?).foldr (· + ·) 0 = c := by
  unfold constantTerms
  split
  · rename_i zero
    exact ⟨rfl, zero.symm⟩
  · by_cases negative : c < 0
    · simp [negative, Term.value?, Int.ofNat_natAbs_of_nonpos (Int.le_of_lt negative)]
    · simp [negative, Term.value?, Int.natAbs_of_nonneg (Int.not_lt.mp negative)]

theorem sumOf_split (symbolic : ∀ s ∈ t :: rest, s.body.value? = none)
    (apart : Uncancelled (t :: rest)) (c : Int) :
    sumOf (t :: rest ++ constantTerms c) = (rest ++ constantTerms c).foldl Term.after t.toExpr := by
  obtain ⟨kept, unvalued⟩ := symbolic_terms symbolic
  obtain ⟨dropped, constant⟩ := constant_terms c
  have left : standing (t :: rest ++ constantTerms c) = t :: rest := by
    unfold standing
    rw [List.filter_append, kept, dropped, List.append_nil]
    exact joined_uncancelled apart
  have total : constantOf (t :: rest ++ constantTerms c) = c := by
    unfold constantOf
    rw [List.filterMap_append, unvalued, List.nil_append, constant]
  rw [sumOf_chain left, total]

theorem sumOf_terms (chain : e.SumChain) (collected : Collected e.terms)
    (several : 2 ≤ e.terms.length) : sumOf e.terms = e := by
  obtain ⟨t, rest, first, built⟩ := sumChain_built chain
  obtain ⟨us, c, split, symbolic, apart⟩ := collected_split collected
  cases us with
  | nil =>
    -- A constant alone is one term at most.
    rw [split, List.nil_append, constantTerms] at several
    split at several <;> simp at several
  | cons s us =>
    rw [split]
    rw [split, List.cons_append] at first
    obtain ⟨rfl, rfl⟩ := List.cons.inj first
    rw [sumOf_split symbolic apart, built]

theorem terms_length_pos (e : Expr) : 0 < e.terms.length := by
  induction e with
  | add a b iha _ | sub a b iha _ =>
    rw [terms, List.length_append]
    exact Nat.add_pos_left iha _
  | neg a ih => simpa [terms] using ih
  | value | var | mul | div | divCeil | broadcast => exact Nat.zero_lt_one

theorem terms_several (a b : Expr) (same : us.length = b.terms.length) :
    2 ≤ (a.terms ++ us).length := by
  have left := terms_length_pos a
  have right := terms_length_pos b
  rw [List.length_append, same]
  omega

theorem symbolic_factors (symbolic : ∀ f ∈ fs, f.value? = none) :
    fs.filter (·.value?.isNone) = fs ∧ fs.filterMap value? = [] := by
  constructor
  · rw [List.filter_eq_self]
    intro f member
    rw [symbolic f member]
    rfl
  · exact List.filterMap_eq_nil_iff.mpr symbolic

theorem productOf_chain (chain : e.FactorChain) : productOf e.factors = e := by
  obtain ⟨f, fs, first, built, symbolic⟩ := factorChain_built chain
  obtain ⟨kept, unvalued⟩ := symbolic_factors symbolic
  unfold productOf
  rw [kept, unvalued, first]
  exact built

theorem productOf_scaled {c : Int} (zero : c ≠ 0) (one : c ≠ 1) (chain : e.FactorChain) :
    productOf (.value c :: e.factors) = .mul (.value c) e := by
  obtain ⟨f, fs, first, built, symbolic⟩ := factorChain_built chain
  obtain ⟨kept, unvalued⟩ := symbolic_factors symbolic
  have constant : ((Expr.value c :: e.factors).filterMap value?).foldr (· * ·) 1 = c := by
    rw [List.filterMap_cons_some (show (Expr.value c).value? = some c from rfl), unvalued]
    exact Int.mul_one c
  have others : (Expr.value c :: e.factors).filter (·.value?.isNone) = f :: fs := by
    rw [List.filter_cons_of_neg Bool.false_ne_true, kept, first]
  unfold productOf
  rw [constant, others]
  simp only [zero, one, if_false, built]

/-- The product of the factors of a normal expression is the expression. -/
theorem productOf_factors (normal : Normal e) : productOf e.factors = e := by
  cases e with
  | mul a b =>
    obtain ⟨product, -, -⟩ := normal_mul.mp normal
    rcases product with chain | ⟨c, rfl, zero, one, chain⟩
    · exact productOf_chain chain
    · exact productOf_scaled zero one chain
  | value v =>
    by_cases zero : v = 0 <;> simp [factors, productOf, value?, zero]
  | var | neg | add | sub | div | divCeil | broadcast => rfl

theorem quotient_kept {round : Int → Int → Int} {keep : Expr → Expr → Expr}
    (kept : QuotientKept a b) : quotient round keep a b = keep a b := by
  unfold quotient
  rw [if_neg kept.divisor]
  split
  · rename_i x y
    have zero : y = 0 := kept.symbolic x y rfl rfl
    have differ : x ≠ y := fun same => kept.unlike (congrArg Expr.value same)
    rw [if_neg (not_not_intro zero), if_neg differ]
  · rw [if_neg kept.unlike]

theorem broadcasted_kept (kept : NormalAt (.broadcast a b)) : broadcasted a b = .broadcast a b := by
  obtain ⟨left, right, unlike⟩ := kept
  unfold broadcasted
  rw [if_neg unlike]
  split
  · cases left
  · cases right
  · rfl

structure Fixed (e : Expr) : Prop where
  form : e.reduce.form = e
  terms : e.reduce.terms = e.terms
  factors : e.reduce.factors = e.factors

theorem fixed_whole (reduced : e.reduce = .whole f) (same : f = e) : Fixed e := by
  subst same
  exact ⟨by rw [reduced]; rfl, by rw [reduced]; rfl, by rw [reduced]; rfl⟩

theorem fixed_sum (reduced : e.reduce = .sum e.terms) (several : 2 ≤ e.terms.length)
    (chain : e.SumChain) (collected : Collected e.terms) : Fixed e := by
  have form : e.reduce.form = e := by
    rw [reduced]
    exact sumOf_terms chain collected several
  have factors : e.reduce.factors = e.reduce.form.factors := by rw [reduced]; rfl
  exact ⟨form, by rw [reduced]; rfl, by rw [factors, form]⟩

theorem fixed_of_normal (normal : Normal e) : Fixed e := by
  induction e with
  | value v => exact fixed_whole rfl rfl
  | var s => exact fixed_whole rfl rfl
  | neg a ih =>
    obtain ⟨⟨symbolic, single⟩, na⟩ := normal_neg.mp normal
    have inner := ih na
    have form : (neg a).reduce.form = .neg a := by
      change negated a.reduce.form = .neg a
      rw [inner.form]
      cases a <;> first | rfl | exact absurd rfl (single _) | cases symbolic
    have factors : (neg a).reduce.factors = (neg a).reduce.form.factors := rfl
    exact ⟨form, congrArg _ inner.terms, by rw [factors, form]⟩
  | add a b iha ihb =>
    obtain ⟨⟨chain, collected⟩, na, nb⟩ := normal_add.mp normal
    have again : (add a b).reduce = .sum (add a b).terms := by
      rw [reduce, (iha na).terms, (ihb nb).terms, terms]
    exact fixed_sum again (terms_several a b rfl) chain collected
  | sub a b iha ihb =>
    obtain ⟨⟨chain, collected⟩, na, nb⟩ := normal_sub.mp normal
    have again : (sub a b).reduce = .sum (sub a b).terms := by
      rw [reduce, (iha na).terms, (ihb nb).terms, terms]
    exact fixed_sum again (terms_several a b (List.length_map Term.flip)) chain collected
  | mul a b iha ihb =>
    obtain ⟨-, na, nb⟩ := normal_mul.mp normal
    have again : (mul a b).reduce = .product (mul a b).factors := by
      rw [reduce, (iha na).factors, (ihb nb).factors, factors]
    have form : (mul a b).reduce.form = .mul a b := by
      rw [again]
      exact productOf_factors normal
    have terms : (mul a b).reduce.terms = (mul a b).reduce.form.terms := rfl
    exact ⟨form, by rw [terms, form], by rw [again]; rfl⟩
  | div a b iha ihb =>
    obtain ⟨kept, na, nb⟩ := normal_div.mp normal
    refine fixed_whole rfl ?_
    rw [(iha na).form, (ihb nb).form, quotient_kept kept]
  | divCeil a b iha ihb =>
    obtain ⟨kept, na, nb⟩ := normal_divCeil.mp normal
    refine fixed_whole rfl ?_
    rw [(iha na).form, (ihb nb).form, quotient_kept kept]
  | broadcast a b iha ihb =>
    obtain ⟨kept, na, nb⟩ := normal_broadcast.mp normal
    refine fixed_whole rfl ?_
    rw [(iha na).form, (ihb nb).form, broadcasted_kept kept]

/-- A simplified expression is its own simplification, down to what is assumed of its symbols. -/
theorem simplify_idempotent (e : Expr) : e.simplify.simplify = e.simplify :=
  (fixed_of_normal (normal_simplify e)).form

/-- An operand that is no sum adds the same terms before and after it is simplified, although
simplification may turn it into a sum; and so do the factors of one that is no product. -/
theorem collected_again (e : Expr) :
    (e.IsTerm → e.simplify.reduce.terms = e.reduce.terms) ∧
      ((∀ a b, e ≠ .mul a b) → e.simplify.reduce.factors = e.reduce.factors) := by
  have fixed := fixed_of_normal (normal_simplify e)
  constructor
  · intro single
    rw [fixed.terms]
    cases e <;> first | rfl | exact single.elim
  · intro single
    rw [fixed.factors]
    cases e <;> first | rfl | exact absurd rfl (single _ _)

end ShapeFlow.Expr
