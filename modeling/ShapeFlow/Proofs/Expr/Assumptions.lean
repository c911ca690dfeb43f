import ShapeFlow.Expr.Simplify
import ShapeFlow.Expr.Printer
import ShapeFlow.Proofs.Expr.Evaluation
/-!
What is assumed of a symbol decides nothing. Every operation of the reduction commutes with dropping
the assumptions, so alike expressions fold by the same steps, print the same text and evaluate to the
same value or error. Only the representative that is kept may carry other assumptions.
-/
namespace ShapeFlow.Expr
variable {σ : Binding} {e a b : Expr} {s t : Term} {ts us : List Term} {fs : List Expr}

theorem alike_bare : Alike a.bare b.bare ↔ Alike a b := by
  unfold Alike
  rw [bare_bare, bare_bare]

theorem value?_eq_some {v : Int} : e.value? = some v ↔ e = .value v := by cases e <;> simp [value?]

theorem value?_bare (e : Expr) : e.bare.value? = e.value? := by cases e <;> rfl

def Term.bare (t : Term) : Term := ⟨t.negated, t.body.bare⟩

theorem flip_bare (ts : List Term) : (ts.map Term.bare).map .flip = (ts.map .flip).map Term.bare := by
  rw [List.map_map, List.map_map]
  rfl

theorem terms_bare (e : Expr) : e.bare.terms = e.terms.map Term.bare := by
  induction e with
  | add a b iha ihb => rw [bare, terms, terms, iha, ihb, List.map_append]
  | sub a b iha ihb => rw [bare, terms, terms, iha, ihb, flip_bare, List.map_append]
  | neg a ih => rw [bare, terms, terms, ih, flip_bare]
  | value | var | mul | div | divCeil | broadcast => rfl

theorem factors_bare (e : Expr) : e.bare.factors = e.factors.map bare := by
  induction e with
  | mul a b iha ihb => rw [bare, factors, factors, iha, ihb, List.map_append]
  | value | var | neg | add | sub | div | divCeil | broadcast => rfl

theorem cancels_bare (t s : Term) : t.bare.cancels s.bare = t.cancels s := by
  simp only [Term.cancels, Term.bare, alike_bare]

theorem cancelOrAppend_bare (us : List Term) (t : Term) :
    cancelOrAppend (us.map Term.bare) t.bare = (cancelOrAppend us t).map Term.bare := by
  have same : t.bare.cancels ∘ Term.bare = t.cancels := funext (cancels_bare t)
  unfold cancelOrAppend
  rw [List.any_map, List.eraseP_map, same]
  split
  · rfl
  · rw [List.map_append, List.map_singleton]

/-- The same terms are struck out. -/
theorem joined_bare (ts us : List Term) :
    (ts.map Term.bare).foldl cancelOrAppend (us.map Term.bare) =
      (ts.foldl cancelOrAppend us).map Term.bare := by
  induction ts generalizing us with
  | nil => rfl
  | cons t ts ih => rw [List.map_cons, List.foldl_cons, List.foldl_cons, cancelOrAppend_bare, ih]

theorem toExpr_bare (t : Term) : t.bare.toExpr = t.toExpr.bare := by
  obtain ⟨negated, body⟩ := t
  cases negated <;> rfl

theorem after_bare (e : Expr) (t : Term) : t.bare.after e.bare = (t.after e).bare := by
  obtain ⟨negated, body⟩ := t
  cases negated <;> rfl

theorem chain_bare (e : Expr) (ts : List Term) :
    (ts.map Term.bare).foldl Term.after e.bare = (ts.foldl Term.after e).bare := by
  induction ts generalizing e with
  | nil => rfl
  | cons t ts ih => rw [List.map_cons, List.foldl_cons, List.foldl_cons, after_bare, ih]

theorem addConstant_bare (e : Expr) (c : Int) : addConstant e.bare c = (addConstant e c).bare := by
  unfold addConstant
  split
  · rfl
  · split <;> rfl

theorem signedValue_bare (t : Term) : t.bare.value? = t.value? := by
  obtain ⟨negated, body⟩ := t
  cases body <;> cases negated <;> rfl

theorem sumOf_bare (ts : List Term) : sumOf (ts.map Term.bare) = (sumOf ts).bare := by
  have same : Term.value? ∘ Term.bare = Term.value? := funext signedValue_bare
  have symbolic : (fun t : Term => t.value?.isNone) ∘ Term.bare = (·.value?.isNone) :=
    funext fun t => congrArg Option.isNone (signedValue_bare t)
  have joined := joined_bare (ts.filter (·.value?.isNone)) []
  rw [List.map_nil] at joined
  unfold sumOf
  rw [List.filterMap_map, List.filter_map, same, symbolic, joined]
  cases (ts.filter (·.value?.isNone)).foldl cancelOrAppend [] with
  | nil => rfl
  | cons t rest =>
    simp only [List.map_cons]
    rw [toExpr_bare, chain_bare, addConstant_bare]

theorem product_bare (e : Expr) (fs : List Expr) :
    (fs.map bare).foldl .mul e.bare = (fs.foldl .mul e).bare := by
  induction fs generalizing e with
  | nil => rfl
  | cons f fs ih => exact ih (.mul e f)

theorem productOf_bare (fs : List Expr) : productOf (fs.map bare) = (productOf fs).bare := by
  have same : value? ∘ bare = value? := funext value?_bare
  have symbolic : (fun f : Expr => f.value?.isNone) ∘ bare = (·.value?.isNone) :=
    funext fun f => congrArg Option.isNone (value?_bare f)
  unfold productOf
  rw [List.filterMap_map, List.filter_map, same, symbolic]
  dsimp only
  split
  · rfl
  · cases fs.filter (·.value?.isNone) with
    | nil => rfl
    | cons f rest =>
      simp only [List.map_cons]
      rw [product_bare]
      split <;> rfl

theorem negated_bare (e : Expr) : negated e.bare = (negated e).bare := by cases e <;> rfl

theorem quotient_compound {round : Int → Int → Int} {keep : Expr → Expr → Expr}
    (compound : a.value? = none ∨ b.value? = none) : quotient round keep a b =
      if b = .value 1 then a else if Alike a b then .value 1 else keep a b := by
  unfold quotient
  split
  · rfl
  · split
    · rcases compound with left | right
      · cases left
      · cases right
    · rfl

theorem quotient_literals {round : Int → Int → Int} {keep : Expr → Expr → Expr} (x y : Int) :
    quotient round keep (.value x) (.value y) =
      if y = 0 then if x = 0 then .value 1 else keep (.value x) (.value 0)
      else if y = 1 then .value x else .value (round x y) := by
  unfold quotient
  by_cases zero : y = 0
  · simp [zero]
  · by_cases one : y = 1
    · simp [one]
    · simp [zero, one]

theorem quotient_bare {round : Int → Int → Int} {keep : Expr → Expr → Expr}
    (kept : ∀ a b, keep a.bare b.bare = (keep a b).bare) (a b : Expr) :
    quotient round keep a.bare b.bare = (quotient round keep a b).bare := by
  by_cases compound : a.value? = none ∨ b.value? = none
  · rw [quotient_compound compound, quotient_compound (by rwa [value?_bare, value?_bare])]
    simp only [bare_eq_value, alike_bare]
    split
    · rfl
    · split
      · rfl
      · exact kept a b
  · obtain ⟨left, right⟩ := not_or.mp compound
    obtain ⟨x, dividend⟩ := Option.ne_none_iff_exists'.mp left
    obtain ⟨y, divisor⟩ := Option.ne_none_iff_exists'.mp right
    obtain rfl := value?_eq_some.mp dividend
    obtain rfl := value?_eq_some.mp divisor
    rw [bare, bare, quotient_literals]
    split
    · split
      · rfl
      · exact kept (.value x) (.value 0)
    · split <;> rfl

theorem broadcasted_left (x : Int) (b : Expr) :
    broadcasted (.value x) b = if x = 1 then b else .value x := by
  unfold broadcasted
  by_cases like : Alike (.value x) b
  · rw [if_pos like, bare_eq_value.mp like.symm, ite_self]
  · rw [if_neg like]
    dsimp only
    rw [ite_self]

theorem broadcasted_right (symbolic : a.value? = none) (y : Int) :
    broadcasted a (.value y) = if y = 1 then a else .value y := by
  cases a with
  | value => cases symbolic
  | var | neg | add | sub | mul | div | divCeil | broadcast => rfl

theorem broadcasted_compound (left : a.value? = none) (right : b.value? = none) :
    broadcasted a b = if Alike a b then a else .broadcast a b := by
  unfold broadcasted
  split
  · rfl
  · split
    · cases left
    · cases right
    · rfl

theorem broadcasted_bare (a b : Expr) : broadcasted a.bare b.bare = (broadcasted a b).bare := by
  cases left : a.value? with
  | some x =>
    obtain rfl := value?_eq_some.mp left
    rw [bare, broadcasted_left, broadcasted_left]
    split <;> rfl
  | none =>
    have left' : a.bare.value? = none := by rw [value?_bare, left]
    cases right : b.value? with
    | some y =>
      obtain rfl := value?_eq_some.mp right
      rw [bare, broadcasted_right left', broadcasted_right left]
      split <;> rfl
    | none =>
      rw [broadcasted_compound left right, broadcasted_compound left' (by rw [value?_bare, right])]
      simp only [alike_bare]
      split <;> rfl

def Reduced.bare : Reduced → Reduced
  | .whole e => .whole e.bare
  | .sum ts => .sum (ts.map Term.bare)
  | .product fs => .product (fs.map Expr.bare)
  | .negation r => .negation r.bare

theorem Reduced.form_bare (r : Reduced) : r.bare.form = r.form.bare := by
  induction r with
  | whole e => rfl
  | sum ts => exact sumOf_bare ts
  | product fs => exact productOf_bare fs
  | negation r ih => rw [bare, form, form, ih, negated_bare]

theorem Reduced.terms_bare (r : Reduced) : r.bare.terms = r.terms.map Term.bare := by
  induction r with
  | whole e => exact Expr.terms_bare e
  | sum ts => rfl
  | product fs =>
    change (productOf (fs.map Expr.bare)).terms = (productOf fs).terms.map Term.bare
    rw [productOf_bare, Expr.terms_bare]
  | negation r ih => rw [bare, terms, terms, ih, flip_bare]

theorem Reduced.factors_bare (r : Reduced) : r.bare.factors = r.factors.map Expr.bare := by
  cases r with
  | product fs => rfl
  | whole e => exact Expr.factors_bare e
  | sum ts =>
    change (Reduced.sum ts).bare.form.factors = (Reduced.sum ts).form.factors.map Expr.bare
    rw [form_bare, Expr.factors_bare]
  | negation r =>
    change (negation r).bare.form.factors = (negation r).form.factors.map Expr.bare
    rw [form_bare, Expr.factors_bare]

/-- Folding does not look at assumptions. -/
theorem reduce_bare (e : Expr) : e.bare.reduce = e.reduce.bare := by
  induction e with
  | value v => rfl
  | var s => rfl
  | neg a ih => rw [bare, reduce, reduce, ih, Reduced.bare]
  | add a b iha ihb =>
    rw [bare, reduce, reduce, iha, ihb, Reduced.terms_bare, Reduced.terms_bare, Reduced.bare,
      List.map_append]
  | sub a b iha ihb =>
    rw [bare, reduce, reduce, iha, ihb, Reduced.terms_bare, Reduced.terms_bare, flip_bare,
      Reduced.bare, List.map_append]
  | mul a b iha ihb =>
    rw [bare, reduce, reduce, iha, ihb, Reduced.factors_bare, Reduced.factors_bare, Reduced.bare,
      List.map_append]
  | div a b iha ihb =>
    rw [bare, reduce, reduce, iha, ihb, Reduced.form_bare, Reduced.form_bare, Reduced.bare,
      quotient_bare]
    exact fun _ _ => rfl
  | divCeil a b iha ihb =>
    rw [bare, reduce, reduce, iha, ihb, Reduced.form_bare, Reduced.form_bare, Reduced.bare,
      quotient_bare]
    exact fun _ _ => rfl
  | broadcast a b iha ihb =>
    rw [bare, reduce, reduce, iha, ihb, Reduced.form_bare, Reduced.form_bare, Reduced.bare,
      broadcasted_bare]

theorem simplify_bare (e : Expr) : e.bare.simplify = e.simplify.bare := by
  unfold simplify
  rw [reduce_bare, Reduced.form_bare]

theorem rank_bare (e : Expr) : e.bare.rank = e.rank := by cases e <;> rfl

theorem render_bare (e : Expr) : e.bare.render = e.render := by
  induction e with
  | value | var => rfl
  | neg a ih => simp only [bare, render, rank_bare, ih]
  | add a b iha ihb | sub a b iha ihb | mul a b iha ihb =>
    simp only [bare, render, rank_bare, iha, ihb]
  | div a b iha ihb | divCeil a b iha ihb | broadcast a b iha ihb =>
    simp only [bare, render, rank_bare, iha, ihb]

theorem simplifyOverflows_bare (e : Expr) : e.bare.simplifyOverflows = e.simplifyOverflows := by
  induction e with
  | value | var => rfl
  | neg a ih => exact ih
  | add a b iha ihb | sub a b iha ihb | mul a b iha ihb | broadcast a b iha ihb =>
    simp only [bare, simplifyOverflows, iha, ihb]
  | div a b iha ihb | divCeil a b iha ihb =>
    simp only [bare, simplifyOverflows, iha, ihb, simplify_bare, value?_bare]

theorem evalOverflows_bare (σ : Binding) (e : Expr) : e.bare.evalOverflows σ = e.evalOverflows σ := by
  induction e with
  | value | var => rfl
  | neg a ih => exact ih
  | add a b iha ihb | sub a b iha ihb | mul a b iha ihb | broadcast a b iha ihb =>
    simp only [bare, evalOverflows, eval_bare, iha, ihb]
  | div a b iha ihb | divCeil a b iha ihb =>
    simp only [bare, evalOverflows, eval_bare, iha, ihb]

/-- Alike expressions simplify to alike ones, have one text, and evaluate to one value or error; and
a machine that stops at one of them stops at the other. -/
theorem assumptions_decide_nothing (like : Alike a b) :
    Alike a.simplify b.simplify ∧ a.render = b.render ∧ (∀ σ, a.eval σ = b.eval σ) ∧
      a.simplify?.map bare = b.simplify?.map bare ∧ ∀ σ, a.eval? σ = b.eval? σ := by
  have folded : Alike a.simplify b.simplify := by
    unfold Alike
    rw [← simplify_bare, like, simplify_bare]
  have text : a.render = b.render := by rw [← render_bare a, like, render_bare]
  have values : ∀ σ, a.eval σ = b.eval σ := fun σ => eval_alike like
  have stops : a.simplifyOverflows = b.simplifyOverflows := by
    rw [← simplifyOverflows_bare a, like, simplifyOverflows_bare]
  refine ⟨folded, text, values, ?_, ?_⟩
  · unfold simplify?
    rw [stops]
    split
    · rfl
    · exact congrArg some folded
  · intro σ
    have stops : a.evalOverflows σ = b.evalOverflows σ := by
      rw [← evalOverflows_bare σ a, like, evalOverflows_bare]
    unfold eval?
    rw [stops, values]

/-- The two expressions differ in the flags of both symbols; what cancels, divides out and is kept is
the same, and only the symbols that are kept carry other flags. -/
theorem assumptions_decide_nothing_in_nested_quotient :
    let e : Symbol → Symbol → Expr := fun h n =>
      .divCeil (.broadcast (.sub (.add (.var h) (.mul (.var n) (.value 2))) (.var h))
        (.mul (.value 2) (.var n))) (.sub (.value 3) (.neg (.div (.var h) (.var n))))
    let a : Expr := e ⟨"h", true⟩ ⟨"n", false⟩
    let b : Expr := e ⟨"h", false⟩ ⟨"n", true⟩
    Alike a b ∧ a ≠ b ∧ a.simplify ≠ b.simplify ∧ Alike a.simplify b.simplify ∧
      a.render = b.render ∧ a.eval (fun _ => none) = b.eval (fun _ => none) := by
  intro e a b
  have like : Alike a b := rfl
  obtain ⟨folded, text, values, -, -⟩ := assumptions_decide_nothing like
  exact ⟨like, by decide, by decide +kernel, folded, text, values _⟩

end ShapeFlow.Expr
