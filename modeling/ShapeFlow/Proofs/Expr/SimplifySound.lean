import ShapeFlow.Expr.Simplify
import ShapeFlow.Proofs.Expr.Evaluation
/-!
Simplification keeps values. What an expression reduces to is read in three ways, as an expression,
as terms and as factors, and each reading has the value of the expression. The lemmas follow the
operations of the reduction one by one, and one induction over the expression joins them.
-/
namespace ShapeFlow.Expr
variable {σ : Binding} {e a b : Expr} {t : Term} {ts us : List Term} {fs gs : List Expr}
  {r : Reduced} {v x y : Int}

def Term.signed (t : Term) (x : Int) : Int := if t.negated then -x else x

inductive SumsTo (σ : Binding) : List Term → Int → Prop where
  | nil : SumsTo σ [] 0
  | cons {t : Term} {ts : List Term} {x y : Int} (head : t.body.eval σ = .ok x)
      (tail : SumsTo σ ts y) : SumsTo σ (t :: ts) (t.signed x + y)

inductive MultipliesTo (σ : Binding) : List Expr → Int → Prop where
  | nil : MultipliesTo σ [] 1
  | cons {f : Expr} {fs : List Expr} {x y : Int} (head : f.eval σ = .ok x)
      (tail : MultipliesTo σ fs y) : MultipliesTo σ (f :: fs) (x * y)

theorem signed_flip (t : Term) (x : Int) : t.flip.signed x = -t.signed x := by
  cases h : t.negated <;> simp [Term.signed, Term.flip, h]

theorem signed_opposite {s t : Term} (differ : s.negated ≠ t.negated) (x : Int) :
    s.signed x = -t.signed x := by
  cases hs : s.negated <;> cases ht : t.negated <;> simp_all [Term.signed]

theorem sumsTo_nil : SumsTo σ [] v ↔ v = 0 := by
  constructor
  · intro h; cases h; rfl
  · rintro rfl; exact .nil

theorem sumsTo_cons :
    SumsTo σ (t :: ts) v ↔ ∃ x, t.body.eval σ = .ok x ∧ ∃ y, SumsTo σ ts y ∧ t.signed x + y = v := by
  constructor
  · intro h
    cases h with
    | cons head tail => exact ⟨_, head, _, tail, rfl⟩
  · rintro ⟨x, head, y, tail, rfl⟩
    exact .cons head tail

theorem sumsTo_append :
    SumsTo σ (ts ++ us) v ↔ ∃ x, SumsTo σ ts x ∧ ∃ y, SumsTo σ us y ∧ x + y = v := by
  induction ts generalizing v with
  | nil => simp [sumsTo_nil]
  | cons t ts ih =>
    simp only [List.cons_append, sumsTo_cons, ih]
    constructor
    · rintro ⟨x, hx, _, ⟨y, hy, z, hz, rfl⟩, rfl⟩
      exact ⟨_, ⟨x, hx, y, hy, rfl⟩, z, hz, by omega⟩
    · rintro ⟨_, ⟨x, hx, y, hy, rfl⟩, z, hz, rfl⟩
      exact ⟨x, hx, _, ⟨y, hy, z, hz, rfl⟩, by omega⟩

theorem sumsTo_flip (h : SumsTo σ ts v) : SumsTo σ (ts.map .flip) (-v) := by
  induction h with
  | nil => exact .nil
  | @cons t ts x y head tail ih =>
    have whole : SumsTo σ (t.flip :: ts.map .flip) (t.flip.signed x + -y) := .cons head ih
    rw [signed_flip, ← Int.neg_add] at whole
    exact whole

theorem sumsTo_single (h : e.eval σ = .ok v) : SumsTo σ [⟨false, e⟩] v := by
  have whole : SumsTo σ [⟨false, e⟩] (v + 0) := .cons h .nil
  simpa using whole

theorem sumsTo_terms (h : e.eval σ = .ok v) : SumsTo σ e.terms v := by
  induction e generalizing v with
  | add a b iha ihb =>
    obtain ⟨x, hx, y, hy, rfl⟩ := eval_add_ok.mp h
    exact sumsTo_append.mpr ⟨x, iha hx, y, ihb hy, rfl⟩
  | sub a b iha ihb =>
    obtain ⟨x, hx, y, hy, rfl⟩ := eval_sub_ok.mp h
    exact sumsTo_append.mpr ⟨x, iha hx, -y, sumsTo_flip (ihb hy), rfl⟩
  | neg a ih =>
    obtain ⟨x, hx, rfl⟩ := eval_neg_ok.mp h
    exact sumsTo_flip (ih hx)
  | value | var | mul | div | divCeil | broadcast => exact sumsTo_single h

theorem eval_cancelled {s : Term} (cancels : t.cancels s = true) :
    s.body.eval σ = t.body.eval σ ∧ s.negated ≠ t.negated := by
  simp only [Term.cancels, Bool.and_eq_true, bne_iff_ne, decide_eq_true_eq] at cancels
  exact ⟨eval_alike cancels.2, cancels.1⟩

/-- The term that is struck out takes its opposite with it. -/
theorem sumsTo_strike (found : ts.any t.cancels = true) (sum : SumsTo σ ts v)
    (hx : t.body.eval σ = .ok x) : SumsTo σ (ts.eraseP t.cancels) (v + t.signed x) := by
  induction sum with
  | nil => simp at found
  | @cons s ts z y head tail ih =>
    by_cases hs : t.cancels s = true
    · obtain ⟨same, differ⟩ := eval_cancelled hs (σ := σ)
      have hz : z = x := Except.ok.inj (head.symm.trans (same.trans hx))
      subst z
      rw [signed_opposite differ]
      have rest : -t.signed x + y + t.signed x = y := by omega
      simpa [List.eraseP_cons, hs, rest] using tail
    · have later : ts.any t.cancels = true := by simpa [hs] using found
      have whole : SumsTo σ (s :: ts.eraseP t.cancels) (s.signed z + (y + t.signed x)) :=
        .cons head (ih later)
      simpa [List.eraseP_cons, hs, Int.add_assoc] using whole

theorem sumsTo_cancelOrAppend (h : SumsTo σ (ts ++ [t]) v) : SumsTo σ (cancelOrAppend ts t) v := by
  unfold cancelOrAppend
  split
  · rename_i found
    obtain ⟨x, hts, y, ht, rfl⟩ := sumsTo_append.mp h
    obtain ⟨z, hz, w, hw, rfl⟩ := sumsTo_cons.mp ht
    rw [sumsTo_nil.mp hw, Int.add_zero]
    exact sumsTo_strike found hts hz
  · exact h

theorem sumsTo_joined (h : SumsTo σ (us ++ ts) v) : SumsTo σ (ts.foldl cancelOrAppend us) v := by
  induction ts generalizing us with
  | nil => simpa using h
  | cons t ts ih =>
    rw [List.append_cons, sumsTo_append] at h
    obtain ⟨x, front, y, back, rfl⟩ := h
    exact ih (sumsTo_append.mpr ⟨x, sumsTo_cancelOrAppend front, y, back, rfl⟩)

theorem signed_constant {c : Int} (constant : t.value? = some c) (hx : t.body.eval σ = .ok x) :
    t.signed x = c := by
  obtain ⟨negated, body⟩ := t
  cases body <;> cases negated <;> simp_all [Term.value?, Term.signed]

/-- The symbolic terms add up to what the constants leave of the sum. -/
theorem sumsTo_symbolic (h : SumsTo σ ts v) :
    SumsTo σ (ts.filter (·.value?.isNone))
      (v - (ts.filterMap Term.value?).foldr (· + ·) 0) := by
  induction h with
  | nil => exact .nil
  | @cons t ts x y head tail ih =>
    cases constant : t.value? with
    | none =>
      have whole := SumsTo.cons head ih
      simpa [constant, Int.add_sub_assoc] using whole
    | some c =>
      rw [signed_constant constant head]
      have same : c + y - (c + (ts.filterMap Term.value?).foldr (· + ·) 0) =
          y - (ts.filterMap Term.value?).foldr (· + ·) 0 := by omega
      simpa [constant, same] using ih

theorem eval_toExpr (hx : t.body.eval σ = .ok x) : t.toExpr.eval σ = .ok (t.signed x) := by
  cases h : t.negated <;> simp [Term.toExpr, Term.signed, h, hx]

theorem eval_after (he : e.eval σ = .ok v) (hx : t.body.eval σ = .ok x) :
    (t.after e).eval σ = .ok (v + t.signed x) := by
  cases h : t.negated <;> simp [Term.after, Term.signed, h, he, hx, Int.sub_eq_add_neg]

theorem eval_chain (he : e.eval σ = .ok v) (h : SumsTo σ ts x) :
    (ts.foldl Term.after e).eval σ = .ok (v + x) := by
  induction h generalizing e v with
  | nil => simpa using he
  | cons head tail ih =>
    rw [List.foldl_cons, ih (eval_after he head), Int.add_assoc]

theorem eval_addConstant (he : e.eval σ = .ok v) (c : Int) :
    (addConstant e c).eval σ = .ok (v + c) := by
  unfold addConstant
  split
  · simp_all
  · split <;> simp [he]

theorem eval_sumOf (h : SumsTo σ ts v) : (sumOf ts).eval σ = .ok v := by
  have symbolic := sumsTo_symbolic h
  rw [← List.nil_append (ts.filter _)] at symbolic
  have left := sumsTo_joined symbolic
  unfold sumOf
  dsimp only
  split
  · rename_i none
    rw [none, sumsTo_nil] at left
    rw [eval_value_ok]
    omega
  · rename_i t rest first
    rw [first] at left
    obtain ⟨x, hx, y, hy, total⟩ := sumsTo_cons.mp left
    rw [eval_addConstant (eval_chain (eval_toExpr hx) hy)]
    rw [total, Int.sub_add_cancel]

theorem multipliesTo_nil : MultipliesTo σ [] v ↔ v = 1 := by
  constructor
  · intro h; cases h; rfl
  · rintro rfl; exact .nil

theorem multipliesTo_append (hf : MultipliesTo σ fs x) (hg : MultipliesTo σ gs y) :
    MultipliesTo σ (fs ++ gs) (x * y) := by
  induction hf with
  | nil => simpa using hg
  | cons head tail ih =>
    rw [List.cons_append, Int.mul_assoc]
    exact .cons head ih

theorem multipliesTo_single (h : e.eval σ = .ok v) : MultipliesTo σ [e] v := by
  have whole : MultipliesTo σ [e] (v * 1) := .cons h .nil
  simpa using whole

theorem multipliesTo_factors (h : e.eval σ = .ok v) : MultipliesTo σ e.factors v := by
  induction e generalizing v with
  | mul a b iha ihb =>
    obtain ⟨x, hx, y, hy, rfl⟩ := eval_mul_ok.mp h
    exact multipliesTo_append (iha hx) (ihb hy)
  | value | var | neg | add | sub | div | divCeil | broadcast => exact multipliesTo_single h

theorem constant_value {c : Int} (constant : e.value? = some c) (hx : e.eval σ = .ok x) :
    x = c := by
  cases e <;> simp_all [value?]

/-- The product of the constants times that of the symbolic factors is the whole product. -/
theorem multipliesTo_symbolic (h : MultipliesTo σ fs v) :
    ∃ w, MultipliesTo σ (fs.filter (·.value?.isNone)) w ∧
      (fs.filterMap value?).foldr (· * ·) 1 * w = v := by
  induction h with
  | nil => exact ⟨1, .nil, rfl⟩
  | @cons f fs x y head tail ih =>
    obtain ⟨w, rest, rfl⟩ := ih
    cases constant : f.value? with
    | none =>
      have whole := MultipliesTo.cons head rest
      exact ⟨x * w, by simpa [constant] using whole, by simp [constant, Int.mul_left_comm]⟩
    | some c =>
      rw [constant_value constant head]
      exact ⟨w, by simpa [constant] using rest, by simp [constant, Int.mul_assoc]⟩

theorem eval_productChain (he : e.eval σ = .ok v) (h : MultipliesTo σ fs x) :
    (fs.foldl .mul e).eval σ = .ok (v * x) := by
  induction h generalizing e v with
  | nil => simpa using he
  | @cons f fs y z head tail ih =>
    have next : (mul e f).eval σ = .ok (v * y) := by simp [he, head]
    rw [List.foldl_cons, ih next, Int.mul_assoc]

theorem eval_productOf (h : MultipliesTo σ fs v) : (productOf fs).eval σ = .ok v := by
  obtain ⟨w, symbolic, total⟩ := multipliesTo_symbolic h
  unfold productOf
  dsimp only
  split
  · rename_i zero
    rw [zero, Int.zero_mul] at total
    rw [eval_value_ok, total]
  · split
    · rename_i none
      rw [none, multipliesTo_nil] at symbolic
      rw [eval_value_ok, ← total, symbolic, Int.mul_one]
    · rename_i f rest first
      rw [first] at symbolic
      cases symbolic with
      | @cons _ _ x y head tail =>
        have chain := eval_productChain head tail
        split
        · rename_i one
          rw [chain, ← total, one, Int.one_mul]
        · simp [chain, total]

theorem eval_negated (h : a.eval σ = .ok v) : (negated a).eval σ = .ok (-v) := by
  cases a with
  | value c => simpa [negated] using congrArg Neg.neg (eval_value_ok.mp h)
  | neg b =>
    obtain ⟨x, hx, rfl⟩ := eval_neg_ok.mp h
    simpa [negated] using hx
  | var | add | sub | mul | div | divCeil | broadcast => simpa [negated] using h

structure Rounds (round : Int → Int → Int) (keep : Expr → Expr → Expr) : Prop where
  by_one : ∀ x, round x 1 = x
  by_self : ∀ x, x ≠ 0 → round x x = 1
  kept : ∀ σ a b, (keep a b).eval σ = (do checkedQuotient round (← a.eval σ) (← b.eval σ))

theorem rounds_floor : Rounds Division.floor .div where
  by_one x := Int.fdiv_one x
  by_self _ nonzero := Int.fdiv_self nonzero
  kept _ _ _ := rfl

theorem rounds_ceil : Rounds Division.ceil .divCeil where
  by_one x := by simp [Division.ceil]
  by_self x nonzero := by
    have back : (x * -1).fdiv x = -1 := Int.mul_fdiv_cancel_left (-1) nonzero
    rw [Division.ceil, ← Int.mul_neg_one x, back, Int.neg_neg]
  kept _ _ _ := rfl

theorem eval_quotient {round : Int → Int → Int} {keep : Expr → Expr → Expr}
    (rounds : Rounds round keep) (ha : a.eval σ = .ok x) (hb : b.eval σ = .ok y)
    (nonzero : y ≠ 0) : (quotient round keep a b).eval σ = .ok (round x y) := by
  have kept : (keep a b).eval σ = .ok (round x y) := by
    simp [rounds.kept, bind_eq_ok, checkedQuotient_ok, ha, hb, nonzero]
  unfold quotient
  split
  · rename_i one
    subst one
    rw [← eval_value_ok.mp hb, rounds.by_one, ha]
  · split
    · rw [eval_value_ok] at ha hb
      simp [ha, hb, nonzero]
    · split
      · rename_i like
        have same : x = y := Except.ok.inj (ha.symm.trans ((eval_alike like).trans hb))
        rw [same, rounds.by_self y nonzero, eval_value_ok]
      · exact kept

theorem eval_broadcasted (ha : a.eval σ = .ok x) (hb : b.eval σ = .ok y)
    (joined : broadcastSize x y = .ok v) : (broadcasted a b).eval σ = .ok v := by
  have kept : (broadcast a b).eval σ = .ok v := by simp [ha, hb, joined]
  rw [broadcastSize_ok] at joined
  unfold broadcasted
  split
  · rename_i like
    have same : x = y := Except.ok.inj (ha.symm.trans ((eval_alike like).trans hb))
    rw [ha, Except.ok.injEq]
    omega
  · split
    · rw [eval_value_ok] at ha
      split
      · rw [hb, Except.ok.injEq]
        omega
      · split
        · rename_i one
          rw [one, eval_value_ok] at hb
          rw [eval_value_ok]
          omega
        · rw [eval_value_ok]
          omega
    · rw [eval_value_ok] at hb
      split
      · rw [ha, Except.ok.injEq]
        omega
      · rw [eval_value_ok]
        omega
    · exact kept

structure Reduced.Means (σ : Binding) (r : Reduced) (v : Int) : Prop where
  form : r.form.eval σ = .ok v
  terms : SumsTo σ r.terms v
  factors : MultipliesTo σ r.factors v

theorem means_whole (h : e.eval σ = .ok v) : (Reduced.whole e).Means σ v :=
  ⟨h, sumsTo_terms h, multipliesTo_factors h⟩

theorem means_sum (h : SumsTo σ ts v) : (Reduced.sum ts).Means σ v :=
  ⟨eval_sumOf h, h, multipliesTo_factors (eval_sumOf h)⟩

theorem means_product (h : MultipliesTo σ fs v) : (Reduced.product fs).Means σ v :=
  ⟨eval_productOf h, sumsTo_terms (eval_productOf h), h⟩

theorem means_negation (h : r.Means σ v) : (Reduced.negation r).Means σ (-v) :=
  ⟨eval_negated h.form, sumsTo_flip h.terms, multipliesTo_factors (eval_negated h.form)⟩

theorem reduce_means (h : e.eval σ = .ok v) : e.reduce.Means σ v := by
  induction e generalizing v with
  | value c => exact means_whole h
  | var s => exact means_whole h
  | neg a ih =>
    obtain ⟨x, hx, rfl⟩ := eval_neg_ok.mp h
    exact means_negation (ih hx)
  | add a b iha ihb =>
    obtain ⟨x, hx, y, hy, rfl⟩ := eval_add_ok.mp h
    exact means_sum (sumsTo_append.mpr ⟨x, (iha hx).terms, y, (ihb hy).terms, rfl⟩)
  | sub a b iha ihb =>
    obtain ⟨x, hx, y, hy, rfl⟩ := eval_sub_ok.mp h
    exact means_sum (sumsTo_append.mpr ⟨x, (iha hx).terms, -y, sumsTo_flip (ihb hy).terms, rfl⟩)
  | mul a b iha ihb =>
    obtain ⟨x, hx, y, hy, rfl⟩ := eval_mul_ok.mp h
    exact means_product (multipliesTo_append (iha hx).factors (ihb hy).factors)
  | div a b iha ihb =>
    obtain ⟨x, hx, y, hy, nonzero, rfl⟩ := eval_div_ok.mp h
    exact means_whole (eval_quotient rounds_floor (iha hx).form (ihb hy).form nonzero)
  | divCeil a b iha ihb =>
    obtain ⟨x, hx, y, hy, nonzero, rfl⟩ := eval_divCeil_ok.mp h
    exact means_whole (eval_quotient rounds_ceil (iha hx).form (ihb hy).form nonzero)
  | broadcast a b iha ihb =>
    obtain ⟨x, hx, y, hy, joined⟩ := eval_broadcast_ok.mp h
    exact means_whole (eval_broadcasted (iha hx).form (ihb hy).form joined)

/-- Whatever value an expression has under a binding, its simplified form has it too. -/
theorem simplify_preserves_value (σ : Binding) (e : Expr) (v : Int) (h : e.eval σ = .ok v) :
    e.simplify.eval σ = .ok v :=
  (reduce_means h).form

theorem simplify_preserves_value_of_broadcast :
    let σ : Binding := fun name =>
      if name = "h" then some 7 else if name = "n" then some (-4) else none
    let e : Expr := .broadcast
      (.sub (.sub (size "h") (.value 2)) (.div (.sub (size "h") (size "n")) (.value 1)))
      (.divCeil (.mul (.value 2) (.mul (size "n") (.value 3))) (.value 4))
    e.eval σ = .ok (-6) ∧ e.simplify.eval σ = .ok (-6) := by
  intro σ e
  have h : e.eval σ = .ok (-6) := rfl
  exact ⟨h, simplify_preserves_value σ e (-6) h⟩

end ShapeFlow.Expr
