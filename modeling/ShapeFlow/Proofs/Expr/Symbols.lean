import ShapeFlow.Proofs.Expr.NormalForm
/-!
Simplification introduces no symbols. Whatever is read off a reduction, as an expression, as terms or
as factors, names only symbols that were there before.
-/
namespace ShapeFlow.Expr
variable {e a b : Expr} {t : Term} {ts us : List Term} {fs : List Expr} {S : List Symbol}
  {r : Reduced}

def symbols : Expr → List Symbol
  | .value _ => []
  | .var s => [s]
  | .neg a => a.symbols
  | .add a b | .sub a b | .mul a b | .div a b | .divCeil a b | .broadcast a b =>
    a.symbols ++ b.symbols

theorem symbols_flip (within : ∀ t ∈ ts, t.body.symbols ⊆ S) :
    ∀ t ∈ ts.map Term.flip, t.body.symbols ⊆ S := by
  intro t member
  obtain ⟨s, inside, rfl⟩ := List.mem_map.mp member
  exact within s inside

theorem symbols_terms (within : e.symbols ⊆ S) : ∀ t ∈ e.terms, t.body.symbols ⊆ S := by
  induction e with
  | add a b iha ihb =>
    obtain ⟨left, right⟩ := List.append_subset.mp within
    exact List.forall_mem_append.mpr ⟨iha left, ihb right⟩
  | sub a b iha ihb =>
    obtain ⟨left, right⟩ := List.append_subset.mp within
    exact List.forall_mem_append.mpr ⟨iha left, symbols_flip (ihb right)⟩
  | neg a ih => exact symbols_flip (ih within)
  | value | var | mul | div | divCeil | broadcast => exact List.forall_mem_singleton.mpr within

theorem symbols_factors (within : e.symbols ⊆ S) : ∀ f ∈ e.factors, f.symbols ⊆ S := by
  induction e with
  | mul a b iha ihb =>
    obtain ⟨left, right⟩ := List.append_subset.mp within
    exact List.forall_mem_append.mpr ⟨iha left, ihb right⟩
  | value | var | neg | add | sub | div | divCeil | broadcast =>
    exact List.forall_mem_singleton.mpr within

theorem symbols_toExpr (t : Term) : t.toExpr.symbols = t.body.symbols := by
  unfold Term.toExpr
  split <;> rfl

theorem symbols_after (t : Term) (e : Expr) : (t.after e).symbols = e.symbols ++ t.body.symbols := by
  unfold Term.after
  split <;> rfl

theorem symbols_chain (first : e.symbols ⊆ S) (within : ∀ t ∈ ts, t.body.symbols ⊆ S) :
    (ts.foldl Term.after e).symbols ⊆ S := by
  induction ts generalizing e with
  | nil => exact first
  | cons t ts ih =>
    obtain ⟨next, rest⟩ := List.forall_mem_cons.mp within
    apply ih _ rest
    rw [symbols_after]
    exact List.append_subset.mpr ⟨first, next⟩

theorem symbols_constantTerms (c : Int) : ∀ t ∈ constantTerms c, t.body.symbols ⊆ S := by
  unfold constantTerms
  split
  · nofun
  · exact List.forall_mem_singleton.mpr (List.nil_subset S)

theorem symbols_sumOf (within : ∀ t ∈ ts, t.body.symbols ⊆ S) : (sumOf ts).symbols ⊆ S := by
  cases left : standing ts with
  | nil =>
    rw [sumOf_constant left]
    exact List.nil_subset S
  | cons t rest =>
    obtain ⟨first, others⟩ := forall_standing (fun s member _ => within s member) left
    rw [sumOf_chain left]
    apply symbols_chain
    · rwa [symbols_toExpr]
    · exact List.forall_mem_append.mpr ⟨others, symbols_constantTerms _⟩

theorem symbols_product (first : e.symbols ⊆ S) (within : ∀ f ∈ fs, f.symbols ⊆ S) :
    (fs.foldl .mul e).symbols ⊆ S := by
  induction fs generalizing e with
  | nil => exact first
  | cons f fs ih =>
    obtain ⟨next, rest⟩ := List.forall_mem_cons.mp within
    exact ih (List.append_subset.mpr ⟨first, next⟩) rest

theorem symbols_productOf (within : ∀ f ∈ fs, f.symbols ⊆ S) : (productOf fs).symbols ⊆ S := by
  unfold productOf
  dsimp only
  split
  · exact List.nil_subset S
  · split
    · exact List.nil_subset S
    · rename_i f rest symbolic
      obtain ⟨first, others⟩ := forall_symbolic (fun g member _ => within g member) symbolic
      have product := symbols_product first others
      split
      · exact product
      · exact List.append_subset.mpr ⟨List.nil_subset S, product⟩

theorem symbols_negated (within : a.symbols ⊆ S) : (negated a).symbols ⊆ S := by
  cases a <;> exact within

theorem symbols_quotient {round : Int → Int → Int} {keep : Expr → Expr → Expr}
    (kept : (keep a b).symbols = a.symbols ++ b.symbols) (left : a.symbols ⊆ S)
    (right : b.symbols ⊆ S) : (quotient round keep a b).symbols ⊆ S := by
  have whole : (keep a b).symbols ⊆ S := by
    rw [kept]
    exact List.append_subset.mpr ⟨left, right⟩
  unfold quotient
  split
  · exact left
  · split
    · split
      · exact List.nil_subset S
      · split
        · exact List.nil_subset S
        · exact whole
    · split
      · exact List.nil_subset S
      · exact whole

theorem symbols_broadcasted (left : a.symbols ⊆ S) (right : b.symbols ⊆ S) :
    (broadcasted a b).symbols ⊆ S := by
  unfold broadcasted
  split
  · exact left
  · split
    · split
      · exact right
      · split <;> exact List.nil_subset S
    · split
      · exact left
      · exact List.nil_subset S
    · exact List.append_subset.mpr ⟨left, right⟩

structure Reduced.Within (S : List Symbol) (r : Reduced) : Prop where
  form : r.form.symbols ⊆ S
  terms : ∀ t ∈ r.terms, t.body.symbols ⊆ S
  factors : ∀ f ∈ r.factors, f.symbols ⊆ S

theorem within_whole (within : e.symbols ⊆ S) : (Reduced.whole e).Within S :=
  ⟨within, symbols_terms within, symbols_factors within⟩

theorem within_sum (within : ∀ t ∈ ts, t.body.symbols ⊆ S) : (Reduced.sum ts).Within S :=
  ⟨symbols_sumOf within, within, symbols_factors (symbols_sumOf within)⟩

theorem within_product (within : ∀ f ∈ fs, f.symbols ⊆ S) : (Reduced.product fs).Within S :=
  ⟨symbols_productOf within, symbols_terms (symbols_productOf within), within⟩

theorem within_negation (within : r.Within S) : (Reduced.negation r).Within S :=
  ⟨symbols_negated within.form, symbols_flip within.terms,
    symbols_factors (symbols_negated within.form)⟩

theorem reduce_within (within : e.symbols ⊆ S) : e.reduce.Within S := by
  induction e with
  | value v => exact within_whole within
  | var s => exact within_whole within
  | neg a ih => exact within_negation (ih within)
  | add a b iha ihb =>
    obtain ⟨left, right⟩ := List.append_subset.mp within
    exact within_sum (List.forall_mem_append.mpr ⟨(iha left).terms, (ihb right).terms⟩)
  | sub a b iha ihb =>
    obtain ⟨left, right⟩ := List.append_subset.mp within
    exact within_sum
      (List.forall_mem_append.mpr ⟨(iha left).terms, symbols_flip (ihb right).terms⟩)
  | mul a b iha ihb =>
    obtain ⟨left, right⟩ := List.append_subset.mp within
    exact within_product (List.forall_mem_append.mpr ⟨(iha left).factors, (ihb right).factors⟩)
  | div a b iha ihb =>
    obtain ⟨left, right⟩ := List.append_subset.mp within
    exact within_whole (symbols_quotient rfl (iha left).form (ihb right).form)
  | divCeil a b iha ihb =>
    obtain ⟨left, right⟩ := List.append_subset.mp within
    exact within_whole (symbols_quotient rfl (iha left).form (ihb right).form)
  | broadcast a b iha ihb =>
    obtain ⟨left, right⟩ := List.append_subset.mp within
    exact within_whole (symbols_broadcasted (iha left).form (ihb right).form)

theorem symbols_simplify (e : Expr) : e.simplify.symbols ⊆ e.symbols :=
  (reduce_within (List.Subset.refl e.symbols)).form

end ShapeFlow.Expr
