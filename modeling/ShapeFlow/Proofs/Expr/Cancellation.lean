import Mathlib.Algebra.BigOperators.Group.List.Basic
import Mathlib.Algebra.Ring.Int.Defs
import ShapeFlow.Proofs.Expr.Closed
/-!
What is left of a sum once equal terms of opposite sign have struck each other out. The net number of
times that an expression stands in the sum does not change, and it decides whether anything is left.
-/
namespace ShapeFlow.Expr
variable {e : Expr} {s t : Term} {ts us : List Term}

def Term.weight (e : Expr) (t : Term) : Int :=
  if Alike t.body e then (if t.negated then -1 else 1) else 0

def net (e : Expr) (ts : List Term) : Int := (ts.map (Term.weight e)).sum

theorem net_cons (e : Expr) (t : Term) (ts : List Term) : net e (t :: ts) = t.weight e + net e ts :=
  rfl

theorem net_append (e : Expr) (ts us : List Term) : net e (ts ++ us) = net e ts + net e us := by
  simp [net]

theorem weight_cancelled (cancels : t.cancels s = true) (e : Expr) : s.weight e = -t.weight e := by
  simp only [Term.cancels, Bool.and_eq_true, bne_iff_ne, decide_eq_true_eq] at cancels
  obtain ⟨differ, like⟩ := cancels
  have same : Alike s.body e ↔ Alike t.body e := ⟨like.symm.trans, like.trans⟩
  unfold Term.weight
  by_cases standing : Alike t.body e
  · cases hs : s.negated <;> cases ht : t.negated <;> simp_all
  · simp [same, standing]

theorem net_cancelOrAppend (e : Expr) (us : List Term) (t : Term) :
    net e (cancelOrAppend us t) = net e us + t.weight e := by
  unfold cancelOrAppend
  split
  · rename_i found
    obtain ⟨s, member, cancels⟩ := List.any_eq_true.mp found
    obtain ⟨s, before, after, -, cancels, whole, rest⟩ := List.exists_of_eraseP member cancels
    rw [rest, whole, net_append, net_append, net_cons, weight_cancelled cancels]
    omega
  · simp [net]

/-- Striking out keeps all net numbers. -/
theorem net_joined (e : Expr) (us ts : List Term) :
    net e (ts.foldl cancelOrAppend us) = net e us + net e ts := by
  induction ts generalizing us with
  | nil => simp [net]
  | cons t ts ih =>
    rw [List.foldl_cons, ih, net_cancelOrAppend, net_cons]
    omega

/-- Terms of one sign never balance. -/
theorem net_one_sided {negated : Bool} (sided : ∀ s ∈ ts, Alike s.body e → s.negated = negated) :
    0 ≤ (if negated then -net e ts else net e ts) ∧
      ((∃ t ∈ ts, Alike t.body e) → net e ts ≠ 0) := by
  induction ts with
  | nil => cases negated <;> simp [net]
  | cons t ts ih =>
    obtain ⟨first, rest⟩ := List.forall_mem_cons.mp sided
    obtain ⟨bound, apart⟩ := ih rest
    rw [net_cons, List.exists_mem_cons_iff]
    unfold Term.weight
    by_cases like : Alike t.body e
    · rw [first like]
      cases negated <;> simp [like] at bound ⊢ <;> omega
    · simp only [like, ↓reduceIte, Int.zero_add, false_or]
      exact ⟨bound, apart⟩

/-- Nothing is left of a sum exactly where every term of it stands as often with either sign. -/
theorem joined_eq_nil_iff : ts.foldl cancelOrAppend [] = [] ↔ ∀ t ∈ ts, net t.body ts = 0 := by
  have kept : ∀ e, net e (ts.foldl cancelOrAppend []) = net e ts := by
    intro e
    rw [net_joined]
    exact Int.zero_add _
  constructor
  · intro nothing t _
    rw [← kept, nothing]
    rfl
  · intro balanced
    -- A term that is left meets no opposite, so its net number cannot be zero.
    cases left : ts.foldl cancelOrAppend [] with
    | nil => rfl
    | cons t rest =>
      have member : t ∈ ts.foldl cancelOrAppend [] := by rw [left]; exact List.mem_cons_self
      have apart : Uncancelled (ts.foldl cancelOrAppend []) :=
        uncancelled_joined (show Uncancelled [] from nofun)
      have sided : ∀ s ∈ ts.foldl cancelOrAppend [], Alike s.body t.body →
          s.negated = t.negated := by
        intro s hs like
        by_contra differ
        exact apart s hs t member differ like
      have standing := (net_one_sided sided).2 ⟨t, member, alike_refl _⟩
      rw [kept] at standing
      exact absurd (balanced t (joined_subset member)) standing

theorem net_symbolic (symbolic : e.value? = none) (ts : List Term) :
    net e (ts.filter (·.value?.isNone)) = net e ts := by
  induction ts with
  | nil => rfl
  | cons t ts ih =>
    cases known : t.value? with
    | none => simp [known, net_cons, ih]
    | some c =>
      have unlike : ¬ Alike t.body e := by
        obtain ⟨negated, body⟩ := t
        cases body <;> cases e <;> simp_all [Alike, bare, Term.value?, value?]
      simp [known, net_cons, ih, Term.weight, unlike]

def Balanced (ts : List Term) : Prop := ∀ t ∈ ts, t.body.value? = none → net t.body ts = 0

instance : DecidablePred Balanced := fun ts =>
  inferInstanceAs (Decidable (∀ t ∈ ts, t.body.value? = none → net t.body ts = 0))

theorem after_symbolic (t : Term) (e : Expr) : ¬ (t.after e).IsLiteral := by
  unfold Term.after
  split <;> exact not_literal rfl

theorem chain_symbolic (first : ¬ e.IsLiteral) (ts : List Term) :
    ¬ (ts.foldl Term.after e).IsLiteral := by
  induction ts generalizing e with
  | nil => exact first
  | cons t ts ih => exact ih (after_symbolic t e)

theorem mem_symbolic : t ∈ ts.filter (·.value?.isNone) ↔ t ∈ ts ∧ t.body.value? = none := by
  rw [List.mem_filter, value?_body, Option.isNone_iff_eq_none]

theorem standing_eq_nil_iff : standing ts = [] ↔ Balanced ts := by
  unfold standing
  rw [joined_eq_nil_iff]
  constructor
  · intro even t inside symbolic
    rw [← net_symbolic symbolic]
    exact even t (mem_symbolic.mpr ⟨inside, symbolic⟩)
  · intro even t member
    obtain ⟨inside, symbolic⟩ := mem_symbolic.mp member
    rw [net_symbolic symbolic]
    exact even t inside symbolic

/-- A sum folds to a literal exactly where its other terms balance. -/
theorem sumOf_literal_iff : (sumOf ts).IsLiteral ↔ Balanced ts := by
  rw [← standing_eq_nil_iff]
  cases left : standing ts with
  | nil => simp [sumOf_constant left, IsLiteral]
  | cons t rest =>
    have symbolic : t.body.value? = none :=
      (forall_standing (P := fun s => s.body.value? = none) (fun _ _ unknown => unknown) left).1
    have first : ¬ t.toExpr.IsLiteral := by
      unfold Term.toExpr
      split
      · exact not_literal rfl
      · exact not_literal symbolic
    rw [sumOf_chain left]
    simp only [reduceCtorEq, iff_false]
    exact chain_symbolic first _

end ShapeFlow.Expr
