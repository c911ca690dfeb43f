import ShapeFlow.Expr.Collect
import ShapeFlow.Proofs.Expr.Differences
import ShapeFlow.Proofs.Expr.Leaves
/-!
Collecting over again comes to an end. Most calls are for an operand of the expression they are made
in. The others are for a freshly simplified expression, which has lost leaves if it turned into a sum
and whose factors have fewer leaves if it turned into a product. So the induction is on the number of
leaves first and on the expression second, and what is collected is what the reduction keeps.
-/
namespace ShapeFlow
variable {α β γ : Type} {a : α} {b : β} {first : Nat → Option α}

/-- With enough calls the answer is `a`, and more of them change nothing. -/
def Terminates (run : Nat → Option α) (a : α) : Prop := ∃ enough, ∀ n, enough ≤ n → run n = some a

namespace Terminates

theorem done (a : α) : Terminates (fun _ => some a) a := ⟨0, fun _ _ => rfl⟩

/-- A call ends if the body does, which has one call less to spend. -/
theorem call {run : Nat → Option α} (ends : Terminates first a)
    (enter : ∀ n, run (n + 1) = first n) : Terminates run a := by
  obtain ⟨enough, answer⟩ := ends
  refine ⟨enough + 1, fun n within => ?_⟩
  obtain ⟨m, rfl⟩ := Nat.exists_eq_add_one_of_ne_zero (Nat.ne_zero_of_lt within)
  rw [enter]
  exact answer m (Nat.le_of_succ_le_succ within)

theorem bind {next : Nat → α → Option β} (ends : Terminates first a)
    (goesOn : Terminates (next · a) b) : Terminates (fun n => first n >>= next n) b := by
  obtain ⟨enough, answer⟩ := ends
  obtain ⟨more, result⟩ := goesOn
  refine ⟨max enough more, fun n within => ?_⟩
  have known := answer n (Nat.le_trans (Nat.le_max_left _ _) within)
  have given := result n (Nat.le_trans (Nat.le_max_right _ _) within)
  change (first n >>= next n) = some b
  rw [known]
  exact given

theorem map (f : α → β) (ends : Terminates first a) :
    Terminates (fun n => do return f (← first n)) (f a) :=
  ends.bind (done (f a))

theorem map₂ {second : Nat → Option β} (f : α → β → γ) (left : Terminates first a)
    (right : Terminates second b) :
    Terminates (fun n => do return f (← first n) (← second n)) (f a b) :=
  left.bind (right.map (f a))

end Terminates

namespace Expr
variable {e : Expr} {n : Nat}

def turned (negated : Bool) (ts : List Term) : List Term := if negated then ts.map .flip else ts

theorem turned_append (negated : Bool) (ts us : List Term) :
    turned negated (ts ++ us) = turned negated ts ++ turned negated us := by
  cases negated with
  | false => rfl
  | true => exact List.map_append

theorem turned_flip (negated : Bool) (ts : List Term) :
    turned negated (ts.map .flip) = turned (!negated) ts := by
  cases negated with
  | false => rfl
  | true => exact flip_flip ts

theorem turned_single (negated : Bool) (e : Expr) :
    turned negated [⟨false, e⟩] = [⟨negated, e⟩] := by
  cases negated <;> rfl

theorem isSum_iff : e.isSum ↔ ¬ e.IsTerm := by
  cases e <;> simp [isSum, IsTerm]

theorem ne_mul (single : e.isProduct = false) (a b : Expr) : e ≠ .mul a b := by
  rintro rfl
  cases single

structure Collects (e : Expr) : Prop where
  form : Terminates (simplifyWithin · e) e.simplify
  terms : ∀ negated, Terminates (collectTerms · negated e) (turned negated e.reduce.terms)
  factors : Terminates (collectFactors · e) e.reduce.factors

section
variable (smaller : ∀ f : Expr, f.leaves < n → Collects f) (within : e.leaves ≤ n)
include smaller within

/-- An operand that is no sum is simplified. If that exposes a sum, leaves were lost and its terms
are collected in turn. -/
theorem terms_of_operand (single : e.IsTerm) (form : Terminates (simplifyWithin · e) e.simplify)
    (negated : Bool) : Terminates (collectTerms · negated e) (turned negated e.reduce.terms) := by
  rw [← (collected_again e).1 single]
  have enter (n : Nat) : collectTerms (n + 1) negated e = (do
      let t ← simplifyWithin n e
      if t.isSum then collectTerms n negated t else return [⟨negated, t⟩]) := by
    cases e <;> first | rfl | exact single.elim
  refine .call (.bind form ?_) enter
  by_cases exposed : e.simplify.isSum
  · simp only [exposed, if_true]
    have fewer := leaves_exposed single (isSum_iff.mp exposed)
    exact (smaller _ (Nat.lt_of_lt_of_le fewer within)).terms negated
  · simp only [exposed]
    have whole : e.simplify.IsTerm := not_not.mp (mt isSum_iff.mpr exposed)
    rw [(fixed_of_normal (normal_simplify e)).terms, terms_single whole, turned_single]
    exact .done _

/-- An operand that is no product is simplified. If that is a product, its factors have fewer leaves
and are collected in turn. -/
theorem factors_of_operand (single : e.isProduct = false)
    (form : Terminates (simplifyWithin · e) e.simplify) :
    Terminates (collectFactors · e) e.reduce.factors := by
  rw [← (collected_again e).2 (ne_mul single)]
  have enter (n : Nat) : collectFactors (n + 1) e = (do
      let f ← simplifyWithin n e
      if f.isProduct then collectFactors n f else return [f]) := by
    cases e <;> first | rfl | cases single
  have fixed := (fixed_of_normal (normal_simplify e)).factors
  have fewer := Nat.le_trans (leaves_simplify e) within
  refine .call (.bind form ?_) enter
  cases simple : e.simplify with
  | mul a b =>
    rw [simple, leaves] at fewer
    have positive := And.intro (leaves_pos a) (leaves_pos b)
    have left := smaller a (by omega)
    have right := smaller b (by omega)
    exact (left.factors.map₂ (· ++ ·) right.factors).call fun _ => rfl
  | value | var | add | sub | div | divCeil | broadcast | neg =>
    rw [simple] at fixed
    rw [fixed]
    exact .done _

theorem collects_operand (term : e.IsTerm) (factor : e.isProduct = false)
    (form : Terminates (simplifyWithin · e) e.simplify) : Collects e :=
  ⟨form, terms_of_operand smaller within term form, factors_of_operand smaller within factor form⟩

/-- The operands are collected by the induction on the expression, what simplification exposes by
the one on the number of leaves. -/
theorem collects_within : Collects e := by
  induction e with
  | value v =>
    have form : Terminates (simplifyWithin · (.value v)) (.value v) :=
      (Terminates.done _).call fun _ => rfl
    exact collects_operand smaller within trivial rfl form
  | var s =>
    have form : Terminates (simplifyWithin · (.var s)) (.var s) :=
      (Terminates.done _).call fun _ => rfl
    exact collects_operand smaller within trivial rfl form
  | neg a ih =>
    have inner := ih within
    have form : Terminates (simplifyWithin · (.neg a)) (neg a).simplify :=
      (inner.form.map negated).call fun _ => rfl
    refine ⟨form, fun negated => ?_, factors_of_operand smaller within rfl form⟩
    rw [reduce, Reduced.terms, turned_flip]
    exact (inner.terms (!negated)).call fun _ => rfl
  | add a b iha ihb =>
    have left := iha (Nat.le_of_add_right_le within)
    have right := ihb (Nat.le_of_add_left_le within)
    have terms (negated : Bool) :
        Terminates (collectTerms · negated (.add a b)) (turned negated (add a b).reduce.terms) := by
      rw [reduce, Reduced.terms, turned_append]
      exact ((left.terms negated).map₂ (· ++ ·) (right.terms negated)).call fun _ => rfl
    have form : Terminates (simplifyWithin · (.add a b)) (add a b).simplify :=
      ((terms false).map sumOf).call fun _ => rfl
    exact ⟨form, terms, factors_of_operand smaller within rfl form⟩
  | sub a b iha ihb =>
    have left := iha (Nat.le_of_add_right_le within)
    have right := ihb (Nat.le_of_add_left_le within)
    have terms (negated : Bool) :
        Terminates (collectTerms · negated (.sub a b)) (turned negated (sub a b).reduce.terms) := by
      rw [reduce, Reduced.terms, turned_append, turned_flip]
      exact ((left.terms negated).map₂ (· ++ ·) (right.terms (!negated))).call fun _ => rfl
    have form : Terminates (simplifyWithin · (.sub a b)) (sub a b).simplify :=
      ((terms false).map sumOf).call fun _ => rfl
    exact ⟨form, terms, factors_of_operand smaller within rfl form⟩
  | mul a b iha ihb =>
    have left := iha (Nat.le_of_add_right_le within)
    have right := ihb (Nat.le_of_add_left_le within)
    have factors : Terminates (collectFactors · (.mul a b)) (mul a b).reduce.factors :=
      (left.factors.map₂ (· ++ ·) right.factors).call fun _ => rfl
    have form : Terminates (simplifyWithin · (.mul a b)) (mul a b).simplify :=
      (factors.map productOf).call fun _ => rfl
    exact ⟨form, terms_of_operand smaller within trivial form, factors⟩
  | div a b iha ihb =>
    have left := (iha (Nat.le_of_add_right_le within)).form
    have right := (ihb (Nat.le_of_add_left_le within)).form
    have form : Terminates (simplifyWithin · (.div a b)) (div a b).simplify :=
      (left.map₂ (quotient Division.floor .div) right).call fun _ => rfl
    exact collects_operand smaller within trivial rfl form
  | divCeil a b iha ihb =>
    have left := (iha (Nat.le_of_add_right_le within)).form
    have right := (ihb (Nat.le_of_add_left_le within)).form
    have form : Terminates (simplifyWithin · (.divCeil a b)) (divCeil a b).simplify :=
      (left.map₂ (quotient Division.ceil .divCeil) right).call fun _ => rfl
    exact collects_operand smaller within trivial rfl form
  | broadcast a b iha ihb =>
    have left := (iha (Nat.le_of_add_right_le within)).form
    have right := (ihb (Nat.le_of_add_left_le within)).form
    have form : Terminates (simplifyWithin · (.broadcast a b)) (broadcast a b).simplify :=
      (left.map₂ broadcasted right).call fun _ => rfl
    exact collects_operand smaller within trivial rfl form

end

theorem collects (e : Expr) : Collects e := by
  induction bound : e.leaves using Nat.strongRecOn generalizing e with
  | ind n ih =>
    exact collects_within (fun f fewer => ih f.leaves fewer f rfl) (Nat.le_of_eq bound)

/-- Simplification does not add leaves and loses some where it exposes a sum. So collecting the terms
and the factors over again ends for every expression, and with it the simplification that does so,
which answers like the one that follows the expression downwards. -/
theorem recollection_ends (e : Expr) :
    e.simplify.leaves ≤ e.leaves ∧
      (e.IsTerm → ¬ e.simplify.IsTerm → e.simplify.leaves < e.leaves) ∧
      (∀ negated, Terminates (collectTerms · negated e) (turned negated e.reduce.terms)) ∧
      Terminates (collectFactors · e) e.reduce.factors ∧
      Terminates (simplifyWithin · e) e.simplify := by
  obtain ⟨form, terms, factors⟩ := collects e
  exact ⟨leaves_simplify e, leaves_exposed, terms, factors, form⟩

/-- The quotient by one exposes 5 - h, simplified to -h + 5, and loses the leaf 1. -/
theorem recollection_ends_on_exposed_difference :
    let e : Expr := .div (.sub (.value 5) (size "h")) (.value 1)
    e.IsTerm ∧ ¬ e.simplify.IsTerm ∧ e.simplify.leaves < e.leaves := by
  intro e
  have simple : e.simplify = .add (.neg (size "h")) (.value 5) := by decide +kernel
  have exposed : ¬ e.simplify.IsTerm := by
    rw [simple]
    exact id
  exact ⟨trivial, exposed, (recollection_ends e).2.1 trivial exposed⟩

end Expr
end ShapeFlow
