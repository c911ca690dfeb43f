import ShapeFlow.Proofs.Arithmetic
import ShapeFlow.Proofs.Expr.SimplifySound
import ShapeFlow.Proofs.Expr.Symbols
/-!
The sign test of expressions. It looks at all operands but those of a broadcast, so a value below
zero can only come from there. Where it holds of those operands as well, no value is below zero, and
simplification keeps the verdict: nothing is negated or subtracted, before or after.
-/
namespace ShapeFlow.Expr
variable {σ : Binding} {e a b : Expr} {t : Term} {ts : List Term} {fs : List Expr} {r : Reduced}
  {v : Int}

/-- The binding bears out what is assumed of the symbols of the expression. -/
def BornOut (σ : Binding) (e : Expr) : Prop :=
  ∀ s ∈ e.symbols, s.positive = true → ∀ v, σ s.name = some v → 0 ≤ v

def NonNegative (σ : Binding) (e : Expr) : Prop := ∀ v, e.eval σ = .ok v → 0 ≤ v

def untested : Expr → List Expr
  | .add a b | .mul a b | .div a b | .divCeil a b => a.untested ++ b.untested
  | .broadcast a b => [a, b]
  | .value _ | .var _ | .neg _ | .sub _ _ => []

def BroadcastsTested (e : Expr) : Prop :=
  ∀ a b, .broadcast a b ∈ e.parts → a.isPositive = true ∧ b.isPositive = true

def Unsigned : Expr → Prop
  | .value v => 0 ≤ v
  | .var s => s.positive = true
  | .neg _ | .sub _ _ => False
  | .add a b | .mul a b | .div a b | .divCeil a b | .broadcast a b => a.Unsigned ∧ b.Unsigned

theorem isPositive_of_unsigned (unsigned : e.Unsigned) : e.isPositive = true := by
  induction e with
  | value c => exact decide_eq_true unsigned
  | var s => exact unsigned
  | neg | sub => exact unsigned.elim
  | broadcast => rfl
  | add a b iha ihb | mul a b iha ihb | div a b iha ihb | divCeil a b iha ihb =>
    exact Bool.and_eq_true_iff.mpr ⟨iha unsigned.1, ihb unsigned.2⟩

theorem unsigned_operands (e : Expr) (unsigned : e.Unsigned) : ∀ a ∈ e.operands, a.Unsigned := by
  cases e with
  | value | var => nofun
  | neg | sub => exact unsigned.elim
  | add a b | mul a b | div a b | divCeil a b | broadcast a b =>
    exact List.forall_mem_cons.mpr ⟨unsigned.1, List.forall_mem_singleton.mpr unsigned.2⟩

theorem broadcastsTested_binary {whole : Expr}
    (tested : ∀ c d, .broadcast c d ∈ whole :: (a.parts ++ b.parts) →
      c.isPositive = true ∧ d.isPositive = true) :
    a.BroadcastsTested ∧ b.BroadcastsTested := by
  constructor
  · exact fun c d inside => tested c d (List.mem_cons_of_mem _ (List.mem_append_left _ inside))
  · exact fun c d inside => tested c d (List.mem_cons_of_mem _ (List.mem_append_right _ inside))

theorem unsigned_of_tested (tested : e.isPositive = true) (inside : e.BroadcastsTested) :
    e.Unsigned := by
  induction e with
  | value c => exact (of_decide_eq_true tested : 0 ≤ c)
  | var s => exact tested
  | neg | sub => cases tested
  | add a b iha ihb | mul a b iha ihb | div a b iha ihb | divCeil a b iha ihb =>
    obtain ⟨left, right⟩ := Bool.and_eq_true_iff.mp tested
    obtain ⟨within, within'⟩ := broadcastsTested_binary inside
    exact ⟨iha left within, ihb right within'⟩
  | broadcast a b iha ihb =>
    obtain ⟨left, right⟩ := inside a b List.mem_cons_self
    obtain ⟨within, within'⟩ := broadcastsTested_binary inside
    exact ⟨iha left within, ihb right within'⟩

/-- The sign test holds of the whole and of every operand of a broadcast where nothing is negated or
subtracted and no literal or symbol may be below zero. -/
theorem unsigned_iff : e.Unsigned ↔ e.isPositive = true ∧ e.BroadcastsTested := by
  constructor
  · intro unsigned
    refine ⟨isPositive_of_unsigned unsigned, ?_⟩
    intro a b inside
    have operands : (broadcast a b).Unsigned := forall_parts unsigned_operands unsigned _ inside
    exact ⟨isPositive_of_unsigned operands.1, isPositive_of_unsigned operands.2⟩
  · exact fun ⟨tested, inside⟩ => unsigned_of_tested tested inside

/-! ### Values -/

theorem nonNegative_of_eval (value : e.eval σ = .ok v) : e.NonNegative σ ↔ 0 ≤ v := by
  constructor
  · exact fun bound => bound v value
  · intro bound w known
    rw [value] at known
    rwa [← Except.ok.inj known]

theorem nonNegative_var {s : Symbol} (borne : BornOut σ (.var s)) (assumed : s.positive = true) :
    (var s).NonNegative σ := by
  intro v value
  apply borne s List.mem_cons_self assumed
  unfold eval at value
  split at value
  · rename_i bound
    rw [bound, Except.ok.inj value]
  · cases value

/-- The size that two sizes broadcast to is below zero exactly where one of them is. -/
theorem broadcast_nonneg_iff (value : (broadcast a b).eval σ = .ok v) :
    0 ≤ v ↔ a.NonNegative σ ∧ b.NonNegative σ := by
  obtain ⟨x, hx, y, hy, joined⟩ := eval_broadcast_ok.mp value
  rw [broadcastSize_ok] at joined
  rw [nonNegative_of_eval hx, nonNegative_of_eval hy]
  omega

structure Warranted (σ : Binding) (e : Expr) : Prop where
  symbols : BornOut σ e
  tested : e.isPositive = true
  untested : ∀ a ∈ e.untested, a.NonNegative σ

theorem bornOut_binary (symbols : ∀ s ∈ a.symbols ++ b.symbols, s.positive = true →
    ∀ v, σ s.name = some v → 0 ≤ v) : BornOut σ a ∧ BornOut σ b :=
  List.forall_mem_append.mp symbols

theorem warranted_binary (symbols : ∀ s ∈ a.symbols ++ b.symbols, s.positive = true →
      ∀ v, σ s.name = some v → 0 ≤ v) (tested : (a.isPositive && b.isPositive) = true)
    (untested : ∀ c ∈ a.untested ++ b.untested, c.NonNegative σ) :
    a.Warranted σ ∧ b.Warranted σ := by
  obtain ⟨borne, borne'⟩ := bornOut_binary symbols
  obtain ⟨left, right⟩ := Bool.and_eq_true_iff.mp tested
  obtain ⟨others, others'⟩ := List.forall_mem_append.mp untested
  exact ⟨⟨borne, left, others⟩, borne', right, others'⟩

theorem nonNegative_of_warranted (warranted : e.Warranted σ) : e.NonNegative σ := by
  -- The operands of a broadcast are granted, not tested, so its case needs no induction hypothesis.
  induction e with
  | value c => exact (nonNegative_of_eval rfl).mpr (of_decide_eq_true warranted.tested)
  | var s => exact nonNegative_var warranted.symbols warranted.tested
  | neg | sub => cases warranted.tested
  | add a b iha ihb =>
    obtain ⟨left, right⟩ := warranted_binary warranted.symbols warranted.tested warranted.untested
    intro v value
    obtain ⟨x, hx, y, hy, rfl⟩ := eval_add_ok.mp value
    exact Int.add_nonneg (iha left x hx) (ihb right y hy)
  | mul a b iha ihb =>
    obtain ⟨left, right⟩ := warranted_binary warranted.symbols warranted.tested warranted.untested
    intro v value
    obtain ⟨x, hx, y, hy, rfl⟩ := eval_mul_ok.mp value
    exact Int.mul_nonneg (iha left x hx) (ihb right y hy)
  | div a b iha ihb =>
    obtain ⟨left, right⟩ := warranted_binary warranted.symbols warranted.tested warranted.untested
    intro v value
    obtain ⟨x, hx, y, hy, -, rfl⟩ := eval_div_ok.mp value
    exact Division.floor_nonneg (iha left x hx) (ihb right y hy)
  | divCeil a b iha ihb =>
    obtain ⟨left, right⟩ := warranted_binary warranted.symbols warranted.tested warranted.untested
    intro v value
    obtain ⟨x, hx, y, hy, -, rfl⟩ := eval_divCeil_ok.mp value
    exact Division.ceil_nonneg (iha left x hx) (ihb right y hy)
  | broadcast a b =>
    obtain ⟨left, rest⟩ := List.forall_mem_cons.mp warranted.untested
    intro v value
    exact (broadcast_nonneg_iff value).mpr ⟨left, List.forall_mem_singleton.mp rest⟩

theorem untested_of_unsigned (borne : BornOut σ e) (unsigned : e.Unsigned) :
    ∀ a ∈ e.untested, a.NonNegative σ := by
  induction e with
  | value | var => nofun
  | neg | sub => exact unsigned.elim
  | add a b iha ihb | mul a b iha ihb | div a b iha ihb | divCeil a b iha ihb =>
    obtain ⟨left, right⟩ := bornOut_binary borne
    exact List.forall_mem_append.mpr ⟨iha left unsigned.1, ihb right unsigned.2⟩
  | broadcast a b iha ihb =>
    -- The operands pass the test themselves, and what it leaves out of them is inside them.
    obtain ⟨left, right⟩ := bornOut_binary borne
    have first : a.Warranted σ :=
      ⟨left, isPositive_of_unsigned unsigned.1, iha left unsigned.1⟩
    have second : b.Warranted σ :=
      ⟨right, isPositive_of_unsigned unsigned.2, ihb right unsigned.2⟩
    exact List.forall_mem_cons.mpr ⟨nonNegative_of_warranted first,
      List.forall_mem_singleton.mpr (nonNegative_of_warranted second)⟩

/-- Where the sign test holds, a value is zero or above unless one of the operands that the test
leaves out is below zero; of a broadcast it is so exactly where neither operand is below zero. The
test is sound as far as it holds of the operands of every broadcast too. -/
theorem sign_test_sound_but_for_broadcasts (borne : BornOut σ e) (tested : e.isPositive = true)
    (value : e.eval σ = .ok v) :
    ((∀ a ∈ e.untested, a.NonNegative σ) → 0 ≤ v) ∧
      (∀ a b, e = .broadcast a b → (0 ≤ v ↔ a.NonNegative σ ∧ b.NonNegative σ)) ∧
      (e.BroadcastsTested → 0 ≤ v) := by
  have sound : (∀ a ∈ e.untested, a.NonNegative σ) → 0 ≤ v := by
    intro untested
    have warranted : e.Warranted σ := ⟨borne, tested, untested⟩
    exact nonNegative_of_warranted warranted v value
  refine ⟨sound, ?_, ?_⟩
  · rintro a b rfl
    exact broadcast_nonneg_iff value
  · intro inside
    exact sound (untested_of_unsigned borne (unsigned_of_tested tested inside))

/-- A symbol of which nothing is assumed passes the test as soon as it is broadcast, here to a size
of -3. -/
theorem sign_test_unsound_on_broadcast :
    let σ : Binding := fun name => if name = "h" then some (-3) else none
    let e : Expr := .broadcast (free "h") (.value 1)
    BornOut σ e ∧ e.isPositive = true ∧ e.eval σ = .ok (-3) ∧ ¬ (free "h").NonNegative σ ∧
      ¬ e.BroadcastsTested := by
  intro σ e
  have borne : BornOut σ e := by
    intro s member assumed
    obtain rfl := List.mem_singleton.mp member
    cases assumed
  have value : e.eval σ = .ok (-3) := rfl
  obtain ⟨-, exactly, static⟩ := sign_test_sound_but_for_broadcasts borne rfl value
  have one : (Expr.value 1).NonNegative σ := (nonNegative_of_eval rfl).mpr (by decide)
  refine ⟨borne, rfl, value, ?_, ?_⟩
  · intro bound
    exact absurd ((exactly _ _ rfl).mpr ⟨bound, one⟩) (by decide)
  · intro inside
    exact absurd (static inside) (by decide)

/-! ### Simplification -/

structure Term.Unsigned (t : Term) : Prop where
  added : t.negated = false
  body : t.body.Unsigned

theorem unsigned_terms (unsigned : e.Unsigned) : ∀ t ∈ e.terms, t.Unsigned := by
  induction e with
  | neg | sub => exact unsigned.elim
  | add a b iha ihb => exact List.forall_mem_append.mpr ⟨iha unsigned.1, ihb unsigned.2⟩
  | value | var | mul | div | divCeil | broadcast =>
    exact List.forall_mem_singleton.mpr ⟨rfl, unsigned⟩

theorem unsigned_factors (unsigned : e.Unsigned) : ∀ f ∈ e.factors, f.Unsigned := by
  induction e with
  | mul a b iha ihb => exact List.forall_mem_append.mpr ⟨iha unsigned.1, ihb unsigned.2⟩
  | value | var | neg | add | sub | div | divCeil | broadcast =>
    exact List.forall_mem_singleton.mpr unsigned

theorem unsigned_toExpr (unsigned : t.Unsigned) : t.toExpr.Unsigned := by
  unfold Term.toExpr
  rw [unsigned.added]
  exact unsigned.body

theorem unsigned_chain (first : e.Unsigned) (others : ∀ t ∈ ts, t.Unsigned) :
    (ts.foldl Term.after e).Unsigned := by
  induction ts generalizing e with
  | nil => exact first
  | cons t ts ih =>
    obtain ⟨next, rest⟩ := List.forall_mem_cons.mp others
    apply ih _ rest
    unfold Term.after
    rw [next.added]
    exact ⟨first, next.body⟩

theorem constant_nonneg (unsigned : ∀ t ∈ ts, t.Unsigned) : 0 ≤ constantOf ts := by
  unfold constantOf
  induction ts with
  | nil => exact Int.le_refl 0
  | cons t ts ih =>
    obtain ⟨⟨added, body⟩, rest⟩ := List.forall_mem_cons.mp unsigned
    have sum := ih rest
    cases known : t.value? with
    | none => rwa [List.filterMap_cons_none known]
    | some c =>
      rw [List.filterMap_cons_some known]
      have size : 0 ≤ c := by
        obtain ⟨negated, f⟩ := t
        obtain rfl := added
        cases f <;> cases known
        exact body
      exact Int.add_nonneg size sum

theorem unsigned_constantTerms {c : Int} (constant : 0 ≤ c) :
    ∀ t ∈ constantTerms c, t.Unsigned := by
  unfold constantTerms
  split
  · nofun
  · have added : decide (c < 0) = false := decide_eq_false (Int.not_lt.mpr constant)
    exact List.forall_mem_singleton.mpr ⟨added, Int.natCast_nonneg _⟩

theorem unsigned_sumOf (unsigned : ∀ t ∈ ts, t.Unsigned) : (sumOf ts).Unsigned := by
  have constant := constant_nonneg unsigned
  cases left : standing ts with
  | nil =>
    rw [sumOf_constant left]
    exact constant
  | cons t rest =>
    obtain ⟨first, others⟩ := forall_standing (fun s member _ => unsigned s member) left
    rw [sumOf_chain left]
    apply unsigned_chain (unsigned_toExpr first)
    exact List.forall_mem_append.mpr ⟨others, unsigned_constantTerms constant⟩

theorem coefficient_nonneg (unsigned : ∀ f ∈ fs, f.Unsigned) :
    0 ≤ (fs.filterMap value?).foldr (· * ·) 1 := by
  induction fs with
  | nil => decide
  | cons f fs ih =>
    obtain ⟨first, rest⟩ := List.forall_mem_cons.mp unsigned
    have product := ih rest
    cases f with
    | value c => exact Int.mul_nonneg first product
    | var | neg | add | sub | mul | div | divCeil | broadcast => exact product

theorem unsigned_productChain (first : e.Unsigned) (others : ∀ f ∈ fs, f.Unsigned) :
    (fs.foldl .mul e).Unsigned := by
  induction fs generalizing e with
  | nil => exact first
  | cons f fs ih =>
    obtain ⟨next, rest⟩ := List.forall_mem_cons.mp others
    exact ih ⟨first, next⟩ rest

theorem unsigned_productOf (unsigned : ∀ f ∈ fs, f.Unsigned) : (productOf fs).Unsigned := by
  have coefficient := coefficient_nonneg unsigned
  unfold productOf
  dsimp only
  split
  · exact Int.le_refl 0
  · split
    · exact coefficient
    · rename_i f rest symbolic
      obtain ⟨first, others⟩ := forall_symbolic (fun g member _ => unsigned g member) symbolic
      have product := unsigned_productChain first others
      split
      · exact product
      · exact ⟨coefficient, product⟩

theorem unsigned_quotient {round : Int → Int → Int} {keep : Expr → Expr → Expr}
    (rounded : ∀ {x y}, 0 ≤ x → 0 ≤ y → 0 ≤ round x y) (kept : (keep a b).Unsigned)
    (left : a.Unsigned) (right : b.Unsigned) : (quotient round keep a b).Unsigned := by
  have one : (value 1).Unsigned := (by decide : (0 : Int) ≤ 1)
  unfold quotient
  split
  · exact left
  · split
    · split
      · exact rounded left right
      · split
        · exact one
        · exact kept
    · split
      · exact one
      · exact kept

theorem unsigned_broadcasted (left : a.Unsigned) (right : b.Unsigned) :
    (broadcasted a b).Unsigned := by
  unfold broadcasted
  split
  · exact left
  · split
    · split
      · exact right
      · split <;> exact left
    · split
      · exact left
      · exact right
    · exact ⟨left, right⟩

structure Reduced.Unsigned (r : Reduced) : Prop where
  form : r.form.Unsigned
  terms : ∀ t ∈ r.terms, t.Unsigned
  factors : ∀ f ∈ r.factors, f.Unsigned

theorem unsigned_whole (unsigned : e.Unsigned) : (Reduced.whole e).Unsigned :=
  ⟨unsigned, unsigned_terms unsigned, unsigned_factors unsigned⟩

theorem unsigned_sum (unsigned : ∀ t ∈ ts, t.Unsigned) : (Reduced.sum ts).Unsigned :=
  ⟨unsigned_sumOf unsigned, unsigned, unsigned_factors (unsigned_sumOf unsigned)⟩

theorem unsigned_product (unsigned : ∀ f ∈ fs, f.Unsigned) : (Reduced.product fs).Unsigned :=
  ⟨unsigned_productOf unsigned, unsigned_terms (unsigned_productOf unsigned), unsigned⟩

theorem reduce_unsigned (unsigned : e.Unsigned) : e.reduce.Unsigned := by
  induction e with
  | value c => exact unsigned_whole unsigned
  | var s => exact unsigned_whole unsigned
  | neg | sub => exact unsigned.elim
  | add a b iha ihb =>
    exact unsigned_sum
      (List.forall_mem_append.mpr ⟨(iha unsigned.1).terms, (ihb unsigned.2).terms⟩)
  | mul a b iha ihb =>
    exact unsigned_product
      (List.forall_mem_append.mpr ⟨(iha unsigned.1).factors, (ihb unsigned.2).factors⟩)
  | div a b iha ihb =>
    have left := (iha unsigned.1).form
    have right := (ihb unsigned.2).form
    exact unsigned_whole (unsigned_quotient Division.floor_nonneg ⟨left, right⟩ left right)
  | divCeil a b iha ihb =>
    have left := (iha unsigned.1).form
    have right := (ihb unsigned.2).form
    exact unsigned_whole (unsigned_quotient Division.ceil_nonneg ⟨left, right⟩ left right)
  | broadcast a b iha ihb =>
    exact unsigned_whole (unsigned_broadcasted (iha unsigned.1).form (ihb unsigned.2).form)

/-- Where the sign test holds of an expression and of the operands of all its broadcasts, it holds of
the simplified expression and of the operands of all broadcasts there. -/
theorem simplify_keeps_sign_test (tested : e.isPositive = true) (inside : e.BroadcastsTested) :
    e.simplify.isPositive = true ∧ e.simplify.BroadcastsTested :=
  unsigned_iff.mp (reduce_unsigned (unsigned_of_tested tested inside)).form

/-- Sums, products and quotients are taken apart and put together again around a broadcast. -/
theorem simplify_keeps_sign_test_of_scaled_broadcast :
    let joined : Expr := .broadcast (.mul (.value 2) (.add (size "h") (.value 3))) (size "w")
    let e : Expr := .add (.divCeil (.mul joined (.value 4)) (.add (.value 1) (size "n")))
      (.add (.value 5) (.div (.add (size "n") (.value 7)) (.value 1)))
    e.isPositive = true ∧ e.BroadcastsTested ∧ e.simplify ≠ e ∧
      e.simplify.isPositive = true ∧ e.simplify.BroadcastsTested := by
  intro joined e
  have unsigned : e.Unsigned := by simp [e, joined, size, Unsigned]
  obtain ⟨tested, inside⟩ := unsigned_iff.mp unsigned
  exact ⟨tested, inside, by decide +kernel, simplify_keeps_sign_test tested inside⟩

end ShapeFlow.Expr
