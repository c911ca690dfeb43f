import ShapeFlow.Expr.Simplify
/-!
The normal form of size expressions. It is a condition on each operator of an expression together
with its operands, and every operator of a simplified expression meets it. The lemmas follow the
operations of the reduction; what they carry is that everything collected is normal itself.
-/
namespace ShapeFlow.Expr
variable {e a b f : Expr} {s t : Term} {ts us : List Term} {fs : List Expr} {r : Reduced}

def parts : Expr → List Expr
  | .value v => [.value v]
  | .var s => [.var s]
  | .neg a => .neg a :: a.parts
  | .add a b => .add a b :: (a.parts ++ b.parts)
  | .sub a b => .sub a b :: (a.parts ++ b.parts)
  | .mul a b => .mul a b :: (a.parts ++ b.parts)
  | .div a b => .div a b :: (a.parts ++ b.parts)
  | .divCeil a b => .divCeil a b :: (a.parts ++ b.parts)
  | .broadcast a b => .broadcast a b :: (a.parts ++ b.parts)

def operands : Expr → List Expr
  | .value _ | .var _ => []
  | .neg a => [a]
  | .add a b | .sub a b | .mul a b | .div a b | .divCeil a b | .broadcast a b => [a, b]

/-- What passes from an operator to its operands holds of everything inside. -/
theorem forall_parts {P : Expr → Prop} (passes : ∀ e, P e → ∀ a ∈ e.operands, P a) (whole : P e) :
    ∀ s ∈ e.parts, P s := by
  induction e with
  | value | var => exact List.forall_mem_singleton.mpr whole
  | neg a ih =>
    have operand := passes _ whole a List.mem_cons_self
    exact List.forall_mem_cons.mpr ⟨whole, ih operand⟩
  | add a b iha ihb | sub a b iha ihb | mul a b iha ihb =>
    have left := passes _ whole a List.mem_cons_self
    have right := passes _ whole b (List.mem_cons_of_mem a List.mem_cons_self)
    exact List.forall_mem_cons.mpr ⟨whole, List.forall_mem_append.mpr ⟨iha left, ihb right⟩⟩
  | div a b iha ihb | divCeil a b iha ihb | broadcast a b iha ihb =>
    have left := passes _ whole a List.mem_cons_self
    have right := passes _ whole b (List.mem_cons_of_mem a List.mem_cons_self)
    exact List.forall_mem_cons.mpr ⟨whole, List.forall_mem_append.mpr ⟨iha left, ihb right⟩⟩

def IsTerm : Expr → Prop
  | .add _ _ | .sub _ _ | .neg _ => False
  | _ => True

def IsFactor : Expr → Prop
  | .value _ | .mul _ _ => False
  | _ => True

/-- Additions and subtractions nested to the left. Only the first term may be negated by itself. -/
def SumChain : Expr → Prop
  | .add a b | .sub a b => a.SumChain ∧ b.IsTerm
  | .neg a => a.IsTerm
  | _ => True

def FactorChain : Expr → Prop
  | .mul a b => a.FactorChain ∧ b.IsFactor
  | .value _ => False
  | _ => True

def Uncancelled (ts : List Term) : Prop :=
  ∀ s ∈ ts, ∀ t ∈ ts, s.negated ≠ t.negated → ¬ Alike s.body t.body

structure Collected (ts : List Term) : Prop where
  last : ∀ t ∈ ts.dropLast, t.body.value? = none
  positive : ∀ t ∈ ts, ∀ v, t.body = .value v → 0 < v
  uncancelled : Uncancelled ts

structure QuotientKept (a b : Expr) : Prop where
  divisor : b ≠ .value 1
  unlike : ¬ Alike a b
  symbolic : ∀ x y, a = .value x → b = .value y → y = 0

/-- The outermost operator, with its operands as they are, is in normal form. -/
def NormalAt : Expr → Prop
  | .value _ | .var _ => True
  | .neg a => a.value? = none ∧ ∀ b, a ≠ .neg b
  | .add a b => (add a b).SumChain ∧ Collected (add a b).terms
  | .sub a b => (sub a b).SumChain ∧ Collected (sub a b).terms
  | .mul a b =>
    (mul a b).FactorChain ∨ ∃ c, a = .value c ∧ c ≠ 0 ∧ c ≠ 1 ∧ b.FactorChain
  | .div a b | .divCeil a b => QuotientKept a b
  | .broadcast a b => a.value? = none ∧ b.value? = none ∧ ¬ Alike a b

def Normal (e : Expr) : Prop := ∀ s ∈ e.parts, s.NormalAt

theorem normal_value (v : Int) : Normal (.value v) := by simp [Normal, parts, NormalAt]

theorem normal_var (s : Symbol) : Normal (.var s) := by simp [Normal, parts, NormalAt]

theorem normal_neg : Normal (.neg a) ↔ NormalAt (.neg a) ∧ Normal a := List.forall_mem_cons

theorem normal_binary (whole a b : Expr) :
    (∀ s ∈ whole :: (a.parts ++ b.parts), s.NormalAt) ↔ whole.NormalAt ∧ Normal a ∧ Normal b := by
  rw [List.forall_mem_cons, List.forall_mem_append]
  rfl

theorem normal_add : Normal (.add a b) ↔ NormalAt (.add a b) ∧ Normal a ∧ Normal b :=
  normal_binary _ a b

theorem normal_sub : Normal (.sub a b) ↔ NormalAt (.sub a b) ∧ Normal a ∧ Normal b :=
  normal_binary _ a b

theorem normal_mul : Normal (.mul a b) ↔ NormalAt (.mul a b) ∧ Normal a ∧ Normal b :=
  normal_binary _ a b

theorem normal_div : Normal (.div a b) ↔ QuotientKept a b ∧ Normal a ∧ Normal b :=
  normal_binary _ a b

theorem normal_divCeil : Normal (.divCeil a b) ↔ QuotientKept a b ∧ Normal a ∧ Normal b :=
  normal_binary _ a b

theorem normal_broadcast :
    Normal (.broadcast a b) ↔ NormalAt (.broadcast a b) ∧ Normal a ∧ Normal b :=
  normal_binary _ a b

structure Term.Tidy (t : Term) : Prop where
  single : t.body.IsTerm
  normal : Normal t.body

structure TidyFactor (f : Expr) : Prop where
  single : ∀ a b, f ≠ .mul a b
  normal : Normal f

theorem terms_single (single : e.IsTerm) : e.terms = [⟨false, e⟩] := by
  cases e <;> first | rfl | exact single.elim

theorem tidy_flip (tidy : ∀ t ∈ ts, t.Tidy) : ∀ t ∈ ts.map Term.flip, t.Tidy := by
  intro t member
  obtain ⟨s, inside, rfl⟩ := List.mem_map.mp member
  exact ⟨(tidy s inside).single, (tidy s inside).normal⟩

theorem tidy_append (left : ∀ t ∈ ts, t.Tidy) (right : ∀ t ∈ us, t.Tidy) :
    ∀ t ∈ ts ++ us, t.Tidy :=
  List.forall_mem_append.mpr ⟨left, right⟩

theorem tidy_terms (normal : Normal e) : ∀ t ∈ e.terms, t.Tidy := by
  induction e with
  | add a b iha ihb =>
    obtain ⟨-, na, nb⟩ := normal_add.mp normal
    exact tidy_append (iha na) (ihb nb)
  | sub a b iha ihb =>
    obtain ⟨-, na, nb⟩ := normal_sub.mp normal
    exact tidy_append (iha na) (tidy_flip (ihb nb))
  | neg a ih => exact tidy_flip (ih (normal_neg.mp normal).2)
  | value | var | mul | div | divCeil | broadcast =>
    exact List.forall_mem_singleton.mpr ⟨trivial, normal⟩

theorem tidy_factors (normal : Normal e) : ∀ f ∈ e.factors, TidyFactor f := by
  induction e with
  | mul a b iha ihb =>
    obtain ⟨-, na, nb⟩ := normal_mul.mp normal
    exact List.forall_mem_append.mpr ⟨iha na, ihb nb⟩
  | value | var | neg | add | sub | div | divCeil | broadcast =>
    exact List.forall_mem_singleton.mpr ⟨nofun, normal⟩

theorem joined_subset : ts.foldl cancelOrAppend us ⊆ us ++ ts := by
  induction ts generalizing us with
  | nil => simp
  | cons t ts ih =>
    intro s member
    have kept : cancelOrAppend us t ⊆ us ++ [t] := by
      unfold cancelOrAppend
      split
      · exact fun s found => List.mem_append_left _ (List.mem_of_mem_eraseP found)
      · exact fun _ found => found
    rw [List.append_cons]
    rcases List.mem_append.mp (ih member) with found | found
    · exact List.mem_append_left _ (kept found)
    · exact List.mem_append_right _ found

theorem uncancelled_subset (apart : Uncancelled ts) (fewer : us ⊆ ts) : Uncancelled us :=
  fun s hs t ht => apart s (fewer hs) t (fewer ht)

theorem uncancelled_append (apart : Uncancelled us) (unmet : ∀ s ∈ us, t.cancels s = false) :
    Uncancelled (us ++ [t]) := by
  have opposite : ∀ s ∈ us, s.negated ≠ t.negated → ¬ Alike s.body t.body := by
    intro s hs differ
    simpa [Term.cancels, differ] using unmet s hs
  intro x hx y hy differ
  rw [List.mem_append, List.mem_singleton] at hx hy
  rcases hx with hx | rfl <;> rcases hy with hy | rfl
  · exact apart x hx y hy differ
  · exact opposite x hx differ
  · exact fun like => opposite y hy differ.symm like.symm
  · exact absurd rfl differ

theorem uncancelled_joined (apart : Uncancelled us) :
    Uncancelled (ts.foldl cancelOrAppend us) := by
  -- Striking out leaves fewer terms, and a term is appended only if it cancels none.
  induction ts generalizing us with
  | nil => exact apart
  | cons t ts ih =>
    apply ih
    unfold cancelOrAppend
    split
    · exact uncancelled_subset apart (fun s => List.mem_of_mem_eraseP)
    · rename_i unmet
      exact uncancelled_append apart (by simpa using unmet)

def constantTerms (c : Int) : List Term :=
  if c = 0 then [] else [⟨decide (c < 0), .value c.natAbs⟩]

theorem addConstant_eq (e : Expr) (c : Int) :
    addConstant e c = (constantTerms c).foldl Term.after e := by
  unfold addConstant constantTerms
  split
  · rfl
  · split
    · rename_i negative
      simp [Term.after, negative, Int.ofNat_natAbs_of_nonpos (Int.le_of_lt negative)]
    · rename_i positive
      simp [Term.after, positive, Int.natAbs_of_nonneg (Int.not_lt.mp positive)]

theorem tidy_constantTerms (c : Int) : ∀ t ∈ constantTerms c, t.Tidy := by
  unfold constantTerms
  split
  · nofun
  · exact List.forall_mem_singleton.mpr ⟨trivial, normal_value _⟩

theorem collected_sum (symbolic : ∀ t ∈ us, t.body.value? = none) (apart : Uncancelled us)
    (c : Int) : Collected (us ++ constantTerms c) := by
  have known : ∀ t ∈ us, ∀ v, t.body ≠ .value v := by
    intro t member v same
    have none := symbolic t member
    rw [same] at none
    cases none
  unfold constantTerms
  split
  · rw [List.append_nil]
    refine ⟨?_, ?_, apart⟩
    · intro t member
      exact symbolic t (List.dropLast_subset us member)
    · intro t member v same
      exact absurd same (known t member v)
  · rename_i nonzero
    refine ⟨?_, ?_, uncancelled_append apart ?_⟩
    · rw [List.dropLast_concat]
      exact symbolic
    · intro t member v same
      rcases List.mem_append.mp member with inside | constant
      · exact absurd same (known t inside v)
      · obtain rfl := List.mem_singleton.mp constant
        cases same
        omega
    · intro s member
      have unlike : ¬ Alike s.body (.value c.natAbs) := by
        intro like
        cases body : s.body <;> simp_all [Alike, bare]
      exact Bool.and_eq_false_iff.mpr (.inr (decide_eq_false unlike))

theorem Collected.front (collected : Collected (us ++ ts)) : Collected us := by
  refine ⟨?_, ?_, uncancelled_subset collected.uncancelled (List.subset_append_left us ts)⟩
  · intro t member
    cases ts with
    | nil => exact collected.last t (by simpa using member)
    | cons s ts =>
      apply collected.last
      rw [List.dropLast_append_of_ne_nil (List.cons_ne_nil s ts)]
      exact List.mem_append_left _ (List.dropLast_subset us member)
  · intro t member
    exact collected.positive t (List.mem_append_left ts member)

structure NormalChain (e : Expr) (ts : List Term) : Prop where
  normal : Normal e
  nested : e.SumChain
  terms : e.terms = ts

theorem normalChain_first (tidy : t.Tidy) (symbolic : t.body.value? = none) :
    NormalChain t.toExpr [t] := by
  obtain ⟨negated, body⟩ := t
  obtain ⟨single, normal⟩ := tidy
  dsimp only at single normal symbolic
  have itself := terms_single single
  cases negated with
  | false =>
    refine ⟨normal, ?_, itself⟩
    cases body <;> trivial
  | true =>
    refine ⟨normal_neg.mpr ⟨⟨symbolic, ?_⟩, normal⟩, single, ?_⟩
    · rintro inner rfl
      exact single
    · simp [Term.toExpr, terms, itself, Term.flip]

theorem terms_after (single : t.body.IsTerm) (e : Expr) :
    (t.after e).terms = e.terms ++ [t] := by
  obtain ⟨negated, body⟩ := t
  cases negated <;> simp_all [Term.after, terms, terms_single, Term.flip]

theorem normalChain_after (chain : NormalChain e us) (tidy : t.Tidy)
    (collected : Collected (us ++ [t])) : NormalChain (t.after e) (us ++ [t]) := by
  have grown : (t.after e).terms = us ++ [t] := by rw [terms_after tidy.single, chain.terms]
  rw [← grown] at collected
  obtain ⟨negated, body⟩ := t
  have nested : e.SumChain ∧ body.IsTerm := ⟨chain.nested, tidy.single⟩
  cases negated with
  | false => exact ⟨normal_add.mpr ⟨⟨nested, collected⟩, chain.normal, tidy.normal⟩, nested, grown⟩
  | true => exact ⟨normal_sub.mpr ⟨⟨nested, collected⟩, chain.normal, tidy.normal⟩, nested, grown⟩

theorem normalChain_foldl (chain : NormalChain e us) (tidy : ∀ t ∈ ts, t.Tidy)
    (collected : Collected (us ++ ts)) : NormalChain (ts.foldl Term.after e) (us ++ ts) := by
  -- Every prefix of the chain is a sum of its own, collected because the whole is.
  induction ts generalizing e us with
  | nil => simpa using chain
  | cons t ts ih =>
    rw [List.append_cons] at collected ⊢
    have first : t.Tidy := tidy t List.mem_cons_self
    have rest : ∀ s ∈ ts, s.Tidy := fun s member => tidy s (List.mem_cons_of_mem t member)
    exact ih (normalChain_after chain first collected.front) rest collected

theorem value?_body (t : Term) : t.value?.isNone = t.body.value?.isNone := by
  obtain ⟨negated, body⟩ := t
  cases body <;> cases negated <;> rfl

def standing (ts : List Term) : List Term :=
  (ts.filter (·.value?.isNone)).foldl cancelOrAppend []

def constantOf (ts : List Term) : Int := (ts.filterMap Term.value?).foldr (· + ·) 0

theorem mem_standing (member : t ∈ standing ts) : t ∈ ts ∧ t.body.value? = none := by
  obtain ⟨inside, none⟩ := List.mem_filter.mp (joined_subset member)
  exact ⟨inside, by simpa [value?_body] using none⟩

theorem uncancelled_standing (ts : List Term) : Uncancelled (standing ts) :=
  uncancelled_joined (show Uncancelled [] from nofun)

theorem forall_standing {P : Term → Prop} {rest : List Term}
    (each : ∀ s ∈ ts, s.body.value? = none → P s) (left : standing ts = t :: rest) :
    P t ∧ ∀ s ∈ rest, P s := by
  rw [← List.forall_mem_cons, ← left]
  intro s member
  obtain ⟨inside, symbolic⟩ := mem_standing member
  exact each s inside symbolic

theorem sumOf_constant (nothing : standing ts = []) : sumOf ts = .value (constantOf ts) := by
  unfold standing at nothing
  unfold sumOf
  rw [nothing]
  rfl

theorem sumOf_chain {rest : List Term} (left : standing ts = t :: rest) :
    sumOf ts = (rest ++ constantTerms (constantOf ts)).foldl Term.after t.toExpr := by
  unfold standing at left
  unfold sumOf
  rw [left]
  dsimp only
  rw [addConstant_eq, ← List.foldl_append]
  rfl

/-- A sum is written as its terms that are left and the constant. -/
theorem normalChain_sumOf {rest : List Term} (tidy : ∀ t ∈ ts, t.Tidy)
    (left : standing ts = t :: rest) :
    NormalChain (sumOf ts) (standing ts ++ constantTerms (constantOf ts)) := by
  have symbolic : ∀ s ∈ standing ts, s.body.value? = none := fun s member => (mem_standing member).2
  have collected := collected_sum symbolic (uncancelled_standing ts) (constantOf ts)
  obtain ⟨⟨single, first⟩, others⟩ :=
    forall_standing (P := fun s => s.Tidy ∧ s.body.value? = none)
      (fun s member symbolic => ⟨tidy s member, symbolic⟩) left
  rw [sumOf_chain left]
  rw [left] at collected ⊢
  refine normalChain_foldl (normalChain_first single first) ?_ collected
  exact tidy_append (fun s member => (others s member).1) (tidy_constantTerms _)

theorem normal_sumOf (tidy : ∀ t ∈ ts, t.Tidy) : Normal (sumOf ts) := by
  cases left : standing ts with
  | nil =>
    rw [sumOf_constant left]
    exact normal_value _
  | cons t rest => exact (normalChain_sumOf tidy left).normal

theorem isFactor_of_symbolic (tidy : TidyFactor f) (symbolic : f.value? = none) : f.IsFactor := by
  cases f <;> first | trivial | exact absurd rfl (tidy.single _ _)

theorem factorChain_first (single : f.IsFactor) : f.FactorChain := by
  cases f <;> trivial

theorem normal_product (chain : e.FactorChain) (normal : Normal e)
    (tidy : ∀ f ∈ fs, f.IsFactor ∧ Normal f) :
    (fs.foldl .mul e).FactorChain ∧ Normal (fs.foldl .mul e) := by
  induction fs generalizing e with
  | nil => exact ⟨chain, normal⟩
  | cons f fs ih =>
    obtain ⟨⟨single, factor⟩, rest⟩ := List.forall_mem_cons.mp tidy
    have longer : (mul e f).FactorChain := ⟨chain, single⟩
    exact ih longer (normal_mul.mpr ⟨.inl longer, normal, factor⟩) rest

theorem forall_symbolic {P : Expr → Prop} {rest : List Expr}
    (each : ∀ g ∈ fs, g.value? = none → P g) (left : fs.filter (·.value?.isNone) = f :: rest) :
    P f ∧ ∀ g ∈ rest, P g := by
  rw [← List.forall_mem_cons, ← left]
  intro g member
  obtain ⟨inside, symbolic⟩ := List.mem_filter.mp member
  exact each g inside (Option.isNone_iff_eq_none.mp symbolic)

theorem normal_productOf (tidy : ∀ f ∈ fs, TidyFactor f) : Normal (productOf fs) := by
  unfold productOf
  dsimp only
  split
  · exact normal_value 0
  · rename_i nonzero
    split
    · exact normal_value _
    · rename_i f rest symbolic
      have factors : ∀ g ∈ fs, g.value? = none → g.IsFactor ∧ Normal g := fun g member unknown =>
        ⟨isFactor_of_symbolic (tidy g member) unknown, (tidy g member).normal⟩
      obtain ⟨⟨single, normal⟩, others⟩ := forall_symbolic factors symbolic
      obtain ⟨chain, product⟩ := normal_product (factorChain_first single) normal others
      split
      · exact product
      · rename_i notOne
        exact normal_mul.mpr ⟨.inr ⟨_, rfl, nonzero, notOne, chain⟩, normal_value _, product⟩

theorem normal_negated (normal : Normal a) : Normal (negated a) := by
  cases a with
  | value v => exact normal_value (-v)
  | neg b => exact (normal_neg.mp normal).2
  | var | add | sub | mul | div | divCeil | broadcast =>
    exact normal_neg.mpr ⟨⟨rfl, nofun⟩, normal⟩

theorem normal_quotient {round : Int → Int → Int} {keep : Expr → Expr → Expr}
    (kept : Normal (keep a b) ↔ QuotientKept a b ∧ Normal a ∧ Normal b) (na : Normal a)
    (nb : Normal b) : Normal (quotient round keep a b) := by
  unfold quotient
  split
  · exact na
  · rename_i divisor
    split
    · rename_i x y
      split
      · exact normal_value _
      · rename_i zero
        split
        · exact normal_value 1
        · rename_i differ
          refine kept.mpr ⟨⟨divisor, ?_, ?_⟩, na, nb⟩
          · intro like
            cases like
            exact differ rfl
          · intro _ _ _ same
            cases same
            exact Decidable.not_not.mp zero
    · rename_i compound
      split
      · exact normal_value 1
      · rename_i unlike
        exact kept.mpr ⟨⟨divisor, unlike, fun x y hx hy => absurd hy (compound x y hx)⟩, na, nb⟩

theorem normal_broadcasted (na : Normal a) (nb : Normal b) : Normal (broadcasted a b) := by
  unfold broadcasted
  split
  · exact na
  · rename_i unlike
    split
    · split
      · exact nb
      · split
        · exact na
        · exact normal_value _
    · split
      · exact na
      · exact normal_value _
    · rename_i left right
      refine normal_broadcast.mpr ⟨⟨?_, ?_, unlike⟩, na, nb⟩
      · cases a <;> first | rfl | exact absurd rfl (left _)
      · cases b <;> first | rfl | exact absurd rfl (right _)

structure Reduced.Tidy (r : Reduced) : Prop where
  form : Normal r.form
  terms : ∀ t ∈ r.terms, t.Tidy
  factors : ∀ f ∈ r.factors, TidyFactor f

theorem tidy_whole (normal : Normal e) : (Reduced.whole e).Tidy :=
  ⟨normal, tidy_terms normal, tidy_factors normal⟩

theorem tidy_sum (tidy : ∀ t ∈ ts, t.Tidy) : (Reduced.sum ts).Tidy :=
  ⟨normal_sumOf tidy, tidy, tidy_factors (normal_sumOf tidy)⟩

theorem tidy_product (tidy : ∀ f ∈ fs, TidyFactor f) : (Reduced.product fs).Tidy :=
  ⟨normal_productOf tidy, tidy_terms (normal_productOf tidy), tidy⟩

theorem tidy_negation (tidy : r.Tidy) : (Reduced.negation r).Tidy :=
  ⟨normal_negated tidy.form, tidy_flip tidy.terms, tidy_factors (normal_negated tidy.form)⟩

theorem reduce_tidy (e : Expr) : e.reduce.Tidy := by
  -- Operands are collected from their reductions, not from their forms, so the induction carries
  -- the terms and the factors as well.
  induction e with
  | value v => exact tidy_whole (normal_value v)
  | var s => exact tidy_whole (normal_var s)
  | neg a ih => exact tidy_negation ih
  | add a b iha ihb => exact tidy_sum (tidy_append iha.terms ihb.terms)
  | sub a b iha ihb => exact tidy_sum (tidy_append iha.terms (tidy_flip ihb.terms))
  | mul a b iha ihb =>
    exact tidy_product (List.forall_mem_append.mpr ⟨iha.factors, ihb.factors⟩)
  | div a b iha ihb => exact tidy_whole (normal_quotient normal_div iha.form ihb.form)
  | divCeil a b iha ihb => exact tidy_whole (normal_quotient normal_divCeil iha.form ihb.form)
  | broadcast a b iha ihb => exact tidy_whole (normal_broadcasted iha.form ihb.form)

theorem normal_simplify (e : Expr) : Normal e.simplify := (reduce_tidy e).form

/-- Whatever is inside a simplified expression is in normal form with its operands. -/
theorem simplified_parts_normal (e s : Expr) (inside : s ∈ e.simplify.parts) : s.NormalAt :=
  normal_simplify e s inside

/-- The quotient by one exposes a sum, which joins the sum around it and loses a term there. -/
theorem simplified_parts_normal_of_exposed_sum :
    let exposed : Expr := .div (.sub (.sub (size "h") (size "n")) (.value 1)) (.value 1)
    let e : Expr := .divCeil
      (.mul (.value 2) (.mul (.sub (.add exposed (.value 3)) (.neg (size "n"))) (.value 3)))
      (.broadcast (.value 1) (.sub (.value 4) (size "n")))
    let s : Expr := .mul (.value 6) (.add (size "h") (.value 2))
    s ∈ e.simplify.parts ∧ s.NormalAt := by
  intro exposed e s
  have inside : s ∈ e.simplify.parts := by decide +kernel
  exact ⟨inside, simplified_parts_normal e s inside⟩

end ShapeFlow.Expr
