import ShapeFlow.Proofs.Expr.Reading
import ShapeFlow.Proofs.Expr.Symbols
/-!
The infix text of an expression as one reads it back. Where quotients bind more tightly than
products, as the printer has it, every expression keeps its values and its errors; where both bind
equally, those do in which no product has a quotient among the factors on its right.
-/
namespace ShapeFlow.Expr
open Text (IsIdentifier Operator Token isWordChar tokens)
variable {e a b : Expr} {level : Operator → Nat}

def Named (e : Expr) : Prop := ∀ s ∈ e.symbols, IsIdentifier s.name

instance (e : Expr) : Decidable e.Named := inferInstanceAs (Decidable (∀ s ∈ _, _))

theorem named_pair (whole : e.symbols = a.symbols ++ b.symbols) (named : e.Named) :
    a.Named ∧ b.Named := by
  rw [Named, whole, List.forall_mem_append] at named
  exact named

theorem tokens_decimal (v : Int) : tokens (decimal v).toList = (value v).printed := by
  cases v with
  | ofNat n =>
    have natural : (decimal (Int.ofNat n)).toList = Nat.toDigits 10 n := String.toList_ofList
    rw [natural, Text.tokens_digits]
    rfl
  | negSucc n =>
    have signed : decimal (Int.negSucc n) = "-" ++ String.ofList (Nat.toDigits 10 (n + 1)) := rfl
    have negative : (decimal (Int.negSucc n)).toList = '-' :: Nat.toDigits 10 (n + 1) := by
      simp [signed]
    have below : Int.negSucc n < 0 := Int.negSucc_lt_zero n
    rw [negative, Text.tokens_cons_mark rfl, Text.tokens_digits, printed, if_pos below]
    rfl

theorem tokens_parenthesize (needed : Bool) (text : String) :
    tokens (parenthesize needed text).toList = enclosed needed (tokens text.toList) := by
  cases needed with
  | false => rfl
  | true =>
    have letters : (parenthesize true text).toList = '(' :: text.toList ++ [')'] := by
      simp [parenthesize]
    rw [letters, Text.tokens_append_mark rfl, Text.tokens_cons_mark rfl]
    rfl

theorem tokens_operation (o : Operator) {sign : String} {c : Char}
    (spelled : sign.toList = [' ', c, ' ']) (mark : isWordChar c = false)
    (token : Token.ofMark c = some (.operator o)) (left : tokens a.render.toList = a.printed)
    (right : tokens b.render.toList = b.printed) :
    tokens (parenthesize (a.rank < printing o) a.render ++ sign ++
        parenthesize (b.rank < rightRank o) b.render).toList =
      between o a b a.printed b.printed := by
  have letters (l r : String) :
      (l ++ sign ++ r).toList = l.toList ++ ' ' :: c :: ' ' :: r.toList := by
    simp [spelled]
  rw [letters, Text.tokens_append_mark rfl, Text.tokens_cons_mark rfl, Text.tokens_cons_mark mark,
    Text.tokens_cons_mark rfl, token, tokens_parenthesize, tokens_parenthesize, left, right]
  rfl

theorem tokens_call {name start : String} (identifier : IsIdentifier name)
    (spelled : start.toList = name.toList ++ ['(']) (left : tokens a.render.toList = a.printed)
    (right : tokens b.render.toList = b.printed) :
    tokens (start ++ a.render ++ ", " ++ b.render ++ ")").toList =
      .name name :: .opening :: (a.printed ++ .comma :: (b.printed ++ [.closing])) := by
  have letters : (start ++ a.render ++ ", " ++ b.render ++ ")").toList =
      name.toList ++ '(' :: (a.render.toList ++ ',' :: ' ' :: (b.render.toList ++ [')'])) := by
    simp [spelled]
  rw [letters, Text.tokens_append_mark rfl, Text.tokens_cons_mark rfl, Text.tokens_append_mark rfl,
    Text.tokens_cons_mark rfl, Text.tokens_cons_mark rfl, Text.tokens_append_mark rfl,
    Text.tokens_identifier identifier, left, right]
  rfl

theorem tokens_render (named : e.Named) : tokens e.render.toList = e.printed := by
  induction e with
  | value v => exact tokens_decimal v
  | var s => exact Text.tokens_identifier (named s List.mem_cons_self)
  | neg a ih =>
    have letters : (neg a).render.toList = '-' :: (parenthesize (a.rank < 4) a.render).toList := by
      simp [render]
    rw [letters, Text.tokens_cons_mark rfl, tokens_parenthesize, ih named]
    rfl
  | add a b iha ihb =>
    obtain ⟨left, right⟩ := named_pair rfl named
    exact tokens_operation .plus rfl rfl rfl (iha left) (ihb right)
  | sub a b iha ihb =>
    obtain ⟨left, right⟩ := named_pair rfl named
    rw [render]
    simp only [← Nat.lt_succ_iff]
    exact tokens_operation .minus rfl rfl rfl (iha left) (ihb right)
  | mul a b iha ihb =>
    obtain ⟨left, right⟩ := named_pair rfl named
    exact tokens_operation .times rfl rfl rfl (iha left) (ihb right)
  | div a b iha ihb =>
    obtain ⟨left, right⟩ := named_pair rfl named
    rw [render]
    simp only [← Nat.lt_succ_iff]
    exact tokens_operation .divide rfl rfl rfl (iha left) (ihb right)
  | divCeil a b iha ihb =>
    obtain ⟨left, right⟩ := named_pair rfl named
    have known : IsIdentifier "ceil_div" := by decide +kernel
    exact tokens_call known rfl (iha left) (ihb right)
  | broadcast a b iha ihb =>
    obtain ⟨left, right⟩ := named_pair rfl named
    have known : IsIdentifier "broadcast" := by decide +kernel
    exact tokens_call known rfl (iha left) (ihb right)

theorem read?_render (c : Conventional level) (leads : LeadsThroughout level e) (named : e.Named) :
    read? level e.render = some e.reread := by
  have alone := (reads c leads).1 [] [] trivial trivial
  rw [List.append_nil] at alone
  rw [read?, tokens_render named, alone]
  rfl

example : read? usual "-a * b / 2 - ceil_div(c, 3) - 1" = some (.sub
    (.sub (.div (.mul (.neg (free "a")) (free "b")) (.value 2)) (.divCeil (free "c") (.value 3)))
    (.value 1)) := by
  decide +kernel

/-- No product has a quotient among the factors of its right operand. -/
def QuotientsLead (e : Expr) : Prop :=
  ∀ a b, .mul a b ∈ e.parts → ∀ f ∈ b.factors, f.operator? ≠ some .divide

/-- The printed text of an expression is read as one of the same values and errors, by readers for
whom quotients bind more tightly than products; by readers for whom both bind equally, it is if no
product has a quotient among the factors on its right. -/
theorem printed_text_reads_back (e : Expr) (named : e.Named) :
    (∃ r, read? printing e.render = some r ∧ ∀ σ, r.eval σ = e.eval σ) ∧
      (e.QuotientsLead → ∃ r, read? usual e.render = some r ∧ ∀ σ, r.eval σ = e.eval σ) := by
  constructor
  · have leads : LeadsThroughout printing e := fun _ _ _ => .inl (by decide)
    exact ⟨e.reread, read?_render conventional_printing leads named, fun σ => eval_reread σ e⟩
  · intro lead
    have leads : LeadsThroughout usual e := fun a b inside => .inr (lead a b inside)
    exact ⟨e.reread, read?_render conventional_usual leads named, fun σ => eval_reread σ e⟩

theorem printed_text_reads_back_of_regrouped_sum :
    let e : Expr := .add (.sub (size "a") (.sub (size "b") (.value 1)))
      (.add (.mul (.div (size "h") (.value (-2))) (.divCeil (size "w_1") (.value 3)))
        (.neg (size "a")))
    e.render = "a - (b - 1) + h / -2 * ceil_div(w_1, 3) + -a" ∧ e.Named ∧ e.QuotientsLead ∧
      (∃ r, read? printing e.render = some r ∧ ∀ σ, r.eval σ = e.eval σ) ∧
      ∃ r, read? usual e.render = some r ∧ ∀ σ, r.eval σ = e.eval σ := by
  intro e
  have text : e.render = "a - (b - 1) + h / -2 * ceil_div(w_1, 3) + -a" := by decide +kernel
  have named : e.Named := by decide +kernel
  have lead : e.QuotientsLead := by simp [e, QuotientsLead, parts, factors, operator?, size]
  obtain ⟨own, whole⟩ := printed_text_reads_back e named
  exact ⟨text, named, lead, own, whole lead⟩

/-- Where products and quotients bind equally, a product takes up the dividend on its right. -/
theorem usual_reading_moves_dividends :
    let e : Expr := .mul (size "a") (.div (size "b") (size "c"))
    let σ : Binding := fun name =>
      if name = "a" then some 2 else if name = "b" then some 1 else some 2
    e.Named ∧ e.render = "a * b / c" ∧ e.eval σ = .ok 0 ∧
      (∃ r, read? usual e.render = some r ∧ r.eval σ = .ok 1) ∧
      ¬∃ r, read? usual e.render = some r ∧ ∀ σ, r.eval σ = e.eval σ := by
  intro e σ
  have text : read? usual e.render = some (.div (.mul (free "a") (free "b")) (free "c")) := by
    decide +kernel
  have value : e.eval σ = .ok 0 := rfl
  have moved : (div (.mul (free "a") (free "b")) (free "c")).eval σ = .ok 1 := rfl
  refine ⟨by decide +kernel, by decide +kernel, value, ⟨_, text, moved⟩, ?_⟩
  rintro ⟨r, read, same⟩
  obtain rfl := Option.some.inj (text.symm.trans read)
  have equal := moved.symm.trans ((same σ).trans value)
  cases equal

end ShapeFlow.Expr
