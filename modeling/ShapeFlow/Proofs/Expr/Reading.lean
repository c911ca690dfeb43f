import ShapeFlow.Expr.Printer
import ShapeFlow.Proofs.Expr.Evaluation
import ShapeFlow.Proofs.Expr.NormalForm
import ShapeFlow.Proofs.Text.Tokens
/-!
Reading infix texts. Tokens are read from left to right with what has been begun kept on a stack,
and an operator takes up what stands before it as far as that binds at least as tightly. How tightly
the operators bind is a parameter. What a printed expression is read as is the expression again,
with sums and products regrouped to the left.
-/
namespace ShapeFlow.Expr
open Text (Operator Token)

def operation : Operator → Expr → Expr → Expr
  | .plus => .add
  | .minus => .sub
  | .times => .mul
  | .divide => .div

/-- Products and quotients bind equally, and more tightly than sums and differences. -/
def usual : Operator → Nat
  | .plus | .minus => 1
  | .times | .divide => 2

/-- Quotients bind more tightly than products. -/
def printing : Operator → Nat
  | .plus | .minus => 1
  | .times => 2
  | .divide => 3

def function? (name : String) : Option (Expr → Expr → Expr) :=
  if name = "ceil_div" then some .divCeil
  else if name = "broadcast" then some .broadcast
  else none

inductive Pending where
  | negation
  | operand (o : Operator) (left : Expr)
  | group
  | first (f : Expr → Expr → Expr)
  | second (f : Expr → Expr → Expr) (a : Expr)

section reader
variable (level : Operator → Nat)

def takeUp (least : Nat) : List Pending → Expr → List Pending × Expr
  | .negation :: waiting, e => takeUp least waiting (.neg e)
  | .operand o a :: waiting, e =>
    if least ≤ level o then takeUp least waiting (operation o a e)
    else (.operand o a :: waiting, e)
  | waiting, e => (waiting, e)

mutual

def expect (waiting : List Pending) : List Token → Option (Expr × List Token)
  | .number n :: ts => resume waiting (.value n) ts
  | .operator .minus :: ts => expect (.negation :: waiting) ts
  | .opening :: ts => expect (.group :: waiting) ts
  | .name s :: .opening :: ts => (function? s).bind fun f => expect (.first f :: waiting) ts
  | .name s :: ts => resume waiting (free s) ts
  | _ => none

def resume (waiting : List Pending) (e : Expr) : List Token → Option (Expr × List Token)
  | .operator o :: ts => match takeUp level (level o) waiting e with
    | (waiting, a) => expect (.operand o a :: waiting) ts
  | .comma :: ts => match takeUp level 0 waiting e with
    | (.first f :: waiting, a) => expect (.second f a :: waiting) ts
    | ([], a) => some (a, .comma :: ts)
    | _ => none
  | .closing :: ts => match takeUp level 0 waiting e with
    | (.group :: waiting, a) => resume waiting a ts
    | (.second f a :: waiting, b) => resume waiting (f a b) ts
    | ([], a) => some (a, .closing :: ts)
    | _ => none
  | ts => match takeUp level 0 waiting e with
    | ([], a) => some (a, ts)
    | _ => none

end

def read? (text : String) : Option Expr :=
  match expect level [] (Text.tokens text.toList) with
  | some (e, []) => some e
  | _ => none

end reader

/-! ### What is printed, and what it is read as -/

def enclosed (needed : Bool) (ts : List Token) : List Token :=
  if needed then .opening :: (ts ++ [.closing]) else ts

def rightRank : Operator → Nat
  | .plus => 1
  | .minus | .times => 2
  | .divide => 4

def between (o : Operator) (a b : Expr) (left right : List Token) : List Token :=
  enclosed (a.rank < printing o) left ++ .operator o :: enclosed (b.rank < rightRank o) right

def printed : Expr → List Token
  | .value v => if v < 0 then [.operator .minus, .number v.natAbs] else [.number v.natAbs]
  | .var s => [.name s.name]
  | .neg a => .operator .minus :: enclosed (a.rank < 4) a.printed
  | .add a b => between .plus a b a.printed b.printed
  | .sub a b => between .minus a b a.printed b.printed
  | .mul a b => between .times a b a.printed b.printed
  | .div a b => between .divide a b a.printed b.printed
  | .divCeil a b =>
    .name "ceil_div" :: .opening :: (a.printed ++ .comma :: (b.printed ++ [.closing]))
  | .broadcast a b =>
    .name "broadcast" :: .opening :: (a.printed ++ .comma :: (b.printed ++ [.closing]))

/-- An operator with a left operand, put in front of an expression. Sums and products that follow
without parentheses take it up first. -/
def graft : Operator → Expr → Expr → Expr
  | .plus, l, .add a b => .add (graft .plus l a) b
  | .plus, l, .sub a b => .sub (graft .plus l a) b
  | .times, l, .mul a b => .mul (graft .times l a) b
  | o, l, e => operation o l e

def reread : Expr → Expr
  | .value v => if v < 0 then .neg (.value v.natAbs) else .value v.natAbs
  | .var s => free s.name
  | .neg a => .neg a.reread
  | .add a b => graft .plus a.reread b.reread
  | .sub a b => graft .minus a.reread b.reread
  | .mul a b => graft .times a.reread b.reread
  | .div a b => graft .divide a.reread b.reread
  | .divCeil a b => .divCeil a.reread b.reread
  | .broadcast a b => .broadcast a.reread b.reread

variable {level : Operator → Nat} {e a b l : Expr} {o p : Operator} {head : Option Operator}
  {waiting : List Pending} {ts rest : List Token}

def operator? : Expr → Option Operator
  | .add _ _ => some .plus
  | .sub _ _ => some .minus
  | .mul _ _ => some .times
  | .div _ _ => some .divide
  | _ => none

theorem operator?_operation (o : Operator) (a b : Expr) : (operation o a b).operator? = some o := by
  cases o <;> rfl

theorem operator?_eq_none (e : Expr) : e.operator? = none ↔ e.rank = 4 := by
  cases e <;> simp [operator?, Expr.rank]

theorem rank_operation (o : Operator) (a b : Expr) : (operation o a b).rank = printing o := by
  cases o <;> rfl

theorem printed_operation (o : Operator) (a b : Expr) :
    (operation o a b).printed = between o a b a.printed b.printed := by
  cases o <;> rfl

theorem reread_operation (o : Operator) (a b : Expr) :
    (operation o a b).reread = graft o a.reread b.reread := by
  cases o <;> rfl

/-! ### Grafting -/

/-- Sums and products are regrouped, differences and quotients are not. -/
def Regroups (o : Operator) : Prop := o = .plus ∨ o = .times

theorem rank_graft (o : Operator) (l e : Expr) : (graft o l e).rank = printing o := by
  fun_induction graft o l e with
  | case1 | case2 | case3 => rfl
  | case4 o l e => exact rank_operation o l e

theorem rank_reread (e : Expr) : e.reread.rank = e.rank := by
  cases e with
  | value v => by_cases negative : v < 0 <;> simp [reread, negative, Expr.rank]
  | var | neg | divCeil | broadcast => rfl
  | add | sub | mul | div => exact rank_graft _ _ _

theorem graft_apart (apart : Regroups o → e.rank ≠ printing o) : graft o l e = operation o l e := by
  fun_cases graft o l e with
  | case1 | case2 | case3 => exact absurd rfl (apart (by simp [Regroups]))
  | case4 => rfl

theorem regroups_same (regroups : Regroups p) (same : printing p = printing o) :
    p = o ∨ p = .plus ∧ o = .minus := by
  rcases regroups with rfl | rfl <;> cases o <;> simp_all [printing]

theorem graft_graft (regroups : Regroups p) (same : printing p = printing o) (l a b : Expr) :
    graft p l (graft o a b) = graft o (graft p l a) b := by
  fun_induction graft o a b with
  | case1 a x y ih | case2 a x y ih =>
    obtain rfl : p = .plus := by simpa using regroups_same regroups same
    rw [graft, ih same, graft]
  | case3 a x y ih =>
    obtain rfl : p = .times := by simpa using regroups_same regroups same
    rw [graft, ih same, graft]
  | case4 o a b sum difference product =>
    rw [graft.eq_4 o _ b sum difference product]
    rcases regroups_same regroups same with rfl | ⟨rfl, rfl⟩
    · rcases regroups with rfl | rfl <;> rfl
    · rfl

/-! ### Evaluation -/

theorem eval_graft (σ : Binding) (o : Operator) (l e : Expr) :
    (graft o l e).eval σ = (operation o l e).eval σ := by
  fun_induction graft o l e with
  | case1 l a b ih =>
    simp only [eval, ih, operation, bind_assoc, pure_bind, Int.add_assoc]
  | case2 l a b ih =>
    simp only [eval, ih, operation, bind_assoc, pure_bind, Int.add_sub_assoc]
  | case3 l a b ih =>
    simp only [eval, ih, operation, bind_assoc, pure_bind, Int.mul_assoc]
  | case4 => rfl

theorem eval_reread (σ : Binding) (e : Expr) : e.reread.eval σ = e.eval σ := by
  induction e with
  | value v =>
    by_cases negative : v < 0
    · have whole : -(v.natAbs : Int) = v := by omega
      simp only [reread, negative, ↓reduceIte, eval]
      exact congrArg Except.ok whole
    · have whole : (v.natAbs : Int) = v := by omega
      simp only [reread, negative, ↓reduceIte, eval, whole]
  | var s => rfl
  | neg a ih => simp only [reread, eval, ih]
  | add a b iha ihb | sub a b iha ihb | mul a b iha ihb | div a b iha ihb =>
    simp only [reread, eval_graft, operation, eval, iha, ihb]
  | divCeil a b iha ihb | broadcast a b iha ihb => simp only [reread, eval, iha, ihb]

/-! ### Reading on -/

def Yields (level : Operator → Nat) (o : Option Operator) : List Pending → Prop
  | .negation :: _ => o = none
  | .operand p _ :: _ => ∀ q ∈ o, level p < level q
  | _ => True

def Ends (level : Operator → Nat) (o : Option Operator) : List Token → Prop
  | .operator p :: _ => ∀ q ∈ o, level p ≤ level q
  | .closing :: _ | .comma :: _ | [] => True
  | _ => False

theorem takeUp_yields (yields : Yields level (some o) waiting) (e : Expr) :
    takeUp level (level o) waiting e = (waiting, e) := by
  cases waiting with
  | nil => rfl
  | cons first others =>
    cases first with
    | negation => cases yields
    | operand p a =>
      have less : level p < level o := yields o rfl
      rw [takeUp, if_neg (by omega)]
    | group | first | second => rfl

theorem resume_operand (ends : Ends level (some o) rest) :
    resume level (.operand o l :: waiting) e rest =
      resume level waiting (operation o l e) rest := by
  cases rest with
  | nil => simp only [resume, takeUp, Nat.zero_le, ↓reduceIte]
  | cons t ts =>
    cases t with
    | operator p =>
      have less : level p ≤ level o := ends o rfl
      simp only [resume, takeUp, less, ↓reduceIte]
    | closing | comma => simp only [resume, takeUp, Nat.zero_le, ↓reduceIte]
    | number | name | opening | stray => cases ends

theorem resume_negation : resume level (.negation :: waiting) e rest =
    resume level waiting (.neg e) rest := by
  cases rest with
  | nil => rfl
  | cons t ts => cases t <;> rfl

/-- Levels at which texts are read as they are meant: quotients bind as tightly as products or more
tightly, and both more tightly than sums. -/
structure Conventional (level : Operator → Nat) : Prop where
  sums : level .minus = level .plus
  products : level .plus < level .times
  quotients : level .times ≤ level .divide

theorem conventional_printing : Conventional printing := ⟨rfl, by decide, by decide⟩

theorem conventional_usual : Conventional usual := ⟨rfl, by decide, by decide⟩

theorem level_of_rank (c : Conventional level) (above : printing o ≤ e.rank) :
    ∀ q ∈ e.operator?, level o ≤ level q := by
  obtain ⟨sums, products, quotients⟩ := c
  intro q head
  cases e <;> cases head <;> cases o <;> simp only [printing, Expr.rank] at above <;> omega

theorem level_lt_of_rank (c : Conventional level) (strict : ¬Regroups o)
    (above : rightRank o ≤ e.rank) : ∀ q ∈ e.operator?, level o < level q := by
  obtain ⟨sums, products, quotients⟩ := c
  intro q head
  cases o <;> simp only [Regroups, reduceCtorEq, or_self, or_false, or_true, not_true] at strict <;>
    cases e <;> cases head <;> simp only [rightRank, Expr.rank] at above <;> omega

def Leads (level : Operator → Nat) (e : Expr) : Prop :=
  level .times < level .divide ∨ ∀ f ∈ e.factors, f.operator? ≠ some .divide

theorem leads_mul : Leads level (.mul a b) ↔ Leads level a ∧ Leads level b := by
  simp only [Leads, factors, List.forall_mem_append]
  exact or_and_left

def Alone (level : Operator → Nat) (e : Expr) : Prop :=
  ∀ waiting rest, Yields level e.operator? waiting → Ends level e.operator? rest →
    expect level waiting (e.printed ++ rest) = resume level waiting e.reread rest

def Grafted (level : Operator → Nat) (e : Expr) : Prop :=
  ∀ o l waiting rest, Regroups o → (∀ q ∈ e.operator?, level o ≤ level q) →
    (o = .times → Leads level e) → Yields level (some o) waiting → Ends level (some o) rest →
    expect level (.operand o l :: waiting) (e.printed ++ rest) =
      resume level waiting (graft o l e.reread) rest

theorem yields_mono (yields : Yields level (some o) waiting)
    (above : ∀ q ∈ head, level o ≤ level q) : Yields level head waiting := by
  cases waiting with
  | nil => trivial
  | cons first others =>
    cases first with
    | negation => cases yields
    | operand p a =>
      intro q first
      have less : level p < level o := yields o rfl
      have more := above q first
      omega
    | group | first | second => trivial

theorem ends_mono (ends : Ends level (some o) rest)
    (above : ∀ q ∈ head, level o ≤ level q) : Ends level head rest := by
  cases rest with
  | nil => trivial
  | cons t ts =>
    cases t with
    | operator p =>
      intro q first
      have less : level p ≤ level o := ends o rfl
      have more := above q first
      omega
    | closing | comma => trivial
    | number | name | opening | stray => cases ends

theorem expect_enclosed (alone : Alone level e) (needed : Bool)
    (bare : needed = false → Yields level e.operator? waiting ∧ Ends level e.operator? rest) :
    expect level waiting (enclosed needed e.printed ++ rest) =
      resume level waiting e.reread rest := by
  cases needed with
  | false => exact alone waiting rest (bare rfl).1 (bare rfl).2
  | true =>
    have inner := alone (.group :: waiting) (.closing :: rest) trivial trivial
    simp only [enclosed, ↓reduceIte, List.cons_append, List.append_assoc, List.nil_append]
    rw [expect, inner]
    rfl

/-- Behind an operator that binds less tightly an expression is read as one operand. -/
theorem expect_tighter (alone : Alone level e) (tighter : ∀ q ∈ e.operator?, level o < level q)
    (ends : Ends level (some o) rest) :
    expect level (.operand o l :: waiting) (e.printed ++ rest) =
      resume level waiting (operation o l e.reread) rest := by
  have above : ∀ q ∈ e.operator?, level o ≤ level q := fun q head => Nat.le_of_lt (tighter q head)
  rw [alone (.operand o l :: waiting) rest tighter (ends_mono ends above)]
  exact resume_operand ends

theorem resume_operator (yields : Yields level (some o) waiting) (e : Expr) (ts : List Token) :
    resume level waiting e (.operator o :: ts) = expect level (.operand o e :: waiting) ts := by
  simp only [resume, takeUp_yields yields]

theorem expect_left (c : Conventional level) (alone : Alone level a)
    (yields : Yields level (some o) waiting) (ts : List Token) :
    expect level waiting (enclosed (a.rank < printing o) a.printed ++ .operator o :: ts) =
      expect level (.operand o a.reread :: waiting) ts := by
  rw [expect_enclosed alone, resume_operator yields]
  intro bare
  have above := level_of_rank c (Nat.not_lt.mp (of_decide_eq_false bare))
  exact ⟨yields_mono yields above, above⟩

theorem expect_right (c : Conventional level) (alone : Alone level b) (grafted : Grafted level b)
    (leads : o = .times → Leads level b) (yields : Yields level (some o) waiting)
    (ends : Ends level (some o) rest) :
    expect level (.operand o l :: waiting) (enclosed (b.rank < rightRank o) b.printed ++ rest) =
      resume level waiting (graft o l b.reread) rest := by
  by_cases below : b.rank < rightRank o
  · have apart : Regroups o → b.reread.rank ≠ printing o := by
      rw [rank_reread]
      rintro (rfl | rfl) <;> simp only [rightRank, printing] at below ⊢ <;> omega
    rw [expect_enclosed alone, resume_operand ends, graft_apart apart]
    simp [below]
  · simp only [below, decide_false, enclosed, Bool.false_eq_true, ↓reduceIte]
    by_cases regroups : Regroups o
    · have above : printing o ≤ b.rank := by
        rcases regroups with rfl | rfl <;> simp only [rightRank, printing] at below ⊢ <;> omega
      exact grafted o l waiting rest regroups (level_of_rank c above) leads yields ends
    · rw [expect_tighter alone (level_lt_of_rank c regroups (Nat.not_lt.mp below)) ends]
      rw [graft_apart fun regrouped => absurd regrouped regroups]

theorem grafted_atom (atom : e.operator? = none) (alone : Alone level e) : Grafted level e := by
  intro o l waiting rest _ _ _ _ ends
  have whole : e.reread.rank ≠ printing o := by
    rw [rank_reread, (operator?_eq_none e).mp atom]
    cases o <;> decide
  rw [expect_tighter alone (by simp [atom]) ends, graft_apart fun _ => whole]

theorem alone_operation (c : Conventional level) (ha : Alone level a) (hb : Alone level b)
    (grafted : Grafted level b) (leads : o = .times → Leads level b) :
    Alone level (operation o a b) := by
  intro waiting rest yields ends
  rw [operator?_operation] at yields ends
  rw [printed_operation, reread_operation, between, List.append_assoc, List.cons_append,
    expect_left c ha yields, expect_right c hb grafted leads yields ends]

theorem level_same (c : Conventional level) (regroups : Regroups p)
    (same : printing p = printing o) : level p = level o ∧ rightRank p = printing o := by
  rcases regroups_same regroups same with rfl | ⟨rfl, rfl⟩
  · rcases regroups with rfl | rfl <;> exact ⟨rfl, rfl⟩
  · exact ⟨c.sums.symm, rfl⟩

theorem level_lt_of_ne (c : Conventional level) (regroups : Regroups p)
    (above : level p ≤ level o) (leads : p = .times → Leads level (operation o a b))
    (differ : printing p ≠ printing o) : level p < level o := by
  obtain ⟨sums, products, quotients⟩ := c
  rcases regroups with rfl | rfl
  · cases o <;> simp only [printing, ne_eq, not_true] at differ <;> omega
  · cases o with
    | plus | minus => omega
    | times => exact absurd rfl differ
    | divide =>
      rcases leads rfl with less | free
      · exact less
      · exact absurd rfl (free _ List.mem_cons_self)

theorem grafted_operation (c : Conventional level) (ha : Alone level a) (hb : Alone level b)
    (ga : Grafted level a) (gb : Grafted level b) (leads : o = .times → Leads level b) :
    Grafted level (operation o a b) := by
  intro p l waiting rest regroups above within yields ends
  rw [operator?_operation] at above
  have atMost : level p ≤ level o := above o rfl
  by_cases same : printing p = printing o
  · obtain ⟨level_eq, rank_eq⟩ := level_same c regroups same
    have up : ∀ q ∈ some o, level p ≤ level q := by simp [atMost]
    have yieldsNext : Yields level (some o) waiting := yields_mono yields up
    have endsLeft : ∀ ts, Ends level (some p) (.operator o :: ts) := by
      intro ts q first
      rw [← Option.some.inj first, level_eq]
    have leadsLeft : p = .times → Leads level a := by
      rintro rfl
      obtain rfl : Operator.times = o := by simpa using regroups_same regroups same
      exact (leads_mul.mp (within rfl)).1
    rw [printed_operation, reread_operation, between, List.append_assoc, List.cons_append,
      ← rank_eq, expect_right c ha ga leadsLeft yields (endsLeft _), resume_operator yieldsNext,
      expect_right c hb gb leads yieldsNext (ends_mono ends up), graft_graft regroups same]
  · have tighter := level_lt_of_ne c regroups atMost within same
    have apart : (operation o a b).reread.rank ≠ printing p := by
      rw [rank_reread, rank_operation]
      exact Ne.symm same
    rw [expect_tighter (alone_operation c ha hb gb leads) _ ends, graft_apart fun _ => apart]
    simpa [operator?_operation] using tighter

theorem alone_call {name : String} {f : Expr → Expr → Expr} (known : function? name = some f)
    (text : e.printed =
      .name name :: .opening :: (a.printed ++ .comma :: (b.printed ++ [.closing])))
    (meaning : e.reread = f a.reread b.reread) (ha : Alone level a) (hb : Alone level b) :
    Alone level e := by
  intro waiting rest _ _
  have first := ha (.first f :: waiting) (.comma :: (b.printed ++ .closing :: rest)) trivial trivial
  have second := hb (.second f a.reread :: waiting) (.closing :: rest) trivial trivial
  rw [text, meaning]
  simp only [List.cons_append, List.append_assoc, List.nil_append]
  rw [expect, known, Option.bind_some, first]
  simp only [resume, takeUp, second]

theorem alone_value (level : Operator → Nat) (v : Int) : Alone level (.value v) := by
  intro waiting rest _ _
  by_cases negative : v < 0
  · simp only [printed, reread, negative, ↓reduceIte, List.cons_append, List.nil_append, expect]
    exact resume_negation
  · simp only [printed, reread, negative, ↓reduceIte, List.cons_append, List.nil_append, expect]

theorem alone_var (level : Operator → Nat) (s : Symbol) : Alone level (.var s) := by
  intro waiting rest _ ends
  cases rest with
  | nil => rfl
  | cons t ts =>
    cases t with
    | opening => cases ends
    | number | name | operator | closing | comma | stray => rfl

theorem alone_neg (alone : Alone level a) : Alone level (.neg a) := by
  intro waiting rest _ ends
  have inner : expect level (.negation :: waiting) (enclosed (a.rank < 4) a.printed ++ rest) =
      resume level (.negation :: waiting) a.reread rest := by
    apply expect_enclosed alone
    intro bare
    have low : a.rank ≤ 4 := by cases a <;> simp [Expr.rank]
    have atom : a.operator? = none := by
      have high := of_decide_eq_false bare
      rw [operator?_eq_none]
      omega
    rw [atom]
    exact ⟨rfl, ends⟩
  rw [printed, List.cons_append, expect, inner]
  exact resume_negation

def Reads (level : Operator → Nat) (e : Expr) : Prop := Alone level e ∧ Grafted level e

theorem reads_operation (c : Conventional level) (ha : Reads level a) (hb : Reads level b)
    (leads : o = .times → Leads level b) : Reads level (operation o a b) :=
  ⟨alone_operation c ha.1 hb.1 hb.2 leads, grafted_operation c ha.1 hb.1 ha.2 hb.2 leads⟩

theorem parts_operand (inside : a ∈ e.operands) : a.parts ⊆ e.parts := by
  cases e with
  | value | var => cases inside
  | neg b =>
    obtain rfl := List.mem_singleton.mp inside
    exact List.subset_cons_self _ _
  | add b d | sub b d | mul b d | div b d | divCeil b d | broadcast b d =>
    intro s member
    rw [operands, List.mem_pair] at inside
    rcases inside with rfl | rfl <;> simp [parts, member]

def LeadsThroughout (level : Operator → Nat) (e : Expr) : Prop :=
  ∀ a b, .mul a b ∈ e.parts → Leads level b

theorem LeadsThroughout.operand (leads : LeadsThroughout level e) (inside : a ∈ e.operands) :
    LeadsThroughout level a :=
  fun x y member => leads x y (parts_operand inside member)

theorem LeadsThroughout.operands (leads : LeadsThroughout level e) (pair : e.operands = [a, b]) :
    LeadsThroughout level a ∧ LeadsThroughout level b :=
  ⟨leads.operand (by simp [pair]), leads.operand (by simp [pair])⟩

theorem reads (c : Conventional level) (leads : LeadsThroughout level e) : Reads level e := by
  induction e with
  | value v => exact ⟨alone_value level v, grafted_atom rfl (alone_value level v)⟩
  | var s => exact ⟨alone_var level s, grafted_atom rfl (alone_var level s)⟩
  | neg a ih =>
    have alone := alone_neg (ih (leads.operand List.mem_cons_self)).1
    exact ⟨alone, grafted_atom rfl alone⟩
  | add a b iha ihb =>
    obtain ⟨left, right⟩ := leads.operands rfl
    exact reads_operation (o := .plus) c (iha left) (ihb right) nofun
  | sub a b iha ihb =>
    obtain ⟨left, right⟩ := leads.operands rfl
    exact reads_operation (o := .minus) c (iha left) (ihb right) nofun
  | mul a b iha ihb =>
    obtain ⟨left, right⟩ := leads.operands rfl
    exact reads_operation (o := .times) c (iha left) (ihb right) fun _ =>
      leads a b List.mem_cons_self
  | div a b iha ihb =>
    obtain ⟨left, right⟩ := leads.operands rfl
    exact reads_operation (o := .divide) c (iha left) (ihb right) nofun
  | divCeil a b iha ihb =>
    obtain ⟨left, right⟩ := leads.operands rfl
    have alone : Alone level (.divCeil a b) :=
      alone_call (f := .divCeil) rfl rfl rfl (iha left).1 (ihb right).1
    exact ⟨alone, grafted_atom rfl alone⟩
  | broadcast a b iha ihb =>
    obtain ⟨left, right⟩ := leads.operands rfl
    have alone : Alone level (.broadcast a b) :=
      alone_call (f := .broadcast) rfl rfl rfl (iha left).1 (ihb right).1
    exact ⟨alone, grafted_atom rfl alone⟩

end ShapeFlow.Expr
