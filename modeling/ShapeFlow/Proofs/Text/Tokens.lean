import Mathlib.Data.List.SplitBy
import ShapeFlow.Decimal
/-!
The tokens of an infix text. Letters, digits and underscores that stand together make up one word;
every other character stands for itself, and blanks only keep words apart.
-/
namespace ShapeFlow.Text
variable {l m w : List Char} {c : Char}

inductive Operator where
  | plus
  | minus
  | times
  | divide
  deriving DecidableEq

inductive Token where
  | number (n : Nat)
  | name (s : String)
  | operator (o : Operator)
  | opening
  | closing
  | comma
  | stray
  deriving DecidableEq

/-- Every character beyond ASCII counts as a letter. -/
def isWordChar (c : Char) : Bool := c.isAlphanum || c == '_' || decide (128 ≤ c.toNat)

/-- A word of letters, digits and underscores that does not start with a digit. -/
def IsIdentifier (name : String) : Prop :=
  (∀ c ∈ name.toList, isWordChar c) ∧ ∃ c ∈ name.toList.head?, ¬c.isDigit

instance (name : String) : Decidable (IsIdentifier name) :=
  decidable_of_iff (name.toList.all isWordChar ∧ name.toList.head?.any fun c => !c.isDigit) <| by
    rw [IsIdentifier, List.all_eq_true, Option.any_eq_true]
    simp

namespace Token

def ofWord (w : List Char) : Token :=
  if w.all Char.isDigit then .number (Decimal.digitsValue w)
  else if w.head?.any Char.isDigit then .stray
  else .name (String.ofList w)

def ofMark (c : Char) : Option Token :=
  if c = ' ' then none
  else if c = '+' then some (.operator .plus)
  else if c = '-' then some (.operator .minus)
  else if c = '*' then some (.operator .times)
  else if c = '/' then some (.operator .divide)
  else if c = '(' then some .opening
  else if c = ')' then some .closing
  else if c = ',' then some .comma
  else some .stray

def ofRun : List Char → Option Token
  | [] => none
  | c :: rest => if isWordChar c then some (ofWord (c :: rest)) else ofMark c

end Token

def together (a b : Char) : Bool := isWordChar a && isWordChar b

def tokens (cs : List Char) : List Token := (cs.splitBy together).filterMap Token.ofRun

theorem tokens_append (apart : ∀ a ∈ l.getLast?, ∀ b ∈ m.head?, together a b = false) :
    tokens (l ++ m) = tokens l ++ tokens m := by
  rw [tokens, List.splitBy_append apart, List.filterMap_append]
  rfl

theorem tokens_append_mark (mark : isWordChar c = false) :
    tokens (l ++ c :: m) = tokens l ++ tokens (c :: m) := by
  apply tokens_append
  simp [together, mark]

/-- Characters of which each belongs together with the next make up one run. -/
theorem tokens_run (nonempty : l ≠ []) (run : l.IsChain fun a b => together a b = true) :
    tokens l = (Token.ofRun l).toList := by
  rw [tokens, List.splitBy_of_isChain nonempty run]
  cases found : Token.ofRun l <;> simp [found]

theorem tokens_cons_mark (mark : isWordChar c = false) :
    tokens (c :: m) = (Token.ofMark c).toList ++ tokens m := by
  have single : tokens [c] = (Token.ofMark c).toList := by
    rw [tokens_run (List.cons_ne_nil c []) (List.isChain_singleton c), Token.ofRun, mark]
    rfl
  rw [← single, ← tokens_append]
  · rfl
  · simp [together, mark]

theorem tokens_word (nonempty : w ≠ []) (word : ∀ c ∈ w, isWordChar c) :
    tokens w = [Token.ofWord w] := by
  have run : w.IsChain fun a b => together a b = true := by
    apply List.Pairwise.isChain
    rw [List.pairwise_iff_forall_sublist]
    intro a b pair
    have left : isWordChar a := word a (pair.subset (by simp))
    have right : isWordChar b := word b (pair.subset (by simp))
    simp [together, left, right]
  rw [tokens_run nonempty run]
  cases w with
  | nil => exact absurd rfl nonempty
  | cons c rest => simp [Token.ofRun, word c List.mem_cons_self]

theorem tokens_identifier {name : String} (identifier : IsIdentifier name) :
    tokens name.toList = [.name name] := by
  obtain ⟨word, c, first, letter⟩ := identifier
  have inside : c ∈ name.toList := List.mem_of_mem_head? first
  have digits : name.toList.all Char.isDigit = false := by
    rw [List.all_eq_false]
    exact ⟨c, inside, letter⟩
  have leading : name.toList.head?.any Char.isDigit = false := by
    rw [Option.mem_def.mp first]
    simpa using letter
  rw [tokens_word (List.ne_nil_of_mem inside) word, Token.ofWord, digits, leading,
    String.ofList_toList]
  rfl

theorem tokens_digits (n : Nat) : tokens (Nat.toDigits 10 n) = [.number n] := by
  have digits : ∀ c ∈ Nat.toDigits 10 n, c.isDigit := fun c member =>
    Nat.isDigit_of_mem_toDigits (by decide) (by decide) member
  have word : ∀ c ∈ Nat.toDigits 10 n, isWordChar c := by
    intro c member
    simp [isWordChar, Char.isAlphanum, digits c member]
  have value : Decimal.digitsValue (Nat.toDigits 10 n) = n :=
    Nat.ofDigitChars_toDigits (by decide) (by decide)
  rw [tokens_word Nat.toDigits_ne_nil word, Token.ofWord, List.all_eq_true.mpr digits, value]
  rfl

end ShapeFlow.Text
