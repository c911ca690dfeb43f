import Mathlib.Data.List.Basic
import ShapeFlow.Expr.Basic
/-!
Fresh symbols are fresh everywhere. A number has no underscore, so the last underscore of a name
divides it into the stem and the number, and no two numbers are written alike. A supply counts up from
one symbol to the next and comes round only after every number of a 32-bit word.
-/
namespace ShapeFlow.SymbolSupply
variable {p q : String} {a b : UInt32} {k m n : Nat} {s : SymbolSupply}

theorem underscore_not_digit (n : Nat) : '_' ∉ Nat.toDigits 10 n := by
  intro member
  have digit : Char.isDigit '_' := Nat.isDigit_of_mem_toDigits (by decide) (by decide) member
  cases digit

theorem toDigits_inj (same : Nat.toDigits 10 m = Nat.toDigits 10 n) : m = n := by
  have value := congrArg (fun digits => Nat.ofDigitChars 10 digits 0) same
  simpa only [Nat.ofDigitChars_ten_toDigits] using value

/-- The last place of a character divides a text. -/
theorem divide_last {c : Char} {x y z w : List Char} (left : c ∉ z) (right : c ∉ w)
    (same : x ++ c :: z = y ++ c :: w) : x = y ∧ z = w := by
  -- Were one front longer than the other, the character would stand behind it once more.
  rcases List.append_eq_append_iff.mp same with ⟨more, rfl, rest⟩ | ⟨more, rfl, rest⟩
  · cases more with
    | nil => exact ⟨(List.append_nil x).symm, (List.cons.inj rest).2⟩
    | cons d more =>
      rw [(List.cons.inj rest).2] at left
      exact absurd (List.mem_append_right more List.mem_cons_self) left
  · cases more with
    | nil => exact ⟨List.append_nil y, (List.cons.inj rest).2.symm⟩
    | cons d more =>
      rw [(List.cons.inj rest).2] at right
      exact absurd (List.mem_append_right more List.mem_cons_self) right

theorem nameOf_toList (stem : String) (n : UInt32) :
    (nameOf stem n).toList = stem.toList ++ '_' :: Nat.toDigits 10 n.toNat := by
  simp [nameOf]

theorem nameOf_inj : nameOf p a = nameOf q b ↔ p = q ∧ a = b := by
  constructor
  · intro same
    have chars := congrArg String.toList same
    rw [nameOf_toList, nameOf_toList] at chars
    obtain ⟨stems, numbers⟩ :=
      divide_last (underscore_not_digit _) (underscore_not_digit _) chars
    exact ⟨String.toList_inj.mp stems, UInt32.toNat_inj.mp (toDigits_inj numbers)⟩
  · rintro ⟨rfl, rfl⟩
    rfl

/-- Symbols are told apart by their names. -/
theorem alike_size : (Expr.size p).Alike (.size q) ↔ p = q := by
  simp [Expr.Alike, Expr.size, Expr.bare]

def symbolAfter (stem : String) (m : Nat) : Expr := (take m ⟨stem, 0⟩).2.fresh.1

theorem take_state (n : Nat) (s : SymbolSupply) :
    (take n s).2 = ⟨s.stem, s.issued + UInt32.ofNat n⟩ := by
  induction n generalizing s with
  | zero => simp [take]
  | succ n ih =>
    change (take n s.fresh.2).2 = _
    rw [ih, fresh, UInt32.add_assoc, ← UInt32.ofNat_one, ← UInt32.ofNat_add, Nat.add_comm]

theorem symbolAfter_eq (stem : String) (m : Nat) :
    symbolAfter stem m = .size (nameOf stem (UInt32.ofNat (m + 1))) := by
  rw [symbolAfter, take_state, fresh, UInt32.zero_add, UInt32.ofNat_add]
  rfl

theorem take_succ (n : Nat) (s : SymbolSupply) :
    (take (n + 1) s).1 = (take n s).1 ++ [(take n s).2.fresh.1] := by
  induction n generalizing s with
  | zero => rfl
  | succ n ih =>
    change s.fresh.1 :: (take (n + 1) s.fresh.2).1 = _
    rw [ih]
    rfl

/-- What a new supply issues, one symbol after the other. -/
theorem take_eq (stem : String) (k : Nat) :
    (take k ⟨stem, 0⟩).1 = (List.range k).map (symbolAfter stem) := by
  induction k with
  | zero => rfl
  | succ k ih =>
    rw [take_succ, ih, List.range_succ, List.map_append]
    rfl

/-- The numbers of a 32-bit word. -/
theorem number_inj (first : m < UInt32.size) (second : n < UInt32.size)
    (same : UInt32.ofNat (m + 1) = UInt32.ofNat (n + 1)) : m = n := by
  have numbers := congrArg UInt32.toNat same
  unfold UInt32.size at first second
  rw [UInt32.toNat_ofNat', UInt32.toNat_ofNat'] at numbers
  omega

theorem symbolAfter_alike (first : m < UInt32.size) (second : n < UInt32.size) :
    (symbolAfter p m).Alike (symbolAfter q n) ↔ p = q ∧ m = n := by
  rw [symbolAfter_eq, symbolAfter_eq, alike_size, nameOf_inj]
  constructor
  · rintro ⟨rfl, same⟩
    exact ⟨rfl, number_inj first second same⟩
  · rintro ⟨rfl, rfl⟩
    exact ⟨rfl, rfl⟩

theorem symbolAfter_stem (like : (symbolAfter p m).Alike (symbolAfter q n)) : p = q := by
  rw [symbolAfter_eq, symbolAfter_eq, alike_size, nameOf_inj] at like
  exact like.1

/-- Two symbols of two supplies, whatever their stems, are the same symbol only if the stems are the
same and so are their places. So a supply does not repeat itself and supplies of different stems never
meet. -/
theorem symbols_never_collide (p q : String) :
    (∀ m n, m < UInt32.size → n < UInt32.size →
        ((symbolAfter p m).Alike (symbolAfter q n) ↔ p = q ∧ m = n)) ∧
      (∀ k ≤ UInt32.size, (take k ⟨p, 0⟩).1.Pairwise fun a b => ¬ a.Alike b) ∧
      (p ≠ q → ∀ k l, ∀ a ∈ (take k ⟨p, 0⟩).1, ∀ b ∈ (take l ⟨q, 0⟩).1, ¬ a.Alike b) := by
  refine ⟨fun m n => symbolAfter_alike, ?repeats, ?meets⟩
  case repeats =>
    intro k bound
    rw [take_eq, List.pairwise_map]
    refine List.pairwise_lt_range.imp_of_mem ?_
    intro m n first second lt like
    rw [List.mem_range] at first second
    have same := (symbolAfter_alike (by omega) (by omega)).mp like
    exact Nat.ne_of_lt lt same.2
  case meets =>
    intro differ k l a inside b other like
    rw [take_eq, List.mem_map] at inside other
    obtain ⟨m, -, rfl⟩ := inside
    obtain ⟨n, -, rfl⟩ := other
    exact differ (symbolAfter_stem like)

/-- A stem may end like a number. -/
theorem symbols_never_collide_on_numbered_stem :
    let p := "dim_1"
    let q := "dim"
    p ≠ q ∧ ¬ (symbolAfter p 0).Alike (symbolAfter q 10) ∧
      (symbolAfter p 0).Alike (.free "dim_1_1") ∧ (symbolAfter q 10).Alike (.free "dim_11") ∧
      ((take 12 ⟨q, 0⟩).1.Pairwise fun a b => ¬ a.Alike b) ∧
      ∀ a ∈ (take 1 ⟨p, 0⟩).1, ∀ b ∈ (take 12 ⟨q, 0⟩).1, ¬ a.Alike b := by
  intro p q
  have differ : p ≠ q := by decide
  obtain ⟨places, -, meets⟩ := symbols_never_collide p q
  obtain ⟨-, repeats, -⟩ := symbols_never_collide q p
  refine ⟨differ, ?_, by decide +kernel, by decide +kernel, repeats 12 (by decide), meets differ 1 12⟩
  intro like
  exact differ ((places 0 10 (by decide) (by decide)).mp like).1

end ShapeFlow.SymbolSupply
