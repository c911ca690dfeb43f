import ShapeFlow.Proofs.Call.KnownSizes
/-!
What arguments stand for. A reader succeeds exactly on an argument that stands for what it reads and
meets its bounds, so a constructor can be known by what its arguments stand for.
-/
namespace ShapeFlow
variable {ε α β : Type} {f : α → Except ε β} {n : Nat}

theorem pair_cases (xs : Vector α 2) : ∃ x y, xs = #v[x, y] := by
  obtain ⟨⟨items⟩, size⟩ := xs
  match items, size with
  | [x, y], _ => exact ⟨x, y, rfl⟩

theorem mapM_pair_eq_ok {x y : α} {zs : Vector β 2} :
    #v[x, y].mapM f = .ok zs ↔ ∃ u v, f x = .ok u ∧ f y = .ok v ∧ zs = #v[u, v] := by
  obtain ⟨z, w, rfl⟩ := pair_cases zs
  rw [vector_mapM_eq_ok]
  constructor
  · intro lists
    obtain ⟨first, others⟩ := List.cons.inj lists
    exact ⟨z, w, first, (List.cons.inj others).1, rfl⟩
  · rintro ⟨u, v, first, second, same⟩
    cases same
    simp [first, second]

def Expr.IsSize (e : Expr) : Prop := ∀ v, e = .value v → 1 ≤ v

namespace Argument

def Proper : Argument → Prop
  | .dim e => ∀ v, e ≠ .value v
  | _ => True

theorem proper_of_leaves {a : Argument} (leaves : ∀ x ∈ a.leaves, x.Proper) : a.Proper := by
  cases a with
  | tuple items => trivial
  | dim => exact leaves _ List.mem_cons_self
  | none | bool | int | float | str | transform | layer | object => trivial

inductive Size : Argument → Expr → Prop
  | known (w : Int64) : Size (.int w) (.value w.toInt)
  | symbolic (e : Expr) : Size (.dim e) e

inductive Count : Argument → Nat → Prop
  | of (w : Int64) (n : Nat) : w.toInt = n → Count (.int w) n

inductive Pair : Argument → Extent → Prop
  | one {a : Argument} {n : Nat} : a.Count n → Pair a (.square n)
  | two {a b : Argument} {height width : Nat} : a.Count height → b.Count width →
      Pair (.tuple [a, b]) ⟨height, width⟩

inductive Padding : Argument → ConvPadding → Prop
  | valid : Padding (.str "valid") (.fixed (.square 0))
  | same : Padding (.str "same") .same
  | fixed {a : Argument} {amount : Extent} : a.Pair amount → Padding a (.fixed amount)

end Argument

namespace Place
variable {p : Place} {a : Argument} {v : Int}

theorem text_eq_ok {s : String} : p.text a = .ok s ↔ a = .str s := by
  cases a <;> simp [text]

theorem integer_count : p.integer a = .ok (n : Int) ↔ a.Count n := by
  rw [integer_eq_ok]
  constructor
  · rintro ⟨w, rfl, same⟩
    exact .of w n same
  · rintro ⟨w, _, same⟩
    exact ⟨w, rfl, same⟩

theorem integers_eq_ok {vs : Vector Int 2} : p.integers 2 a = .ok vs ↔
    (∃ v, p.integer a = .ok v ∧ vs = #v[v, v]) ∨
      ∃ b c, a = .tuple [b, c] ∧ ∃ v w, p.integer b = .ok v ∧ p.integer c = .ok w ∧
        vs = #v[v, w] := by
  cases a with
  | int w =>
    simp only [integers, integer, Except.ok.injEq, reduceCtorEq, false_and, exists_false, or_false,
      exists_eq_left']
    exact eq_comm
  | tuple items =>
    simp only [integers, integer, reduceCtorEq, false_and, exists_false, false_or,
      Argument.tuple.injEq]
    split
    · rename_i pair
      obtain ⟨b, c, rfl⟩ := List.length_eq_two.mp pair
      rw [mapM_pair_eq_ok]
      constructor
      · intro read
        exact ⟨b, c, rfl, read⟩
      · rintro ⟨b', c', same, read⟩
        cases same
        exact read
    · rename_i other
      constructor
      · intro refused
        cases refused
      · rintro ⟨b, c, rfl, -⟩
        exact absurd rfl other
  | none | bool | float | str | dim | transform | layer | object => simp [integers, integer]

/-- A reader of two counts that checks each of them. -/
theorem pair_eq_ok {check : Int → Reading Nat} {P : Nat → Prop} {e : Extent}
    (checks : ∀ v n, check v = .ok n ↔ P n ∧ v = n) :
    (p.integers 2 a >>= fun vs => vs.mapM check >>= fun ns => pure (toExtent ns)) = .ok e ↔
      a.Pair e ∧ P e.height ∧ P e.width := by
  simp only [bind_eq_ok, pure_eq_ok, integers_eq_ok]
  constructor
  · rintro ⟨vs, given, ns, checked, rfl⟩
    rcases given with ⟨v, read, rfl⟩ | ⟨b, c, rfl, v, w, first, second, rfl⟩
    · obtain ⟨m, n, hm, hn, rfl⟩ := mapM_pair_eq_ok.mp checked
      obtain rfl := Except.ok.inj (hm.symm.trans hn)
      obtain ⟨bounded, rfl⟩ := (checks v m).mp hm
      exact ⟨.one (integer_count.mp read), bounded, bounded⟩
    · obtain ⟨m, n, hm, hn, rfl⟩ := mapM_pair_eq_ok.mp checked
      obtain ⟨height, rfl⟩ := (checks v m).mp hm
      obtain ⟨width, rfl⟩ := (checks w n).mp hn
      exact ⟨.two (integer_count.mp first) (integer_count.mp second), height, width⟩
  · rintro ⟨pair, height, width⟩
    cases pair with
    | @one _ n count =>
      have checked := (checks n n).mpr ⟨height, rfl⟩
      exact ⟨_, .inl ⟨n, integer_count.mpr count, rfl⟩, _,
        mapM_pair_eq_ok.mpr ⟨n, n, checked, checked, rfl⟩, rfl⟩
    | @two b c m n first second =>
      have hm := (checks m m).mpr ⟨height, rfl⟩
      have hn := (checks n n).mpr ⟨width, rfl⟩
      exact ⟨_, .inr ⟨b, c, rfl, m, n, integer_count.mpr first, integer_count.mpr second, rfl⟩, _,
        mapM_pair_eq_ok.mpr ⟨m, n, hm, hn, rfl⟩, rfl⟩

theorem extent_eq_ok {e : Extent} : p.extent a = .ok e ↔ a.Pair e ∧ e.Positive :=
  pair_eq_ok fun _ _ => positive_eq_ok

theorem amounts_eq_ok {e : Extent} : p.amounts a = .ok e ↔ a.Pair e := by
  have unbounded (v : Int) (n : Nat) : p.nonNegative v = .ok n ↔ True ∧ v = n := by
    rw [nonNegative_eq_ok, true_and]
  have pair := pair_eq_ok (p := p) (a := a) (e := e) unbounded
  rw [amounts, naturals, bind_assoc, pair]
  simp

theorem convPadding_eq_ok {padding : ConvPadding} :
    p.convPadding a = .ok padding ↔ a.Padding padding := by
  constructor
  · intro read
    unfold convPadding at read
    split at read
    · obtain rfl := Except.ok.inj read
      exact .valid
    · obtain rfl := Except.ok.inj read
      exact .same
    · cases read
    · simp only [bind_eq_ok, pure_eq_ok] at read
      obtain ⟨amount, pair, rfl⟩ := read
      exact .fixed (amounts_eq_ok.mp pair)
  · intro stands
    cases stands with
    | valid | same => rfl
    | fixed pair =>
      have counts : p.amounts a = .ok _ := amounts_eq_ok.mpr pair
      cases pair with
      | one count =>
        cases count
        simp only [convPadding, counts]
        rfl
      | two =>
        simp only [convPadding, counts]
        rfl

theorem groupCount_eq_ok : p.groupCount a = .ok n ↔ a.Count n ∧ 1 ≤ n := by
  rw [← integer_count (p := p)]
  simp only [groupCount, bind_eq_ok]
  constructor
  · rintro ⟨v, found, read⟩
    split at read
    · obtain rfl := Except.ok.inj read
      have whole : (v.toNat : Int) = v := by omega
      exact ⟨by rw [whole, found], by omega⟩
    · cases read
  · rintro ⟨found, positive⟩
    have above : (0 : Int) < n := by omega
    exact ⟨n, found, if_pos above⟩

/-- Only an integer is held to be positive. -/
theorem positiveSize_stands {e : Expr} :
    p.positiveSize a = .ok e ↔ a.Size e ∧ ∀ w, a = .int w → 1 ≤ w.toInt := by
  constructor
  · intro read
    unfold positiveSize at read
    split at read
    · rename_i w
      simp only [bind_eq_ok, pure_eq_ok] at read
      obtain ⟨n, hn, rfl⟩ := read
      obtain ⟨positive, same⟩ := positive_eq_ok.mp hn
      rw [Expr.ofNat, ← same, Expr.wrap_word]
      refine ⟨.known w, ?_⟩
      intro _ same
      cases same
      omega
    · obtain rfl := Except.ok.inj read
      refine ⟨.symbolic _, ?_⟩
      intro _ same
      cases same
    · cases read
  · rintro ⟨stands, positive⟩
    cases stands with
    | known w =>
      have positive : 1 ≤ w.toInt := positive w rfl
      obtain ⟨n, same⟩ := Int.eq_ofNat_of_zero_le (Int.le_trans Int.one_nonneg positive)
      have read : p.positive w.toInt = .ok n := positive_eq_ok.mpr ⟨by omega, same⟩
      have kept : Expr.ofNat n = .value w.toInt := by
        rw [Expr.ofNat, ← same, Expr.wrap_word]
      rw [positiveSize, read, ← kept]
      rfl
    | symbolic e => rfl

theorem positiveSize_eq_ok {e : Expr} (proper : a.Proper) :
    p.positiveSize a = .ok e ↔ a.Size e ∧ e.IsSize := by
  rw [positiveSize_stands, and_congr_right_iff]
  intro stands
  cases stands with
  | known w =>
    constructor
    · intro positive _ same
      cases same
      exact positive w rfl
    · intro size _ same
      cases same
      exact size _ rfl
  | symbolic e => exact ⟨fun _ v same => absurd same (proper v), nofun⟩

end Place

namespace BoundArgs
variable {b : BoundArgs} {name : String} {read : Place → Argument → Reading α} {v default : α}
  {stands : Argument → α → Prop} {P : α → Prop}

/-- The argument of a parameter stands for the value; without one it is the default. -/
def Gives (b : BoundArgs) (name : String) (stands : Argument → α → Prop) (default v : α) : Prop :=
  match b.value? name with
  | some a => stands a v
  | none => v = default

theorem mandatory_eq_ok
    (reads : ∀ a, b.value? name = some a → (read (b.place name) a = .ok v ↔ stands a v ∧ P v)) :
    b.mandatory name read = .ok v ↔ (∃ a, b.value? name = some a ∧ stands a v) ∧ P v := by
  constructor
  · intro answer
    obtain ⟨a, found, answer⟩ := mandatory_ok answer
    obtain ⟨meant, bounded⟩ := (reads a found).mp answer
    exact ⟨⟨a, found, meant⟩, bounded⟩
  · rintro ⟨⟨a, found, meant⟩, bounded⟩
    have answer := (reads a found).mpr ⟨meant, bounded⟩
    simp only [mandatory, required, found]
    exact answer

theorem orDefault_eq_ok (reads : ∀ a, read (b.place name) a = .ok v ↔ stands a v) :
    b.orDefault name read default = .ok v ↔ b.Gives name stands default v := by
  unfold orDefault optional Gives
  cases b.value? name with
  | none =>
    simp only [bind_eq_ok, pure_eq_ok, Except.ok.injEq]
    constructor
    · rintro ⟨_, rfl, rfl⟩
      rfl
    · rintro rfl
      exact ⟨none, rfl, rfl⟩
  | some a =>
    dsimp only
    rw [← reads a]
    simp only [bind_eq_ok, pure_eq_ok]
    constructor
    · rintro ⟨_, ⟨x, answer, rfl⟩, rfl⟩
      exact answer
    · intro answer
      exact ⟨some v, ⟨v, answer, rfl⟩, rfl⟩

/-- A bound that the default keeps is a bound on the value. -/
theorem gives_bounded (bounded : P default) :
    b.Gives name (fun a v => stands a v ∧ P v) default v ↔
      b.Gives name stands default v ∧ P v := by
  unfold Gives
  cases b.value? name with
  | none =>
    constructor
    · rintro rfl
      exact ⟨rfl, bounded⟩
    · exact And.left
  | some a => rfl

end BoundArgs
end ShapeFlow
