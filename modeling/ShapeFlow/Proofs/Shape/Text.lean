import ShapeFlow.Proofs.Expr.Text
import ShapeFlow.Shape
/-!
The text of a shape. Its dimensions can be read off one after the other, so shapes of one text have
equally many, and in order these have the same values and errors.
-/
namespace ShapeFlow.Shape
open ShapeFlow.Expr (expect free printing reread size)
open ShapeFlow.Text (Token tokens)
variable {d e : Expr} {ds es : List Expr} {s t : Shape}

def row : List Expr → List Token
  | [] => [.closing]
  | [e] => e.printed ++ [.closing]
  | e :: es => e.printed ++ .comma :: row es

def tuple : List Expr → List Token
  | [e] => .opening :: (e.printed ++ .comma :: row [])
  | es => .opening :: row es

/-- A dimension of a text is read up to where it ends. -/
theorem expect_dim (e : Expr) (ts : List Token) (delimited : Expr.Ends printing e.operator? ts) :
    expect printing [] (e.printed ++ ts) = Expr.resume printing [] e.reread ts :=
  (Expr.reads Expr.conventional_printing fun _ _ _ => .inl (by decide)).1 [] ts trivial delimited

theorem expect_row (e : Expr) (es : List Expr) : expect printing [] (row (e :: es)) =
    some (e.reread, if es = [] then [.closing] else .comma :: row es) := by
  cases es with
  | nil => exact expect_dim e [.closing] trivial
  | cons d ds => exact expect_dim e (.comma :: row (d :: ds)) trivial

theorem row_inj (same : row ds = row es) : ds.map reread = es.map reread := by
  induction ds generalizing es with
  | nil =>
    cases es with
    | nil => rfl
    | cons e es =>
      have read := congrArg (expect printing []) same
      rw [expect_row] at read
      cases read
  | cons d ds ih =>
    have read := congrArg (expect printing []) same
    rw [expect_row] at read
    cases es with
    | nil => cases read
    | cons e es =>
      rw [expect_row] at read
      obtain ⟨first, rest⟩ := Prod.mk.inj (Option.some.inj read)
      have others : row ds = row es := by
        by_cases last : ds = [] <;> by_cases last' : es = [] <;> simp_all [row]
      rw [List.map_cons, List.map_cons, first, ih others]

theorem tuple_single (same : tuple [d] = tuple es) : [d].map reread = es.map reread := by
  have read := congrArg (fun ts => expect printing [] ts.tail) same
  simp only [tuple, List.tail_cons, expect_dim d (.comma :: row []) trivial] at read
  match es with
  | [] => cases read
  | [e] =>
    simp only [List.tail_cons, expect_dim e (.comma :: row []) trivial] at read
    exact congrArg (fun e => [e]) (Prod.mk.inj (Option.some.inj read)).1
  | e :: f :: fs =>
    simp only [List.tail_cons, expect_row] at read
    have rest := (Prod.mk.inj (Option.some.inj read)).2
    have none := row_inj (List.cons.inj rest).2
    cases none

theorem tuple_inj (same : tuple ds = tuple es) : ds.map reread = es.map reread := by
  match ds, es with
  | [d], es => exact tuple_single same
  | ds, [e] => exact (tuple_single same.symm).symm
  | [], [] => rfl
  | [], e :: f :: fs => exact row_inj (List.cons.inj same).2
  | d :: f :: fs, [] => exact row_inj (List.cons.inj same).2
  | d :: d' :: ds, e :: e' :: es => exact row_inj (List.cons.inj same).2

theorem tokens_row (named : ∀ e ∈ es, e.Named) :
    tokens (", ".intercalate (es.map (·.render)) ++ ")").toList = row es := by
  fun_induction row es with
  | case1 => rfl
  | case2 e =>
    have letters : (", ".intercalate ([e].map (·.render)) ++ ")").toList =
        e.render.toList ++ [')'] := by simp
    rw [letters, Text.tokens_append_mark rfl, Expr.tokens_render (named e List.mem_cons_self)]
    rfl
  | case3 e es nonempty ih =>
    obtain ⟨first, others⟩ := List.forall_mem_cons.mp named
    have letters : (", ".intercalate ((e :: es).map (·.render)) ++ ")").toList =
        e.render.toList ++
          ',' :: ' ' :: (", ".intercalate (es.map (·.render)) ++ ")").toList := by
      rw [List.map_cons, String.intercalate_cons_of_ne_nil (by simpa using nonempty)]
      simp
    rw [letters, Text.tokens_append_mark rfl, Text.tokens_cons_mark rfl, Text.tokens_cons_mark rfl,
      Expr.tokens_render first, ih others]
    rfl

theorem tuple_several (several : es.length ≠ 1) : tuple es = .opening :: row es := by
  match es with
  | [] | _ :: _ :: _ => rfl
  | [_] => exact absurd rfl several

theorem tokens_render (named : ∀ e ∈ s.dims, e.Named) : tokens s.render.toList = tuple s.dims := by
  obtain ⟨dims⟩ := s
  by_cases single : dims.length = 1
  · obtain ⟨e, rfl⟩ := List.length_eq_one_iff.mp single
    have letters : (render ⟨[e]⟩).toList = '(' :: (e.render.toList ++ [',', ')']) := by
      simp [render, ndim]
    rw [letters, Text.tokens_cons_mark rfl, Text.tokens_append_mark rfl,
      Expr.tokens_render (named e List.mem_cons_self)]
    rfl
  · have letters : (render ⟨dims⟩).toList =
        '(' :: (", ".intercalate (dims.map (·.render)) ++ ")").toList := by
      simp [render, ndim, single]
    rw [letters, Text.tokens_cons_mark rfl, tokens_row named, tuple_several single]
    rfl

/-- Shapes of one text have equally many dimensions, and in order these have the same values and the
same errors. -/
theorem text_determines_meaning (s t : Shape) (named : ∀ e ∈ s.dims ++ t.dims, e.Named)
    (same : s.render = t.render) :
    s.ndim = t.ndim ∧ ∀ (i : Nat) (σ : Expr.Binding),
      (s.dim? i).map (·.eval σ) = (t.dim? i).map (·.eval σ) := by
  obtain ⟨left, right⟩ := List.forall_mem_append.mp named
  have text : tuple s.dims = tuple t.dims := by
    rw [← tokens_render left, same, tokens_render right]
  have read := tuple_inj text
  constructor
  · simpa [ndim] using congrArg List.length read
  · intro i σ
    have dim : (s.dim? i).map reread = (t.dim? i).map reread := by
      simpa [dim?] using congrArg (·[i]?) read
    have values := congrArg (Option.map (·.eval σ)) dim
    simpa only [Option.map_map, Function.comp_def, Expr.eval_reread] using values

theorem text_determines_meaning_of_regrouped_sum :
    let s : Shape := ⟨[.add (size "h") (.sub (size "w") (.value 1)), .value (-3)]⟩
    let t : Shape := ⟨[.sub (.add (free "h") (free "w")) (.value 1), .neg (.value 3)]⟩
    s ≠ t ∧ s.render = "(h + w - 1, -3)" ∧ (∀ e ∈ s.dims ++ t.dims, e.Named) ∧
      s.render = t.render ∧ s.ndim = t.ndim ∧ ∀ (i : Nat) (σ : Expr.Binding),
        (s.dim? i).map (·.eval σ) = (t.dim? i).map (·.eval σ) := by
  intro s t
  have named : ∀ e ∈ s.dims ++ t.dims, e.Named := by decide +kernel
  have same : s.render = t.render := by decide +kernel
  exact ⟨by decide, by decide +kernel, named, same, text_determines_meaning s t named same⟩

end ShapeFlow.Shape
