import Mathlib.Algebra.BigOperators.Group.List.Basic
import Mathlib.Algebra.Ring.Int.Defs
import ShapeFlow.Proofs.Expr.FixedPoint
import ShapeFlow.Proofs.Expr.SimplifySound
import ShapeFlow.Shape
/-!
The number of elements of a shape. Whether the dimensions are simplified first makes no difference:
their literals multiply up alike, and the other factors are collected in the same order.
-/
namespace ShapeFlow.Expr
variable {e f : Expr} {es fs gs hs ks : List Expr} {σ : Binding} {v : Int} {sizes : List Int}

def scale (fs : List Expr) : Int := (fs.filterMap value?).foldr (· * ·) 1

theorem scale_append (fs gs : List Expr) : scale (fs ++ gs) = scale fs * scale gs := by
  have product (hs : List Expr) : scale hs = (hs.filterMap value?).prod := rfl
  rw [product, List.filterMap_append, List.prod_append, ← product, ← product]

theorem productOf_eq (fs : List Expr) : productOf fs =
    if scale fs = 0 then .value 0
    else match fs.filter (·.value?.isNone) with
      | [] => .value (scale fs)
      | f :: rest =>
        if scale fs = 1 then rest.foldl .mul f else .mul (.value (scale fs)) (rest.foldl .mul f) :=
  rfl

/-- Factors that make up the same product, whose symbolic ones stand in the same order. Which these
are makes no difference beside a zero. -/
structure SameProduct (fs gs : List Expr) : Prop where
  scale : scale fs = scale gs
  symbolic : Expr.scale fs ≠ 0 → fs.filter (·.value?.isNone) = gs.filter (·.value?.isNone)

theorem sameProduct_refl (fs : List Expr) : SameProduct fs fs := ⟨rfl, fun _ => rfl⟩

theorem sameProduct_append (left : SameProduct fs gs) (right : SameProduct hs ks) :
    SameProduct (fs ++ hs) (gs ++ ks) := by
  constructor
  · rw [scale_append, scale_append, left.scale, right.scale]
  · intro nonzero
    rw [scale_append] at nonzero
    obtain ⟨first, second⟩ := Int.mul_ne_zero_iff.mp nonzero
    rw [List.filter_append, List.filter_append, left.symbolic first, right.symbolic second]

theorem productOf_congr (same : SameProduct fs gs) : productOf fs = productOf gs := by
  rw [productOf_eq, productOf_eq, ← same.scale]
  by_cases zero : scale fs = 0
  · rw [if_pos zero, if_pos zero]
  · rw [same.symbolic zero]

theorem factors_single (single : ∀ a b, e ≠ .mul a b) : e.factors = [e] := by
  cases e <;> first | rfl | exact absurd rfl (single _ _)

theorem factors_product (single : ∀ f ∈ fs, ∀ a b, f ≠ .mul a b) (e : Expr) :
    (fs.foldl .mul e).factors = e.factors ++ fs := by
  induction fs generalizing e with
  | nil => simp
  | cons f fs ih =>
    obtain ⟨first, others⟩ := List.forall_mem_cons.mp single
    rw [List.foldl_cons, ih others, factors, factors_single first, ← List.append_cons]

/-- A product without zero is written as its constant, which may be left out, and the factors that
are no literals. -/
theorem factors_productOf (tidy : ∀ f ∈ fs, TidyFactor f) (nonzero : scale fs ≠ 0) :
    ∃ cs, (productOf fs).factors = cs ++ fs.filter (·.value?.isNone) ∧ scale cs = scale fs ∧
      cs.filter (·.value?.isNone) = [] := by
  have constant : scale [.value (scale fs)] = scale fs := Int.mul_one _
  rw [productOf_eq, if_neg nonzero]
  cases left : fs.filter (·.value?.isNone) with
  | nil => exact ⟨[.value (scale fs)], rfl, constant, rfl⟩
  | cons f rest =>
    obtain ⟨first, single⟩ := forall_symbolic (fun g member _ => (tidy g member).single) left
    have chain : (rest.foldl .mul f).factors = f :: rest := by
      rw [factors_product single, factors_single first, List.singleton_append]
    dsimp only
    by_cases one : scale fs = 1
    · rw [if_pos one, chain]
      exact ⟨[], rfl, one.symm, rfl⟩
    · rw [if_neg one, factors, chain]
      exact ⟨[.value (scale fs)], rfl, constant, rfl⟩

/-- What is written of a product makes up the same product again. -/
theorem sameProduct_productOf (tidy : ∀ f ∈ fs, TidyFactor f) :
    SameProduct (productOf fs).factors fs := by
  by_cases zero : scale fs = 0
  · rw [productOf_eq, if_pos zero]
    exact ⟨zero.symm, fun nonzero => absurd rfl nonzero⟩
  · obtain ⟨cs, written, constant, literal⟩ := factors_productOf tidy zero
    have symbolic : scale (fs.filter (·.value?.isNone)) = 1 := by
      have unvalued : ∀ f ∈ fs.filter (·.value?.isNone), f.value? = none := fun f member =>
        Option.isNone_iff_eq_none.mp (List.mem_filter.mp member).2
      rw [scale, (symbolic_factors unvalued).2]
      rfl
    rw [written]
    constructor
    · rw [scale_append, constant, symbolic, Int.mul_one]
    · intro _
      rw [List.filter_append, literal, List.nil_append, List.filter_filter]
      simp

/-- An operand adds factors to a product that make up the same before and after it is simplified. -/
theorem sameProduct_simplify (e : Expr) :
    SameProduct e.simplify.reduce.factors e.reduce.factors := by
  by_cases product : ∃ a b, e = .mul a b
  · obtain ⟨a, b, rfl⟩ := product
    rw [(fixed_of_normal (normal_simplify _)).factors]
    exact sameProduct_productOf (reduce_tidy (.mul a b)).factors
  · rw [(collected_again e).2 fun a b same => product ⟨a, b, same⟩]
    exact sameProduct_refl _

theorem simplify_eq_productOf (e : Expr) : e.simplify = productOf e.reduce.factors := by
  have written := productOf_factors (normal_simplify e)
  cases e with
  | mul a b => rfl
  | value | var | neg | add | sub | div | divCeil | broadcast => exact written.symm

theorem factors_foldl (e : Expr) (es : List Expr) : (es.foldl .mul e).reduce.factors =
    e.reduce.factors ++ es.flatMap (·.reduce.factors) := by
  induction es generalizing e with
  | nil => simp
  | cons f fs ih =>
    have first : (mul e f).reduce.factors = e.reduce.factors ++ f.reduce.factors := rfl
    rw [List.foldl_cons, ih, first, List.flatMap_cons, List.append_assoc]

theorem sameProduct_each (es : List Expr) :
    SameProduct ((es.map (·.simplify)).flatMap (·.reduce.factors))
      (es.flatMap (·.reduce.factors)) := by
  induction es with
  | nil => exact sameProduct_refl []
  | cons e es ih => exact sameProduct_append (sameProduct_simplify e) ih

theorem eval_foldl (first : e.eval σ = .ok v) (rest : es.map (·.eval σ) = sizes.map .ok) :
    (es.foldl .mul e).eval σ = .ok (v * sizes.prod) := by
  induction es generalizing e v sizes with
  | nil =>
    obtain rfl : sizes = [] := by simpa using rest.symm
    simpa using first
  | cons f fs ih =>
    cases sizes with
    | nil => cases rest
    | cons x xs =>
      obtain ⟨next, others⟩ := List.cons.inj rest
      have product : (mul e f).eval σ = .ok (v * x) := eval_mul_ok.mpr ⟨v, first, x, next, rfl⟩
      rw [List.foldl_cons, ih product others, List.prod_cons, Int.mul_assoc]

end ShapeFlow.Expr

namespace ShapeFlow.Shape
open ShapeFlow.Expr (SameProduct size)

/-- The number of elements is the same expression whether the dimensions are simplified before or
not, and wherever all of them have values it has their product. -/
theorem element_count_exact (s : Shape) : s.simplify.numel = s.numel ∧
    ∀ (σ : Expr.Binding) (sizes : List Int),
      s.dims.map (·.eval σ) = sizes.map .ok → s.numel.eval σ = .ok sizes.prod := by
  constructor
  · have same : SameProduct s.simplify.product.reduce.factors s.product.reduce.factors := by
      rw [product, product, Expr.factors_foldl, Expr.factors_foldl]
      exact Expr.sameProduct_append (Expr.sameProduct_refl _) (Expr.sameProduct_each s.dims)
    rw [numel, numel, Expr.simplify_eq_productOf, Expr.simplify_eq_productOf]
    exact Expr.productOf_congr same
  · intro σ sizes values
    have total : s.product.eval σ = .ok (1 * sizes.prod) := Expr.eval_foldl rfl values
    rw [Int.one_mul] at total
    exact (Expr.reduce_means total).form

/-- The second dimension turns into a product only when it is simplified. -/
theorem element_count_exact_of_exposed_product :
    let s : Shape := ⟨[.mul (size "h") (.mul (.value 2) (.sub (size "w") (.value 4))),
      .add (.mul (size "h") (.value 3)) (.value 0), .value 5]⟩
    let σ : Expr.Binding := fun name => if name = "h" then some 7 else some 2
    let sizes : List Int := [-28, 21, 5]
    s.simplify ≠ s ∧ s.simplify.numel = s.numel ∧ s.dims.map (·.eval σ) = sizes.map .ok ∧
      s.numel.eval σ = .ok (-2940) := by
  intro s σ sizes
  obtain ⟨same, total⟩ := element_count_exact s
  have values : s.dims.map (·.eval σ) = sizes.map .ok := rfl
  exact ⟨by decide +kernel, same, values, total σ sizes values⟩

end ShapeFlow.Shape
