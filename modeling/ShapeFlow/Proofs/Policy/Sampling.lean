import ShapeFlow.Policy
import ShapeFlow.Proofs.Expr.Evaluation
import ShapeFlow.Proofs.Random.Draws
/-!
What a policy can produce. A sample draws once for each range, in the order of the dimensions, and
puts the values drawn in their places; a policy admits exactly the shapes that some script makes it
produce.
-/
namespace ShapeFlow

def DimPolicy.range? : DimPolicy → Option IntRange
  | .range r => some r
  | _ => none

namespace DimPolicy
variable {e : Expr}

theorem fixed_admits {size : Int} : (fixed size).admits e ↔ e = .value size := by
  cases e <;> simp [admits, eq_comm]

theorem range_admits {r : IntRange} :
    (range r).admits e ↔ ∃ v, e = .value v ∧ r.lo ≤ v ∧ v ≤ r.hi := by
  cases e <;> simp [admits, IntRange.contains]

theorem symbolic_admits {f : Expr} : (symbolic f).admits e ↔ f.Alike e := by
  simp [admits]

theorem admits_alike {f : Expr} (d : DimPolicy) (admitted : d.admits e) (alike : e.Alike f) :
    d.admits f := by
  cases d with
  | fixed size =>
    rw [fixed_admits] at admitted ⊢
    subst admitted
    exact Expr.bare_eq_value.mp alike.symm
  | range r =>
    obtain ⟨v, rfl, inside⟩ := range_admits.mp admitted
    exact range_admits.mpr ⟨v, Expr.bare_eq_value.mp alike.symm, inside⟩
  | symbolic g => exact symbolic_admits.mpr ((symbolic_admits.mp admitted).trans alike)

end DimPolicy

namespace ShapePolicy

def ranges (p : ShapePolicy) : List IntRange := p.dims.filterMap (·.range?)

/-- The sizes that dimensions take when the ranges among them take the values in order. -/
inductive Fills : List DimPolicy → List Int → List Expr → Prop where
  | nil : Fills [] [] []
  | fixed {ds vs es} (size : Int) (rest : Fills ds vs es) :
      Fills (.fixed size :: ds) vs (.value size :: es)
  | range {ds vs es} (r : IntRange) (v : Int) (rest : Fills ds vs es) :
      Fills (.range r :: ds) (v :: vs) (.value v :: es)
  | symbolic {ds vs es} (e : Expr) (rest : Fills ds vs es) :
      Fills (.symbolic e :: ds) vs (e :: es)

section Draws
variable {σ : Type} [RandomSource σ]

theorem sampleDims_draws (ds : List DimPolicy) (s : σ) :
    Fills ds (RandomSource.drawAll (ds.filterMap (·.range?)) s).1 (sampleDims ds s).1 ∧
      (sampleDims ds s).2 = (RandomSource.drawAll (ds.filterMap (·.range?)) s).2 := by
  induction ds generalizing s with
  | nil => exact ⟨.nil, rfl⟩
  | cons d ds ih =>
    cases d with
    | fixed size => exact ⟨.fixed size (ih s).1, (ih s).2⟩
    | symbolic e => exact ⟨.symbolic e (ih s).1, (ih s).2⟩
    | range r =>
      have next := ih (RandomSource.draw r s).2
      exact ⟨.range r (RandomSource.draw r s).1 next.1, next.2⟩

theorem sample_draws (p : ShapePolicy) (s : σ) :
    Fills p.dims (RandomSource.drawAll p.ranges s).1 (p.sample s).1.dims ∧
      (p.sample s).2 = (RandomSource.drawAll p.ranges s).2 :=
  sampleDims_draws p.dims s

theorem sample_asked (p : ShapePolicy) (t : Traced σ) :
    (p.sample t).2.asked = t.asked ++ p.ranges := by
  rw [(sample_draws p t).2, RandomSource.drawAll_asked]

end Draws

theorem admitsDims_of_fills {ds : List DimPolicy} {vs : List Int} {es : List Expr}
    (fills : Fills ds vs es)
    (inside : Within (ds.filterMap (·.range?)) vs) :
    admitsDims ds es := by
  induction fills with
  | nil => rfl
  | fixed size _ ih => simp [admitsDims, DimPolicy.admits, ih inside]
  | symbolic e _ ih => simp [admitsDims, DimPolicy.admits, Expr.alike_refl, ih inside]
  | range r v _ ih =>
    cases inside with
    | cons here inside =>
      simp [admitsDims, DimPolicy.admits, IntRange.contains, here.1, here.2, ih inside]

theorem sample_admitted {σ : Type} [RandomSource σ] [LawfulSource σ] (p : ShapePolicy) (s : σ) :
    p.admits (p.sample s).1 :=
  admitsDims_of_fills (sample_draws p s).1 (RandomSource.drawAll_within p.ranges s)

/-- A shape that is admitted has a value in every range, and is what these values make. -/
theorem fills_of_admitsDims {ds : List DimPolicy} {es : List Expr} (admitted : admitsDims ds es) :
    ∃ vs fs, Within (ds.filterMap (·.range?)) vs ∧
      Fills ds vs fs ∧ fs.map (·.bare) = es.map (·.bare) := by
  induction ds generalizing es with
  | nil =>
    cases es with
    | nil => exact ⟨[], [], .nil, .nil, rfl⟩
    | cons e es => simp [admitsDims] at admitted
  | cons d ds ih =>
    cases es with
    | nil => simp [admitsDims] at admitted
    | cons e es =>
      rw [admitsDims, Bool.and_eq_true] at admitted
      obtain ⟨here, rest⟩ := admitted
      obtain ⟨vs, fs, inside, fills, alike⟩ := ih rest
      cases d with
      | fixed size =>
        obtain rfl := DimPolicy.fixed_admits.mp here
        exact ⟨vs, .value size :: fs, inside, .fixed size fills, by simp [alike]⟩
      | range r =>
        obtain ⟨v, rfl, lo, hi⟩ := DimPolicy.range_admits.mp here
        exact ⟨v :: vs, .value v :: fs, .cons ⟨lo, hi⟩ inside, .range r v fills, by simp [alike]⟩
      | symbolic f =>
        have same : f.bare = e.bare := DimPolicy.symbolic_admits.mp here
        exact ⟨vs, f :: fs, inside, .symbolic f fills, by simp [same, alike]⟩

theorem fills_unique {ds : List DimPolicy} {vs : List Int} {es fs : List Expr}
    (fills : Fills ds vs es) (other : Fills ds vs fs) : es = fs := by
  induction fills generalizing fs with
  | nil => cases other with | nil => rfl
  | fixed size _ ih => cases other with | fixed _ rest => rw [ih rest]
  | range r v _ ih => cases other with | range _ _ rest => rw [ih rest]
  | symbolic e _ ih => cases other with | symbolic _ rest => rw [ih rest]

theorem admitsDims_alike {ds : List DimPolicy} {es fs : List Expr} (admitted : admitsDims ds es)
    (alike : es.map (·.bare) = fs.map (·.bare)) : admitsDims ds fs := by
  induction ds generalizing es fs with
  | nil =>
    cases es with
    | nil =>
      cases fs with
      | nil => rfl
      | cons f fs => simp at alike
    | cons e es => simp [admitsDims] at admitted
  | cons d ds ih =>
    cases es with
    | nil => simp [admitsDims] at admitted
    | cons e es =>
      cases fs with
      | nil => simp at alike
      | cons f fs =>
        rw [admitsDims, Bool.and_eq_true] at admitted ⊢
        rw [List.map_cons, List.map_cons, List.cons.injEq] at alike
        exact ⟨d.admits_alike admitted.1 alike.1, ih admitted.2 alike.2⟩

def picksFor (rs : List IntRange) (vs : List Int) : List Pick :=
  List.zipWith IntRange.pick rs vs

theorem drawAll_picksFor {rs : List IntRange} {vs : List Int} (inside : Within rs vs) :
    (RandomSource.drawAll rs (Script.ofPicks (picksFor rs vs))).1 = vs := by
  rw [Script.drawAll_script]
  apply List.ext_getElem
  · rw [List.length_mapIdx, inside.length_eq]
  · intro j short short'
    rw [List.length_mapIdx] at short
    have long : j < (picksFor rs vs).length := by
      rw [picksFor, List.length_zipWith]
      omega
    have mem := inside.get short short'
    rw [List.getElem_mapIdx, Script.pickAfter_ofPicks long]
    simp only [picksFor, List.getElem_zipWith]
    exact Pick.apply_pick mem.1 mem.2

theorem script_of_admits {p : ShapePolicy} {s : Shape} (admitted : p.admits s) :
    ∃ picks : List Pick, (p.sample (Script.ofPicks picks)).1.Alike s := by
  obtain ⟨vs, fs, inside, fills, alike⟩ := fills_of_admitsDims admitted
  replace inside : Within p.ranges vs := inside
  refine ⟨picksFor p.ranges vs, ?_⟩
  have made := (sample_draws p (Script.ofPicks (picksFor p.ranges vs))).1
  rw [drawAll_picksFor inside] at made
  have same := fills_unique made fills
  unfold Shape.Alike
  rw [same, alike]

/-- A policy over ranges of words admits exactly the shapes that it can be made to produce, up to
what is assumed of their symbols. Whatever the source, a sample is admitted as long as each draw
keeps to its range, and it makes one draw for each range, in the order of the dimensions. -/
theorem admits_exactly_samples (p : ShapePolicy) :
    (∀ s : Shape, p.admits s ↔
      ∃ picks : List Pick, (p.sample (Script.ofPicks picks)).1.Alike s) ∧
    (∀ (σ : Type) [RandomSource σ] [LawfulSource σ] (g : σ), p.admits (p.sample g).1) ∧
    (∀ (σ : Type) [RandomSource σ] (g : σ),
      Fills p.dims (RandomSource.drawAll p.ranges g).1 (p.sample g).1.dims ∧
      (p.sample g).2 = (RandomSource.drawAll p.ranges g).2 ∧
      (p.sample (Traced.mk g [])).2.asked = p.ranges) := by
  refine ⟨?_, ?_, ?_⟩
  · intro s
    constructor
    · exact script_of_admits
    · intro ⟨picks, alike⟩
      exact admitsDims_alike (sample_admitted p (Script.ofPicks picks)) alike
  · intro σ _ _ g
    exact sample_admitted p g
  · intro σ _ g
    exact ⟨(sample_draws p g).1, (sample_draws p g).2, sample_asked p (Traced.mk g [])⟩

/-- The upper bound of the widest range is reached, although no offset leads to it. -/
theorem admits_exactly_samples_on_widest_range :
    let widest : IntRange := ⟨Int64.minValue, Int64.maxValue, by decide⟩
    let p : ShapePolicy := ⟨[.fixed 1, .range widest, .symbolic (.size "w")]⟩
    let s : Shape := ⟨[.value 1, .value Word.greatest, .free "w"]⟩
    (p.sample (Script.always .high)).1.Alike s ∧ p.admits s := by
  intro widest p s
  have made : (p.sample (Script.always .high)).1.Alike s := by decide
  exact ⟨made, ((admits_exactly_samples p).1 s).mpr ⟨[.high], made⟩⟩

end ShapePolicy
end ShapeFlow
