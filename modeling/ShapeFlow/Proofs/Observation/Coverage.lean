import Mathlib.Data.List.Basic
import ShapeFlow.Observation
import ShapeFlow.Table
/-!
What a histogram tells of the observations. Its values ascend, they are the observed ones, and each
has the number of its observations; recording keeps this. So the first and the last value are the
extremes, and a range is covered exactly when its bounds are the extremes and nothing between them is
missing.
-/
namespace ShapeFlow.Histogram
variable {vs us : List Int} {v w lo hi : Int} {cs : List (Int × Nat)} {h : Histogram}

def values (cs : List (Int × Nat)) : List Int := cs.map Prod.fst

structure Tallies (cs : List (Int × Nat)) (vs : List Int) : Prop where
  ascending : (values cs).Pairwise (· < ·)
  observed : ∀ v, v ∈ values cs ↔ v ∈ vs
  count : ∀ v, (cs.lookup v).getD 0 = vs.count v
  total : cs.foldr (fun p n => p.2 + n) 0 = vs.length

theorem mem_values_recordIn : w ∈ values (recordIn v cs) ↔ w = v ∨ w ∈ values cs := by
  unfold values
  induction cs with
  | nil => simp [recordIn]
  | cons p rest ih =>
    unfold recordIn
    split
    · simp
    · split
      · rename_i same
        simp [same]
      · rw [List.map_cons, List.mem_cons, ih, List.map_cons, List.mem_cons, or_left_comm]

theorem ascending_recordIn (ascending : (values cs).Pairwise (· < ·)) :
    (values (recordIn v cs)).Pairwise (· < ·) := by
  induction cs with
  | nil => exact List.pairwise_singleton _ _
  | cons p rest ih =>
    obtain ⟨first, others⟩ := List.pairwise_cons.mp ascending
    unfold recordIn
    split
    · rename_i before
      refine List.pairwise_cons.mpr ⟨?_, ascending⟩
      exact List.forall_mem_cons.mpr ⟨before, fun w inside => Int.lt_trans before (first w inside)⟩
    · rename_i notBefore
      split
      · exact ascending
      · rename_i differ
        refine List.pairwise_cons.mpr ⟨?_, ih others⟩
        intro w inside
        rcases mem_values_recordIn.mp inside with rfl | later
        · exact Int.lt_iff_le_and_ne.mpr ⟨Int.not_lt.mp notBefore, Ne.symm differ⟩
        · exact first w later

theorem lookup_eq_none (absent : v ∉ values cs) : cs.lookup v = none := by
  rwa [values, ← Entries.isSome_lookup, Bool.not_eq_true, Option.isSome_eq_false_iff,
    Option.isNone_iff_eq_none] at absent

theorem count_cons (x : Int) (n : Nat) (cs : List (Int × Nat)) (w : Int) :
    (((x, n) :: cs).lookup w).getD 0 = if w = x then n else (cs.lookup w).getD 0 := by
  by_cases same : w = x
  · simp [same]
  · have apart : (w == x) = false := beq_false_of_ne same
    simp only [List.lookup_cons, apart, same, if_false]

theorem count_recordIn (ascending : (values cs).Pairwise (· < ·)) :
    ((recordIn v cs).lookup w).getD 0 = (cs.lookup w).getD 0 + if w = v then 1 else 0 := by
  induction cs with
  | nil =>
    rw [recordIn, count_cons, List.lookup_nil]
    split <;> rfl
  | cons p rest ih =>
    obtain ⟨first, others⟩ := List.pairwise_cons.mp ascending
    unfold recordIn
    split
    · rename_i before
      have absent : v ∉ values (p :: rest) := by
        intro inside
        rcases List.mem_cons.mp inside with rfl | later
        · exact Int.lt_irrefl _ before
        · exact Int.lt_asymm before (first v later)
      rw [count_cons]
      split
      · rename_i itself
        rw [itself, lookup_eq_none absent]
        rfl
      · rfl
    · split
      · rename_i same
        rw [count_cons, count_cons, same]
        split <;> rfl
      · rename_i differ
        rw [count_cons, count_cons, ih others]
        split
        · rename_i itself
          rw [if_neg fun other => differ (other.symm.trans itself)]
          rfl
        · rfl

theorem total_recordIn :
    (recordIn v cs).foldr (fun p n => p.2 + n) 0 = cs.foldr (fun p n => p.2 + n) 0 + 1 := by
  induction cs with
  | nil => rfl
  | cons p rest ih =>
    unfold recordIn
    split
    · simp only [List.foldr_cons]
      omega
    · split
      · simp only [List.foldr_cons]
        omega
      · rw [List.foldr_cons, ih, List.foldr_cons]
        omega

theorem tallies_recordIn (tallies : Tallies cs us) : Tallies (recordIn v cs) (us ++ [v]) where
  ascending := ascending_recordIn tallies.ascending
  observed w := by
    rw [mem_values_recordIn, tallies.observed, List.mem_append, List.mem_singleton, or_comm]
  count w := by
    rw [count_recordIn tallies.ascending, tallies.count, List.count_append, List.count_singleton]
    simp only [beq_iff_eq, @eq_comm _ w v]
  total := by
    rw [total_recordIn, tallies.total, List.length_append]
    rfl

theorem tallies_foldl (tallies : Tallies h.counts us) :
    Tallies (vs.foldl record h).counts (us ++ vs) := by
  induction vs generalizing h us with
  | nil => simpa using tallies
  | cons v vs ih =>
    rw [List.append_cons]
    exact ih (tallies_recordIn tallies)

theorem tallies_ofList (vs : List Int) : Tallies (ofList vs).counts vs := by
  have start : Tallies empty.counts [] := ⟨.nil, fun _ => Iff.rfl, fun _ => rfl, rfl⟩
  exact tallies_foldl start

theorem recordIn_comm (v w : Int) (cs : List (Int × Nat)) :
    recordIn v (recordIn w cs) = recordIn w (recordIn v cs) := by
  induction cs with
  | nil => grind [recordIn]
  | cons p rest ih => grind [recordIn]

/-- The order of the observations makes no difference. -/
theorem ofList_perm (same : vs.Perm us) : ofList us = ofList vs := by
  apply same.symm.foldl_eq'
  intro v _ w _ h
  exact congrArg Histogram.mk (recordIn_comm w v h.counts)

theorem least_head {l : List Int} (ascending : l.Pairwise (· < ·)) :
    l.head? = some v ↔ v ∈ l ∧ ∀ w ∈ l, v ≤ w := by
  cases l with
  | nil => simp
  | cons x rest =>
    have first := (List.pairwise_cons.mp ascending).1
    rw [List.head?_cons, Option.some_inj]
    constructor
    · rintro rfl
      refine ⟨List.mem_cons_self, List.forall_mem_cons.mpr ⟨Int.le_refl x, ?_⟩⟩
      exact fun w inside => Int.le_of_lt (first w inside)
    · rintro ⟨inside, least⟩
      rcases List.mem_cons.mp inside with rfl | later
      · rfl
      · exact absurd (first v later) (Int.not_lt.mpr (least x List.mem_cons_self))

theorem greatest_getLast {l : List Int} (ascending : l.Pairwise (· < ·)) :
    l.getLast? = some v ↔ v ∈ l ∧ ∀ w ∈ l, w ≤ v := by
  rcases List.eq_nil_or_concat l with rfl | ⟨front, x, rfl⟩
  · simp
  · rw [List.concat_eq_append] at ascending ⊢
    have last : ∀ w ∈ front, w < x := fun w inside =>
      (List.pairwise_append.mp ascending).2.2 w inside x List.mem_cons_self
    rw [List.getLast?_concat, Option.some_inj]
    constructor
    · rintro rfl
      refine ⟨List.mem_concat_self, List.forall_mem_append.mpr ⟨?_, ?_⟩⟩
      · exact fun w inside => Int.le_of_lt (last w inside)
      · exact List.forall_mem_singleton.mpr (Int.le_refl x)
    · rintro ⟨inside, greatest⟩
      rcases List.mem_append.mp inside with earlier | itself
      · exact absurd (last v earlier) (Int.not_lt.mpr (greatest x List.mem_concat_self))
      · exact (List.mem_singleton.mp itself).symm

theorem mem_interval : v ∈ interval lo hi ↔ lo ≤ v ∧ v ≤ hi := by
  unfold interval
  rw [List.mem_map]
  constructor
  · rintro ⟨k, inside, rfl⟩
    rw [List.mem_range] at inside
    omega
  · rintro ⟨above, below⟩
    exact ⟨(v - lo).toNat, List.mem_range.mpr (by omega), by omega⟩

theorem interval_ascending (lo hi : Int) : (interval lo hi).Pairwise (· < ·) := by
  unfold interval
  rw [List.pairwise_map]
  exact List.pairwise_lt_range.imp fun lt => by omega

/-- The histogram tells of the observations what can be told of them without their order. -/
structure Describes (h : Histogram) (vs : List Int) : Prop where
  total : h.total = vs.length
  count : ∀ v, h.count v = vs.count v
  min : ∀ v, h.min? = some v ↔ v ∈ vs ∧ ∀ w ∈ vs, v ≤ w
  max : ∀ v, h.max? = some v ↔ v ∈ vs ∧ ∀ w ∈ vs, w ≤ v
  min_none : h.min? = none ↔ vs = []
  max_none : h.max? = none ↔ vs = []
  missing : ∀ lo hi v, v ∈ h.missing lo hi ↔ (lo ≤ v ∧ v ≤ hi) ∧ v ∉ vs
  missing_ascending : ∀ lo hi, (h.missing lo hi).Pairwise (· < ·)
  covers : ∀ lo hi, lo ≤ hi → (h.coversExactly lo hi ↔ ∀ v, v ∈ vs ↔ lo ≤ v ∧ v ≤ hi)

theorem Tallies.values_eq_nil (tallies : Tallies cs vs) : values cs = [] ↔ vs = [] := by
  simp only [List.eq_nil_iff_forall_not_mem, tallies.observed]

theorem Tallies.min?_eq_some (tallies : Tallies h.counts vs) :
    h.min? = some v ↔ v ∈ vs ∧ ∀ w ∈ vs, v ≤ w := by
  rw [min?, ← List.head?_map, ← values, least_head tallies.ascending]
  simp only [tallies.observed]

theorem Tallies.max?_eq_some (tallies : Tallies h.counts vs) :
    h.max? = some v ↔ v ∈ vs ∧ ∀ w ∈ vs, w ≤ v := by
  rw [max?, ← List.getLast?_map, ← values, greatest_getLast tallies.ascending]
  simp only [tallies.observed]

theorem Tallies.mem_missing (tallies : Tallies h.counts vs) :
    v ∈ h.missing lo hi ↔ (lo ≤ v ∧ v ≤ hi) ∧ v ∉ vs := by
  rw [missing, List.mem_filter, mem_interval, ← tallies.observed, values, ← Entries.isSome_lookup,
    Bool.not_eq_true, Option.isSome_eq_false_iff]

/-- The extremes and the missing values decide whether the observed values are an interval. -/
theorem Tallies.coversExactly_iff (tallies : Tallies h.counts vs) (ordered : lo ≤ hi) :
    h.coversExactly lo hi ↔ ∀ v, v ∈ vs ↔ lo ≤ v ∧ v ≤ hi := by
  rw [coversExactly, Bool.and_eq_true, Bool.and_eq_true, beq_iff_eq, beq_iff_eq,
    List.isEmpty_iff, tallies.min?_eq_some, tallies.max?_eq_some, List.eq_nil_iff_forall_not_mem]
  simp only [tallies.mem_missing, not_and, not_not]
  constructor
  · rintro ⟨⟨⟨-, least⟩, -, greatest⟩, covered⟩ v
    exact ⟨fun seen => ⟨least v seen, greatest v seen⟩, covered v⟩
  · intro interval
    have lower : lo ∈ vs := (interval lo).mpr ⟨Int.le_refl lo, ordered⟩
    have upper : hi ∈ vs := (interval hi).mpr ⟨ordered, Int.le_refl hi⟩
    exact ⟨⟨⟨lower, fun w seen => ((interval w).mp seen).1⟩, upper,
      fun w seen => ((interval w).mp seen).2⟩, fun v => (interval v).mpr⟩

theorem Tallies.describes (tallies : Tallies h.counts vs) : h.Describes vs where
  total := tallies.total
  count := tallies.count
  min _ := tallies.min?_eq_some
  max _ := tallies.max?_eq_some
  min_none := by
    rw [← tallies.values_eq_nil, min?, ← List.head?_map, ← values, List.head?_eq_none_iff]
  max_none := by
    rw [← tallies.values_eq_nil, max?, ← List.getLast?_map, ← values, List.getLast?_eq_none_iff]
  missing _ _ _ := tallies.mem_missing
  missing_ascending lo hi := (interval_ascending lo hi).filter _
  covers _ _ := tallies.coversExactly_iff

/-- Whatever is observed, in whichever order, its histogram tells how often each value was observed,
the extremes, what is missing of a range and whether the observed values are all of it. -/
theorem observations_decide_coverage (vs : List Int) :
    (ofList vs).Describes vs ∧ ∀ us, vs.Perm us → ofList us = ofList vs :=
  ⟨(tallies_ofList vs).describes, fun _ => ofList_perm⟩

/-- Three of five values come late and one of them twice. -/
theorem observations_decide_coverage_of_shuffled :
    let vs : List Int := [4, 1, 0, 3, 1, 2]
    let us : List Int := [0, 1, 1, 2, 3, 4]
    vs.Perm us ∧ ofList us = ofList vs ∧ (ofList vs).coversExactly 0 4 ∧
      (ofList vs).missing (-1) 5 = [-1, 5] ∧ ∀ v, v ∈ us ↔ 0 ≤ v ∧ v ≤ 4 := by
  intro vs us
  have same : vs.Perm us := by decide
  have covered : (ofList vs).coversExactly 0 4 := by decide
  obtain ⟨describes, shuffled⟩ := observations_decide_coverage vs
  have interval := (describes.covers 0 4 (by decide)).mp covered
  exact ⟨same, shuffled us same, covered, by decide, fun v => same.mem_iff.symm.trans (interval v)⟩

end ShapeFlow.Histogram
