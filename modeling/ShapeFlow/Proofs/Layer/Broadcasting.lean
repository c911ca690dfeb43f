import Mathlib.Data.List.GetD
import ShapeFlow.Layer.Sizes
import ShapeFlow.Proofs.Layer.SettledSizes
/-!
Joined shapes, read from the last dimension. Two shapes join where their sizes do at every position,
so what holds of two sizes holds of shapes: known shapes follow the usual rules of broadcasting, and
symbolic ones get the values that their broadcast sizes have.
-/
namespace ShapeFlow.Shape
variable {s t u : Shape} {a b c : Expr} {as bs cs : List Expr} {why : ShapeError}

/-- The size at a position counted from the last dimension. A missing dimension has size 1. -/
def sizeFromEnd (s : Shape) (i : Nat) : Expr := s.dims.reverse.getD i (.value 1)

theorem sizeFromEnd_missing (missing : s.ndim ≤ i) : s.sizeFromEnd i = .value 1 := by
  apply List.getD_eq_default
  rw [List.length_reverse]
  exact missing

theorem padTo_fromEnd (s : Shape) (n i : Nat) :
    (padTo n s.dims).reverse.getD i (.value 1) = s.sizeFromEnd i := by
  unfold padTo sizeFromEnd
  rw [List.reverse_append, List.reverse_replicate]
  by_cases inside : i < s.dims.reverse.length
  · rw [List.getD_append _ _ _ _ inside]
  · have outside := Nat.not_lt.mp inside
    rw [List.getD_append_right _ _ _ _ outside, List.getD_eq_default _ _ outside]
    rw [List.getD_eq_getElem?_getD, List.getElem?_getD_replicate_default_eq]

theorem padTo_length (s t : Shape) : (padTo (max s.ndim t.ndim) s.dims).length =
    max s.ndim t.ndim := by
  unfold padTo ndim
  rw [List.length_append, List.length_replicate]
  omega

theorem getD_concat (as : List Expr) (a : Expr) (i : Nat) :
    (as ++ [a]).getD i (.value 1) = if i = as.length then a else as.getD i (.value 1) := by
  split
  · rename_i last
    rw [last, List.getD_append_right _ _ _ _ (Nat.le_refl _), Nat.sub_self]
    rfl
  · rename_i other
    by_cases inside : i < as.length
    · rw [List.getD_append _ _ _ _ inside]
    · rw [List.getD_eq_default _ _ (by simp; omega), List.getD_eq_default _ _ (by omega)]

theorem joinSize_ones : joinSize (.value 1) (.value 1) = .ok (.value 1) := rfl

theorem joinSizes_eq_ok (same : as.length = bs.length) : joinSizes as bs = .ok cs ↔
    cs.length = as.length ∧ ∀ i, joinSize (as.reverse.getD i (.value 1))
      (bs.reverse.getD i (.value 1)) = .ok (cs.reverse.getD i (.value 1)) := by
  induction as generalizing bs cs with
  | nil =>
    obtain rfl := List.eq_nil_of_length_eq_zero same.symm
    cases cs <;> simp [joinSizes, pure_eq_ok, joinSize_ones]
  | cons a as ih =>
    cases bs with
    | nil => cases same
    | cons b bs =>
      have shorter : as.length = bs.length := Nat.succ.inj same
      simp only [joinSizes, bind_eq_ok, pure_eq_ok, ih shorter]
      cases cs with
      | nil => simp
      | cons c cs =>
        simp only [List.reverse_cons, getD_concat, List.length_reverse, ← shorter]
        constructor
        · rintro ⟨c', first, cs', ⟨length, rest⟩, joined⟩
          obtain ⟨rfl, rfl⟩ := List.cons.inj joined
          refine ⟨congrArg Nat.succ length, ?_⟩
          intro i
          rw [length]
          split
          · exact first
          · exact rest i
        · rintro ⟨length, sizes⟩
          have shorter' : cs.length = as.length := Nat.succ.inj length
          rw [shorter'] at sizes
          refine ⟨c, by simpa using sizes as.length, cs, ⟨shorter', ?_⟩, rfl⟩
          intro i
          by_cases last : i = as.length
          · -- Past the last of the sizes there are only ones.
            subst last
            rw [List.getD_eq_default _ _ (by simp), List.getD_eq_default _ _ (by simp [shorter]),
              List.getD_eq_default _ _ (by simp [shorter'])]
            rfl
          · simpa only [last, ↓reduceIte] using sizes i

theorem joinSizes_refused (same : as.length = bs.length) (refusal : joinSizes as bs = .error why) :
    ∃ i, joinSize (as.reverse.getD i (.value 1)) (bs.reverse.getD i (.value 1)) = .error why := by
  induction as generalizing bs with
  | nil => cases refusal
  | cons a as ih =>
    cases bs with
    | nil => cases same
    | cons b bs =>
      have shorter : as.length = bs.length := Nat.succ.inj same
      simp only [List.reverse_cons, getD_concat, List.length_reverse, ← shorter]
      rcases bind_eq_error.mp refusal with first | ⟨c, -, later⟩
      · exact ⟨as.length, by simpa using first⟩
      · rcases bind_eq_error.mp later with rest | ⟨cs, -, none⟩
        · obtain ⟨i, conflict⟩ := ih shorter rest
          refine ⟨i, ?_⟩
          have inside : i ≠ as.length := by
            rintro rfl
            rw [List.getD_eq_default _ _ (by simp), List.getD_eq_default _ _ (by simp [shorter])]
              at conflict
            cases conflict
          simpa only [inside, ↓reduceIte] using conflict
        · cases none

/-- Shapes are joined position by position. -/
theorem join_eq_ok : s.join t = .ok u ↔ u.ndim = max s.ndim t.ndim ∧
    ∀ i, joinSize (s.sizeFromEnd i) (t.sizeFromEnd i) = .ok (u.sizeFromEnd i) := by
  have left := padTo_length s t
  have right := padTo_length t s
  rw [Nat.max_comm] at right
  have sizes : joinSizes (padTo _ s.dims) (padTo _ t.dims) = .ok u.dims ↔ _ :=
    joinSizes_eq_ok (left.trans right.symm)
  simp only [padTo_fromEnd, left] at sizes
  simp only [join, bind_eq_ok, pure_eq_ok]
  constructor
  · rintro ⟨dims, joined, rfl⟩
    exact sizes.mp joined
  · intro positions
    exact ⟨u.dims, sizes.mpr positions, rfl⟩

theorem join_refused (refusal : s.join t = .error why) :
    ∃ i < max s.ndim t.ndim, joinSize (s.sizeFromEnd i) (t.sizeFromEnd i) = .error why := by
  have left := padTo_length s t
  have right := padTo_length t s
  rw [Nat.max_comm] at right
  rcases bind_eq_error.mp refusal with failed | ⟨dims, -, none⟩
  · obtain ⟨i, conflict⟩ := joinSizes_refused (left.trans right.symm) failed
    rw [padTo_fromEnd, padTo_fromEnd] at conflict
    refine ⟨i, Nat.lt_of_not_le ?_, conflict⟩
    intro outside
    rw [sizeFromEnd_missing (by omega), sizeFromEnd_missing (by omega)] at conflict
    cases conflict
  · cases none

theorem join_answers (sizes : ∀ i, ∃ c, joinSize (s.sizeFromEnd i) (t.sizeFromEnd i) = .ok c) :
    ∃ u, s.join t = .ok u := by
  cases joined : s.join t with
  | ok u => exact ⟨u, rfl⟩
  | error why =>
    obtain ⟨i, -, conflict⟩ := join_refused joined
    obtain ⟨c, answer⟩ := sizes i
    rw [answer] at conflict
    cases conflict

theorem isFixed_iff : s.isFixed = true ↔ ∀ i, (s.sizeFromEnd i).IsLiteral := by
  simp only [isFixed, List.all_eq_true, Expr.isKnown_iff]
  constructor
  · intro every i
    by_cases inside : i < s.dims.reverse.length
    · rw [sizeFromEnd, List.getD_eq_getElem _ _ inside]
      exact every _ (List.mem_reverse.mp (List.getElem_mem inside))
    · rw [sizeFromEnd, List.getD_eq_default _ _ (Nat.not_lt.mp inside)]
      exact ⟨1, rfl⟩
  · intro every e member
    obtain ⟨i, inside, rfl⟩ := List.mem_iff_getElem.mp (List.mem_reverse.mpr member)
    rw [← List.getD_eq_getElem s.dims.reverse (.value 1) inside]
    exact every i

def Fits (a b : Expr) : Prop := a = b ∨ a = .value 1 ∨ b = .value 1

def wider (a b : Expr) : Expr := if a = .value 1 then b else a

theorem fits_comm : Fits a b ↔ Fits b a := by
  unfold Fits
  rw [eq_comm, or_comm (a := a = .value 1)]

theorem wider_comm (fit : Fits a b) : wider a b = wider b a := by
  unfold wider
  rcases fit with rfl | rfl | rfl
  · rfl
  · split <;> simp_all
  · split <;> simp_all

/-- Of three sizes it makes no difference which two meet first. -/
theorem wider_regroup (inner : Fits b c) (outer : Fits a (wider b c)) :
    Fits a b ∧ Fits (wider a b) c ∧ wider (wider a b) c = wider a (wider b c) := by
  unfold Fits wider at *
  grind

theorem joinSize_known (ha : a.IsLiteral) (hb : b.IsLiteral) :
    joinSize a b = .ok c ↔ Fits a b ∧ c = wider a b := by
  obtain ⟨x, rfl⟩ := ha
  obtain ⟨y, rfl⟩ := hb
  have like : (Expr.value x).Alike (.value y) ↔ x = y := Expr.value.injEq x y ▸ Iff.rfl
  simp only [joinSize, like, Fits, wider, Expr.value.injEq]
  split
  · rename_i same
    subst same
    simp [eq_comm]
  · split
    · simp_all [eq_comm]
    · split <;> simp_all [eq_comm]

/-- Known shapes join where all sizes fit, to the wider of the two at each position. -/
theorem join_known (hs : s.isFixed = true) (ht : t.isFixed = true) : s.join t = .ok u ↔
    u.ndim = max s.ndim t.ndim ∧ ∀ i, Fits (s.sizeFromEnd i) (t.sizeFromEnd i) ∧
      u.sizeFromEnd i = wider (s.sizeFromEnd i) (t.sizeFromEnd i) := by
  rw [join_eq_ok]
  apply and_congr_right
  intro _
  apply forall_congr'
  intro i
  exact joinSize_known (isFixed_iff.mp hs i) (isFixed_iff.mp ht i)

theorem isFixed_join (hs : s.isFixed = true) (ht : t.isFixed = true) (joined : s.join t = .ok u) :
    u.isFixed = true := by
  obtain ⟨-, sizes⟩ := (join_known hs ht).mp joined
  rw [isFixed_iff] at hs ht ⊢
  intro i
  rw [(sizes i).2, wider]
  split
  · exact ht i
  · exact hs i

theorem join_of_fits (hs : s.isFixed = true) (ht : t.isFixed = true)
    (fits : ∀ i, Fits (s.sizeFromEnd i) (t.sizeFromEnd i)) : ∃ u, s.join t = .ok u := by
  apply join_answers
  intro i
  exact ⟨_, (joinSize_known (isFixed_iff.mp hs i) (isFixed_iff.mp ht i)).mpr ⟨fits i, rfl⟩⟩

theorem join_comm (hs : s.isFixed = true) (ht : t.isFixed = true) (joined : s.join t = .ok u) :
    t.join s = .ok u := by
  obtain ⟨rank, sizes⟩ := (join_known hs ht).mp joined
  refine (join_known ht hs).mpr ⟨rank.trans (Nat.max_comm _ _), ?_⟩
  intro i
  obtain ⟨fit, size⟩ := sizes i
  exact ⟨fits_comm.mp fit, size.trans (wider_comm fit)⟩

theorem join_regroup {m r : Shape} (hs : s.isFixed = true) (ht : t.isFixed = true)
    (hu : u.isFixed = true) (inner : t.join u = .ok m) (outer : s.join m = .ok r) :
    ∃ k, s.join t = .ok k ∧ k.join u = .ok r := by
  obtain ⟨innerRank, innerSizes⟩ := (join_known ht hu).mp inner
  obtain ⟨outerRank, outerSizes⟩ := (join_known hs (isFixed_join ht hu inner)).mp outer
  have regrouped := fun i =>
    wider_regroup (innerSizes i).1 ((innerSizes i).2 ▸ (outerSizes i).1)
  -- The first two fit at every position, which is all it takes for them to join.
  obtain ⟨k, joined⟩ := join_of_fits hs ht fun i => (regrouped i).1
  obtain ⟨rank, sizes⟩ := (join_known hs ht).mp joined
  refine ⟨k, joined, (join_known (isFixed_join hs ht joined) hu).mpr ⟨?_, ?_⟩⟩
  · rw [outerRank, innerRank, rank, Nat.max_assoc]
  · intro i
    obtain ⟨-, fit, same⟩ := regrouped i
    rw [(sizes i).2, (outerSizes i).2, (innerSizes i).2]
    exact ⟨fit, same.symm⟩

theorem join_assoc (hs : s.isFixed = true) (ht : t.isFixed = true) (hu : u.isFixed = true)
    (r : Shape) : (do s.join (← t.join u)) = .ok r ↔ (do (← s.join t).join u) = .ok r := by
  simp only [bind_eq_ok]
  constructor
  · rintro ⟨m, inner, outer⟩
    exact join_regroup hs ht hu inner outer
  · -- The mirror image: all joins are turned around.
    rintro ⟨m, inner, outer⟩
    have inner' := join_comm hs ht inner
    have outer' := join_comm (isFixed_join hs ht inner) hu outer
    obtain ⟨k, first, second⟩ := join_regroup hu ht hs inner' outer'
    exact ⟨k, join_comm hu ht first, join_comm (isFixed_join hu ht first) hs second⟩

theorem joinSize_self (a : Expr) : joinSize a a = .ok a := by
  unfold joinSize
  rw [if_pos (Expr.alike_refl a)]

theorem joinSize_one (a : Expr) : joinSize a (.value 1) = .ok a := by
  unfold joinSize
  split
  · rfl
  · split
    · simp_all
    · simp_all
    · simp_all

theorem one_joinSize (b : Expr) : joinSize (.value 1) b = .ok b := by
  unfold joinSize
  split
  · rename_i like
    cases b <;> simp_all [Expr.Alike, Expr.bare]
  · rfl

/-- Known shapes join exactly where all sizes fit, to the wider of the two at each position. The
order of the two makes no difference, nor does it which two of three are joined first; a shape joins
with itself and with the scalar shape to itself. -/
theorem known_shapes_broadcast (hs : s.isFixed = true) (ht : t.isFixed = true)
    (hu : u.isFixed = true) :
    ((∃ r, s.join t = .ok r) ↔ ∀ i, Fits (s.sizeFromEnd i) (t.sizeFromEnd i)) ∧
    (∀ r, s.join t = .ok r → r.isFixed = true ∧ r.ndim = max s.ndim t.ndim ∧
      ∀ i, r.sizeFromEnd i = wider (s.sizeFromEnd i) (t.sizeFromEnd i)) ∧
    (∀ r, s.join t = .ok r ↔ t.join s = .ok r) ∧
    (∀ r, (do s.join (← t.join u)) = .ok r ↔ (do (← s.join t).join u) = .ok r) ∧
    s.join s = .ok s ∧ s.join scalar = .ok s ∧ scalar.join s = .ok s := by
  have ones : ∀ i, scalar.sizeFromEnd i = .value 1 := fun i => sizeFromEnd_missing (Nat.zero_le i)
  refine ⟨⟨?_, join_of_fits hs ht⟩, ?_, ?_, ?_, ?_, ?_, ?_⟩
  · rintro ⟨r, joined⟩ i
    exact (((join_known hs ht).mp joined).2 i).1
  · intro r joined
    obtain ⟨rank, sizes⟩ := (join_known hs ht).mp joined
    exact ⟨isFixed_join hs ht joined, rank, fun i => (sizes i).2⟩
  · intro r
    exact ⟨join_comm hs ht, join_comm ht hs⟩
  · exact join_assoc hs ht hu
  · exact join_eq_ok.mpr ⟨(Nat.max_self _).symm, fun i => joinSize_self _⟩
  · refine join_eq_ok.mpr ⟨(Nat.max_zero _).symm, fun i => ?_⟩
    rw [ones, joinSize_one]
  · refine join_eq_ok.mpr ⟨(Nat.zero_max _).symm, fun i => ?_⟩
    rw [ones, one_joinSize]

theorem known_shapes_broadcast_across_ranks :
    let s : Shape := ⟨[.value 4, .value 1, .value 3]⟩
    let t : Shape := ⟨[.value 5, .value 1]⟩
    let u : Shape := ⟨[.value 0, .value 1, .value 5, .value 3]⟩
    let r : Shape := ⟨[.value 0, .value 4, .value 5, .value 3]⟩
    s.isFixed = true ∧ t.isFixed = true ∧ u.isFixed = true ∧
      (do s.join (← t.join u)) = .ok r ∧ (do (← s.join t).join u) = .ok r ∧
      t.join s = .ok ⟨[.value 4, .value 5, .value 3]⟩ := by
  intro s t u r
  have hs : s.isFixed = true := rfl
  have ht : t.isFixed = true := rfl
  have hu : u.isFixed = true := rfl
  have grouped : (do s.join (← t.join u)) = .ok r := by decide
  have joined : s.join t = .ok ⟨[.value 4, .value 5, .value 3]⟩ := by decide
  obtain ⟨-, -, comm, assoc, -⟩ := known_shapes_broadcast hs ht hu
  exact ⟨hs, ht, hu, grouped, (assoc r).mp grouped, (comm _).mp joined⟩

/-- Where the broadcast sizes have values, symbolic shapes join to sizes of these values. Where
shapes do not join, some pair of sizes has no broadcast under any binding. -/
theorem join_agrees_with_broadcast (s t : Shape) :
    (∀ σ, (∀ i < max s.ndim t.ndim,
        ∃ v, (Expr.broadcast (s.sizeFromEnd i) (t.sizeFromEnd i)).eval σ = .ok v) →
      ∃ r, s.join t = .ok r ∧ r.ndim = max s.ndim t.ndim ∧ ∀ i < max s.ndim t.ndim,
        (r.sizeFromEnd i).eval σ =
          (Expr.broadcast (s.sizeFromEnd i) (t.sizeFromEnd i)).eval σ) ∧
    (∀ why, s.join t = .error why → ∃ i < max s.ndim t.ndim, ∀ σ,
      (Expr.broadcast (s.sizeFromEnd i) (t.sizeFromEnd i)).eval σ =
        .error .broadcastMismatch) := by
  constructor
  · intro σ values
    cases joined : s.join t with
    | error why =>
      obtain ⟨i, inside, conflict⟩ := join_refused joined
      obtain ⟨v, value⟩ := values i inside
      rw [(joinSize_refused conflict).2] at value
      cases value
    | ok r =>
      obtain ⟨rank, sizes⟩ := join_eq_ok.mp joined
      refine ⟨r, rfl, rank, ?_⟩
      intro i inside
      obtain ⟨v, value⟩ := values i inside
      obtain ⟨x, hx, y, hy, broadcast⟩ := Expr.eval_broadcast_ok.mp value
      obtain ⟨c, answer, same⟩ := joinSize_answers hx hy broadcast
      rw [sizes i] at answer
      rw [Except.ok.inj answer, same, value]
  · intro why refusal
    obtain ⟨i, inside, conflict⟩ := join_refused refusal
    exact ⟨i, inside, (joinSize_refused conflict).2⟩

theorem join_agrees_with_broadcast_on_symbols :
    let s : Shape := ⟨[Expr.size "n", .value 8, .sub (Expr.size "h") (.value 1)]⟩
    let t : Shape := ⟨[Expr.size "m", Expr.size "w"]⟩
    let r : Shape := ⟨[Expr.size "n", .value 8,
      .broadcast (.sub (Expr.size "h") (.value 1)) (Expr.size "w")]⟩
    let σ : Expr.Binding := fun name =>
      if name = "n" then some 0 else if name = "m" then some 8 else
      if name = "h" then some 2 else if name = "w" then some 6 else none
    s.join t = .ok r ∧ (∀ i < 3,
      ∃ v, (Expr.broadcast (s.sizeFromEnd i) (t.sizeFromEnd i)).eval σ = .ok v) ∧
      (r.sizeFromEnd 0).eval σ = .ok 6 ∧ (r.sizeFromEnd 1).eval σ = .ok 8 ∧
      (r.sizeFromEnd 2).eval σ = .ok 0 := by
  intro s t r σ
  have joined : s.join t = .ok r := by decide
  have values : ∀ i < 3,
      ∃ v, (Expr.broadcast (s.sizeFromEnd i) (t.sizeFromEnd i)).eval σ = .ok v := by
    intro i inside
    match i, inside with
    | 0, _ => exact ⟨6, rfl⟩
    | 1, _ => exact ⟨8, rfl⟩
    | 2, _ => exact ⟨0, rfl⟩
  obtain ⟨r', joined', -, same⟩ := (join_agrees_with_broadcast s t).1 σ values
  obtain rfl := Except.ok.inj (joined.symm.trans joined')
  exact ⟨joined, values, same 0 (by decide), same 1 (by decide), same 2 (by decide)⟩

end ShapeFlow.Shape
