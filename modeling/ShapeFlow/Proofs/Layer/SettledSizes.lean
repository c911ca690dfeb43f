import ShapeFlow.Proofs.Layer.Follow
import ShapeFlow.Proofs.Layer.Settle
import ShapeFlow.Proofs.Layer.Window
/-!
Computing with sizes against computing with their values. Both may answer, and then the size that
is computed settles to the value that is. Where only the values are refused, it is because they show
a conflict that the sizes as written do not.
-/
namespace ShapeFlow
variable {σ : Expr.Binding} {e e' : Expr} {w : Window}

def ShapeError.IsConflict : ShapeError → Prop
  | .mismatch _ _ _ => True
  | .wideBorder _ _ => True
  | _ => False

theorem settlesTo_literal {v : Int} (h : (Expr.value v).SettlesTo σ e') : e' = .value v := by
  obtain ⟨x, hx, rfl⟩ := Expr.settlesTo_iff.mp h
  rw [Expr.eval_value_ok.mp hx]

theorem follows_outputSize (steady : w.Steady) (fits : w.StrideFits) (he : e.SettlesTo σ e') :
    Follows (Expr.SettlesTo σ) (w.outputSize e) (w.outputSize e') := by
  obtain ⟨n, hn, rfl⟩ := Expr.settlesTo_iff.mp he
  intro u answer
  have positive := Window.stride_positive answer
  rw [Window.outputSize_value positive fits, steady n] at answer
  split at answer
  · cases answer
  · rename_i enough
    obtain rfl := Except.ok.inj answer
    cases symbolic : w.outputSize e with
    | error why =>
      have short := Window.outputSize_refused positive fits hn symbolic
      rw [Window.dropOverhang_of_steady steady hn] at short
      exact absurd short enough
    | ok u =>
      have value := Window.eval_outputSize fits hn symbolic
      rw [Window.dropOverhang_of_steady steady hn] at value
      exact ⟨u, rfl, Expr.settlesTo_iff.mpr ⟨_, value, rfl⟩⟩

theorem reflectSize_symbolic (symbolic : ¬e.IsLiteral) (first last : Nat) :
    reflectSize e first last = .ok (Expr.add e (.ofNat (first + last))).simplify := by
  rw [reflectSize_eq]
  unfold checkBorders
  split
  · rename_i v
    exact absurd ⟨v, rfl⟩ symbolic
  · rfl

theorem reflectSize_value (n : Int) (first last : Nat) :
    reflectSize (.value n) first last =
      if n ≤ Expr.wrap (max first last) then .error (.wideBorder (Expr.wrap (max first last)) n)
      else .ok (.value (n + Expr.wrap (first + last : Nat))) := by
  have closed : (Expr.add (.value n) (.ofNat (first + last))).Closed := ⟨trivial, trivial⟩
  have padded : (Expr.add (.value n) (.ofNat (first + last))).eval (fun _ => none) =
      .ok (n + Expr.wrap (first + last : Nat)) := rfl
  rw [reflectSize_eq, Expr.simplify_closed closed padded, checkBorders]
  split <;> rfl

theorem eval_padded {n : Int} (he : e.eval σ = .ok n) (first last : Nat) :
    (Expr.add e (.ofNat (first + last))).simplify.eval σ =
      .ok (n + Expr.wrap (first + last : Nat)) := by
  have padded : (Expr.add e (.ofNat (first + last))).eval σ =
      .ok (n + Expr.wrap (first + last : Nat)) := by
    simp [Expr.ofNat, he]
  exact (Expr.reduce_means padded).form

theorem eval_reflectSize {n : Int} {first last : Nat} (he : e.eval σ = .ok n)
    (answer : reflectSize e first last = .ok e') :
    e'.eval σ = .ok (n + Expr.wrap (first + last : Nat)) := by
  rw [reflectSize_eq] at answer
  obtain ⟨_, -, rfl⟩ := map_eq_ok.mp answer
  exact eval_padded he first last

theorem tracks_reflectSize (he : e.SettlesTo σ e') (first last : Nat) :
    Tracks (Expr.SettlesTo σ) ShapeError.IsConflict (reflectSize e first last)
      (reflectSize e' first last) := by
  obtain ⟨n, hn, rfl⟩ := Expr.settlesTo_iff.mp he
  by_cases literal : e.IsLiteral
  · obtain ⟨m, rfl⟩ := literal
    obtain rfl := Expr.eval_value_ok.mp hn
    apply tracks_self
    intro u answer
    rw [reflectSize_value] at answer
    split at answer
    · cases answer
    · obtain rfl := Except.ok.inj answer
      exact Expr.settlesTo_value
  · rw [reflectSize_symbolic literal, reflectSize_value]
    split
    · constructor
      · intro u answer
        cases answer
      · intro _ why _ failed
        obtain rfl := Except.error.inj failed
        trivial
    · apply tracks_ok
      exact Expr.settlesTo_iff.mpr ⟨_, eval_padded hn first last, rfl⟩

/-- Joined literals are the broadcast of their values. -/
theorem joinSize_values {x y : Int} {u : Expr}
    (answer : Shape.joinSize (.value x) (.value y) = .ok u) :
    ∃ v, Expr.broadcastSize x y = .ok v ∧ .value v = u := by
  simp only [Expr.broadcastSize_ok]
  unfold Shape.joinSize at answer
  dsimp only at answer
  split at answer
  · rename_i like
    have same : x = y := Expr.value.inj like
    exact ⟨x, by omega, Except.ok.inj answer⟩
  · split at answer
    · exact ⟨y, by omega, Except.ok.inj answer⟩
    · split at answer
      · exact ⟨x, by omega, Except.ok.inj answer⟩
      · cases answer

/-- Sizes are only refused as literals that differ, which no binding reconciles. -/
theorem joinSize_refused {a b : Expr} {why : ShapeError}
    (refusal : Shape.joinSize a b = .error why) : why.IsConflict ∧
      ∀ τ : Expr.Binding, (Expr.broadcast a b).eval τ = .error .broadcastMismatch := by
  unfold Shape.joinSize at refusal
  split at refusal
  · cases refusal
  · rename_i unlike
    split at refusal
    · rename_i x
      split at refusal
      · cases refusal
      · rename_i left
        split at refusal
        · rename_i y
          split at refusal
          · cases refusal
          · rename_i right
            obtain rfl := Except.error.inj refusal
            refine ⟨trivial, ?_⟩
            intro τ
            have differ : x ≠ y := fun same => unlike (congrArg Expr.value same)
            change Expr.broadcastSize x y = .error .broadcastMismatch
            simp [Expr.broadcastSize, differ, left, right]
        · cases refusal
    · split at refusal <;> cases refusal
    · cases refusal

/-- Sizes whose values can be broadcast are joined, and the joined size has the broadcast value. -/
theorem joinSize_answers {a b : Expr} {x y v : Int} (ha : a.eval σ = .ok x) (hb : b.eval σ = .ok y)
    (joined : Expr.broadcastSize x y = .ok v) :
    ∃ u, Shape.joinSize a b = .ok u ∧ u.eval σ = .ok v := by
  have kept : (Expr.broadcast a b).eval σ = .ok v := by simp [ha, hb, joined]
  rw [Expr.broadcastSize_ok] at joined
  unfold Shape.joinSize
  split
  · rename_i like
    have same : x = y := Except.ok.inj (ha.symm.trans ((Expr.eval_alike like).trans hb))
    exact ⟨a, rfl, by rw [ha, Except.ok.injEq]; omega⟩
  · rename_i differ
    split
    · rw [Expr.eval_value_ok] at ha
      split
      · exact ⟨_, rfl, by rw [hb, Except.ok.injEq]; omega⟩
      · split
        · rw [Expr.eval_value_ok] at hb
          have distinct : x ≠ y := fun same => differ (by rw [ha, hb, same]; rfl)
          split
          · exact ⟨_, rfl, by rw [Expr.eval_value_ok]; omega⟩
          · omega
        · exact ⟨_, rfl, by rw [Expr.eval_value_ok]; omega⟩
    · rw [Expr.eval_value_ok] at hb
      split
      · exact ⟨_, rfl, by rw [ha, Except.ok.injEq]; omega⟩
      · exact ⟨_, rfl, by rw [Expr.eval_value_ok]; omega⟩
    · exact ⟨_, rfl, kept⟩

theorem tracks_joinSize {a a' b b' : Expr} (ha : a.SettlesTo σ a') (hb : b.SettlesTo σ b') :
    Tracks (Expr.SettlesTo σ) ShapeError.IsConflict (Shape.joinSize a b)
      (Shape.joinSize a' b') := by
  constructor
  · obtain ⟨x, hx, rfl⟩ := Expr.settlesTo_iff.mp ha
    obtain ⟨y, hy, rfl⟩ := Expr.settlesTo_iff.mp hb
    intro u answer
    obtain ⟨v, joined, rfl⟩ := joinSize_values answer
    obtain ⟨w, hw, value⟩ := joinSize_answers hx hy joined
    exact ⟨w, hw, Expr.settlesTo_iff.mpr ⟨v, value, rfl⟩⟩
  · intro _ why _ refusal
    exact (joinSize_refused refusal).1

end ShapeFlow
