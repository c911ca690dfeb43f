import ShapeFlow.Proofs.Random.Offsets
/-!
Replayed choices. A machine keeps the place of the next choice as a number and has no assurance that
there is a choice. Each draw leaves the number below the number of choices, so a replay never stops:
it draws what the script does, the choice whose turn it is from the range that is asked for.
-/
namespace ShapeFlow
variable {rs : List IntRange} {picks : List Pick}

/-- The choice whose turn it is after `n` draws; without any it is the lower bound. -/
def Pick.inTurn (picks : List Pick) (n : Nat) : Pick := picks.getD (n % picks.length) .low

structure Pick.Takes (p : Pick) (r : IntRange) (v : Int) : Prop where
  mem : r.lo ≤ v ∧ v ≤ r.hi
  low : p = .low → v = r.lo
  high : p = .high → v = r.hi
  offset : ∀ k, p = .offset k → v = r.lo + (k.toNat % r.len : Nat)

def Script.replay (s : Script) : Replay := ⟨s.picks, s.cursor⟩

theorem IntRange.lenWord_ne_zero (r : IntRange) : r.lenWord ≠ 0 := by
  unfold lenWord
  split
  · rename_i wrapped
    intro zero
    rw [zero] at wrapped
    exact absurd wrapped (by decide)
  · assumption

namespace Pick

theorem applyWord?_eq (r : IntRange) (p : Pick) : p.applyWord? r = some (p.applyWord r) := by
  cases p with
  | low => rfl
  | high => rfl
  | offset k => exact if_neg r.lenWord_ne_zero

theorem takes_applyWord (r : IntRange) (p : Pick) : p.Takes r (p.applyWord r).toInt := by
  rw [applyWord_toInt r p]
  refine ⟨p.apply_mem r, ?low, ?high, ?offset⟩
  case low =>
    rintro rfl
    rfl
  case high =>
    rintro rfl
    rfl
  case offset =>
    rintro k rfl
    rfl

end Pick

namespace Script

theorem replay_ofPicks (picks : List Pick) : (ofPicks picks).replay = Replay.ofPicks picks := by
  cases picks with
  | nil => rfl
  | cons p ps => rfl

theorem pickAfter_inTurn (picks : List Pick) (n : Nat) :
    (ofPicks picks).pickAfter n = Pick.inTurn picks n := by
  cases picks with
  | nil => simp [pickAfter, ofPicks, Pick.inTurn]
  | cons p ps =>
    have inside : n % (p :: ps).length < (p :: ps).length := Nat.mod_lt _ (Nat.succ_pos _)
    rw [Pick.inTurn, List.getD_eq_getElem?_getD, List.getElem?_eq_getElem inside, Option.getD_some]
    simp only [pickAfter, ofPicks, Nat.zero_add, List.get_eq_getElem]

/-- The machine finds the choice at the cursor, and what it keeps is the script moved on. -/
theorem draw?_replay (r : IntRange) (s : Script) :
    s.replay.draw? r = some (s.current.applyWord r, s.advance.replay) := by
  have found : s.replay.picks[s.replay.next]? = some s.current :=
    List.getElem?_eq_getElem s.cursor.isLt
  unfold Replay.draw?
  rw [found, Option.bind_eq_bind, Option.bind_some, Pick.applyWord?_eq]
  rfl

theorem drawAll?_replay (rs : List IntRange) (s : Script) :
    s.replay.drawAll? rs =
      some (rs.mapIdx fun n r => (s.pickAfter n).applyWord r,
        (RandomSource.drawAll rs s).2.replay) := by
  induction rs generalizing s with
  | nil => rfl
  | cons r rs ih =>
    simp only [Replay.drawAll?, draw?_replay, Option.bind_eq_bind, Option.bind_some, ih,
      List.mapIdx_cons, pickAfter_zero, pickAfter_advance, RandomSource.drawAll, RandomSource.draw]
    rfl

/-- Draws never change the choices. -/
theorem drawAll_picks (rs : List IntRange) (s : Script) :
    (RandomSource.drawAll rs s).2.picks = s.picks := by
  induction rs generalizing s with
  | nil => rfl
  | cons r rs ih => exact ih s.advance

theorem drawAll?_ofPicks (picks : List Pick) (rs : List IntRange) :
    (Replay.ofPicks picks).drawAll? rs =
      some (rs.mapIdx fun n r => (Pick.inTurn picks n).applyWord r,
        (RandomSource.drawAll rs (ofPicks picks)).2.replay) := by
  rw [← replay_ofPicks, drawAll?_replay]
  simp only [pickAfter_inTurn]

/-- The integers that a script draws are those of the words that the machine draws. -/
theorem drawAll_ofPicks (picks : List Pick) (rs : List IntRange) :
    (RandomSource.drawAll rs (ofPicks picks)).1 =
      (rs.mapIdx fun n r => (Pick.inTurn picks n).applyWord r).map (·.toInt) := by
  rw [drawAll_script]
  apply List.ext_getElem
  · rw [List.length_map, List.length_mapIdx, List.length_mapIdx]
  · intro n _ _
    rw [List.getElem_map, List.getElem_mapIdx, List.getElem_mapIdx, pickAfter_inTurn,
      Pick.applyWord_toInt]

end Script

/-- A script of words draws from any ranges of words, and from each range the choice whose turn it
is: the integer lies in the range and depends on nothing but the range and the choice. The number of
the next choice stays below the number of choices, so the machine finds a choice at every draw. -/
theorem scripted_draws_in_turn (picks : List Pick) (rs : List IntRange) :
    ∃ vs t, (Replay.ofPicks picks).drawAll? rs = some (vs, t) ∧
      t.picks = (Replay.ofPicks picks).picks ∧ t.next < t.picks.length ∧
      vs.length = rs.length ∧
      (∀ n r, rs[n]? = some r → ∃ v, vs[n]? = some v ∧
        v = (Pick.inTurn picks n).applyWord r ∧ (Pick.inTurn picks n).Takes r v.toInt) ∧
      (RandomSource.drawAll rs (Script.ofPicks picks)).1 = vs.map (·.toInt) := by
  refine ⟨_, _, Script.drawAll?_ofPicks picks rs, ?kept, Fin.isLt _, List.length_mapIdx, ?drawn,
    Script.drawAll_ofPicks picks rs⟩
  case kept =>
    rw [← Script.replay_ofPicks]
    exact Script.drawAll_picks rs (Script.ofPicks picks)
  case drawn =>
    intro n r asked
    refine ⟨(Pick.inTurn picks n).applyWord r, ?_, rfl,
      Pick.takes_applyWord r (Pick.inTurn picks n)⟩
    rw [List.getElem?_mapIdx, asked]
    rfl

/-- The remainder of the first choice is no signed word; it is drawn again when its turn comes round. -/
theorem scripted_draws_in_turn_past_half :
    let widest : IntRange := ⟨Int64.minValue, Int64.maxValue, by decide⟩
    let picks : List Pick := [.offset 0x8000000000000005, .low, .high]
    let rs : List IntRange := [widest, ⟨-3, 3, by decide⟩, ⟨10, 14, by decide⟩, widest]
    ∃ vs t, (Replay.ofPicks picks).drawAll? rs = some (vs, t) ∧
      vs.map (·.toInt) = [5, -3, 14, 5] ∧ t.next < 3 := by
  intro widest picks rs
  obtain ⟨vs, t, run, kept, next, -, -, integers⟩ := scripted_draws_in_turn picks rs
  have drawn : (RandomSource.drawAll rs (Script.ofPicks picks)).1 = [5, -3, 14, 5] := by decide
  rw [kept] at next
  exact ⟨vs, t, run, integers.symm.trans drawn, next⟩

end ShapeFlow
