import Mathlib.Data.List.Forall2
import ShapeFlow.Layer.Apply
import ShapeFlow.Proofs.Expr.Evaluation
/-!
Two runs compared step by step. The first one follows the second: whatever the second answers, the
first answers too, and what it answers is related. Where only the second one is refused, the reason
is one that excuses it. Stated here for each step that layers are made of, whatever the relation.
-/
namespace ShapeFlow
variable {ε δ α β γ η : Type} {R R' : α → β → Prop} {E E' : δ → Prop}

def Follows (R : α → β → Prop) (x : Except ε α) (y : Except δ β) : Prop :=
  ∀ b, y = .ok b → ∃ a, x = .ok a ∧ R a b

/-- The first run follows the second, and where it alone goes on, the other's error is excused. -/
structure Tracks (R : α → β → Prop) (E : δ → Prop) (x : Except ε α) (y : Except δ β) : Prop where
  follows : Follows R x y
  excused : ∀ a why, x = .ok a → y = .error why → E why

theorem tracks_ok {a : α} {b : β} (h : R a b) : Tracks (ε := ε) R E (.ok a) (.ok b) := by
  constructor
  · intro c answer
    obtain rfl := Except.ok.inj answer
    exact ⟨a, rfl, h⟩
  · intro _ why _ failed
    cases failed

theorem tracks_error {e : ε} {why : δ} : Tracks R E (.error e) (.error why) := by
  constructor
  · intro b answer
    cases answer
  · intro a _ answer
    cases answer

theorem tracks_bind {Q : γ → η → Prop} {x : Except ε α} {y : Except δ β} {f : α → Except ε γ}
    {g : β → Except δ η} (first : Tracks R E x y) (rest : ∀ a b, R a b → Tracks Q E (f a) (g b)) :
    Tracks Q E (x >>= f) (y >>= g) := by
  constructor
  · intro c answer
    obtain ⟨b, hb, hc⟩ := bind_eq_ok.mp answer
    obtain ⟨a, ha, related⟩ := first.follows b hb
    obtain ⟨d, hd, result⟩ := (rest a b related).follows c hc
    exact ⟨d, bind_eq_ok.mpr ⟨a, ha, hd⟩, result⟩
  · intro d why answer failed
    obtain ⟨a, ha, hd⟩ := bind_eq_ok.mp answer
    cases hy : y with
    | error cause =>
      rw [hy] at failed
      obtain rfl := Except.error.inj failed
      exact first.excused a cause ha hy
    | ok b =>
      rw [hy] at failed
      obtain ⟨a', ha', related⟩ := first.follows b hy
      obtain rfl := Except.ok.inj (ha.symm.trans ha')
      exact (rest a b related).excused d why hd failed

theorem tracks_mono {x : Except ε α} {y : Except δ β} (tracks : Tracks R E x y)
    (weaker : ∀ a b, R a b → R' a b) (excused : ∀ why, E why → E' why) : Tracks R' E' x y := by
  constructor
  · intro b answer
    obtain ⟨a, ha, related⟩ := tracks.follows b answer
    exact ⟨a, ha, weaker a b related⟩
  · intro a why answer failed
    exact excused why (tracks.excused a why answer failed)

theorem tracks_of_follows {x : Except ε α} {y : Except δ β} (follows : Follows R x y)
    (any : ∀ why, E why) : Tracks R E x y := ⟨follows, fun _ why _ _ => any why⟩

/-- What holds of the answers one binding at a time holds of them for all bindings. -/
theorem tracks_forall {ι : Type} [Nonempty ι] {S : ι → α → β → Prop} {x : Except ε α}
    {y : Except δ β} (tracks : ∀ i, Tracks (S i) E x y) :
    Tracks (fun a b => ∀ i, S i a b) E x y := by
  obtain ⟨i⟩ := ‹Nonempty ι›
  constructor
  · intro b answer
    obtain ⟨a, ha, _⟩ := (tracks i).follows b answer
    refine ⟨a, ha, fun j => ?_⟩
    obtain ⟨a', ha', related⟩ := (tracks j).follows b answer
    obtain rfl := Except.ok.inj (ha.symm.trans ha')
    exact related
  · exact (tracks i).excused

/-- A run tracks itself. -/
theorem tracks_self {S : α → α → Prop} {x : Except δ α} (related : ∀ a, x = .ok a → S a a) :
    Tracks S E x x := by
  cases x with
  | error why => exact tracks_error
  | ok a => exact tracks_ok (related a rfl)

theorem tracks_same {x : Except δ α} : Tracks (fun _ _ => True) E x x :=
  tracks_self fun _ _ => trivial

def Fault.DueTo (E : ShapeError → Prop) : Fault → Prop
  | .refused why => E why
  | .outOfBounds => False

open Applied

theorem tracks_unlessRefused {E : ShapeError → Prop} {x : Except ShapeError α}
    {y : Except ShapeError β} (tracks : Tracks R E x y) :
    Tracks R (Fault.DueTo E) (unlessRefused x) (unlessRefused y) := by
  cases y with
  | ok b =>
    obtain ⟨a, rfl, related⟩ := tracks.follows b rfl
    exact tracks_ok related
  | error why =>
    cases x with
    | error cause => exact tracks_error
    | ok a =>
      constructor
      · intro b answer
        cases answer
      · intro _ fault _ failed
        obtain rfl := Except.error.inj failed
        exact tracks.excused a why rfl rfl

theorem tracks_inBounds {E : Fault → Prop} {x : Option α} {y : Option β}
    (related : Option.Rel R x y) : Tracks R E (inBounds x) (inBounds y) := by
  cases related with
  | none => exact tracks_error
  | some h => exact tracks_ok h

theorem forall₂_set {as : List α} {bs : List β} {a : α} {b : β} (h : List.Forall₂ R as bs)
    (hab : R a b) (i : Nat) : List.Forall₂ R (as.set i a) (bs.set i b) := by
  induction h generalizing i with
  | nil => exact .nil
  | cons head tail ih =>
    cases i with
    | zero => exact .cons hab tail
    | succ i => exact .cons head (ih i)

theorem forall₂_eraseIdx {as : List α} {bs : List β} (h : List.Forall₂ R as bs) (i : Nat) :
    List.Forall₂ R (as.eraseIdx i) (bs.eraseIdx i) := by
  induction h generalizing i with
  | nil => exact .nil
  | cons head tail ih =>
    cases i with
    | zero => exact tail
    | succ i => exact .cons head (ih i)

theorem forall₂_getElem? {as : List α} {bs : List β} (h : List.Forall₂ R as bs) (i : Nat) :
    Option.Rel R as[i]? bs[i]? := by
  induction h generalizing i with
  | nil => exact .none
  | cons head tail ih =>
    cases i with
    | zero => exact .some head
    | succ i => exact ih i

def Shape.Related (R : Expr → Expr → Prop) (s s' : Shape) : Prop := List.Forall₂ R s.dims s'.dims

section Steps
variable {R R' : Expr → Expr → Prop} {E : Fault → Prop} {e e' : Expr} {s s' : Shape}

theorem related_ndim (h : s.Related R s') : s.ndim = s'.ndim := h.length_eq

theorem related_mono (weaker : ∀ a b, R a b → R' a b) (h : s.Related R s') : s.Related R' s' :=
  List.Forall₂.imp weaker h

theorem tracks_checkRank (same : s.ndim = s'.ndim) (least greatest : Nat) (expected : String) :
    Tracks (fun _ _ => True) E (checkRank s least greatest expected)
      (checkRank s' least greatest expected) := by
  rw [checkRank, same]
  exact tracks_same

theorem tracks_fromEnd (h : s.Related R s') (k : Nat) :
    Tracks (· = ·) E (s.fromEnd k) (s'.fromEnd k) := by
  unfold Shape.fromEnd
  rw [related_ndim h]
  exact tracks_self fun _ _ => rfl

theorem tracks_sizeAt (h : s.Related R s') (i : Nat) : Tracks R E (s.sizeAt i) (s'.sizeAt i) :=
  tracks_inBounds (forall₂_getElem? h i)

theorem tracks_setSize (h : s.Related R s') (he : R e e') (i : Nat) :
    Tracks (Shape.Related R) E (s.setSize i e) (s'.setSize i e') := by
  apply tracks_inBounds
  unfold Shape.withDim?
  rw [related_ndim h]
  split
  · exact .some (forall₂_set h he i)
  · exact .none

theorem tracks_dropAxis (h : s.Related R s') (i : Nat) :
    Tracks (Shape.Related R) E (s.dropAxis i) (s'.dropAxis i) := by
  apply tracks_inBounds
  unfold Shape.withoutDim?
  rw [related_ndim h]
  split
  · exact .some (forall₂_eraseIdx h i)
  · exact .none

end Steps

/-- A way to compare two runs of a layer by the sizes that stand at the same places in them. -/
structure Comparison where
  given : Expr → Expr → Prop
  met : Expr → Expr → Prop
  window : Window → Prop
  border : Nat → Nat → Prop
  excuse : ShapeError → Prop

/-- Every computation with sizes keeps to the comparison. Sizes are compared as they are written, so
a literal may only be related to itself. -/
structure Comparison.Sound (C : Comparison) : Prop where
  met_of_given : ∀ e e', C.given e e' → C.met e e'
  literal : ∀ v e', C.met (.value v) e' → e' = .value v
  one : C.given (.value 1) (.value 1)
  mismatch : ∀ what e a, C.excuse (.mismatch what e a)
  window : ∀ w e e', C.window w → C.met e e' →
    Tracks C.met C.excuse (w.outputSize e) (w.outputSize e')
  border : ∀ first last e e', C.border first last → C.met e e' →
    Tracks C.met C.excuse (reflectSize e first last) (reflectSize e' first last)
  join : ∀ a a' b b', C.given a a' → C.given b b' →
    Tracks C.given C.excuse (Shape.joinSize a b) (Shape.joinSize a' b')

section Sizes
variable {C : Comparison} (sound : C.Sound) {e e' a a' : Expr} {s s' t t' : Shape}
  {es es' as as' bs bs' : List Expr}
include sound

/-- Two sizes that disagree as they are written disagree in the second run too. -/
theorem tracks_checkSize (what : String) (he : C.met e e') (ha : C.met a a') :
    Tracks (fun _ _ => True) (Fault.DueTo C.excuse) (checkSize what e a)
      (checkSize what e' a') := by
  constructor
  · intro u answer
    refine ⟨(), ?_, trivial⟩
    unfold checkSize
    split
    · rw [sound.literal _ _ he, sound.literal _ _ ha] at answer
      exact answer
    · rfl
  · intro _ fault _ failed
    unfold checkSize at failed
    split at failed
    · split at failed
      · obtain rfl := Except.error.inj failed
        exact sound.mismatch _ _ _
      · cases failed
    · cases failed

theorem tracks_checkSizes (what : String) (hes : List.Forall₂ C.met es es')
    (has : List.Forall₂ C.met as as') :
    Tracks (fun _ _ => True) (Fault.DueTo C.excuse) (checkSizes what es as)
      (checkSizes what es' as') := by
  induction hes generalizing as as' with
  | nil => exact tracks_same
  | cons he _ ih =>
    cases has with
    | nil => exact tracks_same
    | cons ha rest =>
      apply tracks_bind (tracks_checkSize sound what he ha)
      intro _ _ _
      exact ih rest

theorem tracks_joinSizes (has : List.Forall₂ C.given as as') (hbs : List.Forall₂ C.given bs bs') :
    Tracks (List.Forall₂ C.given) C.excuse (Shape.joinSizes as bs) (Shape.joinSizes as' bs') := by
  induction has generalizing bs bs' with
  | nil => exact tracks_ok .nil
  | cons ha _ ih =>
    cases hbs with
    | nil => exact tracks_ok .nil
    | cons hb rest =>
      apply tracks_bind (sound.join _ _ _ _ ha hb)
      intro c c' hc
      apply tracks_bind (ih rest)
      intro cs cs' hcs
      exact tracks_ok (.cons hc hcs)

theorem related_padTo (h : List.Forall₂ C.given as as') (n : Nat) :
    List.Forall₂ C.given (Shape.padTo n as) (Shape.padTo n as') := by
  unfold Shape.padTo
  rw [h.length_eq]
  apply List.rel_append _ h
  rw [List.forall₂_same]
  intro e member
  rw [List.eq_of_mem_replicate member]
  exact sound.one

theorem tracks_join (hs : s.Related C.given s') (ht : t.Related C.given t') :
    Tracks (Shape.Related C.given) C.excuse (s.join t) (s'.join t') := by
  unfold Shape.join
  rw [related_ndim hs, related_ndim ht]
  have front := related_padTo sound hs (max s'.ndim t'.ndim)
  have back := related_padTo sound ht (max s'.ndim t'.ndim)
  apply tracks_bind (tracks_joinSizes sound front back)
  intro dims dims' h
  exact tracks_ok h

end Sizes
end ShapeFlow
