import ShapeFlow.Arithmetic
/-!
Sources of integers drawn from ranges. A source is a state; a draw returns the integer and the next
state, so two runs from one state draw alike. A script replays a fixed cycle of choices, so that a
run can be made under the smallest or the largest sizes instead of random ones. A seeded source
steps by an odd constant, so it passes through every word before it repeats; each word drawn is the
two halves of a 128-bit product folded together.
-/
namespace ShapeFlow

inductive PolicyError where
  | emptyRange (lo hi : Int64)
  | tooManyClasses (count : Nat)
  deriving DecidableEq

def PolicyError.message : PolicyError → String
  | .emptyRange lo hi => "range [" ++ toString lo ++ ", " ++ toString hi ++ "] is empty"
  | .tooManyClasses count => "class count " ++ toString count ++ " exceeds the largest label"

/-- The integers from one word to another, of which there is at least one. -/
structure IntRange where
  lower : Int64
  upper : Int64
  ordered : lower ≤ upper
  deriving DecidableEq

namespace IntRange

def lo (r : IntRange) : Int := r.lower.toInt

def hi (r : IntRange) : Int := r.upper.toInt

theorem lo_le_hi (r : IntRange) : r.lo ≤ r.hi := Int64.le_iff_toInt_le.mp r.ordered

def of? (lower upper : Int64) : Option IntRange :=
  if h : lower ≤ upper then some ⟨lower, upper, h⟩ else none

def of (lower upper : Int64) : Except PolicyError IntRange :=
  if h : lower ≤ upper then .ok ⟨lower, upper, h⟩ else .error (.emptyRange lower upper)

def classes (n : Nat) : Except PolicyError IntRange :=
  if Word.greatest < n then .error (.tooManyClasses n) else of 0 (.ofInt (n - 1))

def contains (r : IntRange) (v : Int) : Bool := decide (r.lo ≤ v) && decide (v ≤ r.hi)

def size (r : IntRange) : Nat := (r.hi - r.lo).toNat + 1

/-- The size, as far as an unsigned 64-bit word can count. -/
def len (r : IntRange) : Nat := min r.size (Word.count - 1)

def render (r : IntRange) : String := "[" ++ toString r.lo ++ ", " ++ toString r.hi ++ "]"

end IntRange

class RandomSource (σ : Type) where
  draw : IntRange → σ → Int × σ

class SeededSource (γ : Type) extends RandomSource γ where
  ofSeed : UInt64 → γ
  word : γ → UInt64 × γ

/-- A source that only ever draws integers of the range it is asked for. -/
class LawfulSource (σ : Type) [RandomSource σ] : Prop where
  draw_mem (r : IntRange) (s : σ) :
    r.lo ≤ (RandomSource.draw r s).1 ∧ (RandomSource.draw r s).1 ≤ r.hi

namespace RandomSource

def drawAll {σ : Type} [RandomSource σ] : List IntRange → σ → List Int × σ
  | [], s => ([], s)
  | r :: rs, s =>
    let (v, s) := draw r s
    let (vs, s) := drawAll rs s
    (v :: vs, s)

end RandomSource

inductive Pick where
  | low
  | high
  | offset (k : UInt64)
  deriving DecidableEq

def Pick.apply (r : IntRange) : Pick → Int
  | .low => r.lo
  | .high => r.hi
  | .offset k => r.lo + (k.toNat % r.len : Nat)

structure Script where
  picks : List Pick
  cursor : Fin picks.length
  deriving DecidableEq

namespace Script

/-- The script that cycles through the choices; without any it always takes the lower bound. -/
def ofPicks : List Pick → Script
  | [] => ⟨[.low], ⟨0, by decide⟩⟩
  | p :: ps => ⟨p :: ps, ⟨0, by simp⟩⟩

def always (p : Pick) : Script := ofPicks [p]

def current (s : Script) : Pick := s.picks.get s.cursor

def advance (s : Script) : Script :=
  ⟨s.picks, ⟨(s.cursor.val + 1) % s.picks.length,
    Nat.mod_lt _ (Nat.lt_of_le_of_lt (Nat.zero_le _) s.cursor.isLt)⟩⟩

instance : RandomSource Script where
  draw r s := (s.current.apply r, s.advance)

end Script

structure Seeded where
  state : UInt64
  deriving DecidableEq

namespace Seeded

def ofSeed (seed : UInt64) : Seeded := ⟨seed⟩

def lowWord (n : Nat) : Nat := n % Word.count

def highWord (n : Nat) : Nat := n / Word.count

def word (g : Seeded) : UInt64 × Seeded :=
  let s := g.state + 0x2d358dccaa6c78a5
  let product := s.toNat * (s ^^^ 0x8bb84b93962eacc9).toNat
  (UInt64.ofNat (lowWord product ^^^ highWord product), ⟨s⟩)

/-- A number below `n`: the upper half of the first word times `n` whose lower half is at least
the number of words modulo `n`. At most `tries` words are thrown away. -/
def below (n : Nat) : Nat → Seeded → Nat × Seeded
  | 0, g => let (r, g) := g.word; (highWord (r.toNat * n), g)
  | tries + 1, g =>
    let (r, g) := g.word
    if Word.count % n ≤ lowWord (r.toNat * n) then (highWord (r.toNat * n), g) else below n tries g

/-- The range of all signed 64-bit words takes a word as it is; any other takes a number below its
size, and no more words are tried than the generator has. -/
def drawFrom (r : IntRange) (g : Seeded) : Int × Seeded :=
  if r.lo = Word.least ∧ r.hi = Word.greatest then
    let (w, g) := g.word
    ((w.toNat : Int).bmod Word.count, g)
  else
    let (k, g) := below r.size Word.count g
    (r.lo + k, g)

instance : SeededSource Seeded where
  draw := drawFrom
  ofSeed := ofSeed
  word := word

end Seeded

inductive Generator (γ : Type) where
  | seeded (g : γ)
  | scripted (s : Script)
  deriving DecidableEq

instance {γ : Type} [RandomSource γ] : RandomSource (Generator γ) where
  draw r
    | .seeded g => let (v, g) := RandomSource.draw r g; (v, .seeded g)
    | .scripted s => let (v, s) := RandomSource.draw r s; (v, .scripted s)

end ShapeFlow
