import ShapeFlow.Random.Source
/-!
Scripted draws on a machine of 64-bit words. The length of a range is the distance of its bounds and
one more, except that it stops at the greatest unsigned word. What the length leaves of an offset is
read as a signed word, which may come out negative, and is added to the lower bound with wrap-around.
The place of the next choice is only a number to the machine, which looks the choice up and stops if
there is none.
-/
namespace ShapeFlow
namespace IntRange

def distanceWord (r : IntRange) : UInt64 :=
  if r.upper < r.lower then r.lower.toUInt64 - r.upper.toUInt64
  else r.upper.toUInt64 - r.lower.toUInt64

/-- The length, which would be zero where one more wraps. -/
def lenWord (r : IntRange) : UInt64 :=
  if r.distanceWord + 1 = 0 then r.distanceWord else r.distanceWord + 1

end IntRange

def Pick.applyWord (r : IntRange) : Pick → Int64
  | .low => r.lower
  | .high => r.upper
  | .offset k => r.lower + (k % r.lenWord).toInt64

/-- The machine also stops at a remainder by a length of zero. -/
def Pick.applyWord? (r : IntRange) : Pick → Option Int64
  | .offset k => if r.lenWord = 0 then none else some ((offset k).applyWord r)
  | p => some (p.applyWord r)

structure Replay where
  picks : List Pick
  next : Nat
  deriving DecidableEq

namespace Replay

/-- The replay that cycles through the choices; without any it always takes the lower bound. -/
def ofPicks (picks : List Pick) : Replay := ⟨if picks.isEmpty then [.low] else picks, 0⟩

def draw? (r : IntRange) (t : Replay) : Option (Int64 × Replay) := do
  let p ← t.picks[t.next]?
  let v ← p.applyWord? r
  return (v, ⟨t.picks, (t.next + 1) % t.picks.length⟩)

def drawAll? : List IntRange → Replay → Option (List Int64 × Replay)
  | [], t => some ([], t)
  | r :: rs, t => do
    let (v, t) ← t.draw? r
    let (vs, t) ← drawAll? rs t
    return (v :: vs, t)

end Replay
end ShapeFlow
