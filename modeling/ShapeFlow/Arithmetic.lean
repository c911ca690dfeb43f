/-!
The limits of 64-bit words, and rounding division. The rounded quotients of unbounded integers carry
the theory; the quotients of signed words are what a machine computes, and are absent exactly where
no word holds the answer.
-/
namespace ShapeFlow.Word

/-- How many values a word has: two to the power of 64. -/
def count : Nat := 0x10000000000000000

def least : Int := -0x8000000000000000

def greatest : Int := 0x7fffffffffffffff

def of? (v : Int) : Option Int64 := if least ≤ v ∧ v ≤ greatest then some (.ofInt v) else none

end ShapeFlow.Word

namespace ShapeFlow.Division

def floor (a b : Int) : Int := a.fdiv b

def ceil (a b : Int) : Int := -((-a).fdiv b)

/-- The only quotient of two words that is not a word. -/
def overflows (a b : Int) : Bool := a == Word.least && b == -1

/-- No word answers a division by zero, nor the one quotient that leaves the words. -/
def undefinedOn (a b : Int64) : Bool := b == 0 || (a == Int64.minValue && b == -1)

/-- The truncated quotient, moved down by one when it is inexact and the signs differ. -/
def floorWord (a b : Int64) : Int64 :=
  let q := a / b
  if a % b ≠ 0 ∧ ¬(a < 0 ↔ b < 0) then q - 1 else q

/-- The truncated quotient, moved up by one when it is inexact and the signs agree. -/
def ceilWord (a b : Int64) : Int64 :=
  let q := a / b
  if a % b ≠ 0 ∧ (a < 0 ↔ b < 0) then q + 1 else q

def floorWord? (a b : Int64) : Option Int64 :=
  if undefinedOn a b then none else some (floorWord a b)

def ceilWord? (a b : Int64) : Option Int64 :=
  if undefinedOn a b then none else some (ceilWord a b)

end ShapeFlow.Division
