/-!
Decimal texts of 64-bit floating-point numbers. A text is read as the double nearest to it. A double
is written with the fewest digits that name it: among the decimals with that many digits that round
to it, the one nearest to it. All arithmetic is on natural numbers.
-/
namespace ShapeFlow.Decimal

/-- The nearest number that 53 binary digits and a power of two can write. A tie goes to the even
neighbour. -/
def nearest (n : Nat) : Nat :=
  let unit := Nat.pow 2 (Nat.log2 n - 52)
  let low := n / unit
  let rest := n % unit
  if unit < 2 * rest ∨ (unit = 2 * rest ∧ low % 2 = 1) then (low + 1) * unit else low * unit

def overflowBound : Nat := Nat.pow 2 1024 - Nat.pow 2 970

def productIsFinite (a b : Nat) : Bool := nearest a * nearest b < overflowBound

def digitsValue (ds : List Char) : Nat :=
  ds.foldl (fun n d => 10 * n + (d.toNat - '0'.toNat)) 0

def digitsOf (s : List Char) : Nat := digitsValue (s.filter Char.isDigit)

def cutAt (stops : List Char) (s : List Char) : List Char × List Char :=
  (s.takeWhile (· ∉ stops), (s.dropWhile (· ∉ stops)).drop 1)

/-- The double nearest to digits with or without a point and a power of ten. A power of ten far
outside the range of doubles counts as one just outside it. -/
def ofNumeral (s : List Char) : Float :=
  let (mantissa, power) := cutAt ['e', 'E'] s
  let scale : Int := if power.head? = some '-' then -(digitsOf power : Int) else digitsOf power
  let exponent := scale - (cutAt ['.'] mantissa).2.length
  Float.ofScientific (digitsOf mantissa) (exponent < 0) (min exponent.natAbs (s.length + 400))

def ofUnsigned (s : List Char) : Float :=
  match s.map Char.toLower with
  | ['n', 'a', 'n'] => 0.0 / 0.0
  | ['i', 'n', 'f'] => 1.0 / 0.0
  | ['i', 'n', 'f', 'i', 'n', 'i', 't', 'y'] => 1.0 / 0.0
  | _ => ofNumeral s

def ofText (text : String) : Float :=
  match text.toList with
  | '-' :: s => -(ofUnsigned s)
  | '+' :: s => ofUnsigned s
  | s => ofUnsigned s

/-- A positive binary number `mantissa * 2 ^ exponent`. `narrow` tells that the next smaller number
is only half as far away as the next larger one. -/
structure Binary where
  mantissa : Nat
  exponent : Int
  narrow : Bool
  deriving DecidableEq

structure Digits where
  digits : Nat
  exponent : Int
  deriving DecidableEq

def powerUp (base : Nat) (e : Int) : Nat := base.pow e.toNat

def powerDown (base : Nat) (e : Int) : Nat := base.pow (-e).toNat

def compareScaled (a : Nat) (p : Int) (b : Nat) (k : Int) : Ordering :=
  compare (a * powerUp 2 p * powerDown 10 k) (b * powerUp 10 k * powerDown 2 p)

namespace Binary

/-- Twice the gap to the point halfway to the next smaller number, in quarters of a unit. -/
def lowerGap (x : Binary) : Nat := if x.narrow then 1 else 2

/-- Whether a decimal rounds to the number. A point halfway to a neighbour does if the mantissa is
even. -/
def isNamedBy (x : Binary) (d : Digits) : Bool :=
  let quarter := x.exponent - 2
  let low := compareScaled (4 * x.mantissa - x.lowerGap) quarter d.digits d.exponent
  let high := compareScaled (4 * x.mantissa + 2) quarter d.digits d.exponent
  let even := x.mantissa % 2 == 0
  (low == .lt || (even && low == .eq)) && (high == .gt || (even && high == .eq))

def floorOn (x : Binary) (k : Int) : Nat :=
  (x.mantissa * powerUp 2 x.exponent * powerDown 10 k) /
    (powerUp 10 k * powerDown 2 x.exponent)

/-- Of two neighbours `d` and `d + 1` on the grid `10 ^ k`, the nearer one; a tie goes up. -/
def nearer (x : Binary) (d : Nat) (k : Int) : Nat :=
  if compareScaled (2 * x.mantissa) x.exponent (2 * d + 1) k == .lt then d else d + 1

def onGrid? (x : Binary) (k : Int) : Option Digits :=
  let d := x.floorOn k
  match x.isNamedBy ⟨d, k⟩, x.isNamedBy ⟨d + 1, k⟩ with
  | true, true => some ⟨x.nearer d k, k⟩
  | true, false => some ⟨d, k⟩
  | false, true => some ⟨d + 1, k⟩
  | false, false => none

def search (x : Binary) : Nat → Int → Digits
  | 0, k => ⟨x.floorOn k, k⟩
  | tries + 1, k => match x.onGrid? k with
    | some d => d
    | none => search x tries (k - 1)

/-- A grid no finer than the number: `2 ^ n` is below `10 ^ (0.30103 * n + 1)` for the exponents of
doubles. -/
def startGrid (x : Binary) : Int :=
  (x.exponent + (Nat.log2 x.mantissa + 1 : Nat)) * 30103 / 100000 + 1

/-- The shortest decimal that names the number. On a grid coarser than the number its two
neighbours are zero and one unit, so the search starts there and the first grid with a name has the
fewest digits; seventeen digits always name a double. -/
def shortest (x : Binary) : Digits := x.search 20 x.startGrid

end Binary

inductive Double where
  | nan
  | infinite (negative : Bool)
  | zero (negative : Bool)
  | finite (negative : Bool) (x : Binary)
  deriving DecidableEq

namespace Double

def fractions : Nat := 0x10000000000000

def ofBits (bits : UInt64) : Double :=
  let n := bits.toNat
  let negative := n.testBit 63
  let e := n / fractions % 2048
  let f := n % fractions
  if e = 2047 then (if f = 0 then .infinite negative else .nan)
  else if e = 0 then
    if f = 0 then .zero negative else .finite negative ⟨f, -1074, false⟩
  else .finite negative ⟨fractions + f, Int.ofNat e - 1075, decide (f = 0) && decide (1 < e)⟩

def ofFloat (x : Float) : Double := if x.isNaN then .nan else ofBits x.toBits

end Double

def zeros (n : Nat) : String := "".pushn '0' n

def positional (d : Digits) : String :=
  let s := toString d.digits
  if 0 ≤ d.exponent then s ++ zeros d.exponent.toNat
  else
    let fraction := (-d.exponent).toNat
    if fraction < s.length then
      String.ofList (s.toList.take (s.length - fraction)) ++ "." ++
        String.ofList (s.toList.drop (s.length - fraction))
    else "0." ++ zeros (fraction - s.length) ++ s

def scientific (d : Digits) : String :=
  let s := (toString d.digits).toList
  let e := d.exponent + (s.length - 1 : Nat)
  let fraction := match s.drop 1 with
    | [] => ""
    | rest => "." ++ String.ofList rest
  String.ofList (s.take 1) ++ fraction ++ "e" ++ toString e

def signed (negative : Bool) (text : String) : String := if negative then "-" ++ text else text

/-- The plain text: whole numbers have no point, and there is no exponent however large or small the
number is. -/
def plain (x : Float) : String :=
  match Double.ofFloat x with
  | .nan => "NaN"
  | .infinite negative => signed negative "inf"
  | .zero negative => signed negative "0"
  | .finite negative b => signed negative (positional b.shortest)

/-- Magnitudes from `10 ^ -4` to below `10 ^ 16` are written without an exponent. -/
def isPositional (d : Digits) : Bool :=
  let leading := d.exponent + ((toString d.digits).length - 1 : Nat)
  decide (-4 ≤ leading) && decide (leading < 16)

/-- The text that shows a floating-point number: a whole number ends in `.0`, and very small and
very large ones have an exponent. -/
def inspect (x : Float) : String :=
  match Double.ofFloat x with
  | .nan => "NaN"
  | .infinite negative => signed negative "inf"
  | .zero negative => signed negative "0.0"
  | .finite negative b =>
    let d := b.shortest
    signed negative <|
      if isPositional d then
        if 0 ≤ d.exponent then positional d ++ ".0" else positional d
      else scientific d

end ShapeFlow.Decimal
