import ShapeFlow.Decimal
import ShapeFlow.Arithmetic
/-!
Reading JSON texts. The grammar is taken strictly: nothing but blanks may stand outside the value,
a number has no superfluous zeros, a text holds no raw control characters and no half of a
surrogate pair, and no number may leave the range of doubles.
-/
namespace ShapeFlow.Text

/-- A JSON value. The members of an object keep their order and repetitions. Numbers that are
written as integers are told from all others, whose values are not kept. -/
inductive Json where
  | null
  | bool (b : Bool)
  | integer (n : Int)
  | real
  | string (s : String)
  | array (items : List Json)
  | object (members : List (String × Json))

namespace Json

def skipBlanks : List Char → List Char
  | ' ' :: r => skipBlanks r
  | '\n' :: r => skipBlanks r
  | '\t' :: r => skipBlanks r
  | '\r' :: r => skipBlanks r
  | cs => cs

/-! ### Numbers -/

def wholeDigits : List Char → Option (List Char × List Char)
  | '0' :: d :: r => if d.isDigit then none else some (['0'], d :: r)
  | cs => match cs.span Char.isDigit with
    | ([], _) => none
    | (ds, r) => some (ds, r)

def fractionDigits : List Char → Option (List Char × List Char)
  | '.' :: cs => match cs.span Char.isDigit with
    | ([], _) => none
    | (ds, r) => some (ds, r)
  | cs => some ([], cs)

def exponentDigits (negative : Bool) (cs : List Char) : Option (Int × List Char) :=
  match cs.span Char.isDigit with
  | ([], _) => none
  | (ds, r) =>
    let n : Int := Decimal.digitsValue ds
    some (if negative then -n else n, r)

def exponentPart : List Char → Option (Int × List Char)
  | c :: cs =>
    if c = 'e' ∨ c = 'E' then
      match cs with
      | '-' :: r => exponentDigits true r
      | '+' :: r => exponentDigits false r
      | r => exponentDigits false r
    else some (0, c :: cs)
  | [] => some (0, [])

/-- A number continued by digits up to the first one with which no 64-bit word would hold it, and
how many digits are left over. -/
def joinDigits (n : Nat) : List Char → Nat × Nat
  | [] => (n, 0)
  | d :: ds =>
    let m := 10 * n + (d.toNat - '0'.toNat)
    if m < Word.count then joinDigits m ds else (n, (d :: ds).length)

def isFinite (n : Nat) (exponent : Int) : Bool :=
  if n = 0 ∨ exponent < 0 then true
  else if 308 < exponent then false
  else Decimal.productIsFinite n (Decimal.powerUp 10 exponent)

/-- Whether a number is in the range of doubles. Digits that no word holds are left out; in the
whole part they still raise the power of ten. -/
def inRange (whole fraction : List Char) (exponent : Int) : Bool :=
  let (n, skippedWhole) := joinDigits 0 whole
  let (n, skippedFraction) := joinDigits n fraction
  isFinite n (exponent + skippedWhole + skippedFraction - fraction.length)

def unsignedNumber (negative : Bool) (cs : List Char) : Option (Json × List Char) := do
  let (whole, cs) ← wholeDigits cs
  let (fraction, afterFraction) ← fractionDigits cs
  let (exponent, rest) ← exponentPart afterFraction
  if !inRange whole fraction exponent then none
  else if rest.length < cs.length then return (.real, rest)
  else
    let n : Int := Decimal.digitsValue whole
    if negative then return (if n = 0 then .real else .integer (-n), rest)
    else return (.integer n, rest)

def number : List Char → Option (Json × List Char)
  | '-' :: cs => unsignedNumber true cs
  | cs => unsignedNumber false cs

/-! ### Texts -/

def hexDigit? (c : Char) : Option Nat :=
  if c.isDigit then some (c.toNat - '0'.toNat)
  else if 'a' ≤ c ∧ c ≤ 'f' then some (c.toNat - 'a'.toNat + 10)
  else if 'A' ≤ c ∧ c ≤ 'F' then some (c.toNat - 'A'.toNat + 10)
  else none

def unit? (a b c d : Char) : Option Nat := do
  let a ← hexDigit? a
  let b ← hexDigit? b
  let c ← hexDigit? c
  let d ← hexDigit? d
  return ((a * 16 + b) * 16 + c) * 16 + d

def isHighSurrogate (u : Nat) : Bool := 0xD800 ≤ u && u ≤ 0xDBFF

def isLowSurrogate (u : Nat) : Bool := 0xDC00 ≤ u && u ≤ 0xDFFF

def escaped? : Char → Option Char
  | '"' => some '"'
  | '\\' => some '\\'
  | '/' => some '/'
  | 'b' => some '\x08'
  | 'f' => some '\x0c'
  | 'n' => some '\n'
  | 'r' => some '\r'
  | 't' => some '\t'
  | _ => none

def characters : List Char → Option (List Char × List Char)
  | [] => none
  | '"' :: r => some ([], r)
  | '\\' :: 'u' :: a :: b :: c :: d :: r => do
    let u ← unit? a b c d
    if isLowSurrogate u then none
    else if isHighSurrogate u then
      match r with
      | '\\' :: 'u' :: e :: f :: g :: h :: r => do
        let v ← unit? e f g h
        if isLowSurrogate v then
          let (cs, r) ← characters r
          return (Char.ofNat (0x10000 + (u - 0xD800) * 0x400 + (v - 0xDC00)) :: cs, r)
        else none
      | _ => none
    else
      let (cs, r) ← characters r
      return (Char.ofNat u :: cs, r)
  | '\\' :: e :: r => do
    let c ← escaped? e
    let (cs, r) ← characters r
    return (c :: cs, r)
  | c :: r =>
    if c.toNat < 0x20 ∨ c = '\\' then none
    else do
      let (cs, r) ← characters r
      return (c :: cs, r)

def text (cs : List Char) : Option (String × List Char) := do
  let (cs, r) ← characters cs
  return (String.ofList cs, r)

/-! ### Values -/

def maxDepth : Nat := 127

mutual

/-- A value within `depth` more levels of nesting. Each call takes one unit of fuel. -/
def value : Nat → Nat → List Char → Option (Json × List Char)
  | 0, _, _ => none
  | fuel + 1, depth, cs => match skipBlanks cs with
    | 'n' :: 'u' :: 'l' :: 'l' :: r => some (.null, r)
    | 't' :: 'r' :: 'u' :: 'e' :: r => some (.bool true, r)
    | 'f' :: 'a' :: 'l' :: 's' :: 'e' :: r => some (.bool false, r)
    | '"' :: r => do
      let (s, r) ← text r
      return (.string s, r)
    | '[' :: r => match depth with
      | 0 => none
      | depth + 1 => match skipBlanks r with
        | ']' :: r => some (.array [], r)
        | r => do
          let (items, r) ← items fuel depth r
          return (.array items, r)
    | '\x7b' :: r => match depth with
      | 0 => none
      | depth + 1 => match skipBlanks r with
        | '\x7d' :: r => some (.object [], r)
        | r => do
          let (members, r) ← members fuel depth r
          return (.object members, r)
    | r => number r

def items : Nat → Nat → List Char → Option (List Json × List Char)
  | 0, _, _ => none
  | fuel + 1, depth, cs => do
    let (v, r) ← value fuel depth cs
    match skipBlanks r with
    | ']' :: r => return ([v], r)
    | ',' :: r => do
      let (vs, r) ← items fuel depth r
      return (v :: vs, r)
    | _ => none

def members : Nat → Nat → List Char → Option (List (String × Json) × List Char)
  | 0, _, _ => none
  | fuel + 1, depth, cs => do
    match skipBlanks cs with
    | '"' :: r => do
      let (name, r) ← text r
      match skipBlanks r with
      | ':' :: r => do
        let (v, r) ← value fuel depth r
        match skipBlanks r with
        | '\x7d' :: r => return ([(name, v)], r)
        | ',' :: r => do
          let (vs, r) ← members fuel depth r
          return ((name, v) :: vs, r)
        | _ => none
      | _ => none
    | _ => none

end

/-- The value that a text holds. Every second call takes a character, so the length of the text
bounds the calls. -/
def ofString? (s : String) : Option Json := do
  let cs := s.toList
  let (v, r) ← value (2 * cs.length + 2) maxDepth cs
  match skipBlanks r with
  | [] => return v
  | _ => none

end Json
end ShapeFlow.Text
