import Adoc.Binary64

/-! # JSON values

A `Json` is what a text spells, as far as it spells it. Objects are lists of members in the order
of the text, with any repetitions. Where the text breaks off or goes wrong, the value says so in
that place: a reader that looks at the values in order can then report what it met first, be it a
value of the wrong type or the place where the text went wrong. -/

namespace Adoc

/-! ## JSON numbers

A number is kept as it is spelled until its value is asked for. An integer has its exact value if
it fits 64 bits; any other number is rounded, step by step: the digits at its front, then their
scaling by a power of ten. -/

/-- A number as it is spelled. The digits are decimal digits. -/
structure Numeral where
  negative : Bool
  whole : List Char
  /-- The digits after the point, if there is one. -/
  fraction : Option (List Char)
  /-- Whether the exponent is negative, and its digits, if there is one. -/
  exponent : Option (Bool × List Char)
deriving DecidableEq, Repr

namespace Numeral

/-- The number that a numeral stands for. -/
inductive Value where
  | natural (n : Nat)
  | negative (n : Int)
  | float (x : Binary64)
deriving DecidableEq, Repr

/-- Put digits behind the number `n` as long as it stays below 2^64; also returns the digits that
are left. -/
def extend (n : Nat) : List Char → Nat × List Char
  | [] => (n, [])
  | c :: cs =>
    let m := Nat.ofDigitChars 10 [c] n
    if m < Nat.pow 2 64 then extend m cs else (n, c :: cs)

/-- Divide `x` by `10 ^ e`, in steps of at most 308 powers of ten, each rounded; 0 stays 0. -/
def divideByPowerOfTen (x : Magnitude) (e : Nat) : Option Magnitude :=
  if x.significand = 0 then some x
  else if e ≤ 308 then do x.div (← Magnitude.ofDecimal 1 e)
  else do divideByPowerOfTen (← x.div (← Magnitude.ofDecimal 1 308)) (e - 308)
termination_by e

/-- Multiply `n` by `10 ^ e`, rounded after the conversion of `n` and of the power of ten and after
each multiplication or division; `none` if the result is too large. -/
def scaled (n : Nat) (e : Int) : Option Magnitude := do
  let x ← Magnitude.nearest n 1
  if e < 0 then divideByPowerOfTen x e.natAbs
  else if e ≤ 308 then x.mul (← Magnitude.ofDecimal 1 e)
  else if n = 0 then some x
  else none

/-- The value of a numeral with a point, an exponent or too many digits, without its sign. As many
digits are taken from its front as give a number below 2^64; those left over of the whole part
count only by their place. -/
def approximate (n : Numeral) : Option Magnitude :=
  let (whole, wholeRest) := extend 0 n.whole
  -- digits of the fraction go on from there, even if digits of the whole part were left over
  let digits := n.fraction.getD []
  let (number, fractionRest) := extend whole digits
  let shift : Int := (wholeRest.length : Int) - (digits.length - fractionRest.length : Nat)
  match n.exponent with
  | none => scaled number shift
  | some (negative, digits) =>
    let e := Nat.ofDigitChars 10 digits 0
    if number = 0 then some .zero
    else if negative then scaled number (shift - e)
    else scaled number (shift + e)

/-- The number that the numeral stands for: an integer if it is spelled as one and fits 64 bits,
otherwise a rounded number. A minus before zero makes it a rounded number too. `none` if it is
beyond all numbers. -/
def value? (n : Numeral) : Option Value :=
  let whole := Nat.ofDigitChars 10 n.whole 0
  if n.fraction.isNone && n.exponent.isNone && !n.negative && whole < Nat.pow 2 64 then
    some (.natural whole)
  else if n.fraction.isNone && n.exponent.isNone && n.negative && 0 < whole &&
      whole ≤ Nat.pow 2 63 then
    some (.negative (-whole))
  else n.approximate.map fun x => .float (.finite n.negative x)

/-- The numeral of a natural number. -/
def ofNat (n : Nat) : Numeral := ⟨false, Nat.toDigits 10 n, none, none⟩

/-- The text of a numeral. -/
def print (n : Numeral) : List Char :=
  (if n.negative then ['-'] else []) ++ n.whole ++
    (match n.fraction with
      | none => []
      | some digits => '.' :: digits) ++
    (match n.exponent with
      | none => []
      | some (negative, digits) => 'e' :: (if negative then '-' :: digits else digits))

end Numeral

/-! ## Values -/

/-- The values of texts, each complete or up to where its text goes wrong. -/
inductive Json where
  | null
  | boolean (value : Bool)
  | number (numeral : Numeral)
  /-- A string; `none` if it spells half of a surrogate pair, which is part of no text. -/
  | string (text : Option String)
  /-- An array; not `closed` if the text goes wrong after the items. -/
  | array (items : List Json) (closed : Bool)
  /-- An object; not `closed` if the text goes wrong after the members. -/
  | object (members : List (Option String × Json)) (closed : Bool)
  /-- No value: the text goes wrong here. -/
  | broken

namespace Json

mutual

/-- Is the value spelled to its end? -/
def isWhole : Json → Bool
  | .null | .boolean _ | .number _ | .string _ => true
  | .array items closed => areWhole items && closed
  | .object members closed => membersAreWhole members && closed
  | .broken => false

/-- Are all the values spelled to their ends? -/
def areWhole : List Json → Bool
  | [] => true
  | v :: vs => v.isWhole && areWhole vs

/-- Are the values of all the members spelled to their ends? -/
def membersAreWhole : List (Option String × Json) → Bool
  | [] => true
  | (_, v) :: ms => v.isWhole && membersAreWhole ms

end

end Json

/-- How numbers with a point are written in messages on JSON: with a point up to the exponent 15,
from the exponent -5 on. -/
def Json.layout : Layout where
  tie := .toEven
  positional e := -5 ≤ e && e ≤ 15

end Adoc
