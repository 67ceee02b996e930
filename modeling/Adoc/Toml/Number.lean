import Adoc.Toml

/-! # Numbers in TOML

Integers are decimal, or hexadecimal, octal or binary behind `0x`, `0o` or `0b`, and fit 64 bits
with a sign. Between two digits a low line may stand. -/

namespace Adoc.Toml

/-- Further digits at the front of `s`, each perhaps with a low line before it, and the rest. -/
def readMoreDigits (isDigit : Char → Bool) : List Char → List Char × List Char
  | '_' :: c :: s =>
    if isDigit c then
      let (digits, rest) := readMoreDigits isDigit s
      (c :: digits, rest)
    else ([], '_' :: c :: s)
  | c :: s =>
    if isDigit c then
      let (digits, rest) := readMoreDigits isDigit s
      (c :: digits, rest)
    else ([], c :: s)
  | [] => ([], [])

/-- The digits at the front of `s`, at least one, and the rest. -/
def readDigits (isDigit : Char → Bool) : List Char → Option (List Char × List Char)
  | c :: s =>
    if isDigit c then
      let (digits, rest) := readMoreDigits isDigit s
      some (c :: digits, rest)
    else none
  | [] => none

/-- A sign, if there is one: is it a minus? -/
def readSign : List Char → Bool × List Char
  | '+' :: s => (false, s)
  | '-' :: s => (true, s)
  | s => (false, s)

/-- Decimal digits that do not start with a superfluous zero: a zero stands alone. -/
def readWhole : List Char → Option (List Char × List Char)
  | '0' :: s => some (['0'], s)
  | s => readDigits Char.isDigit s

/-- The value of a digit of any base up to 16. -/
def digitValue (c : Char) : Nat :=
  if c.isDigit then c.toNat - 48 else if c.isUpper then c.toNat - 55 else c.toNat - 87

/-- The number spelled by `digits` to a base. -/
def valueOf (base : Nat) (digits : List Char) : Nat :=
  digits.foldl (fun n c => base * n + digitValue c) 0

/-- Is `c` a digit to the base? -/
def isDigitOf (base : Nat) (c : Char) : Bool :=
  (c.isDigit || 'a' ≤ c && c ≤ 'f' || 'A' ≤ c && c ≤ 'F') && digitValue c < base

/-- An integer that fits 64 bits with a sign. -/
def ofInteger? (i : Int) : Option Value :=
  if -Int.ofNat (Nat.pow 2 63) ≤ i ∧ i < Int.ofNat (Nat.pow 2 63) then some (.integer i) else none

/-- An integer to a base, behind the sign of the base. -/
def readBased (base : Nat) (s : List Char) : Option (Value × List Char) := do
  let (digits, rest) ← readDigits (isDigitOf base) s
  return (← ofInteger? (valueOf base digits), rest)

/-- An integer and what follows it. -/
def readInteger (s : List Char) : Option (Value × List Char) :=
  match s with
  | '0' :: 'x' :: s => readBased 16 s
  | '0' :: 'o' :: s => readBased 8 s
  | '0' :: 'b' :: s => readBased 2 s
  | s => do
    let (negative, s) := readSign s
    let (digits, rest) ← readWhole s
    let n : Int := valueOf 10 digits
    return (← ofInteger? (if negative then -n else n), rest)

/-- The digits of a fraction, if there is a point. -/
def readFraction : List Char → Option (Option (List Char) × List Char)
  | '.' :: s => (readDigits Char.isDigit s).map fun (ds, rest) => (some ds, rest)
  | s => some (none, s)

/-- An exponent, if there is one. -/
def readExponent : List Char → Option (Option Int × List Char)
  | e :: s =>
    if e = 'e' ∨ e = 'E' then do
      let (negative, s) := readSign s
      let (digits, rest) ← readDigits Char.isDigit s
      let n : Int := valueOf 10 digits
      return (some (if negative then -n else n), rest)
    else some (none, e :: s)
  | [] => some (none, [])

/-- A number with a fraction, an exponent or both. One beyond the greatest is refused, unless it is
negative: then it is the negative infinity. -/
def readPointed (s : List Char) : Option (Value × List Char) := do
  let (negative, s) := readSign s
  let (whole, s) ← readWhole s
  let (fraction, s) ← readFraction s
  let (exponent, s) ← readExponent s
  if fraction.isNone && exponent.isNone then none
  else
    let digits := whole ++ fraction.getD []
    let e := exponent.getD 0 - (fraction.getD []).length
    match Magnitude.ofDecimal (valueOf 10 digits) e with
    | some x => return (.float (.finite negative x), s)
    | none => if negative then return (.float (.infinite true), s) else none

/-- The words `inf` and `nan` with or without a sign. -/
def readSpecial (s : List Char) : Option (Value × List Char) :=
  match readSign s with
  | (negative, 'i' :: 'n' :: 'f' :: rest) => some (.float (.infinite negative), rest)
  | (_, 'n' :: 'a' :: 'n' :: rest) => some (.float .nan, rest)
  | _ => none

/-- A number of any form and what follows it. -/
def readNumber (s : List Char) : Option (Value × List Char) :=
  readPointed s <|> readSpecial s <|> readInteger s

end Adoc.Toml
