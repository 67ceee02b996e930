/-! # Double-precision numbers

The values of the 64-bit binary format: a significand of at most 53 bits times a power of two, the
infinities, and the value that is no number. Arithmetic is exact on natural numbers and rounded
once, to the nearest value, with ties to the even significand. -/

namespace Adoc

/-- A finite value `significand * 2 ^ exponent`, of either sign. The exponent is at least -1074,
and the significand has 53 bits unless the exponent is that least one. -/
structure Magnitude where
  significand : Nat
  exponent : Int
deriving DecidableEq, Repr

inductive Binary64 where
  | finite (negative : Bool) (magnitude : Magnitude)
  | infinite (negative : Bool)
  | nan
deriving DecidableEq, Repr

/-- The power `b ^ e` of a whole number, or 1 if the exponent is negative. -/
def power (b : Nat) (e : Int) : Nat := Nat.pow b e.toNat

/-- Divide `num` by `den`, rounded to the nearest integer, ties to the even one. -/
def roundQuotient (num den : Nat) : Nat :=
  let q := num / den
  let twice := 2 * (num % den)
  if twice < den ∨ twice = den ∧ q % 2 = 0 then q else q + 1

namespace Magnitude

def zero : Magnitude := ⟨0, -1074⟩

/-- Numerator and denominator of the value. -/
def fraction (x : Magnitude) : Nat × Nat :=
  (x.significand * power 2 x.exponent, power 2 (-x.exponent))

/-- The exponent at which `num / den` has a significand of 53 bits, or the least exponent if that
is greater. -/
def exponentOf (num den : Nat) : Int :=
  let e : Int := (num.log2 : Int) - den.log2 - 53
  let small := num * power 2 (-e) < power 2 53 * (den * power 2 e)
  max (if small then e else e + 1) (-1074)

/-- The value nearest to `num / den`, or `none` if that is beyond the greatest. -/
def nearest (num den : Nat) : Option Magnitude :=
  if num = 0 then some zero
  else
    let e := exponentOf num den
    let m := roundQuotient (num * power 2 (-e)) (den * power 2 e)
    -- rounding up may have filled the 53 bits
    let x : Magnitude := if m = power 2 53 then ⟨power 2 52, e + 1⟩ else ⟨m, e⟩
    if x.exponent ≤ 971 then some x else none

/-- The value nearest to the product. -/
def mul (x y : Magnitude) : Option Magnitude :=
  let (a, b) := x.fraction
  let (c, d) := y.fraction
  nearest (a * c) (b * d)

/-- The value nearest to the quotient; `y` is not zero. -/
def div (x y : Magnitude) : Option Magnitude :=
  let (a, b) := x.fraction
  let (c, d) := y.fraction
  nearest (a * d) (b * c)

/-- The value nearest to `digits * 10 ^ exponent`. An exponent so large or so small that the result
is beyond the greatest value or too small to be told from zero is not multiplied out. -/
def ofDecimal (digits : Nat) (exponent : Int) : Option Magnitude :=
  let leading : Int := exponent + digits.log2 / 3
  if digits = 0 ∨ leading < -400 then some zero
  else if exponent > 400 then none
  else nearest (digits * power 10 exponent) (power 10 (-exponent))

end Magnitude

/-! ## The shortest digits of a number

A finite number is written with the fewest digits that read back as the same number, and of those
with the digits nearest to it. The digits are searched for on ever finer decimal grids, by exact
arithmetic on natural numbers. -/

/-- Which of two decimals is taken that are equally near. -/
inductive Tie where
  | toEven
  | up
deriving DecidableEq, Repr

/-- The decimal `digits * 10 ^ exponent`. -/
structure Digits where
  digits : Nat
  exponent : Int
deriving DecidableEq, Repr

namespace Magnitude

/-- Compare `a * 10 ^ i` with `b * 2 ^ j`. -/
def compareScaled (a : Nat) (i : Int) (b : Nat) (j : Int) : Ordering :=
  compare (a * power 10 i * power 2 (-j)) (b * power 2 j * power 10 (-i))

/-- Does the decimal lie among the numbers that round to `x`? They reach half way to the next value
above and below, which is nearer below a power of two; the ends round to `x` if its significand is
even. -/
def readsBack (x : Magnitude) (d : Digits) : Bool :=
  let narrow := x.significand == power 2 52 && x.exponent != -1074
  let low := compareScaled d.digits d.exponent (4 * x.significand - if narrow then 1 else 2)
    (x.exponent - 2)
  let high := compareScaled d.digits d.exponent (4 * x.significand + 2) (x.exponent - 2)
  let even := x.significand % 2 == 0
  (low == .gt || even && low == .eq) && (high == .lt || even && high == .eq)

/-- The least `k` with `x < 10 ^ k`, for `x` not zero: found among the four next to an estimate by
the binary logarithm. -/
def scale (x : Magnitude) : Int :=
  let estimate : Int := ((x.significand.log2 : Int) + x.exponent) * 30103 / 100000 - 1
  let isAbove (k : Int) : Bool := compareScaled 1 k x.significand x.exponent == .gt
  ([estimate, estimate + 1, estimate + 2].find? isAbove).getD (estimate + 3)

/-- The decimal on the grid of step `10 ^ exponent` that stands for `x`, if one of the two next to
`x` reads back as `x`. -/
def onGrid? (tie : Tie) (x : Magnitude) (exponent : Int) : Option Digits :=
  let (num, den) := x.fraction
  let num := num * power 10 (-exponent)
  let den := den * power 10 exponent
  let below : Digits := ⟨num / den, exponent⟩
  let above : Digits := ⟨num / den + 1, exponent⟩
  let nearer :=
    match compare (2 * (num % den)) den with
    | .lt => below
    | .gt => above
    | .eq => if tie = .up ∨ below.digits % 2 = 1 then above else below
  match x.readsBack below, x.readsBack above with
  | true, true => some nearer
  | true, false => some below
  | false, true => some above
  | false, false => none

/-- Move the zeros at the end of the digits, at most `n` of them, into the exponent. -/
def stripZeros : (n : Nat) → Digits → Digits
  | 0, d => d
  | n + 1, d => if d.digits % 10 = 0 then stripZeros n ⟨d.digits / 10, d.exponent + 1⟩ else d

/-- The shortest digits that read back as `x`; 17 are always enough. -/
def shortest (tie : Tie) (x : Magnitude) : Digits :=
  if x.significand = 0 then ⟨0, 0⟩
  else
    let k := x.scale
    -- one digit, two digits, and so on: the first grid with a hit has the fewest
    match (List.range 17).findSome? fun n : Nat => x.onGrid? tie (k - (n + 1)) with
    | some d => stripZeros 17 d
    | none => ⟨x.fraction.1 * power 5 (-x.exponent), min x.exponent 0⟩

end Magnitude

/-! ## Numbers in messages

A number that is not an integer is shown by its shortest digits. How they are laid out is up to
the format that the number was read from, and given by a `Layout`. -/

/-- Decisions on how a number is written. -/
structure Layout where
  /-- Which of two shortest decimals is taken that are equally near. -/
  tie : Tie
  /-- Is the number written without an exponent, if `e` is the exponent of its leading digit? -/
  positional : (e : Int) → Bool

namespace Layout

/-- Digits with a point among or after them, so that the leading digit has exponent `e`. -/
def pointed (digits : List Char) (e : Int) : List Char :=
  if e < 0 then
    ['0', '.'] ++ List.replicate (-e - 1).toNat '0' ++ digits
  else
    let whole := e.toNat + 1
    if digits.length ≤ whole then
      digits ++ List.replicate (whole - digits.length) '0' ++ ['.', '0']
    else digits.take whole ++ '.' :: digits.drop whole

/-- Digits with a point after the first, unless it is the only one, and the exponent `e` with its
sign. -/
def scientific (digits : List Char) (e : Int) : List Char :=
  let mantissa := match digits with
    | d :: ds => if ds.isEmpty then [d] else d :: '.' :: ds
    | [] => []
  mantissa ++ ['e', if e < 0 then '-' else '+'] ++ Nat.toDigits 10 e.natAbs

/-- The text of a finite number without its sign. -/
def magnitudeText (l : Layout) (x : Magnitude) : List Char :=
  let d := x.shortest l.tie
  let digits := Nat.toDigits 10 d.digits
  let e := d.exponent + digits.length - 1
  if l.positional e then pointed digits e else scientific digits e

/-- The text of a number. -/
def text (l : Layout) : Binary64 → String
  | .nan => "NaN"
  | .infinite negative => if negative then "-inf" else "inf"
  | .finite negative x =>
    String.ofList ((if negative then ['-'] else []) ++ l.magnitudeText x)

end Layout

end Adoc
