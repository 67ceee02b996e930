import Adoc.Json
import Adoc.Json.Quoted

/-! # JSON texts

Values are read from a text and written to one. -/

namespace Adoc.Json

/-! ## Reading JSON

`Json.read` reads a text from the left into a value. It never fails: where the text goes wrong,
the value ends as broken, and what stood before that place is kept. -/

/-- The characters that may stand between the parts of a JSON text. -/
def isSpace (c : Char) : Bool := c == ' ' || c == '\n' || c == '\t' || c == '\r'

def skipSpace (s : List Char) : List Char := s.dropWhile isSpace

/-- The digits at the front of `s`, at least one, and the rest. -/
def readDigits (s : List Char) : Option (List Char × List Char) :=
  match s.takeWhile Char.isDigit with
  | [] => none
  | digits => some (digits, s.dropWhile Char.isDigit)

/-- The whole part of a number: digits that do not start with a superfluous zero. -/
def readWhole : List Char → Option (List Char × List Char)
  | '0' :: s =>
    match s with
    | c :: _ => if c.isDigit then none else some (['0'], s)
    | [] => some (['0'], s)
  | s => readDigits s

/-- The digits behind a point, if there is one. -/
def readFraction : List Char → Option (Option (List Char) × List Char)
  | '.' :: s => (readDigits s).map fun (ds, rest) => (some ds, rest)
  | s => some (none, s)

/-- The exponent behind an `e`, if there is one. -/
def readExponent : List Char → Option (Option (Bool × List Char) × List Char)
  | e :: s =>
    if e = 'e' ∨ e = 'E' then
      match s with
      | '+' :: s => (readDigits s).map fun (ds, rest) => (some (false, ds), rest)
      | '-' :: s => (readDigits s).map fun (ds, rest) => (some (true, ds), rest)
      | s => (readDigits s).map fun (ds, rest) => (some (false, ds), rest)
    else some (none, e :: s)
  | [] => some (none, [])

/-- A number at the front of `s`, behind its sign, and the rest. -/
def readUnsigned (negative : Bool) (s : List Char) : Option (Numeral × List Char) := do
  let (whole, s) ← readWhole s
  let (fraction, s) ← readFraction s
  let (exponent, s) ← readExponent s
  return (⟨negative, whole, fraction, exponent⟩, s)

/-- A number at the front of `s` and the rest. -/
def readNumeral : List Char → Option (Numeral × List Char)
  | '-' :: s => readUnsigned true s
  | s => readUnsigned false s

/-- A value that is no array and no object at the front of `s`, and the rest. -/
def readScalar (s : List Char) : Json × List Char :=
  match s with
  | '"' :: s =>
    match readString s with
    | some (text, rest) => (.string text, rest)
    | none => (.broken, [])
  | 'n' :: 'u' :: 'l' :: 'l' :: s => (.null, s)
  | 't' :: 'r' :: 'u' :: 'e' :: s => (.boolean true, s)
  | 'f' :: 'a' :: 'l' :: 's' :: 'e' :: s => (.boolean false, s)
  | s =>
    match readNumeral s with
    | some (n, rest) => (.number n, rest)
    | none => (.broken, [])

/-- A key at the front of `s`, and what follows the colon behind it. A key without a colon is
followed by nothing, so that its value is broken. -/
def readKey (s : List Char) : Option (Option String × List Char) :=
  match skipSpace s with
  | '"' :: s => do
    let (key, rest) ← readString s
    match skipSpace rest with
    | ':' :: rest => return (key, rest)
    | _ => return (key, [])
  | _ => none

/-- Skipping white space leaves no more text than there was. -/
theorem length_skipSpace_le (s : List Char) : (skipSpace s).length ≤ s.length :=
  (List.dropWhile_sublist _).length_le

mutual

/-- A value and what follows it. -/
def readValue (s : List Char) : Json × List Char :=
  match _h : skipSpace s with
  | '[' :: r =>
    match skipSpace r with
    | ']' :: rest => (.array [] true, rest)
    | _ =>
      let (items, closed, rest) := readItems r
      (.array items closed, rest)
  | '\x7b' :: r =>
    match skipSpace r with
    | '\x7d' :: rest => (.object [] true, rest)
    | _ =>
      let (members, closed, rest) := readMembers r
      (.object members closed, rest)
  | r => readScalar r
termination_by 2 * s.length
decreasing_by
  all_goals
    have := length_skipSpace_le s
    simp only [_h, List.length_cons] at this
    omega

/-- The items of an array from an item on, whether the array is closed, and what follows it. -/
def readItems (s : List Char) : List Json × Bool × List Char :=
  let (v, r) := readValue s
  match skipSpace r with
  | ']' :: rest => ([v], true, rest)
  | ',' :: r =>
    -- always so, because a value takes something off the text and a comma stands behind it
    if _h : r.length < s.length then
      let (items, closed, rest) := readItems r
      (v :: items, closed, rest)
    else ([v], false, [])
  | _ => ([v], false, [])
termination_by 2 * s.length + 1

/-- The members of an object from a key on, whether the object is closed, and what follows it. -/
def readMembers (s : List Char) : List (Option String × Json) × Bool × List Char :=
  match readKey s with
  | none => ([], false, [])
  | some (key, r) =>
    if _h : r.length < s.length then
      let (v, r) := readValue r
      match skipSpace r with
      | '\x7d' :: rest => ([(key, v)], true, rest)
      | ',' :: r =>
        if _h : r.length < s.length then
          let (members, closed, rest) := readMembers r
          ((key, v) :: members, closed, rest)
        else ([(key, v)], false, [])
      | _ => ([(key, v)], false, [])
    else ([(key, .broken)], false, [])
termination_by 2 * s.length + 1

end

/-- The value that a text spells, and whether nothing but space follows it. -/
def read (s : List Char) : Json × Bool :=
  let (v, rest) := readValue s
  (v, (skipSpace rest).isEmpty)

/-! ## Writing JSON

`Json.print` writes a value without any space between its parts. What is broken in a value is
left out. -/

mutual

/-- The text of a value. -/
def print : Json → List Char
  | .null => ['n', 'u', 'l', 'l']
  | .boolean true => ['t', 'r', 'u', 'e']
  | .boolean false => ['f', 'a', 'l', 's', 'e']
  | .number n => n.print
  | .string text => printString (text.getD "")
  | .array [] _ => ['[', ']']
  | .array (v :: vs) _ => '[' :: v.print ++ printItems vs
  | .object [] _ => ['\x7b', '\x7d']
  | .object ((key, v) :: ms) _ =>
    '\x7b' :: printString (key.getD "") ++ ':' :: v.print ++ printMembers ms
  | .broken => []

/-- The rest of an array, from behind an item on. -/
def printItems : List Json → List Char
  | [] => [']']
  | v :: vs => ',' :: v.print ++ printItems vs

/-- The rest of an object, from behind a member on. -/
def printMembers : List (Option String × Json) → List Char
  | [] => ['\x7d']
  | (key, v) :: ms => ',' :: printString (key.getD "") ++ ':' :: v.print ++ printMembers ms

end

end Adoc.Json
