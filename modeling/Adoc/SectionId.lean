import Adoc.Text.Lowercase
import Adoc.Text.Word
import Adoc.Text.Basic

/-! # Generated section ids

A section without an explicit id can be referred to by an id made from its title. The title is put
into lower case, markup and whatever does not belong to a word or between words is removed, and
each run of separators becomes one low line. The id starts with a low line and does not end with
one. -/

namespace Adoc.SectionId

open Text

/-- The low line, which opens an id and stands between its words. -/
def separator : Char := '_'

/-- The characters that come between the words of a title. -/
def isSeparator (c : Char) : Bool := c == ' ' || c == '.' || c == '-' || c == separator

/-- The characters that may remain in a title: spaces, dots, hyphens and parts of words. -/
def isValid (c : Char) : Bool := c == ' ' || c == '.' || c == '-' || isWord c

/-! ## Cleaning a title -/

/-- What follows an inline tag at the start of `s`: `<`, at least one character other than `>`,
and `>`. -/
def afterTag? : List Char → Option (List Char)
  | '<' :: c :: s =>
    if c = '>' then none
    else match s.dropWhile (· != '>') with
      | _ :: rest => some rest
      | [] => none
  | _ => none

/-- The longest run at the front of `s`, of at most `n` characters, that satisfies `p`, and the
rest. -/
def spanAtMost (p : Char → Bool) : Nat → List Char → List Char × List Char
  | n + 1, c :: s =>
    if p c then
      let (run, rest) := spanAtMost p n s
      (c :: run, rest)
    else ([], c :: s)
  | _, s => ([], s)

/-- The letters `a` to `z`. -/
def isSmallLetter (c : Char) : Bool := 'a' ≤ c && c ≤ 'z'

/-- A digit of a hexadecimal reference: a decimal digit of any script, or `a` to `f`. -/
def isHexDigit (c : Char) : Bool := isDecimalDigit c || 'a' ≤ c && c ≤ 'f'

/-- The rest of `s` behind a semicolon, if a run of `size` characters was seen in front of it and
that is at least `least`. -/
def closeReference (least size : Nat) : List Char → Option (List Char)
  | ';' :: rest => if least ≤ size then some rest else none
  | _ => none

/-- What follows a character reference at the start of `s`: `&`, a name of at least two small
letters and up to two digits, or `#` and two to six digits, or `#x` and two to five hexadecimal
digits, and `;`. -/
def afterReference? : List Char → Option (List Char)
  | '&' :: '#' :: 'x' :: s =>
    let (digits, rest) := spanAtMost isHexDigit 5 s
    closeReference 2 digits.length rest
  | '&' :: '#' :: s =>
    let (digits, rest) := spanAtMost isDecimalDigit 6 s
    closeReference 2 digits.length rest
  | '&' :: s =>
    let (_, rest) := spanAtMost isDecimalDigit 2 (s.dropWhile isSmallLetter)
    closeReference 2 (s.takeWhile isSmallLetter).length rest
  | _ => none

/-! What follows is a part of the text behind its first character, so that cleaning ends. -/

/-- What is left behind markup is the end of the text that it was found in. -/
theorem isSuffix_afterTag? {c : Char} {s rest : List Char} (h : afterTag? (c :: s) = some rest) :
    rest <:+ s := by
  unfold afterTag? at h
  split at h
  · next d t same =>
    obtain rfl := (List.cons.inj same).2
    split at h
    · cases h
    · split at h
      · next e r found =>
        cases h
        have tail : e :: rest <:+ t := found ▸ List.dropWhile_suffix _
        exact (List.suffix_cons e rest).trans (tail.trans (List.suffix_cons d t))
      · cases h
  · cases h

/-- What stands behind a run is the end of the text. -/
theorem isSuffix_spanAtMost (p : Char → Bool) (n : Nat) (s : List Char) :
    (spanAtMost p n s).2 <:+ s := by
  fun_induction spanAtMost p n s with
  | case1 n c s _ run rest found ih =>
    rw [found] at ih
    exact ih.trans (List.suffix_cons c s)
  | case2 => exact List.suffix_rfl
  | case3 => exact List.suffix_rfl

/-- What stands behind the close of a reference is the end of the text. -/
theorem isSuffix_closeReference {least size : Nat} {s rest : List Char}
    (h : closeReference least size s = some rest) : rest <:+ s := by
  unfold closeReference at h
  split at h
  · split at h
    · cases h
      exact List.suffix_cons ';' rest
    · cases h
  · cases h

/-- What stands behind a reference is the end of the text, in each of its three forms. -/
theorem isSuffix_afterReference? {c : Char} {s rest : List Char}
    (h : afterReference? (c :: s) = some rest) : rest <:+ s := by
  unfold afterReference? at h
  split at h
  · next t same =>
    obtain rfl := (List.cons.inj same).2
    have body := (isSuffix_closeReference h).trans (isSuffix_spanAtMost isHexDigit 5 t)
    exact body.trans (List.suffix_append ['#', 'x'] t)
  · next t _ same =>
    obtain rfl := (List.cons.inj same).2
    have body := (isSuffix_closeReference h).trans (isSuffix_spanAtMost isDecimalDigit 6 t)
    exact body.trans (List.suffix_cons '#' t)
  · next t _ _ same =>
    obtain rfl := (List.cons.inj same).2
    have digits := isSuffix_spanAtMost isDecimalDigit 2 (s.dropWhile isSmallLetter)
    exact (isSuffix_closeReference h).trans (digits.trans (List.dropWhile_suffix _))
  · cases h

/-- What remains of a title in lower case: reading on from the left, a tag or a character reference
is left out where one starts, and otherwise the whole run of characters that may not remain. Such
a run may swallow the start of a tag or a reference. -/
def clean : List Char → List Char
  | [] => []
  | c :: s =>
    match _h : afterTag? (c :: s) with
    | some rest => clean rest
    | none =>
      match _h : afterReference? (c :: s) with
      | some rest => clean rest
      | none =>
        if isValid c then c :: clean s
        -- the run ends only at a valid character, so it takes any `<` and `&` in it along
        else clean (s.dropWhile fun c => !isValid c)
termination_by s => s.length
decreasing_by
  · exact Nat.lt_succ_of_le (isSuffix_afterTag? (by assumption)).length_le
  · exact Nat.lt_succ_of_le (isSuffix_afterReference? (by assumption)).length_le
  · simp
  · exact Nat.lt_succ_of_le (List.dropWhile_suffix _).length_le

/-! ## Joining the words -/

/-- The part of an id made from a cleaned title; `separated` says that the id so far ends with a
separator, so that no further one is written. -/
def joinFrom (separated : Bool) : List Char → List Char
  | [] => []
  | c :: s =>
    if isSeparator c then
      if separated then joinFrom true s else separator :: joinFrom true s
    else c :: joinFrom false s

/-- Take a separator off the end of `s`, if there is one. -/
def dropLastSeparator (s : List Char) : List Char :=
  if s.getLast? = some separator then s.dropLast else s

/-- The id made from a cleaned title. -/
def join (s : List Char) : List Char := dropLastSeparator (separator :: joinFrom true s)

/-- The id of a section with the given title; empty if nothing of the title remains. -/
def generate (title : List Char) : List Char := join (clean (lowercase title))

end Adoc.SectionId
