/-! # Texts

Texts are lists of characters. Here are sets of characters, given by ranges of code points as the
Unicode standard tabulates them, and what is taken off the ends of a text. -/

namespace Adoc.Text

/-- A set of code points: the inclusive ranges it consists of, in ascending order. -/
structure CodePoints where
  ranges : List (Nat × Nat)

namespace CodePoints

/-- Does the set hold the code point of `c`? -/
def contains (s : CodePoints) (c : Char) : Bool :=
  s.ranges.any fun r => r.1 ≤ c.toNat && c.toNat ≤ r.2

/-- A character is in the set if its code point is in one of the ranges. -/
theorem contains_iff {s : CodePoints} {c : Char} :
    s.contains c = true ↔ ∃ r ∈ s.ranges, r.1 ≤ c.toNat ∧ c.toNat ≤ r.2 := by
  simp [contains]

end CodePoints

/-! ## White space

The Unicode property White_Space: the characters that trimming removes at the ends of a text. -/

/-- The code points with the property White_Space. -/
def blanks : CodePoints :=
  ⟨[(0x0009, 0x000D), (0x0020, 0x0020), (0x0085, 0x0085), (0x00A0, 0x00A0), (0x1680, 0x1680),
   (0x2000, 0x200A), (0x2028, 0x2029), (0x202F, 0x202F), (0x205F, 0x205F), (0x3000, 0x3000)]⟩

/-- Does `c` have the property White_Space? -/
def isBlank (c : Char) : Bool := blanks.contains c

/-! ## Trimming

Removal of white space, or of a repeated delimiter, at the ends of a text. -/

/-- Take the longest run whose characters satisfy `p` off the end of `s`. -/
def dropWhileEnd (p : Char → Bool) (s : List Char) : List Char :=
  (s.reverse.dropWhile p).reverse

/-- Take the white space off both ends of `s`. -/
def trim (s : List Char) : List Char :=
  dropWhileEnd isBlank (s.dropWhile isBlank)

/-- What is left of `s` when `start` is taken off its front, or `none` if `s` does not begin with
`start`. -/
def strip? : (start s : List Char) → Option (List Char)
  | [], s => some s
  | _ :: _, [] => none
  | a :: start, c :: s => if a = c then strip? start s else none

/-- What is left is what stands behind `start`. -/
theorem strip?_eq_some_iff {start s rest : List Char} :
    strip? start s = some rest ↔ s = start ++ rest := by
  induction start generalizing s with
  | nil => simp [strip?, eq_comm]
  | cons a start ih =>
    cases s with
    | nil => simp [strip?]
    | cons c s => by_cases h : a = c <;> simp [strip?, h, ih, eq_comm]

/-- Take the copies of the pair `a b` off the front of a text. -/
def dropPairs (a b : Char) : List Char → List Char
  | c :: d :: s => if c = a ∧ d = b then dropPairs a b s else c :: d :: s
  | s => s

end Adoc.Text
