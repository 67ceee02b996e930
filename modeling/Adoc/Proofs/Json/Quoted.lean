import Adoc.Json.Quoted

/-! # Strings are read as they are written

Reading a written string takes one piece for each of its characters, the character itself or, for
most control characters, its number.

* `readPieces_escape`   an escaped character is one piece
* `readString_escaped`  a written string is read as it was -/

namespace Adoc.Json

/-- Is the character escaped by its number? -/
private def isNumbered (c : Char) : Bool :=
  c.toNat < 32 && c != '\x08' && c != '\x0c' && c != '\n' && c != '\r' && c != '\t'

/-- The piece that a character is written as. -/
private def pieceOf (c : Char) : Piece := if isNumbered c then .unit c.toNat else .char c

/-- A hexadecimal digit has the value that it is made from. -/
private theorem hexValue?_hexDigit : ∀ n < 16, hexValue? (hexDigit n) = some n := by decide

/-- Two hexadecimal digits behind two zeros spell the number that they are made from. -/
private theorem unitValue?_hexDigits {n : Nat} (h : n < 32) :
    unitValue? '0' '0' (hexDigit (n / 16)) (hexDigit (n % 16)) = some n := by
  have zero : hexValue? '0' = some 0 := by decide
  have high : hexValue? (hexDigit (n / 16)) = some (n / 16) :=
    hexValue?_hexDigit _ (by omega)
  have low : hexValue? (hexDigit (n % 16)) = some (n % 16) :=
    hexValue?_hexDigit _ (by omega)
  simp only [unitValue?, zero, high, low, Option.bind_eq_bind, Option.bind_some, Option.pure_def,
    Option.some.injEq]
  omega

/-- A character behind a backslash is one piece, unless it is a `u`. -/
private theorem readPieces_backslash {e c : Char} (h : escaped? e = some c) (s : List Char) :
    readPieces ('\\' :: e :: s) = (readPieces s).map fun (ps, rest) => (.char c :: ps, rest) := by
  -- behind a `u` four digits are read, and nothing is escaped by that letter alone
  have other : e ≠ 'u' := by
    rintro rfl
    rw [show escaped? 'u' = none by decide] at h
    exact nomatch h
  rw [readPieces, h]
  · cases readPieces s <;> rfl
  · rintro _ _ _ _ _ rfl
    exact absurd rfl other

/-- Reading an escaped character gives its piece. -/
theorem readPieces_escape (c : Char) (s : List Char) :
    readPieces (escape c ++ s) = (readPieces s).map fun (ps, rest) => (pieceOf c :: ps, rest) := by
  unfold escape
  split
  -- a character that has no short form is written by its number or as it is
  case h_8 quote backslash backspace feed newline ret tab =>
    split
    · rename_i control
      have piece : pieceOf c = .unit c.toNat := by
        simp only [pieceOf, isNumbered, control, decide_true, Bool.true_and, Bool.and_eq_true,
          bne_iff_ne, and_assoc]
        exact if_pos ⟨backspace, feed, newline, ret, tab⟩
      rw [piece]
      simp only [List.cons_append, List.nil_append]
      rw [readPieces, unitValue?_hexDigits control]
      cases readPieces s <;> rfl
    · rename_i printed
      have piece : pieceOf c = .char c := by
        simp [pieceOf, isNumbered, printed]
      rw [piece, List.singleton_append, readPieces, if_neg (not_or.mpr ⟨printed, backslash⟩)]
      · cases readPieces s <;> rfl
      · exact quote
      · exact fun _ _ _ _ _ h _ => backslash h
      · exact fun _ _ h _ => backslash h
  -- the others are written behind a backslash, by one character each
  all_goals exact readPieces_backslash rfl s

/-- The piece of a character stands for that character. One escaped by its number is below 32, so
that it is no half of a surrogate pair. -/
private theorem charsOf?_pieceOf (c : Char) (ps : List Piece) :
    charsOf? (pieceOf c :: ps) = (charsOf? ps).map (c :: ·) := by
  unfold pieceOf
  split
  · rename_i numbered
    have small : c.toNat < 32 := by
      simp only [isNumbered, Bool.and_eq_true, decide_eq_true_eq] at numbered
      exact numbered.1.1.1.1.1
    have high : isHighSurrogate c.toNat = false := by
      simp only [isHighSurrogate, Bool.and_eq_false_iff, decide_eq_false_iff_not]
      omega
    have low : isLowSurrogate c.toNat = false := by
      simp only [isLowSurrogate, Bool.and_eq_false_iff, decide_eq_false_iff_not]
      omega
    -- a number below 32 is neither half of a surrogate pair, so it is a character of its own
    rw [charsOf?.eq_def]
    simp only [high, low, Char.ofNat_toNat, Bool.false_eq_true, if_false]
  · rw [charsOf?]

/-- The pieces of a written string end at its closing quote. -/
private theorem readPieces_escaped (cs rest : List Char) :
    readPieces (cs.flatMap escape ++ '"' :: rest) = some (cs.map pieceOf, rest) := by
  induction cs with
  | nil => rw [List.flatMap_nil, List.nil_append, readPieces, List.map_nil]
  | cons c cs ih =>
    rw [List.flatMap_cons, List.append_assoc, readPieces_escape, ih, List.map_cons]
    rfl

/-- The pieces of a written string stand for its characters. -/
private theorem charsOf?_map_pieceOf (cs : List Char) : charsOf? (cs.map pieceOf) = some cs := by
  induction cs with
  | nil => rfl
  | cons c cs ih => rw [List.map_cons, charsOf?_pieceOf, ih, Option.map_some]

/-- A written string is read as it was, whatever follows it. -/
theorem readString_escaped (s : String) (rest : List Char) :
    readString (s.toList.flatMap escape ++ '"' :: rest) = some (some s, rest) := by
  rw [readString, readPieces_escaped, Option.map_some]
  simp only [charsOf?_map_pieceOf, Option.map_some, String.ofList_toList]

end Adoc.Json
