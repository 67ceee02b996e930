import Adoc.Rename
import Adoc.Text.Basic

/-! # Characters of names

What a word or the name of a block may consist of is neither white space nor one of the characters
that delimit an anchor. That two properties exclude each other is read off their tables, range by
range.

* `isBlank_of_isWord`          no part of a word is white space
* `isBlockIdRest_iff`          what may stand in the name of a block
* `accepts_blockId_iff`         what a name of a block is
* `isBlockIdRest_of_accepts`   all characters of such a name are of this kind
* `isBlank_of_isBlockIdRest`   and none of them is white space -/

namespace Adoc

namespace Text

namespace CodePoints

/-- Does every range of `s` lie before or behind every range of `t`? -/
def apart (s t : CodePoints) : Bool :=
  s.ranges.all fun r => t.ranges.all fun q => r.2 < q.1 || q.2 < r.1

/-- Of two sets that lie apart no character is in both. -/
theorem not_contains_of_apart {s t : CodePoints} (h : s.apart t = true) {c : Char}
    (hs : s.contains c = true) : t.contains c = false := by
  rw [Bool.eq_false_iff]
  intro ht
  obtain ⟨r, hr, first, last⟩ := contains_iff.mp hs
  obtain ⟨q, hq, first', last'⟩ := contains_iff.mp ht
  -- a code point in a range of each would lie in both
  have ranges : r.2 < q.1 ∨ q.2 < r.1 := by
    simpa using List.all_eq_true.mp (List.all_eq_true.mp h r hr) q hq
  omega

end CodePoints

/-- No part of a word is white space. -/
theorem isBlank_of_isWord {c : Char} (h : isWord c = true) : isBlank c = false := by
  -- a word is made of five classes: four of the tables, and the two joiners
  have alphabetic : alphabetic.apart blanks = true := by decide +kernel
  have marks : marks.apart blanks = true := by decide +kernel
  have digits : decimalDigits.apart blanks = true := by decide +kernel
  have connectors : connectors.apart blanks = true := by decide +kernel
  simp only [isWord, Bool.or_eq_true] at h
  obtain (((h | h) | h) | h) | h := h
  · exact CodePoints.not_contains_of_apart alphabetic h
  · exact CodePoints.not_contains_of_apart marks h
  · exact CodePoints.not_contains_of_apart digits h
  · exact CodePoints.not_contains_of_apart connectors h
  · simp only [isJoinControl, Bool.or_eq_true, beq_iff_eq] at h
    obtain h | h := h <;> simp [isBlank, CodePoints.contains, blanks, h]

end Text

namespace RenameTarget

open Text

/-- In the name of a block may stand parts of words and a few characters of punctuation. -/
theorem isBlockIdRest_iff {c : Char} :
    isBlockIdRest c = true ↔ isWord c = true ∨ c ∈ ['-', ':', '.', '\x7b', '\x7d'] := by
  simp only [isBlockIdRest, isWord, Bool.or_eq_true, beq_iff_eq, List.mem_cons, List.not_mem_nil,
    or_false]
  grind

/-- What the name of a block may begin with may also stand further on in it. -/
theorem isBlockIdRest_of_isBlockIdStart {c : Char} (h : isBlockIdStart c = true) :
    isBlockIdRest c = true := by
  have lowLine : isWord '_' = true := by decide +kernel
  simp only [isBlockIdStart, Bool.or_eq_true, beq_iff_eq] at h
  rw [isBlockIdRest_iff]
  obtain ((h | rfl) | rfl) | rfl := h
  · left
    rw [isWord, h]
    rfl
  · exact .inl lowLine
  · exact .inr (by decide)
  · exact .inr (by decide)

/-- A name of a block is a character that may begin one, with any number of those that may follow.
-/
theorem accepts_blockId_iff {name : List Char} :
    blockId.accepts name = true ↔ ∃ c rest, name = c :: rest ∧ isBlockIdStart c = true ∧
      ∀ d ∈ rest, isBlockIdRest d = true := by
  constructor
  · intro h
    cases name with
    | nil => exact nomatch h
    | cons c rest =>
      rw [accepts, Bool.and_eq_true, List.all_eq_true] at h
      exact ⟨c, rest, rfl, h⟩
  · intro h
    obtain ⟨c, rest, rfl, first, others⟩ := h
    rw [accepts, Bool.and_eq_true, List.all_eq_true]
    exact ⟨first, others⟩

/-- All characters of such a name may stand in one. -/
theorem isBlockIdRest_of_accepts {name : List Char} (h : blockId.accepts name = true) :
    ∀ c ∈ name, isBlockIdRest c = true := by
  obtain ⟨c, rest, rfl, first, others⟩ := accepts_blockId_iff.mp h
  exact List.forall_mem_cons.mpr ⟨isBlockIdRest_of_isBlockIdStart first, others⟩

/-- No character of the name of a block is white space. -/
theorem isBlank_of_isBlockIdRest {c : Char} (h : isBlockIdRest c = true) : isBlank c = false := by
  obtain h | h := isBlockIdRest_iff.mp h
  · exact isBlank_of_isWord h
  -- the few characters of punctuation are looked up one by one
  · have blank : ['-', ':', '.', '\x7b', '\x7d'].any isBlank = false := by decide
    exact Bool.eq_false_iff.mpr (List.any_eq_false.mp blank c h)

/-- The characters that open, close or divide an anchor. A dot is not among them: it divides an
anchor of the short form, but may stand in the name of a block. -/
def delimiters : List Char := ['[', ']', ',', '%']

/-- No character of the name of a block delimits an anchor. -/
theorem ne_of_isBlockIdRest {c d : Char} (h : isBlockIdRest c = true) (hd : d ∈ delimiters) :
    c ≠ d := by
  have others : delimiters.any isBlockIdRest = false := by decide +kernel
  rintro rfl
  exact List.any_eq_false.mp others c hd h

end RenameTarget

end Adoc
