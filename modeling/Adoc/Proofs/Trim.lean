import Adoc.Proofs.Basic
import Adoc.Text.Basic

/-! # Trimming

White space and brackets stand in runs at the ends of a text, and are taken off there.

* `trim_append_left`   white space in front of a text makes no difference to trimming
* `trim_append_right`  and neither does white space behind it
* `trim_eq_nil_iff`    what is trimmed to nothing -/

namespace Adoc.Text

@[simp]
theorem dropWhileEnd_eq_rdropWhile (p : Char → Bool) (s : List Char) :
    dropWhileEnd p s = s.rdropWhile p := rfl

/-- A text that does not begin with the first of a pair begins with no pair. -/
theorem dropPairs_eq_self {a b : Char} {s : List Char} (h : s.head? ≠ some a) :
    dropPairs a b s = s := by
  unfold dropPairs
  split
  · rename_i c d s
    have other : ¬ (c = a ∧ d = b) := fun both => h (congrArg some both.1)
    rw [if_neg other]
  · rfl

/-- A text without white space is not changed by trimming. -/
theorem trim_eq_self {s : List Char} (h : ∀ c ∈ s, isBlank c = false) : trim s = s := by
  have front : s.dropWhile isBlank = s := by
    rw [List.dropWhile_eq_self_iff]
    intro pos
    simp [h]
  rw [trim, front, dropWhileEnd_eq_rdropWhile, List.rdropWhile_eq_self_iff]
  exact fun some => Bool.eq_false_iff.mp (h _ (List.getLast_mem some))

/-- White space in front of a text makes no difference to trimming. -/
theorem trim_append_left {front : List Char} (h : ∀ c ∈ front, isBlank c = true) (s : List Char) :
    trim (front ++ s) = trim s := by
  rw [trim, List.dropWhile_append_of_pos h, ← trim]

/-- And neither does white space behind it. -/
theorem trim_append_right (s : List Char) {back : List Char} (h : ∀ c ∈ back, isBlank c = true) :
    trim (s ++ back) = trim s := by
  rw [trim, List.dropWhile_append, trim]
  split
  · -- there is nothing else in `s` either
    rename_i none
    rw [List.dropWhile_eq_nil_iff.mpr h, List.isEmpty_iff.mp none]
  · exact rdropWhile_append_of_pos h

/-- A run of white space may be taken off before trimming. -/
theorem trim_dropWhile {p : Char → Bool} (hp : ∀ c, p c = true → isBlank c = true)
    (s : List Char) : trim (s.dropWhile p) = trim s := by
  have run : ∀ c ∈ s.takeWhile p, isBlank c = true := fun c hc => hp c (List.mem_takeWhile_imp hc)
  -- the run and what is left of it are the text again
  have all := trim_append_left run (s.dropWhile p)
  rwa [List.takeWhile_append_dropWhile, eq_comm] at all

/-- Nothing but white space is trimmed to nothing. -/
theorem trim_eq_nil_iff {s : List Char} : trim s = [] ↔ ∀ c ∈ s, isBlank c = true := by
  constructor
  · intro h c hc
    rw [trim, dropWhileEnd, List.reverse_eq_nil_iff, List.dropWhile_eq_nil_iff] at h
    -- a character is in the run in front, or in what trimming then takes off the end
    rw [← List.takeWhile_append_dropWhile (p := isBlank) (l := s), List.mem_append] at hc
    obtain hc | hc := hc
    · exact List.mem_takeWhile_imp hc
    · exact h c (List.mem_reverse.mpr hc)
  · intro h
    rw [trim, List.dropWhile_eq_nil_iff.mpr h]
    rfl

end Adoc.Text
