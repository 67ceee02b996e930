/-! # Stealth ranges

The parts of a token's text that are hidden from a checker. The ranges are kept in the order in
which they were first inserted, each once; that none is repeated is carried as a proof field.

* `toList_add`   adding puts a new range at the end and leaves a known one where it is
* `covers_iff`   a character is hidden when some range holds it -/

namespace Adoc

/-! ## Ranges of characters

Positions inside a text, as opposed to a document, count characters. -/

/-- The characters from number `first` to number `last`, both included; none if `last` comes
before `first`. -/
structure CharRange where
  first : Nat
  last : Nat
deriving DecidableEq, Repr

namespace CharRange

/-- Does the range hold character number `i`? -/
def contains (r : CharRange) (i : Nat) : Bool := r.first ≤ i && i ≤ r.last

/-- Does the range end before it starts? -/
def isEmpty (r : CharRange) : Bool := !(r.first ≤ r.last)

@[simp]
theorem contains_iff {r : CharRange} {i : Nat} :
    r.contains i = true ↔ r.first ≤ i ∧ i ≤ r.last := by
  simp [contains]

end CharRange

/-! ## Sets of ranges -/

/-- A set of character ranges in the order of their first insertion. A range may reach past the
end of the text that it is meant for. -/
structure StealthRanges where
  toList : List CharRange
  nodup : toList.Nodup
deriving DecidableEq

namespace StealthRanges

/-- The set without ranges. -/
def empty : StealthRanges := ⟨[], .nil⟩

/-- Put `r` at the end of `s`, unless it is there already. -/
def add (s : StealthRanges) (r : CharRange) : StealthRanges :=
  if h : r ∈ s.toList then s
  else ⟨s.toList ++ [r], List.nodup_append.2 ⟨s.nodup, by simp, by
    intro a ha b hb hab
    simp only [List.mem_singleton] at hb
    exact h (hb ▸ hab ▸ ha)⟩⟩

/-- Insert `r`, and say whether it is new. -/
def insert (s : StealthRanges) (r : CharRange) : Bool × StealthRanges :=
  (!s.toList.contains r, s.add r)

/-- The set of the given ranges, inserted one by one. -/
def ofList (rs : List CharRange) : StealthRanges := rs.foldl add empty

/-- The number of ranges in the set. -/
def size (s : StealthRanges) : Nat := s.toList.length

/-- Is the set without ranges? -/
def isEmpty (s : StealthRanges) : Bool := s.toList.isEmpty

/-- Is character number `i` hidden? -/
def covers (s : StealthRanges) (i : Nat) : Bool := s.toList.any (·.contains i)

@[simp]
theorem toList_empty : empty.toList = [] := rfl

/-- A new range comes to the end of the list, and a known one changes nothing. -/
theorem toList_add (s : StealthRanges) (r : CharRange) :
    (s.add r).toList = if r ∈ s.toList then s.toList else s.toList ++ [r] := by
  unfold add
  split <;> rfl

/-- A character is hidden if some range holds it. -/
theorem covers_iff {s : StealthRanges} {i : Nat} :
    s.covers i = true ↔ ∃ r ∈ s.toList, r.first ≤ i ∧ i ≤ r.last := by
  simp [covers]

end StealthRanges

end Adoc
