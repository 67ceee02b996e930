/-! # Spans of a document

Positions in a document are byte offsets. An offset is a number of 64 bits, and what comes of a sum
or a difference that is no offset depends on how the program was built: it stops there, or it goes
on with the low 64 bits (`Overflow`). The plain functions on spans are exact; those that end in `?`
say what the program makes of them.

* `keep?_of_lt`        a sum that is an offset is kept as it is
* `contains?_of_lt`    so that a span with an end is looked into as it should be -/

namespace Adoc

/-- How many offsets there are: the first number that does not fit into 64 bits. -/
def offsetLimit : Nat := UInt64.size

/-- What a program does, by the way it was built, if the result of its arithmetic is no offset. -/
inductive Overflow where
  /-- It stops. -/
  | stop
  /-- It goes on with the low 64 bits of the result. -/
  | wrap
deriving DecidableEq, Repr

namespace Overflow

/-- What is kept of a sum of offsets, unless the program stops. -/
def keep? (o : Overflow) (sum : Nat) : Option Nat :=
  if sum < offsetLimit then some sum
  else
    match o with
    | .stop => none
    | .wrap => some (sum % offsetLimit)

/-- The difference of two offsets, unless the program stops. -/
def difference? (o : Overflow) (a b : Nat) : Option Nat :=
  if b ≤ a then some (a - b)
  else
    match o with
    | .stop => none
    | .wrap => some (a + offsetLimit - b)

/-- A sum that is an offset is kept as it is, by every program. -/
theorem keep?_of_lt {o : Overflow} {sum : Nat} (h : sum < offsetLimit) : o.keep? sum = some sum :=
  if_pos h

/-- A program stops at a sum if it was built to, and the sum is no offset. -/
theorem keep?_eq_none_iff {o : Overflow} {sum : Nat} :
    o.keep? sum = none ↔ o = .stop ∧ offsetLimit ≤ sum := by
  unfold keep?
  split
  · simp; omega
  · cases o <;> simp; omega

/-- A difference that is not negative is an offset again. -/
theorem difference?_of_le {o : Overflow} {a b : Nat} (h : b ≤ a) :
    o.difference? a b = some (a - b) :=
  if_pos h

end Overflow

/-- The `len` bytes of a document from offset `start`. -/
structure Span where
  start : Nat
  len : Nat
deriving DecidableEq, Repr

namespace Span

/-- The offset just past the span. -/
def stop (s : Span) : Nat := s.start + s.len

/-- The end of the span as the program has it. -/
def stop? (o : Overflow) (s : Span) : Option Nat := o.keep? (s.start + s.len)

/-- The span with its start as the program keeps it. -/
def keep? (o : Overflow) (s : Span) : Option Span :=
  (o.keep? s.start).map fun start => ⟨start, s.len⟩

/-- Is the span without bytes? -/
def isEmpty (s : Span) : Bool := s.len == 0

/-- Does the span hold the byte at `offset`? -/
def contains (s : Span) (offset : Nat) : Bool := s.start ≤ offset && offset < s.stop

/-- What the program says of the byte at `offset`; it looks at the end of the span only if the
offset is not in front of it. -/
def contains? (o : Overflow) (s : Span) (offset : Nat) : Option Bool :=
  if s.start ≤ offset then (s.stop? o).map fun stop => decide (offset < stop) else some false

/-- The span from offset `first` to just before `stop`; empty if that comes first. -/
def between (first stop : Nat) : Span := ⟨first, stop - first⟩

/-- The end of a span, if it is an offset. -/
theorem stop?_of_lt {o : Overflow} {s : Span} (h : s.stop < offsetLimit) :
    s.stop? o = some s.stop :=
  Overflow.keep?_of_lt h

/-- If the end of a span is an offset, the program is right about the bytes in it. -/
theorem contains?_of_lt {o : Overflow} {s : Span} (h : s.stop < offsetLimit) (offset : Nat) :
    s.contains? o offset = some (s.contains offset) := by
  rw [contains?, contains, stop?_of_lt h]
  split <;> simp [*]

end Span

end Adoc
