import Adoc.Json.Text
import Adoc.Proofs.Basic
import Adoc.Proofs.Decimal

/-! # Natural numbers are read as they are written

A natural number is written without a sign, a point or an exponent. Reading takes its digits and
stops where a value may end; if it is below 2^64, its value is the number.

* `value?_eq_natural_iff`  which numerals stand for natural numbers
* `readNumeral_ofNat`      a written natural number is read as it was -/

namespace Adoc

/-! ## Values -/

/-- The numerals of natural numbers are digits alone, with a value below 2^64. -/
theorem Numeral.value?_eq_natural_iff {n : Numeral} {k : Nat} :
    n.value? = some (.natural k) ↔ n.negative = false ∧ n.fraction = none ∧ n.exponent = none ∧
      Nat.ofDigitChars 10 n.whole 0 = k ∧ k < Nat.pow 2 64 := by
  have plain : (n.fraction.isNone && n.exponent.isNone && !n.negative &&
      decide (Nat.ofDigitChars 10 n.whole 0 < Nat.pow 2 64)) = true ↔ n.negative = false ∧
      n.fraction = none ∧ n.exponent = none ∧ Nat.ofDigitChars 10 n.whole 0 < Nat.pow 2 64 := by
    simp only [Bool.and_eq_true, Option.isNone_iff_eq_none, Bool.not_eq_true', decide_eq_true_eq]
    exact ⟨fun h => ⟨h.1.2, h.1.1.1, h.1.1.2, h.2⟩, fun h => ⟨⟨⟨h.2.1, h.2.2.1⟩, h.1⟩, h.2.2.2⟩⟩
  -- the value is defined by this test, so the two cases are those of the definition
  by_cases natural : (n.fraction.isNone && n.exponent.isNone && !n.negative &&
      decide (Nat.ofDigitChars 10 n.whole 0 < Nat.pow 2 64)) = true
  · obtain ⟨sign, fraction, exponent, lt⟩ := plain.mp natural
    have value : n.value? = some (.natural (Nat.ofDigitChars 10 n.whole 0)) := if_pos natural
    rw [value, Option.some.injEq, Value.natural.injEq]
    constructor
    · intro h
      exact ⟨sign, fraction, exponent, h, h ▸ lt⟩
    · exact fun h => h.2.2.2.1
  -- any other numeral has a negative value or a rounded one
  · constructor
    · intro value
      rw [show n.value? = _ from if_neg natural] at value
      split at value
      · exact nomatch value
      · obtain ⟨x, _, float⟩ := Option.map_eq_some_iff.mp value
        exact nomatch float
    · intro h
      obtain ⟨sign, fraction, exponent, rfl, lt⟩ := h
      exact absurd (plain.mpr ⟨sign, fraction, exponent, lt⟩) natural

namespace Json

/-! ## Reading -/

/-- Does `rest` start with a character that may follow a value, or with none? -/
def EndsValue (rest : List Char) : Prop :=
  ∀ c ∈ rest.head?, c = ',' ∨ c = ']' ∨ c = '\x7d'

/-- A value may be followed by nothing. -/
@[simp]
theorem endsValue_nil : EndsValue [] := nofun

/-- A value may be followed by a comma or by a closing bracket. -/
theorem endsValue_cons {c : Char} {rest : List Char} (h : c = ',' ∨ c = ']' ∨ c = '\x7d') :
    EndsValue (c :: rest) := by
  intro d hd
  obtain rfl := Option.some.inj hd
  exact h

/-- A run of digits is read as far as it goes. -/
theorem readDigits_append {digits rest : List Char} (nonempty : digits ≠ [])
    (all : ∀ c ∈ digits, c.isDigit = true) (ends : EndsValue rest) :
    readDigits (digits ++ rest) = some (digits, rest) := by
  -- none of the characters that may follow a value is a digit
  have other : ∀ c ∈ rest.head?, c.isDigit = false := by
    intro c hc
    obtain rfl | rfl | rfl := ends c hc <;> rfl
  have run := takeWhile_append_of_ends all other
  rw [readDigits, run.1, run.2]
  cases digits with
  | nil => exact absurd rfl nonempty
  | cons => rfl

/-- The digits of a number are read as a whole part. -/
private theorem readWhole_toDigits (n : Nat) {rest : List Char} (ends : EndsValue rest) :
    readWhole (Nat.toDigits 10 n ++ rest) = some (Nat.toDigits 10 n, rest) := by
  have digits : readDigits (Nat.toDigits 10 n ++ rest) = some (Nat.toDigits 10 n, rest) :=
    readDigits_append (Decimal.isDigits_toDigits n).ne_nil (Decimal.isDigits_toDigits n).digits ends
  obtain rfl | positive := Nat.eq_zero_or_pos n
  · -- a zero is the whole part by itself, so what follows must not be a digit
    cases rest with
    | nil => rfl
    | cons c rest =>
      have other : c.isDigit = false := by
        obtain rfl | rfl | rfl := ends c rfl <;> rfl
      simp [readWhole, Nat.toDigits_zero, other]
  · obtain ⟨c, cs, split, ne⟩ := Decimal.head_toDigits positive
    rw [split, List.cons_append] at digits ⊢
    rw [readWhole, digits]
    intro s zero
    exact ne (List.cons.inj zero).1

/-- Where a value may end no fraction is read. -/
private theorem readFraction_of_endsValue {rest : List Char} (ends : EndsValue rest) :
    readFraction rest = some (none, rest) := by
  rw [readFraction]
  rintro _ rfl
  obtain h | h | h := ends '.' rfl <;> exact absurd h (by decide)

/-- Where a value may end no exponent is read. -/
private theorem readExponent_of_endsValue {rest : List Char} (ends : EndsValue rest) :
    readExponent rest = some (none, rest) := by
  cases rest with
  | nil => rfl
  | cons c rest =>
    have other : ¬(c = 'e' ∨ c = 'E') := by
      obtain rfl | rfl | rfl := ends c rfl <;> decide
    rw [readExponent.eq_def]
    exact if_neg other

/-- A natural number is written with its digits and nothing else. -/
@[simp]
theorem print_ofNat (n : Nat) : (Numeral.ofNat n).print = Nat.toDigits 10 n := by
  simp [Numeral.print, Numeral.ofNat]

/-- A written natural number is read as it was, if what follows it may follow a value. -/
theorem readNumeral_ofNat (n : Nat) {rest : List Char} (ends : EndsValue rest) :
    readNumeral ((Numeral.ofNat n).print ++ rest) = some (.ofNat n, rest) := by
  -- behind the digits stand neither a fraction nor an exponent
  have unsigned : readUnsigned false (Nat.toDigits 10 n ++ rest) = some (.ofNat n, rest) := by
    simp only [readUnsigned, readWhole_toDigits n ends, readFraction_of_endsValue ends,
      readExponent_of_endsValue ends, Option.bind_eq_bind, Option.bind_some, Option.pure_def,
      Numeral.ofNat]
  rw [print_ofNat, readNumeral, unsigned]
  intro s minus
  -- a minus would be a digit of the number
  have digit := Nat.isDigit_of_mem_toDigits (b := 10) (n := n) (c := '-') (by decide) (by decide)
  cases digits : Nat.toDigits 10 n with
  | nil => exact Nat.toDigits_ne_nil digits
  | cons c cs =>
    rw [digits, List.cons_append] at minus
    rw [digits, (List.cons.inj minus).1] at digit
    exact absurd (digit List.mem_cons_self) (by decide)

end Json

end Adoc
