/-! # Decimal numerals

A natural number is written with decimal digits, and with a zero in front only if it is zero. So the
numerals of positive numbers are just the runs of digits that do not begin with a zero.

* `head_toDigits`                 no zero stands in front of a positive number
* `toDigits_ofDigitChars_of_pos`  digits read behind a number are written behind it
* `toDigits_ofDigitChars`         a run of digits is the numeral of its value
* `exists_toDigits_iff`           which runs of digits are the numerals of positive numbers -/

namespace Adoc.Decimal

/-- A run of decimal digits, at least one. -/
structure IsDigits (s : List Char) : Prop where
  ne_nil : s ≠ []
  digits : ∀ c ∈ s, c.isDigit = true

/-- Whether a text is a run of digits can be computed. -/
theorem isDigits_iff {s : List Char} :
    IsDigits s ↔ (!s.isEmpty && s.all (·.isDigit)) = true := by
  rw [Bool.and_eq_true, Bool.not_eq_true', List.isEmpty_eq_false_iff, List.all_eq_true]
  exact ⟨fun h => ⟨h.ne_nil, h.digits⟩, fun h => ⟨h.1, h.2⟩⟩

instance (s : List Char) : Decidable (IsDigits s) := decidable_of_iff _ isDigits_iff.symm

/-- What a number is written with is a run of digits. -/
theorem isDigits_toDigits (n : Nat) : IsDigits (Nat.toDigits 10 n) :=
  ⟨Nat.toDigits_ne_nil, fun _ hc => Nat.isDigit_of_mem_toDigits (by decide) (by decide) hc⟩

/-- A digit is that of its value. -/
theorem exists_digitChar {c : Char} (h : c.isDigit = true) : ∃ n < 10, c = n.digitChar := by
  obtain ⟨first, last⟩ := Char.isDigit_iff_toNat.mp h
  have zero : '0'.toNat = 48 := rfl
  have nine : '9'.toNat = 57 := rfl
  refine ⟨c.toNat - 48, by omega, ?_⟩
  rw [← Char.toNat_inj, Nat.toNat_digitChar_of_lt_ten (by omega)]
  omega

/-- A positive number is not written with a zero in front. -/
theorem head_toDigits {n : Nat} (h : 0 < n) : ∃ c cs, Nat.toDigits 10 n = c :: cs ∧ c ≠ '0' := by
  induction n using Nat.strongRecOn with
  | ind n ih =>
    -- the first digit of a number is that of its tenth part, down to a single digit
    by_cases small : n < 10
    · refine ⟨n.digitChar, [], Nat.toDigits_of_lt_base small, ?_⟩
      rw [ne_eq, Nat.digitChar_eq_zero]
      omega
    · obtain ⟨c, cs, digits, ne⟩ := ih (n / 10) (by omega) (by omega)
      refine ⟨c, cs ++ [(n % 10).digitChar], ?_, ne⟩
      rw [Nat.toDigits_of_base_le (by decide) (by omega), digits]
      rfl

/-- Digits read behind a positive number are written behind its numeral. -/
theorem toDigits_ofDigitChars_of_pos {s : List Char} (h : ∀ c ∈ s, c.isDigit = true) {n : Nat}
    (positive : 0 < n) : Nat.toDigits 10 (Nat.ofDigitChars 10 s n) = Nat.toDigits 10 n ++ s := by
  induction s generalizing n with
  | nil => rw [Nat.ofDigitChars_nil, List.append_nil]
  | cons c s ih =>
    obtain ⟨digit, others⟩ := List.forall_mem_cons.mp h
    obtain ⟨d, small, rfl⟩ := exists_digitChar digit
    rw [Nat.ofDigitChars_cons_digitChar_of_lt_ten small, ih others (by omega),
      ← Nat.toDigits_append_toDigits (by decide) positive small, Nat.toDigits_of_lt_base small,
      List.append_assoc, List.singleton_append]

/-- A run of digits without a zero in front is the numeral of its value. -/
theorem toDigits_ofDigitChars {s : List Char} (h : IsDigits s) (head : s.head? ≠ some '0') :
    Nat.toDigits 10 (Nat.ofDigitChars 10 s 0) = s := by
  obtain ⟨ne, digits⟩ := h
  cases s with
  | nil => exact absurd rfl ne
  | cons c s =>
    obtain ⟨digit, others⟩ := List.forall_mem_cons.mp digits
    obtain ⟨d, small, rfl⟩ := exists_digitChar digit
    -- the first digit is positive, and all further ones go behind it
    have positive : 0 < d := by
      rw [List.head?_cons, ne_eq, Option.some.injEq, Nat.digitChar_eq_zero] at head
      omega
    rw [Nat.ofDigitChars_cons_digitChar_of_lt_ten small, Nat.mul_zero, Nat.zero_add,
      toDigits_ofDigitChars_of_pos others positive, Nat.toDigits_of_lt_base small,
      List.singleton_append]

/-- The numerals of positive numbers are the runs of digits that do not begin with a zero. -/
theorem exists_toDigits_iff {s : List Char} :
    (∃ n, 0 < n ∧ s = Nat.toDigits 10 n) ↔ IsDigits s ∧ s.head? ≠ some '0' := by
  constructor
  · rintro ⟨n, positive, rfl⟩
    obtain ⟨c, cs, digits, ne⟩ := head_toDigits positive
    refine ⟨isDigits_toDigits n, ?_⟩
    rw [digits, List.head?_cons]
    exact fun zero => ne (Option.some.inj zero)
  -- a run of digits is the numeral of its value, and that is not zero, which has a zero in front
  · rintro ⟨digits, head⟩
    have numeral := toDigits_ofDigitChars digits head
    refine ⟨Nat.ofDigitChars 10 s 0, ?_, numeral.symm⟩
    rw [Nat.pos_iff_ne_zero]
    intro zero
    rw [zero, Nat.toDigits_zero] at numeral
    rw [← numeral] at head
    exact head rfl

end Adoc.Decimal
