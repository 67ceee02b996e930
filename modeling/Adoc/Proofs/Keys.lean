import Adoc.Proofs.SectionId.NormalForm

/-! # The keys of a section

A section is referred to by its generated id, or by the id with a number behind it if another
section has the same. The number is what stands behind the last separator of such a key, so that a
key has two ids only if one of them ends in a number itself.

* `numbered_inj`                     a key has one id and one number, around its last separator
* `isNormal_numbered`                an id with a number behind it is in normal form
* `exists_number_iff`                which digits are the number of a repetition
* `isGiven_numbered_iff`             and so with which a section may get an id
* `eq_or_eq_numbered_of_keyNames`    which two ids one key may name -/

namespace Adoc

open Text Decimal

namespace SectionId

/-- Is `key` what a section may get for the id `id`? The first section with this id gets the id
itself, and those after it get it with their number, which counts from 2. -/
def IsGiven (id key : List Char) : Prop :=
  key = id ∨ ∃ n, 2 ≤ n ∧ key = numbered id (Nat.toDigits 10 n)

/-! ## Digits behind an id -/

/-- The digits at the end of a numbered id are those behind the separator. -/
theorem reverse_numbered (id : List Char) {digits : List Char} (h : IsDigits digits) :
    (numbered id digits).reverse.takeWhile (·.isDigit) = digits.reverse ∧
      (numbered id digits).reverse.dropWhile (·.isDigit) = separator :: id.reverse := by
  -- read from its end, the key is a run of digits that ends at a separator
  have split : (numbered id digits).reverse = digits.reverse ++ separator :: id.reverse := by
    simp [numbered]
  rw [split]
  apply takeWhile_append_of_ends
  · exact fun c hc => h.digits c (List.mem_reverse.mp hc)
  · intro c hc
    obtain rfl := Option.some.inj hc
    rfl

/-- A key has one id and one number: they are in front of its last separator and behind it. -/
theorem numbered_inj {id id' digits digits' : List Char} (h : IsDigits digits)
    (h' : IsDigits digits') (same : numbered id digits = numbered id' digits') :
    id = id' ∧ digits = digits' := by
  obtain ⟨back, front⟩ := reverse_numbered id h
  obtain ⟨back', front'⟩ := reverse_numbered id' h'
  -- both keys are one text, which is divided in one way
  rw [same, front'] at front
  rw [same, back'] at back
  exact ⟨(List.reverse_inj.mp (List.cons.inj front).2).symm, (List.reverse_inj.mp back).symm⟩

/-- A number makes an id longer. -/
theorem numbered_ne_self (id digits : List Char) : numbered id digits ≠ id := by
  intro same
  have length := congrArg List.length same
  rw [numbered, List.length_append, List.length_cons] at length
  omega

/-- Digits are parts of words and in lower case, and they separate nothing. -/
private theorem digit_plain {c : Char} (h : c.isDigit = true) :
    isWord c = true ∧ IsLower c ∧ isSeparator c = false := by
  obtain ⟨n, small, rfl⟩ := exists_digitChar h
  have all : ∀ n < 10, isWord n.digitChar = true ∧ IsLower n.digitChar ∧
      isSeparator n.digitChar = false := by decide +kernel
  exact all n small

/-- Digits are a word. -/
theorem unbroken_of_isDigits {digits : List Char} (h : IsDigits digits) : Unbroken digits :=
  ⟨h.ne_nil, fun c hc => (digit_plain (h.digits c hc)).2.2⟩

/-- An id with digits behind it is in normal form: they are one more word. -/
theorem isNormal_numbered {id digits : List Char} (h : IsNormal id) (hd : IsDigits digits) :
    IsNormal (numbered id digits) := by
  have word := unbroken_of_isDigits hd
  have lowLine : isWord separator = true ∧ IsLower separator := by decide +kernel
  -- what holds of the characters of the id, of the separator and of digits holds of all
  have parts {P : Char → Prop} (front : ∀ c ∈ id, P c) (low : P separator)
      (back : ∀ c, c.isDigit = true → P c) : ∀ c ∈ numbered id digits, P c := by
    rw [numbered, List.forall_mem_append, List.forall_mem_cons]
    exact ⟨front, low, fun c hc => back c (hd.digits c hc)⟩
  exact {
    long := by
      have long := h.long
      rw [numbered, List.length_append]
      omega
    starts := by rw [numbered, List.head?_append, h.starts, Option.some_or]
    words := parts h.words lowLine.1 fun c hc => (digit_plain hc).1
    single := by
      refine List.isChain_append.mpr
        ⟨h.single, isChain_cons_of_plain word.ne_separator separator, ?_⟩
      -- the id ends in no separator, so that the one behind it stands alone
      rintro c last d - rfl
      exact absurd last h.ends
    ends := by
      rw [numbered, List.getLast?_append]
      intro last
      obtain last | ⟨-, last⟩ := Option.or_eq_some_iff.mp last
      · exact word.getLast?_ne last
      · exact h.ends last
    lower := lowercase_eq_self_iff.mpr
      (parts (lowercase_eq_self_iff.mp h.lower) lowLine.2 fun c hc => (digit_plain hc).2.1) }

/-- Digits are the number of a repetition unless they begin with a zero or are the number of the
first section. -/
theorem exists_number_iff {digits : List Char} :
    (∃ n, 2 ≤ n ∧ digits = Nat.toDigits 10 n) ↔
      IsDigits digits ∧ ¬(digits.head? = some '0' ∨ digits = ['1']) := by
  rw [not_or, ← and_assoc, ← ne_eq, ← exists_toDigits_iff]
  constructor
  · rintro ⟨n, two, rfl⟩
    refine ⟨⟨n, by omega, rfl⟩, ?_⟩
    intro one
    have value : n = Nat.ofDigitChars 10 ['1'] 0 := by rw [← one, Nat.ofDigitChars_ten_toDigits]
    rw [value] at two
    exact absurd two (by decide)
  · rintro ⟨⟨n, positive, rfl⟩, one⟩
    refine ⟨n, ?_, rfl⟩
    -- no number begins with a zero, so that of the numbers only the first one is left out
    obtain rfl | two : n = 1 ∨ 2 ≤ n := by omega
    · exact absurd rfl one
    · exact two

/-- With which digits behind it a section may get an id. -/
theorem isGiven_numbered_iff {id digits : List Char} (h : IsDigits digits) :
    IsGiven id (numbered id digits) ↔ ¬(digits.head? = some '0' ∨ digits = ['1']) := by
  constructor
  · rintro (same | ⟨n, two, same⟩)
    · exact absurd same (numbered_ne_self id digits)
    -- the digits behind the id are those of the number, as a key has one number
    · obtain ⟨-, number⟩ := numbered_inj h (isDigits_toDigits n) same
      exact (exists_number_iff.mp ⟨n, two, number⟩).2
  · intro form
    obtain ⟨n, two, rfl⟩ := exists_number_iff.mpr ⟨h, form⟩
    exact .inr ⟨n, two, rfl⟩

end SectionId

namespace Section

open SectionId

/-! ## Keys that name two ids -/

/-- Two ids that one key names are the same, unless one is the other with a number behind it, and
then the key is the longer one. -/
theorem eq_or_eq_numbered_of_keyNames {id id' key : List Char} (h : keyNames id key = true)
    (h' : keyNames id' key = true) :
    id = id' ∨ (∃ digits, IsDigits digits ∧ id = numbered id' digits ∧ key = id) ∨
      ∃ digits, IsDigits digits ∧ id' = numbered id digits ∧ key = id' := by
  -- the key is one of the ids itself, or it ends in a number behind both
  obtain ⟨-, rfl | ⟨digits, hd, rfl⟩⟩ := keyNames_iff.mp h
  · obtain ⟨-, same | ⟨digits, hd, longer⟩⟩ := keyNames_iff.mp h'
    · exact .inl same
    · exact .inr (.inl ⟨digits, hd, longer, rfl⟩)
  · obtain ⟨-, longer | ⟨digits', hd', same⟩⟩ := keyNames_iff.mp h'
    · exact .inr (.inr ⟨digits, hd, longer.symm, longer⟩)
    · exact .inl (numbered_inj hd hd' same).1

/-- A key is an id or an id with a number behind it, and both are in normal form. -/
theorem isNormal_of_matchesAutoId {s : Section} {key : List Char}
    (h : s.matchesAutoId key = true) : IsNormal key := by
  obtain ⟨some, rfl | ⟨digits, hd, rfl⟩⟩ := keyNames_iff.mp h
  · exact isNormal_generate some
  · exact isNormal_numbered (isNormal_generate some) hd

/-- A key is ambiguous only through numbers. If it refers to two sections, they have the same
generated id, or the id of one is that of the other with a number behind it, and the key is the
longer id. Every key of a section is its own id and may be the name of a block, and a section
without a generated id has no keys. -/
theorem keys_ambiguous_only_by_numbers :
    (∀ (s s' : Section) (key : List Char), s.matchesAutoId key = true →
      s'.matchesAutoId key = true →
        s.autoId = s'.autoId ∨
        (∃ digits, IsDigits digits ∧ s.autoId = numbered s'.autoId digits ∧ key = s.autoId) ∨
        ∃ digits, IsDigits digits ∧ s'.autoId = numbered s.autoId digits ∧ key = s'.autoId) ∧
    (∀ (s : Section) (key : List Char), s.matchesAutoId key = true →
      generate key = key ∧ key ≠ [] ∧ RenameTarget.blockId.accepts key = true) ∧
    ∀ s : Section, s.autoId = [] → ∀ key, s.matchesAutoId key = false := by
  refine ⟨fun s s' key h h' => eq_or_eq_numbered_of_keyNames h h', ?own, ?empty⟩
  case own =>
    intro s key h
    have normal := isNormal_of_matchesAutoId h
    -- being a normal form, the key is an id, and ids are names of blocks
    have same : generate key = key := generate_eq_self normal
    have some : key ≠ [] := List.ne_nil_of_length_pos (Nat.lt_of_lt_of_le Nat.two_pos normal.long)
    refine ⟨same, some, ?_⟩
    rw [← same] at some
    have legal : RenameTarget.blockId.accepts (generate key) = true := accepts_generate some
    rwa [same] at legal
  case empty =>
    intro s none key
    rw [matchesAutoId, none]
    rfl

/-- A section with the given heading alone. -/
private def headed (heading : String) : Section :=
  ⟨.ofChildren .section [.token .heading 0 heading], rfl⟩

/-- The id of a section without a number in its title. -/
private theorem autoId_step : (headed "== Step").autoId = "_step".toList := by decide +kernel

/-- The id of a section with a number in its title. -/
private theorem autoId_stepOne : (headed "== Step 1").autoId = "_step_1".toList := by
  decide +kernel

/-- The id of the section with the number is a key of the section without it. -/
private theorem stepOne_matchesAutoId_step :
    (headed "== Step").matchesAutoId "_step_1".toList = true := by
  rw [Section.matchesAutoId, autoId_step]
  rfl

/-- A number in a title makes an id that is also a key of the title without it. -/
theorem step_one_named_twice :
    (headed "== Step").matchesAutoId "_step_1".toList = true ∧
    (headed "== Step 1").matchesAutoId "_step_1".toList = true ∧
    (∃ digits, IsDigits digits ∧
      (headed "== Step 1").autoId = numbered (headed "== Step").autoId digits ∧
      "_step_1".toList = (headed "== Step 1").autoId) ∧
    generate "_step_1".toList = "_step_1".toList ∧
    (headed "== !").autoId = [] ∧ (headed "== !").matchesAutoId "_".toList = false := by
  have first := stepOne_matchesAutoId_step
  have second : (headed "== Step 1").matchesAutoId "_step_1".toList = true := by
    rw [Section.matchesAutoId, autoId_stepOne]
    rfl
  have none : (headed "== !").autoId = [] := by decide +kernel
  refine ⟨first, second, ?_, (keys_ambiguous_only_by_numbers.2.1 _ _ first).1, none,
    keys_ambiguous_only_by_numbers.2.2 _ none _⟩
  obtain same | ⟨_, _, _, same⟩ | longer :=
    keys_ambiguous_only_by_numbers.1 _ _ _ first second
  · rw [autoId_step, autoId_stepOne] at same
    exact absurd same (by decide)
  · rw [autoId_step] at same
    exact absurd same (by decide)
  · exact longer

/-- The keys of a section are its generated id and the id with any digits behind it. Among them is
everything that a section with this id may get; what is too much are the keys whose digits begin
with a zero or are just a one, and those alone. -/
theorem keys_given_and_spare (s : Section) (key : List Char) (h : s.autoId ≠ []) :
    (s.matchesAutoId key = true ↔
      key = s.autoId ∨ ∃ digits, IsDigits digits ∧ key = numbered s.autoId digits) ∧
    (IsGiven s.autoId key → s.matchesAutoId key = true) ∧
    (s.matchesAutoId key = true ∧ ¬ IsGiven s.autoId key ↔
      ∃ digits, IsDigits digits ∧ (digits.head? = some '0' ∨ digits = ['1']) ∧
        key = numbered s.autoId digits) := by
  have keys : s.matchesAutoId key = true ↔
      key = s.autoId ∨ ∃ digits, IsDigits digits ∧ key = numbered s.autoId digits := by
    rw [matchesAutoId, keyNames_iff]
    exact and_iff_right h
  refine ⟨keys, ?given, ?spare⟩
  case given =>
    rintro (same | ⟨n, -, same⟩)
    · exact keys.mpr (.inl same)
    · exact keys.mpr (.inr ⟨_, isDigits_toDigits n, same⟩)
  case spare =>
    rw [keys]
    -- the id itself is always given, so that a spare key ends in digits
    constructor
    · rintro ⟨same | ⟨digits, hd, rfl⟩, other⟩
      · exact absurd (.inl same) other
      · rw [isGiven_numbered_iff hd, not_not] at other
        exact ⟨digits, hd, other, rfl⟩
    · rintro ⟨digits, hd, form, rfl⟩
      rw [isGiven_numbered_iff hd, not_not]
      exact ⟨.inr ⟨digits, hd, rfl⟩, form⟩

/-- The twelfth section with a title may get the number 12, but none gets the number 07. -/
theorem twelfth_step_given :
    (headed "== Step").autoId ≠ [] ∧
    IsGiven (headed "== Step").autoId "_step_12".toList ∧
    (headed "== Step").matchesAutoId "_step_12".toList = true ∧
    (headed "== Step").matchesAutoId "_step_07".toList = true ∧
    ¬ IsGiven (headed "== Step").autoId "_step_07".toList := by
  have some : (headed "== Step").autoId ≠ [] := by
    rw [autoId_step]
    decide
  have given : IsGiven (headed "== Step").autoId "_step_12".toList := by
    rw [autoId_step]
    exact .inr ⟨12, by decide, rfl⟩
  have key := (keys_given_and_spare _ _ some).2.1 given
  have spare := (keys_given_and_spare _ "_step_07".toList some).2.2.mpr
    ⟨"07".toList, by decide, .inl rfl, by rw [autoId_step]; rfl⟩
  exact ⟨some, given, key, spare⟩

/-- The number 1 is taken for that of a repetition: the id of a section with this number in its
title is a key of the section without it, which no section with that title gets. -/
theorem first_number_matched :
    (headed "== Step").autoId ≠ [] ∧ (headed "== Step 1").autoId = "_step_1".toList ∧
    ¬((headed "== Step").matchesAutoId "_step_1".toList = true ↔
      IsGiven (headed "== Step").autoId "_step_1".toList) := by
  refine ⟨by rw [autoId_step]; decide, autoId_stepOne, ?_⟩
  intro claimed
  have one : "_step_1".toList = numbered "_step".toList ['1'] := rfl
  have given := claimed.mp stepOne_matchesAutoId_step
  rw [autoId_step, one, isGiven_numbered_iff (by decide)] at given
  exact given (.inr rfl)

end Section

end Adoc
