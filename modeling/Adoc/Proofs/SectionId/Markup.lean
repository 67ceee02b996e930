import Adoc.Proofs.Lowercase
import Adoc.Proofs.Names
import Adoc.Proofs.Basic
import Adoc.SectionId

/-! # Markup in titles

A tag or a character reference leaves nothing behind in an id if the character in front of it is one
that may remain. Behind any other character it is not recognized, because the run of characters that
may not remain takes its first character along; the rest of it then stays in the title.

* `clean_markup_append`  markup at the start of a text leaves nothing behind
* `clean_append`         what stands in front of markup is cleaned by itself
* `clean_append_markup`  markup behind a character that may remain
* `clean_append_cons`    what stands behind a character that may not remain -/

namespace Adoc.SectionId

open Text

/-! ## What is recognized -/

/-- The inline tags and character references. -/
inductive IsMarkup : List Char → Prop
  /-- `<`, at least one character other than `>`, and `>`. -/
  | tag {x : List Char} (some : x ≠ []) (inner : '>' ∉ x) : IsMarkup ('<' :: (x ++ ['>']))
  /-- `&`, at least two small letters, up to two digits, and `;`. -/
  | name {letters digits : List Char} (long : 2 ≤ letters.length)
      (small : ∀ c ∈ letters, isSmallLetter c = true) (short : digits.length ≤ 2)
      (decimal : ∀ c ∈ digits, isDecimalDigit c = true) :
      IsMarkup ('&' :: (letters ++ digits ++ [';']))
  /-- `&#`, two to six digits, and `;`. -/
  | decimal {digits : List Char} (long : 2 ≤ digits.length) (short : digits.length ≤ 6)
      (decimal : ∀ c ∈ digits, isDecimalDigit c = true) : IsMarkup ('&' :: '#' :: (digits ++ [';']))
  /-- `&#x`, two to five hexadecimal digits, and `;`. -/
  | hexadecimal {digits : List Char} (long : 2 ≤ digits.length) (short : digits.length ≤ 5)
      (hexadecimal : ∀ c ∈ digits, isHexDigit c = true) :
      IsMarkup ('&' :: '#' :: 'x' :: (digits ++ [';']))

/-- Behind a tag the text goes on. -/
theorem afterTag?_append {x : List Char} (some : x ≠ []) (inner : '>' ∉ x) (s : List Char) :
    afterTag? ('<' :: (x ++ '>' :: s)) = .some s := by
  obtain ⟨c, x, rfl⟩ := List.exists_cons_of_ne_nil some
  obtain ⟨first, others⟩ := List.ne_and_not_mem_of_not_mem_cons inner
  -- the search for the end of the tag runs through all of `x`
  have run : ∀ d ∈ x, (d != '>') = true := fun d hd => bne_iff_ne.mpr fun h => others (h ▸ hd)
  rw [List.cons_append, afterTag?, if_neg (Ne.symm first), List.dropWhile_append_of_pos run]
  rfl

/-- A run is read as a whole if it is not too long and the character behind it does not belong to
it. -/
theorem spanAtMost_append {p : Char → Bool} {n : Nat} {run rest : List Char} {c : Char}
    (short : run.length ≤ n) (belongs : ∀ c ∈ run, p c = true) (ends : p c = false) :
    spanAtMost p n (run ++ c :: rest) = (run, c :: rest) := by
  induction run generalizing n with
  | nil =>
    cases n with
    | zero => rfl
    | succ n => rw [List.nil_append, spanAtMost, if_neg (Bool.eq_false_iff.mp ends)]
  | cons d run ih =>
    obtain ⟨first, others⟩ := List.forall_mem_cons.mp belongs
    cases n with
    | zero => exact absurd short (Nat.not_succ_le_zero _)
    | succ n =>
      rw [List.cons_append, spanAtMost, if_pos first, ih (Nat.le_of_succ_le_succ short) others]

/-- A reference that is long enough is closed by a semicolon. -/
theorem closeReference_semicolon {least size : Nat} (long : least ≤ size) (s : List Char) :
    closeReference least size (';' :: s) = some s := if_pos long

/-- Characters are compared by their code points. -/
private theorem le_iff_toNat_le {c d : Char} : c ≤ d ↔ c.toNat ≤ d.toNat := Iff.rfl

/-- A digit is no small letter. -/
theorem isSmallLetter_of_isDecimalDigit {c : Char} (h : isDecimalDigit c = true) :
    isSmallLetter c = false := by
  -- the ranges of the digits have no code point in common with the small letters
  have apart : decimalDigits.apart ⟨[(0x61, 0x7A)]⟩ = true := by decide +kernel
  have other := CodePoints.not_contains_of_apart apart h
  simpa [isSmallLetter, CodePoints.contains, le_iff_toNat_le] using other

/-- A semicolon is no digit. -/
private theorem decimal_semicolon : isDecimalDigit ';' = false := by decide +kernel

/-- A semicolon is no hexadecimal digit. -/
private theorem hexadecimal_semicolon : isHexDigit ';' = false := by decide +kernel

/-- Behind a name the text goes on. -/
theorem afterReference?_name {letters digits : List Char} (long : 2 ≤ letters.length)
    (small : ∀ c ∈ letters, isSmallLetter c = true) (short : digits.length ≤ 2)
    (decimal : ∀ c ∈ digits, isDecimalDigit c = true) (s : List Char) :
    afterReference? ('&' :: (letters ++ (digits ++ ';' :: s))) = some s := by
  -- behind the letters stands a digit or the semicolon
  have ends : ∀ c ∈ (digits ++ ';' :: s).head?, isSmallLetter c = false := by
    cases digits with
    | nil => exact fun c hc => Option.some.inj hc ▸ (by decide)
    | cons d digits =>
      intro c hc
      rw [← Option.some.inj hc]
      exact isSmallLetter_of_isDecimalDigit (decimal d List.mem_cons_self)
  obtain ⟨name, behind⟩ := takeWhile_append_of_ends small ends
  -- and the first letter is no number sign
  have first : ∀ rest, letters ++ (digits ++ ';' :: s) ≠ '#' :: rest := by
    intro rest same
    cases letters with
    | nil => exact absurd long (by decide)
    | cons c letters =>
      have sign : isSmallLetter '#' = true :=
        (List.cons.inj same).1 ▸ small c List.mem_cons_self
      exact absurd sign (by decide)
  rw [afterReference?, name, behind, spanAtMost_append short decimal decimal_semicolon]
  · exact closeReference_semicolon long s
  · exact fun rest => first _
  · exact first

/-- Behind a decimal number the text goes on. Its first digit is no `x`, which would make it
hexadecimal. -/
theorem afterReference?_decimal {digits : List Char} (long : 2 ≤ digits.length)
    (short : digits.length ≤ 6) (decimal : ∀ c ∈ digits, isDecimalDigit c = true)
    (s : List Char) : afterReference? ('&' :: '#' :: (digits ++ ';' :: s)) = some s := by
  have first : ∀ rest, digits ++ ';' :: s ≠ 'x' :: rest := by
    intro rest same
    cases digits with
    | nil => exact absurd long (by decide)
    | cons c digits =>
      have letter : isDecimalDigit 'x' = true :=
        (List.cons.inj same).1 ▸ decimal c List.mem_cons_self
      exact absurd letter (by decide +kernel)
  rw [afterReference?, spanAtMost_append short decimal decimal_semicolon]
  · exact closeReference_semicolon long s
  · exact first

/-- Behind a hexadecimal number the text goes on. -/
theorem afterReference?_hexadecimal {digits : List Char} (long : 2 ≤ digits.length)
    (short : digits.length ≤ 5) (hexadecimal : ∀ c ∈ digits, isHexDigit c = true)
    (s : List Char) : afterReference? ('&' :: '#' :: 'x' :: (digits ++ ';' :: s)) = some s := by
  rw [afterReference?, spanAtMost_append short hexadecimal hexadecimal_semicolon]
  exact closeReference_semicolon long s

/-! ## Cleaning -/

/-- A tag is left out where it starts. -/
theorem clean_of_afterTag? {s rest : List Char} (h : afterTag? s = some rest) :
    clean s = clean rest := by
  cases s with
  | nil => exact nomatch h
  | cons c s =>
    rw [clean]
    split
    · rename_i found
      rw [Option.some.inj (h.symm.trans found)]
    · rename_i none
      exact absurd (h.symm.trans none) (Option.some_ne_none rest)

/-- A reference is left out where it starts; no tag starts there. -/
theorem clean_of_afterReference? {s rest : List Char} (tag : afterTag? s = none)
    (h : afterReference? s = some rest) : clean s = clean rest := by
  cases s with
  | nil => exact nomatch h
  | cons c s =>
    rw [clean]
    split
    · rename_i found
      exact absurd (found.symm.trans tag) (Option.some_ne_none _)
    · split
      · rename_i found
        rw [Option.some.inj (h.symm.trans found)]
      · rename_i none
        exact absurd (h.symm.trans none) (Option.some_ne_none rest)

/-- Where no markup can start, a character stays or goes with the run that it begins. -/
theorem clean_cons {c : Char} (tag : c ≠ '<') (reference : c ≠ '&') (s : List Char) :
    clean (c :: s) =
      if isValid c then c :: clean s else clean (s.dropWhile fun c => !isValid c) := by
  -- both begin with a character of their own
  have noTag : afterTag? (c :: s) = none := by
    unfold afterTag?
    split
    · rename_i same
      exact absurd (List.cons.inj same).1 tag
    · rfl
  have noReference : afterReference? (c :: s) = none := by
    unfold afterReference?
    split
    case h_4 => rfl
    all_goals
      rename_i same
      exact absurd (List.cons.inj same).1 reference
  rw [clean]
  split
  · rename_i found
    exact absurd (found.symm.trans noTag) (Option.some_ne_none _)
  · split
    · rename_i found
      exact absurd (found.symm.trans noReference) (Option.some_ne_none _)
    · rfl

/-- Markup at the start of a text leaves nothing behind. -/
theorem clean_markup_append {t : List Char} (h : IsMarkup t) (s : List Char) :
    clean (t ++ s) = clean s := by
  cases h with
  | tag some inner =>
    rw [List.cons_append, List.append_assoc, List.singleton_append]
    exact clean_of_afterTag? (afterTag?_append some inner s)
  | name long small short decimal =>
    rw [List.cons_append, List.append_assoc, List.append_assoc, List.singleton_append]
    exact clean_of_afterReference? rfl (afterReference?_name long small short decimal s)
  | decimal long short decimal =>
    rw [List.cons_append, List.cons_append, List.append_assoc, List.singleton_append]
    exact clean_of_afterReference? rfl (afterReference?_decimal long short decimal s)
  | hexadecimal long short hexadecimal =>
    rw [List.cons_append, List.cons_append, List.cons_append, List.append_assoc,
      List.singleton_append]
    exact clean_of_afterReference? rfl (afterReference?_hexadecimal long short hexadecimal s)

/-! ## Text in front of markup -/

/-- Can no markup start in the text? -/
def Plain (s : List Char) : Prop := ∀ c ∈ s, c ≠ '<' ∧ c ≠ '&'

instance (s : List Char) : Decidable (Plain s) :=
  List.decidableBAll (fun c => c ≠ '<' ∧ c ≠ '&') s

/-- What is left to clean of `s` behind `p`: a run of characters that may not remain goes on if `p`
ends with one. -/
def behind (p s : List Char) : List Char :=
  if p.getLast?.all isValid then s else s.dropWhile fun c => !isValid c

/-- A character that may remain does not change how a text ends. -/
theorem behind_cons {c : Char} (valid : isValid c = true) (p s : List Char) :
    behind (c :: p) s = behind p s := by
  rw [behind, behind, List.getLast?_cons]
  cases p.getLast? with
  | none => rw [Option.getD_none, Option.all_some, valid, Option.all_none]
  | some d => rw [Option.getD_some]

/-- What is left behind a text is decided by its end. -/
theorem behind_of_isSuffix {p q : List Char} (h : q <:+ p) (some : q ≠ []) (s : List Char) :
    behind p s = behind q s := by
  obtain ⟨front, rfl⟩ := h
  rw [behind, behind, List.getLast?_append, List.getLast?_eq_some_getLast some, Option.some_or]

/-- Behind nothing but characters that may not remain, the run goes on. -/
theorem behind_of_forall_mem {p : List Char} (h : ∀ c ∈ p, isValid c = false) (some : p ≠ [])
    (s : List Char) : behind p s = s.dropWhile fun c => !isValid c := by
  have last := h _ (List.getLast_mem some)
  rw [behind, List.getLast?_eq_some_getLast some, Option.all_some, last, if_neg Bool.false_ne_true]

/-- Text in which no markup can start is cleaned by itself, but for the run at its end. -/
theorem clean_append {p : List Char} (plain : Plain p) (s : List Char) :
    clean (p ++ s) = clean p ++ clean (behind p s) := by
  match p with
  | [] =>
    rw [List.nil_append, clean, List.nil_append]
    rfl
  | c :: p =>
    obtain ⟨⟨tag, reference⟩, others⟩ := List.forall_mem_cons.mp plain
    rw [List.cons_append, clean_cons tag reference, clean_cons tag reference]
    split
    · rename_i valid
      rw [clean_append others, behind_cons valid, List.cons_append]
    · rename_i invalid
      -- the run that begins with `c` ends in `p`, or it goes on behind it
      have suffix : (p.dropWhile fun c => !isValid c) <:+ p := List.dropWhile_suffix _
      rw [List.dropWhile_append]
      split
      · rename_i empty
        have none := List.isEmpty_iff.mp empty
        -- the run that begins with `c` takes up the whole text and goes on behind it
        have run : ∀ d ∈ c :: p, isValid d = false := by
          refine List.forall_mem_cons.mpr ⟨Bool.eq_false_iff.mpr invalid, fun d hd => ?_⟩
          simpa using List.dropWhile_eq_nil_iff.mp none d hd
        rw [none, behind_of_forall_mem run (List.cons_ne_nil c p), clean, List.nil_append]
      · rename_i notEmpty
        have some : (p.dropWhile fun c => !isValid c) ≠ [] := mt List.isEmpty_iff.mpr notEmpty
        have shorter := suffix.length_le
        rw [clean_append (fun d hd => others d (suffix.subset hd)),
          behind_of_isSuffix (suffix.trans (List.suffix_cons c p)) some]
termination_by p.length
decreasing_by
  all_goals
    simp only [List.length_cons]
    omega

/-- Behind a character that may not remain, another one leaves nothing. -/
theorem clean_append_cons {p : List Char} {c d : Char} (plain : Plain p)
    (last : p.getLast? = some c) (run : isValid c = false) (invalid : isValid d = false)
    (s : List Char) : clean (p ++ d :: s) = clean (p ++ s) := by
  -- the run at the end of `p` takes the character along
  have goes (s : List Char) : behind p s = s.dropWhile fun c => !isValid c := by
    rw [behind, last, Option.all_some, run, if_neg Bool.false_ne_true]
  have other : (!isValid d) = true := by rw [invalid, Bool.not_false]
  have taken : (d :: s).dropWhile (fun c => !isValid c) = s.dropWhile fun c => !isValid c :=
    List.dropWhile_cons_of_pos other
  rw [clean_append plain, clean_append plain, goes, goes, taken]

/-- Behind a character that may remain, or at the start, markup leaves nothing. -/
theorem clean_append_markup {p t : List Char} (plain : Plain p)
    (last : p.getLast?.all isValid = true) (markup : IsMarkup t) (s : List Char) :
    clean (p ++ (t ++ s)) = clean (p ++ s) := by
  have stops (s : List Char) : behind p s = s := if_pos last
  rw [clean_append plain, clean_append plain, stops, stops, clean_markup_append markup]

/-! ## Markup in a title -/

/-- The first character of markup may not remain in a title. -/
theorem IsMarkup.exists_cons {t : List Char} (h : IsMarkup t) :
    ∃ d rest, t = d :: rest ∧ isValid d = false := by
  have tag : isValid '<' = false := by decide +kernel
  have reference : isValid '&' = false := by decide +kernel
  cases h with
  | tag => exact ⟨_, _, rfl, tag⟩
  | name => exact ⟨_, _, rfl, reference⟩
  | decimal => exact ⟨_, _, rfl, reference⟩
  | hexadecimal => exact ⟨_, _, rfl, reference⟩

/-- A title in lower case stays so when characters are left out. -/
theorem lowercase_eq_self_of_sublist {s t : List Char} (h : s.Sublist t) (lower : lowercase t = t) :
    lowercase s = s :=
  lowercase_eq_self_iff.mpr fun c hc => lowercase_eq_self_iff.mp lower c (h.subset hc)

/-- What becomes of a tag or a character reference in a title in lower case, if no markup can start
in front of it. At the start of the title and behind a character that may remain it leaves nothing
behind. Behind any other character only its first character is left out, so that the rest of it is
read as if it stood in the title by itself. -/
theorem markup_dropped_behind_valid (p t s : List Char) (plain : Plain p) (markup : IsMarkup t)
    (lower : lowercase (p ++ t ++ s) = p ++ t ++ s) :
    (p.getLast?.all isValid = true → generate (p ++ t ++ s) = generate (p ++ s)) ∧
    (p.getLast?.all isValid = false →
      generate (p ++ t ++ s) = generate (p ++ t.tail ++ s)) := by
  constructor
  · intro valid
    -- what is left of a title in lower case is in lower case, so that only cleaning matters
    have without : (p ++ s).Sublist (p ++ t ++ s) :=
      (List.sublist_append_left p t).append (List.Sublist.refl s)
    rw [generate, generate, lower, lowercase_eq_self_of_sublist without lower, List.append_assoc,
      clean_append_markup plain valid markup]
  · intro invalid
    obtain ⟨c, last, run⟩ : ∃ c, p.getLast? = some c ∧ isValid c = false := by
      cases last : p.getLast? with
      | none =>
        rw [last] at invalid
        exact nomatch invalid
      | some c =>
        rw [last] at invalid
        exact ⟨c, rfl, invalid⟩
    obtain ⟨d, rest, rfl, first⟩ := markup.exists_cons
    have without : (p ++ rest ++ s).Sublist (p ++ d :: rest ++ s) :=
      ((List.Sublist.refl p).append (List.sublist_cons_self d rest)).append (List.Sublist.refl s)
    rw [List.tail_cons, generate, generate, lower, lowercase_eq_self_of_sublist without lower,
      List.append_assoc, List.cons_append, List.append_assoc,
      clean_append_cons plain last run first]

/-- A reference by its name. -/
private theorem isMarkup_amp : IsMarkup "&amp;".toList := by
  have small : ∀ c ∈ ['a', 'm', 'p'], isSmallLetter c = true := List.all_eq_true.mp (by decide)
  exact @IsMarkup.name _ [] (by decide) small (by decide) nofun

/-- A tag without attributes. -/
private theorem isMarkup_em : IsMarkup "<em>".toList :=
  @IsMarkup.tag ['e', 'm'] (by decide) (by decide)

/-- A reference between spaces, and a tag behind a parenthesis. -/
theorem reference_dropped_tag_kept :
    generate ("rock ".toList ++ "&amp;".toList ++ " roll".toList) =
      generate ("rock ".toList ++ " roll".toList) ∧
    generate ("(".toList ++ "<em>".toList ++ "new</em>)".toList) =
      generate ("(".toList ++ "em>".toList ++ "new</em>)".toList) := by
  have space : Plain "rock ".toList := by decide
  have parenthesis : Plain "(".toList := by decide
  constructor
  · exact (markup_dropped_behind_valid _ _ _ space isMarkup_amp (by decide +kernel)).1
      (by decide +kernel)
  · exact (markup_dropped_behind_valid _ _ _ parenthesis isMarkup_em (by decide +kernel)).2
      (by decide +kernel)

/-- Behind an exclamation mark what is in a tag, and what is in a reference, stays in the id. -/
theorem markup_stays_behind_punctuation :
    ¬(∀ p t s : List Char, Plain p → IsMarkup t → lowercase (p ++ t ++ s) = p ++ t ++ s →
      generate (p ++ t ++ s) = generate (p ++ s)) ∧
    generate "a!<em>c".toList = "_aemc".toList ∧
    generate "a!&amp;c".toList = "_aampc".toList ∧
    generate "a!c".toList = "_ac".toList := by
  have tag : generate "a!<em>c".toList = "_aemc".toList := by decide +kernel
  have reference : generate "a!&amp;c".toList = "_aampc".toList := by decide +kernel
  have without : generate "a!c".toList = "_ac".toList := by decide +kernel
  refine ⟨fun dropped => ?_, tag, reference, without⟩
  have plain : Plain "a!".toList := by decide
  -- with the tag dropped the id would be the one without it
  have same := dropped _ _ "c".toList plain isMarkup_em (by decide +kernel)
  exact absurd (tag.symm.trans (same.trans without)) (by decide)

end Adoc.SectionId
