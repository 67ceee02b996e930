import Adoc.Proofs.Lowercase
import Adoc.Proofs.SectionId
import Adoc.Proofs.SectionId.Markup
import Adoc.Proofs.SectionId.Words
import Mathlib.Data.List.Chain

/-! # The generated ids are the normal forms

An id that is made from a title has a form that one can tell without the title: words in lower case,
each behind one separator. Making an id from a text of this form changes nothing, so the ids are
exactly the texts of this form, and making an id twice is making it once.

* `clean_sublist`       cleaning only leaves characters out
* `isNormal_generate`   an id that is not empty is in normal form
* `generate_eq_self`    a text in normal form is its own id -/

namespace Adoc.SectionId

open Text

/-- The form of an id that is not empty. -/
structure IsNormal (r : List Char) : Prop where
  long : 2 ≤ r.length
  starts : r.head? = some separator
  words : ∀ c ∈ r, isWord c = true
  /-- No two separators stand side by side. -/
  single : r.IsChain fun c d => c = separator → d ≠ separator
  ends : r.getLast? ≠ some separator
  lower : lowercase r = r

/-! ## Cleaning leaves characters out -/

/-- What remains of a title stands in it, in the same order. -/
theorem clean_sublist (s : List Char) : (clean s).Sublist s := by
  -- each step goes on with an end of what stands behind the first character
  fun_induction clean s with
  | case1 => exact List.Sublist.refl []
  | case2 c s rest found ih => exact (ih.trans (isSuffix_afterTag? found).sublist).cons c
  | case3 c s _ rest found ih => exact (ih.trans (isSuffix_afterReference? found).sublist).cons c
  | case4 c s _ _ _ ih => exact ih.cons_cons c
  | case5 c s _ _ _ ih => exact (ih.trans (List.dropWhile_sublist _)).cons c

/-! ## Ids are in normal form -/

/-- Behind a separator no other one comes before the end of the word. -/
theorem isChain_cons_of_plain {w : List Char} (plain : ∀ c ∈ w, c ≠ separator) (d : Char) :
    (d :: w).IsChain fun c d => c = separator → d ≠ separator := by
  induction w generalizing d with
  | nil => exact List.isChain_singleton d
  | cons c w ih =>
    obtain ⟨first, others⟩ := List.forall_mem_cons.mp plain
    exact List.isChain_cons_cons.mpr ⟨fun _ => first, ih others c⟩

/-- Behind the separator at the start comes the first word. -/
theorem exists_flatMap_eq_cons {ws : List (List Char)} (h : ∀ w ∈ ws, Unbroken w)
    (some : ws.flatMap (separator :: ·) ≠ []) :
    ∃ c s, ws.flatMap (separator :: ·) = separator :: c :: s := by
  cases ws with
  | nil => exact absurd rfl some
  | cons w ws =>
    obtain ⟨c, w, rfl⟩ := List.exists_cons_of_ne_nil (h w List.mem_cons_self).ne_nil
    exact ⟨c, w ++ ws.flatMap (separator :: ·), rfl⟩

/-- Words behind separators do not end with a separator. -/
theorem getLast?_flatMap_ne {ws : List (List Char)} (h : ∀ w ∈ ws, Unbroken w) :
    (ws.flatMap (separator :: ·)).getLast? ≠ some separator := by
  induction ws with
  | nil => exact nofun
  | cons w ws ih =>
    obtain ⟨word, others⟩ := List.forall_mem_cons.mp h
    rw [List.flatMap_cons, List.getLast?_append]
    intro last
    obtain last | ⟨-, last⟩ := Option.or_eq_some_iff.mp last
    · exact ih others last
    · exact word.getLast?_ne last

/-- Between two separators there is a word. -/
theorem isChain_flatMap {ws : List (List Char)} (h : ∀ w ∈ ws, Unbroken w) :
    (ws.flatMap (separator :: ·)).IsChain fun c d => c = separator → d ≠ separator := by
  induction ws with
  | nil => exact List.isChain_nil
  | cons w ws ih =>
    obtain ⟨word, others⟩ := List.forall_mem_cons.mp h
    rw [List.flatMap_cons]
    refine List.isChain_append.mpr
      ⟨isChain_cons_of_plain word.ne_separator separator, ih others, ?_⟩
    -- the word ends in no separator, so that the one behind it stands alone
    rintro c last d - rfl
    exact absurd last word.getLast?_ne

/-- A generated id is in lower case. -/
theorem isLower_of_mem_generate {title : List Char} {c : Char} (h : c ∈ generate title) :
    IsLower c := by
  obtain rfl | ⟨kept, -⟩ := mem_join h
  · have lowLine : IsLower separator := by decide +kernel
    exact lowLine
  · exact isLower_of_mem_lowercase ((clean_sublist _).subset kept)

/-- An id that is not empty is in normal form. -/
theorem isNormal_generate {title : List Char} (h : generate title ≠ []) :
    IsNormal (generate title) := by
  -- all that concerns separators is read off the words, each behind one separator
  have joined : generate title = _ := join_eq_flatMap (clean (lowercase title))
  have unbroken : ∀ w ∈ words (clean (lowercase title)), Unbroken w :=
    fun _ hw => unbroken_of_mem_words hw
  obtain ⟨c, s, front⟩ := exists_flatMap_eq_cons unbroken (joined ▸ h)
  exact {
    long := by
      rw [joined, front, List.length_cons, List.length_cons]
      omega
    starts := by rw [joined, front, List.head?_cons]
    words := fun _ => isWord_of_mem_generate
    single := joined ▸ isChain_flatMap unbroken
    ends := joined ▸ getLast?_flatMap_ne unbroken
    lower := lowercase_eq_self_iff.mpr fun _ => isLower_of_mem_generate }

/-! ## Normal forms are their own ids -/

/-- A part of a word separates words only if it is the separator of ids. -/
theorem eq_separator_of_isWord {c : Char} (word : isWord c = true) (sep : isSeparator c = true) :
    c = separator := by
  have others : isWord ' ' = false ∧ isWord '.' = false ∧ isWord '-' = false := by decide +kernel
  simp only [isSeparator, Bool.or_eq_true, beq_iff_eq] at sep
  -- the other separators are no parts of words
  obtain ((rfl | rfl) | rfl) | sep := sep
  · exact absurd word (Bool.eq_false_iff.mp others.1)
  · exact absurd word (Bool.eq_false_iff.mp others.2.1)
  · exact absurd word (Bool.eq_false_iff.mp others.2.2)
  · exact sep

/-- Parts of words remain when a title is cleaned. -/
theorem clean_eq_self {s : List Char} (words : ∀ c ∈ s, isWord c = true) : clean s = s := by
  have marks : isWord '<' = false ∧ isWord '&' = false := by decide +kernel
  induction s with
  | nil => rw [clean]
  | cons c s ih =>
    obtain ⟨word, others⟩ := List.forall_mem_cons.mp words
    have tag : c ≠ '<' := by
      rintro rfl
      exact absurd word (Bool.eq_false_iff.mp marks.1)
    have reference : c ≠ '&' := by
      rintro rfl
      exact absurd word (Bool.eq_false_iff.mp marks.2)
    have valid : isValid c = true := by rw [isValid, word, Bool.or_true]
    rw [clean_cons tag reference, if_pos valid, ih others]

/-- Joining keeps single separators. -/
theorem joinFrom_eq_self {separated : Bool} {s : List Char} (words : ∀ c ∈ s, isWord c = true)
    (single : s.IsChain fun c d => c = separator → d ≠ separator)
    (first : separated = true → s.head? ≠ some separator) : joinFrom separated s = s := by
  induction s generalizing separated with
  | nil => rfl
  | cons c s ih =>
    obtain ⟨word, others⟩ := List.forall_mem_cons.mp words
    obtain ⟨apart, rest⟩ := List.isChain_cons.mp single
    rw [joinFrom]
    split
    · rename_i sep
      obtain rfl := eq_separator_of_isWord word sep
      -- no separator stands in front of this one, so that it is written
      have start : separated ≠ true := fun h => first h rfl
      rw [if_neg start, ih others rest fun _ next => apart separator next rfl rfl]
    · rw [ih others rest fun start => absurd start Bool.false_ne_true]

/-- A text in normal form is its own id: nothing of it is cleaned away, and joining writes the
separators that are there. -/
theorem generate_eq_self {r : List Char} (h : IsNormal r) : generate r = r := by
  obtain ⟨long, starts, words, single, ends, lower⟩ := h
  obtain ⟨s, rfl⟩ := List.head?_eq_some_iff.mp starts
  have sep : isSeparator separator = true := by decide
  obtain ⟨apart, rest⟩ := List.isChain_cons.mp single
  -- joining skips the separator at the start and writes one of its own
  have joined : joinFrom true s = s :=
    joinFrom_eq_self (List.forall_mem_cons.mp words).2 rest
      fun _ next => apart separator next rfl rfl
  rw [generate, lower, clean_eq_self words, join_cons_separator sep, join, joined,
    dropLastSeparator, if_neg ends]

/-- Of an empty title nothing is left. -/
@[simp]
theorem generate_nil : generate [] = [] := by
  rw [generate, lowercase_eq_self_iff.mpr (List.forall_mem_nil _), clean]
  rfl

/-- The id of a title is empty or in normal form. -/
theorem generate_eq_nil_or_isNormal (title : List Char) :
    generate title = [] ∨ IsNormal (generate title) := by
  by_cases h : generate title = []
  · exact .inl h
  · exact .inr (isNormal_generate h)

/-- The texts that are their own ids are the empty one and those in normal form. -/
theorem generate_eq_self_iff {r : List Char} : generate r = r ↔ r = [] ∨ IsNormal r := by
  constructor
  · intro same
    -- the text is an id, namely its own
    have form := generate_eq_nil_or_isNormal r
    rwa [same] at form
  · rintro (rfl | normal)
    · exact generate_nil
    · exact generate_eq_self normal

/-- The ids are the normal forms. The id of any title is empty or in normal form, the texts in
normal form and the empty one are those that are their own ids, so that the id of an id is this id,
and they are the ids of all titles. -/
theorem ids_are_normal_forms :
    (∀ title, generate title = [] ∨ IsNormal (generate title)) ∧
    (∀ r, generate r = r ↔ r = [] ∨ IsNormal r) ∧
    (∀ title, generate (generate title) = generate title) ∧
    ∀ r, (∃ title, generate title = r) ↔ r = [] ∨ IsNormal r := by
  refine ⟨generate_eq_nil_or_isNormal, fun r => generate_eq_self_iff, ?_, ?_⟩
  · exact fun title => generate_eq_self_iff.mpr (generate_eq_nil_or_isNormal title)
  · intro r
    constructor
    · rintro ⟨title, rfl⟩
      exact generate_eq_nil_or_isNormal title
    · exact fun form => ⟨r, generate_eq_self_iff.mpr form⟩

end Adoc.SectionId
