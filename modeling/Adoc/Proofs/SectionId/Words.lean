import Adoc.SectionId

/-! # A generated id joins words

The id made from a title consists of the words of the cleaned title, each behind one separator.
Which separators stood around the words and how many is of no account.

* `words`            the words of a text: what lies between separators
* `spells_iff`       a text spells its words, and no others
* `join_eq_flatMap`  joining puts each word behind one separator -/

namespace Adoc.SectionId

open Text

/-- The words of a text: its pieces between separators that are not empty. -/
def words (s : List Char) : List (List Char) :=
  (s.splitOnP isSeparator).filter (· ≠ [])

/-- Is the text a single word, not empty and without separators? -/
structure Unbroken (w : List Char) : Prop where
  ne_nil : w ≠ []
  plain : ∀ c ∈ w, isSeparator c = false

/-- The text consists of the words in this order, with any separators between them, at least one,
and around them. -/
inductive Spells : List (List Char) → List Char → Prop
  | nil : Spells [] []
  | gap {ws : List (List Char)} {c : Char} {s : List Char} (sep : isSeparator c = true)
      (rest : Spells ws s) : Spells ws (c :: s)
  | last {w : List Char} (word : Unbroken w) : Spells [w] w
  | word {ws : List (List Char)} {w s : List Char} {c : Char} (word : Unbroken w)
      (sep : isSeparator c = true) (rest : Spells ws s) : Spells (w :: ws) (w ++ c :: s)

/-! ## Words of a text -/

/-- A separator divides the words of a text, whatever stands on its two sides. -/
theorem words_append_cons {c : Char} (sep : isSeparator c = true) (s t : List Char) :
    words (s ++ c :: t) = words s ++ words t := by
  rw [words, List.splitOnP_append_cons s t sep, List.filter_append, ← words, ← words]

/-- One at the start makes no difference. -/
theorem words_cons {c : Char} (sep : isSeparator c = true) (s : List Char) :
    words (c :: s) = words s := words_append_cons sep [] s

/-- A word is its own only word. -/
theorem Unbroken.words_eq {w : List Char} (h : Unbroken w) : words w = [w] := by
  rw [words, List.splitOnP_eq_singleton h.plain]
  exact List.filter_cons_of_pos (decide_eq_true h.ne_nil)

/-- A word goes on to the front with characters that separate nothing. -/
theorem Unbroken.cons {c : Char} {w : List Char} (plain : isSeparator c = false) (h : Unbroken w) :
    Unbroken (c :: w) :=
  ⟨List.cons_ne_nil c w, List.forall_mem_cons.mpr ⟨plain, h.plain⟩⟩

/-- The separator of ids is no character of a word. -/
theorem Unbroken.ne_separator {w : List Char} (h : Unbroken w) : ∀ c ∈ w, c ≠ separator := by
  rintro c hc rfl
  exact absurd (h.plain separator hc) (by decide)

/-- A word behind a separator does not end with one. -/
theorem Unbroken.getLast?_ne {w : List Char} (h : Unbroken w) :
    (separator :: w).getLast? ≠ some separator := by
  rw [List.getLast?_cons_of_ne_nil h.ne_nil]
  exact fun last => h.ne_separator separator (List.mem_of_getLast? last) rfl

/-- A character that separates nothing is a word. -/
theorem unbroken_singleton {c : Char} (plain : isSeparator c = false) : Unbroken [c] :=
  ⟨List.cons_ne_nil c [], List.forall_mem_singleton.mpr plain⟩

/-- What a text consists of are its words. -/
theorem Spells.words_eq {ws : List (List Char)} {s : List Char} (h : Spells ws s) :
    words s = ws := by
  induction h with
  | nil => rfl
  | gap sep _ ih => rw [words_cons sep, ih]
  -- a text ends within a word, or the word is divided from the rest
  | last word => exact word.words_eq
  | word word sep _ ih => rw [words_append_cons sep, word.words_eq, ih, List.singleton_append]

/-- Every text spells some words: a character that is no separator begins a word or belongs to the
one behind it. -/
theorem exists_spells (s : List Char) : ∃ ws, Spells ws s := by
  induction s with
  | nil => exact ⟨[], .nil⟩
  | cons c s ih =>
    obtain ⟨ws, spells⟩ := ih
    -- what stands behind a character decides whether it begins a word or goes on with one
    cases plain : isSeparator c with
    | true => exact ⟨ws, .gap plain spells⟩
    | false =>
      cases spells with
      | nil => exact ⟨[[c]], .last (unbroken_singleton plain)⟩
      | gap sep rest => exact ⟨_, .word (unbroken_singleton plain) sep rest⟩
      | last word => exact ⟨_, .last (word.cons plain)⟩
      | word word sep rest => exact ⟨_, .word (word.cons plain) sep rest⟩

/-- A text spells its words, and no others. -/
theorem spells_iff {ws : List (List Char)} {s : List Char} : Spells ws s ↔ words s = ws := by
  constructor
  · exact Spells.words_eq
  · intro h
    obtain ⟨ws', spells⟩ := exists_spells s
    rwa [← h, spells.words_eq]

/-! ## Joining -/

/-- Behind a character that separates nothing, a word is joined as it stands. -/
theorem joinFrom_append {w : List Char} (plain : ∀ c ∈ w, isSeparator c = false) (s : List Char) :
    joinFrom false (w ++ s) = w ++ joinFrom false s := by
  induction w with
  | nil => rfl
  | cons c w ih =>
    obtain ⟨first, others⟩ := List.forall_mem_cons.mp plain
    rw [List.cons_append, joinFrom, if_neg (Bool.eq_false_iff.mp first), ih others,
      List.cons_append]

/-- A word is joined as it stands, whether or not a separator is in front. -/
theorem Unbroken.joinFrom_append {w : List Char} (h : Unbroken w) (separated : Bool)
    (s : List Char) : joinFrom separated (w ++ s) = w ++ joinFrom false s := by
  obtain ⟨ne, plain⟩ := h
  cases w with
  | nil => exact absurd rfl ne
  | cons c w =>
    obtain ⟨first, others⟩ := List.forall_mem_cons.mp plain
    rw [List.cons_append, joinFrom, if_neg (Bool.eq_false_iff.mp first),
      SectionId.joinFrom_append others, List.cons_append]

/-- What is dropped from the end of a text is no part of what stands in front. -/
theorem dropLastSeparator_append {s t : List Char} (h : t ≠ []) :
    dropLastSeparator (s ++ t) = s ++ dropLastSeparator t := by
  -- the last character is that of what stands behind
  have last : (s ++ t).getLast? = t.getLast? := by
    rw [List.getLast?_append, List.getLast?_eq_some_getLast h, Option.some_or]
  rw [dropLastSeparator, dropLastSeparator, last, List.dropLast_append_of_ne_nil h]
  split
  · rfl
  · rfl

/-- A separator at the start leaves nothing behind. -/
theorem join_cons_separator {c : Char} (sep : isSeparator c = true) (s : List Char) :
    join (c :: s) = join s := by
  rw [join, joinFrom, if_pos sep, if_pos rfl, ← join]

/-- The id of a single word is the word behind a separator. -/
theorem Unbroken.join_eq {w : List Char} (h : Unbroken w) : join w = separator :: w := by
  -- the word is joined as it stands, and does not end with a separator
  have all : joinFrom true w = w := by
    have front := h.joinFrom_append true []
    rwa [List.append_nil, joinFrom, List.append_nil] at front
  rw [join, all, dropLastSeparator, if_neg h.getLast?_ne]

/-- A word and a separator in front of a text come in front of its id. -/
theorem Unbroken.join_append_cons {w : List Char} (h : Unbroken w) {c : Char}
    (sep : isSeparator c = true) (s : List Char) :
    join (w ++ c :: s) = separator :: w ++ join s := by
  rw [join, h.joinFrom_append, joinFrom, if_pos sep, if_neg Bool.false_ne_true,
    ← List.cons_append, dropLastSeparator_append (List.cons_ne_nil _ _), ← join]

/-- The id of a text is its words, each behind a separator. -/
theorem Spells.join_eq {ws : List (List Char)} {s : List Char} (h : Spells ws s) :
    join s = ws.flatMap (separator :: ·) := by
  -- a word that is not the last ends at a separator, where joining starts anew
  induction h with
  | nil => rfl
  | gap sep _ ih => rw [join_cons_separator sep, ih]
  | last word => rw [word.join_eq, List.flatMap_cons, List.flatMap_nil, List.append_nil]
  | word word sep _ ih => rw [word.join_append_cons sep, ih, List.flatMap_cons]

/-! ## Words of an id -/

/-- A text is spelled by words that are not divided themselves. -/
theorem Spells.unbroken {ws : List (List Char)} {s : List Char} (h : Spells ws s) :
    ∀ w ∈ ws, Unbroken w := by
  induction h with
  | nil => exact nofun
  | gap _ _ ih => exact ih
  | last word => exact List.forall_mem_singleton.mpr word
  | word word _ _ ih => exact List.forall_mem_cons.mpr ⟨word, ih⟩

/-- The words of a text are not divided themselves. -/
theorem unbroken_of_mem_words {s w : List Char} (h : w ∈ words s) : Unbroken w :=
  (spells_iff.mpr rfl).unbroken w h

/-- Joining a text puts each of its words behind a separator. -/
theorem join_eq_flatMap (s : List Char) : join s = (words s).flatMap (separator :: ·) :=
  (spells_iff.mpr rfl).join_eq

/-- Words, each behind a separator, are spelled as they are. -/
theorem words_flatMap {ws : List (List Char)} (h : ∀ w ∈ ws, Unbroken w) :
    words (ws.flatMap (separator :: ·)) = ws := by
  have sep : isSeparator separator = true := by decide
  induction ws with
  | nil => rfl
  | cons w ws ih =>
    obtain ⟨word, others⟩ := List.forall_mem_cons.mp h
    rw [List.flatMap_cons, List.cons_append, words_cons sep]
    cases ws with
    | nil => rw [List.flatMap_nil, List.append_nil, word.words_eq]
    | cons w' ws =>
      -- the separator in front of the next word ends this one
      have next := ih others
      rw [List.flatMap_cons, List.cons_append, words_cons sep] at next
      rw [List.flatMap_cons, List.cons_append, words_append_cons sep, next, word.words_eq,
        List.singleton_append]

/-- Joining keeps the words. -/
theorem words_join (s : List Char) : words (join s) = words s := by
  rw [join_eq_flatMap, words_flatMap fun w hw => unbroken_of_mem_words hw]

/-- Words, each behind a separator, are a separator and the words with separators between them. -/
theorem flatMap_separator (w : List Char) (ws : List (List Char)) :
    (w :: ws).flatMap (separator :: ·) = separator :: [separator].intercalate (w :: ws) := by
  induction ws generalizing w with
  | nil => rw [List.flatMap_cons, List.flatMap_nil, List.append_nil, List.intercalate_singleton]
  | cons w' ws ih =>
    rw [List.flatMap_cons, ih, List.intercalate_cons_cons, List.append_assoc,
      List.singleton_append, List.cons_append]

/-- The id of a title joins its words. If the cleaned title has words, the id is a separator and the
words with single separators between them, and it is empty otherwise. A text has the words of which
it consists, with whatever separators around and between them, so that two titles have the same id
exactly if they consist of the same words when cleaned, and the words of an id are those of the
title. -/
theorem id_joins_words :
    (∀ title, generate title =
      if words (clean (lowercase title)) = [] then []
      else separator :: [separator].intercalate (words (clean (lowercase title)))) ∧
    (∀ s ws, Spells ws s ↔ words s = ws) ∧
    (∀ title title', generate title = generate title' ↔
      ∃ ws, Spells ws (clean (lowercase title)) ∧ Spells ws (clean (lowercase title'))) ∧
    ∀ title, words (generate title) = words (clean (lowercase title)) := by
  refine ⟨?_, fun s ws => spells_iff, ?_, fun title => words_join _⟩
  · intro title
    rw [generate, join_eq_flatMap]
    cases words (clean (lowercase title)) with
    | nil => rfl
    | cons w ws => rw [if_neg (List.cons_ne_nil w ws), flatMap_separator]
  · intro title title'
    constructor
    · intro same
      -- the words of both titles are those of the one id
      have words' := words_join (clean (lowercase title'))
      rw [← generate, ← same, generate, words_join] at words'
      exact ⟨_, spells_iff.mpr words', spells_iff.mpr rfl⟩
    · intro h
      obtain ⟨ws, spells, spells'⟩ := h
      rw [generate, generate, spells.join_eq, spells'.join_eq]

/-- Separators at the ends are of no account, and neither is which stand between the words. -/
example : generate " -Version 1.2 - Notes.".toList = "_version_1_2_notes".toList := by
  decide +kernel

end Adoc.SectionId
