import Adoc.Proofs.Token
import Adoc.Proofs.Trim
import Adoc.Section

/-! # Headings are read as they are written

The title of a section is what is shown of its heading, trimmed, and the level is counted apart from
it, in the run of the marker or by the underline. Both are those that the heading was written for,
and they agree with what is checked of the heading.

* `heading?_eq_some_iff`  which child is the heading
* `titleOf_eq`            the title is what is shown of the heading, trimmed
* `titleOf_headingOf`     the title of a heading is the one that it was written for
* `levelOf_headingOf`     and so is the level -/

namespace Adoc.Section

open Text

/-! ## The heading of a section -/

/-- Is `heading` the heading of the section: is it a heading, and no child in front of it one? -/
def HeadedBy (s : Section) (heading : Node) : Prop :=
  ∃ before after, s.node.children = before ++ heading :: after ∧
    (heading.kind = .heading ∨ heading.kind = .headingOldstyle) ∧
    ∀ c ∈ before, c.kind ≠ .heading ∧ c.kind ≠ .headingOldstyle

/-- The heading found in a section is its first child that is one. -/
theorem heading?_eq_some_iff {s : Section} {heading : Node} :
    s.heading? = some heading ↔ s.HeadedBy heading := by
  rw [heading?, List.find?_eq_some_iff_append]
  constructor
  · rintro ⟨kind, before, after, children, others⟩
    refine ⟨before, after, children, by simpa using kind, ?_⟩
    intro c hc
    simpa using others c hc
  · rintro ⟨before, after, children, kind, others⟩
    refine ⟨by simpa using kind, before, after, children, ?_⟩
    intro c hc
    simpa using others c hc

/-- The title of a section is that of its heading. -/
theorem title_eq {s : Section} {heading : Node} (h : s.HeadedBy heading) :
    s.title = titleOf heading := by
  rw [title, heading?_eq_some_iff.mpr h]
  rfl

/-- The level of a section is that of its heading. -/
theorem level_eq {s : Section} {heading : Node} (h : s.HeadedBy heading) :
    s.level = levelOf heading := by
  rw [level, heading?_eq_some_iff.mpr h]
  rfl

/-! ## Titles -/

/-- The characters that are not hidden are those of the glyphs, before any replacement. -/
theorem map_char_charGlyphs (replace : Char → Char) (hidden : Nat → Bool) (i offset : Nat)
    (cs : List Char) :
    (CheckableText.charGlyphs replace hidden i offset cs).map (·.char) =
      (visibleFrom hidden i cs).map replace := by
  induction cs generalizing i offset with
  | nil => rfl
  | cons c cs ih =>
    rw [CheckableText.charGlyphs, visibleFrom]
    split
    · exact ih (i + 1) (offset + c.utf8Size)
    · rw [List.map_cons, List.map_cons, ih]

/-- The characters of a token that are not hidden are those of what is shown. -/
theorem visibleFrom_markupRanges (token : Node) :
    visibleFrom (markupRanges token).covers 0 token.text.toList =
      (TokenParts.of token.kind token.text.toList).shown := by
  -- the glyphs are the same characters, with their places
  have glyphs := congrArg (List.map (·.char)) (charGlyphs_markupRanges token 0)
  rwa [map_char_charGlyphs, List.map_id, CheckableText.map_char_placed] at glyphs

/-- The title is what is shown of the heading, without the white space around it. -/
theorem titleOf_eq (heading : Node) :
    titleOf heading = trim (TokenParts.of heading.kind heading.text.toList).shown := by
  rw [titleOf, visibleFrom_markupRanges]

/-- The title of a one-line heading stands behind the run of the marker. The spaces behind that are
white space, so that trimming would take them off as well. -/
theorem titleOf_heading {heading : Node} {marker : Char} {rest : List Char}
    (kind : heading.kind = .heading) (text : heading.text.toList = marker :: rest) :
    titleOf heading = trim ((marker :: rest).dropWhile (· == marker)) := by
  have space : ∀ c, (c == ' ') = true → isBlank c = true := by
    intro c hc
    rw [beq_iff_eq.mp hc]
    decide
  rw [titleOf_eq, kind, text, TokenParts.shown_heading, trim_dropWhile space]

/-- A line ends with the first line end. -/
private theorem line_ends {line : List Char} (inner : '\n' ∉ line) (more : List Char) :
    (line ++ '\n' :: more).takeWhile (· != '\n') = line ∧
      (line ++ '\n' :: more).dropWhile (· != '\n') = '\n' :: more := by
  apply takeWhile_append_of_ends
  · intro c hc
    exact bne_iff_ne.mpr fun same => inner (same ▸ hc)
  · simp

/-- The title of a two-line heading is its first line. -/
theorem titleOf_headingOldstyle {heading : Node} (kind : heading.kind = .headingOldstyle) :
    titleOf heading = trim (heading.text.toList.takeWhile (· != '\n')) := by
  rw [titleOf_eq, kind, TokenParts.shown_headingOldstyle]

/-! ## Levels -/

/-- The characters of an underline that stand for a level other than 0. -/
def underlines : List (Char × Nat) := [('-', 1), ('~', 2), ('^', 3), ('+', 4)]

/-- The levels of underlines, looked up in their table. -/
theorem levelOfUnderline_some (c : Char) :
    levelOfUnderline (some c) = (underlines.lookup c).getD 0 := by
  unfold levelOfUnderline
  split
  -- a character of the table is found there by computation, any other is compared with all four
  case h_5 dash tilde caret plus =>
    have other {d : Char} (ne : some c = some d → False) : (c == d) = false :=
      beq_false_of_ne fun same => ne (congrArg some same)
    simp [underlines, List.lookup_cons, other dash, other tilde, other caret, other plus]
  all_goals
    rename_i same
    cases same
    rfl

/-- The level of a one-line heading is one less than the length of the marker. -/
theorem levelOf_heading {heading : Node} {marker : Char} {rest : List Char}
    (kind : heading.kind = .heading) (text : heading.text.toList = marker :: rest) :
    levelOf heading + 1 = runLength marker (marker :: rest) := by
  rw [runLength_cons_self, levelOf, kind, text]
  rfl

/-- The level of a two-line heading is that of the character behind the first line end. -/
theorem levelOf_headingOldstyle {heading : Node} {line : List Char} {underline : Char}
    {more : List Char} (kind : heading.kind = .headingOldstyle)
    (text : heading.text.toList = line ++ '\n' :: underline :: more) (inner : '\n' ∉ line) :
    levelOf heading = (underlines.lookup underline).getD 0 := by
  rw [← levelOfUnderline_some, levelOf, if_pos kind, text, (line_ends inner _).2]
  rfl

/-! ## Reading what was written -/

/-- Is `heading` written for this title and level? -/
inductive HeadingOf (title : List Char) (level : Nat) (heading : Node) : Prop where
  /-- In one line, behind a marker that is one longer than the level. Without spaces between them
  the title must not begin with the marker. -/
  | oneLine (marker : Char) (spaces : Nat) (behind : List Char) (kind : heading.kind = .heading)
      (text : heading.text.toList =
        List.replicate (level + 1) marker ++ (List.replicate spaces ' ' ++ title ++ behind))
      (visible : isBlank marker = false)
      (apart : 1 ≤ spaces ∨ title.head? ≠ some marker)
      (blank : ∀ c ∈ behind, isBlank c = true)
  /-- In two lines, the second of which begins with the character for the level. -/
  | twoLines (underline : Char) (behind more : List Char) (kind : heading.kind = .headingOldstyle)
      (text : heading.text.toList = title ++ behind ++ '\n' :: underline :: more)
      (line : '\n' ∉ title ++ behind)
      (blank : ∀ c ∈ behind, isBlank c = true)
      (given : level = (underlines.lookup underline).getD 0)

section

variable {title : List Char} {level : Nat} {heading : Node}

/-- The marker of a heading does not go on: behind it stand spaces, the title or white space. -/
private theorem marker_ends {marker : Char} {spaces : Nat} {behind : List Char}
    (visible : isBlank marker = false) (apart : 1 ≤ spaces ∨ title.head? ≠ some marker)
    (blank : ∀ c ∈ behind, isBlank c = true) :
    ∀ c ∈ (List.replicate spaces ' ' ++ title ++ behind).head?, (c == marker) = false := by
  have white {c : Char} (h : isBlank c = true) : (c == marker) = false := by
    apply beq_false_of_ne
    rintro rfl
    exact absurd (h.symm.trans visible) (by decide)
  intro c hc
  cases spaces with
  | succ spaces =>
    obtain rfl : ' ' = c := by simpa [List.replicate_succ] using hc
    -- behind the marker comes a space, and the marker is visible
    exact white (by decide)
  | zero =>
    -- behind the marker comes the title, or the white space if it is empty
    have apart : title.head? ≠ some marker := apart.resolve_left (by decide)
    cases title with
    | cons d title =>
      obtain rfl : d = c := by simpa using hc
      exact beq_false_of_ne fun same => apart (congrArg some same)
    | nil =>
      have first : behind.head? = some c := by simpa using hc
      exact white (blank c (List.mem_of_head? first))

/-- The title read from a heading is the one that it was written for, trimmed. -/
theorem titleOf_headingOf (h : HeadingOf title level heading) : titleOf heading = trim title := by
  cases h with
  | oneLine marker spaces behind kind text visible apart blank =>
    have run : ∀ c ∈ List.replicate (level + 1) marker, (c == marker) = true := by simp
    -- the run of the marker ends in front of the spaces, and those are trimmed
    have dropped := (takeWhile_append_of_ends run (marker_ends visible apart blank)).2
    have space : ∀ c ∈ List.replicate spaces ' ', isBlank c = true := by
      intro c hc
      rw [List.eq_of_mem_replicate hc]
      decide
    rw [List.replicate_succ, List.cons_append] at text dropped
    rw [titleOf_heading kind text, dropped, List.append_assoc, trim_append_left space,
      trim_append_right title blank]
  | twoLines underline behind more kind text line blank given =>
    rw [titleOf_headingOldstyle kind, text, (line_ends line _).1, trim_append_right title blank]

/-- The level read from a heading is the one that it was written for. -/
theorem levelOf_headingOf (h : HeadingOf title level heading) : levelOf heading = level := by
  cases h with
  | oneLine marker spaces behind kind text visible apart blank =>
    have run : ∀ c ∈ List.replicate (level + 1) marker, (c == marker) = true := by simp
    -- the run of the marker is as long as it was written
    have taken := (takeWhile_append_of_ends run (marker_ends visible apart blank)).1
    rw [List.replicate_succ, List.cons_append] at text taken
    have count := levelOf_heading kind text
    rw [runLength, taken, List.length_cons, List.length_replicate] at count
    omega
  | twoLines underline behind more kind text line blank given =>
    rw [levelOf_headingOldstyle kind text line, given]

end

/-- Reading a heading undoes writing it, in both styles. If the heading of a section is written for
a title without white space around it, the section has this title, the level that the heading was
written for, and the id made from the title. So it keeps its id with any other heading that is
written for the title, in whatever style. -/
theorem headings_read_as_written (s : Section) (heading : Node) (title : List Char) (level : Nat)
    (headed : s.HeadedBy heading) (trimmed : trim title = title)
    (written : HeadingOf title level heading) :
    s.title = title ∧ s.level = level ∧ s.autoId = SectionId.generate title ∧
      ∀ (s' : Section) (heading' : Node) (level' : Nat), s'.HeadedBy heading' →
        HeadingOf title level' heading' → s'.autoId = s.autoId := by
  have read {s : Section} {heading : Node} {level : Nat} (headed : s.HeadedBy heading)
      (written : HeadingOf title level heading) : s.title = title := by
    rw [title_eq headed, titleOf_headingOf written, trimmed]
  refine ⟨read headed written, ?level, ?id, ?switched⟩
  case level => rw [level_eq headed, levelOf_headingOf written]
  case id => rw [autoId, read headed written]
  case switched =>
    intro s' heading' level' headed' written'
    rw [autoId, autoId, read headed written, read headed' written']

/-- A heading with a title that begins with the character of the marker. -/
private def markedLine : Node := .token .heading 4 "##  #é t \n"

/-- A heading with the same title, in two lines. -/
private def underlined : Node := .token .headingOldstyle 4 "#é t \n~~~~\n"

/-- A section with a heading in it, a comment in front, and another heading behind. -/
private def headedBy (heading : Node) : Section :=
  ⟨.ofChildren .section [.token .lineComment 0 "//c\n", heading, .token .heading 20 "= x"], rfl⟩

/-- The title is read from both, with a level of its own, and gives the same id. -/
theorem markedLine_underlined_same_id :
    (headedBy markedLine).HeadedBy markedLine ∧ (headedBy underlined).HeadedBy underlined ∧
    trim "#é t".toList = "#é t".toList ∧
    HeadingOf "#é t".toList 1 markedLine ∧ HeadingOf "#é t".toList 2 underlined ∧
    (headedBy markedLine).title = "#é t".toList ∧ (headedBy markedLine).level = 1 ∧
    (headedBy underlined).level = 2 ∧
    (headedBy underlined).autoId = (headedBy markedLine).autoId := by
  have first (heading : Node) (kind : heading.kind = .heading ∨ heading.kind = .headingOldstyle) :
      (headedBy heading).HeadedBy heading :=
    ⟨[.token .lineComment 0 "//c\n"], [.token .heading 20 "= x"], rfl, kind, by decide⟩
  have trimmed : trim "#é t".toList = "#é t".toList := by decide
  have marked : HeadingOf "#é t".toList 1 markedLine :=
    .oneLine '#' 2 [' ', '\n'] rfl rfl (by decide) (.inl (by decide))
      (List.all_eq_true.mp (by decide))
  have lined : HeadingOf "#é t".toList 2 underlined :=
    .twoLines '~' [' '] "~~~\n".toList rfl rfl (by decide) (List.all_eq_true.mp (by decide)) rfl
  have one := headings_read_as_written (headedBy markedLine) markedLine "#é t".toList 1
    (first _ (.inl rfl)) trimmed marked
  have two := headings_read_as_written (headedBy underlined) underlined "#é t".toList 2
    (first _ (.inr rfl)) trimmed lined
  exact ⟨first _ (.inl rfl), first _ (.inr rfl), trimmed, marked, lined, one.1, one.2.1, two.2.1,
    one.2.2.2 _ _ _ (first _ (.inr rfl)) lined⟩

/-! ## What is checked of a heading -/

section

variable {heading : Node} {marker : Char} {rest : List Char}

/-- In front of what is shown of a one-line heading stand the marker, which is one longer than the
level, and the spaces behind it. -/
theorem length_front_eq (kind : heading.kind = .heading)
    (text : heading.text.toList = marker :: rest) :
    (TokenParts.of heading.kind heading.text.toList).front.length =
      levelOf heading + 1 + runLength ' ' (heading.text.toList.dropWhile (· == marker)) := by
  rw [levelOf_heading kind text, kind, text, TokenParts.length_front_heading, drop_runLength]

/-- Nothing is hidden behind it. -/
theorem front_append_shown (kind : heading.kind = .heading)
    (text : heading.text.toList = marker :: rest) :
    (TokenParts.of heading.kind heading.text.toList).front ++
      (TokenParts.of heading.kind heading.text.toList).shown = heading.text.toList := by
  have parts := TokenParts.append_of heading.kind heading.text.toList
  have back : (TokenParts.of heading.kind heading.text.toList).back = [] := by
    rw [kind, text]
    rfl
  rwa [back, List.append_nil] at parts

end

/-- The outline and the checker see the same heading. If the heading of a section is a leaf, the
title of the section is what is checked of the heading, trimmed, under any settings. Of a one-line
heading that is not empty, just the marker, which is one longer than the level, and the spaces that
follow it are hidden. -/
theorem title_is_checked_text (settings : GrammarSettings) (s : Section) (heading : Site)
    (headed : s.HeadedBy heading.node) (leaf : heading.node.isLeaf = true) :
    let t := CheckableText.extract (.markup settings) heading
    let text := heading.node.text.toList
    s.title = trim t.text.toList ∧
    ∀ marker rest, heading.node.kind = .heading → text = marker :: rest →
      let spaces := runLength ' ' (text.dropWhile (· == marker))
      let hidden := s.level + 1 + spaces
      hidden ≤ text.length ∧
      (∀ i < text.length,
        ((Strategy.markup settings).stealthRanges heading).covers i = true ↔ i < hidden) ∧
      t.text.toList = text.drop hidden := by
  intro t text
  -- title and checked text are both what is shown of the heading
  have checked : t.text.toList = (TokenParts.of heading.node.kind text).shown := by
    have kind : heading.node.kind ∈ KindSet.textKinds := by
      obtain ⟨_, _, _, kind | kind, _⟩ := headed <;> rw [kind] <;> decide
    exact Strategy.toList_text_extract_of_isLeaf settings leaf kind
  refine ⟨?title, ?hidden⟩
  case title => rw [title_eq headed, titleOf_eq, checked]
  case hidden =>
    intro marker rest kind same spaces hidden
    have front : (TokenParts.of heading.node.kind text).front.length = hidden :=
      (length_front_eq kind same).trans (by rw [← level_eq headed])
    have parts : (TokenParts.of heading.node.kind text).front ++
        (TokenParts.of heading.node.kind text).shown = text := front_append_shown kind same
    -- the hidden part and what is shown make up the text, so that it is at least as long
    have length := congrArg List.length parts
    rw [List.length_append, front] at length
    refine ⟨by omega, ?_, ?_⟩
    · intro i hi
      have covers : (markupRanges heading.node).covers i = true ↔
          i < (TokenParts.of heading.node.kind text).front.length ∨
            (TokenParts.of heading.node.kind text).front.length +
              (TokenParts.of heading.node.kind text).shown.length ≤ i :=
        covers_markupRanges_iff hi
      -- there is no character of the text behind what is shown
      rw [front] at covers
      refine covers.trans ?_
      omega
    · calc t.text.toList
          = (TokenParts.of heading.node.kind text).shown := checked
        _ = ((TokenParts.of heading.node.kind text).front ++
              (TokenParts.of heading.node.kind text).shown).drop
                (TokenParts.of heading.node.kind text).front.length := List.drop_left.symm
        _ = text.drop hidden := by rw [parts, front]

/-- A heading that begins with spaces, in its place in a section: they are the marker. -/
private def spacedHeading : Site := ⟨0, [1], .token .heading 4 "  == é "⟩

/-- Of such a heading the spaces are hidden and all else is checked, and the level is 1. -/
theorem spacedHeading_checked :
    (headedBy spacedHeading.node).HeadedBy spacedHeading.node ∧
    spacedHeading.node.isLeaf = true ∧
    (headedBy spacedHeading.node).title = "== é".toList ∧
    (headedBy spacedHeading.node).level = 1 ∧
    (CheckableText.extract (.markup {}) spacedHeading).text.toList = "== é ".toList := by
  have headed : (headedBy spacedHeading.node).HeadedBy spacedHeading.node :=
    ⟨[.token .lineComment 0 "//c\n"], [.token .heading 20 "= x"], rfl, .inl rfl, by decide⟩
  have level : (headedBy spacedHeading.node).level = 1 := by decide
  obtain ⟨title, hidden⟩ := title_is_checked_text {} (headedBy spacedHeading.node) spacedHeading
    headed rfl
  have text := (hidden ' ' " == é ".toList rfl rfl).2.2
  rw [level] at text
  refine ⟨headed, rfl, ?_, level, text⟩
  rw [title, text]
  decide

end Adoc.Section
