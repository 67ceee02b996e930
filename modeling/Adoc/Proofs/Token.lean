import Adoc.Proofs.Extraction
import Adoc.Proofs.Units

/-! # What is shown of a token

The markup inside a token is hidden by a range of character numbers, which are counted from runs at
the front of the text or from a line end. What is left can be said without numbers: the text behind
the marker and the spaces, in front of the line end, or behind the slashes.

* `markupRange?_cases`         the range of markup is the front of the text or the end, if any
* `covers_markupRanges_iff`    the characters that are hidden are those around what is shown
* `charGlyphs_markupRanges`    the other characters are those of what is shown, each in its place
* `glyphs_extract_of_isLeaf`   of a token that is a root of its own, all that is shown is checked -/

namespace Adoc

/-! ## Runs -/

/-- A run goes on behind its first character. -/
@[simp]
theorem runLength_cons_self (c : Char) (s : List Char) :
    runLength c (c :: s) = runLength c s + 1 := by
  simp [runLength]

/-- A run is no longer than the text that it is in. -/
theorem runLength_le (c : Char) (s : List Char) : runLength c s ≤ s.length :=
  (List.takeWhile_sublist _).length_le

/-- Behind a run stands what is left when the run is dropped. -/
theorem drop_runLength (c : Char) (s : List Char) :
    s.drop (runLength c s) = s.dropWhile (· == c) := by
  have parts : s.takeWhile (· == c) ++ s.dropWhile (· == c) = s := List.takeWhile_append_dropWhile
  calc s.drop (runLength c s)
      = (s.takeWhile (· == c) ++ s.dropWhile (· == c)).drop (s.takeWhile (· == c)).length := by
        rw [parts, runLength]
    _ = s.dropWhile (· == c) := List.drop_left

/-- What stands in front of a character is as long as the number of the character says. -/
private theorem length_takeWhile_ne (c : Char) (s : List Char) :
    (s.takeWhile (· != c)).length = s.idxOf c := by
  induction s with
  | nil => rfl
  | cons d s ih =>
    by_cases h : d = c
    · simp [h]
    · rw [List.takeWhile_cons_of_pos (by simp [h]), List.length_cons, ih, List.idxOf_cons_ne s h]

/-! ## The parts of a text -/

/-- The text of a token in parts: markup in front, what is shown of it, and markup behind. -/
structure TokenParts where
  front : List Char
  shown : List Char
  back : List Char

namespace TokenParts

/-- The parts of the text of a token, by the rules of markup: of a one-line heading the run of its
first character and the run of spaces behind it are markup, of a two-line heading all from the first
line end on, and of a line comment the first two characters. -/
def of (kind : Kind) (text : List Char) : TokenParts :=
  match kind, text with
  | .heading, marker :: rest =>
    let behind := (marker :: rest).dropWhile (· == marker)
    ⟨(marker :: rest).takeWhile (· == marker) ++ behind.takeWhile (· == ' '),
      behind.dropWhile (· == ' '), []⟩
  | .headingOldstyle, text => ⟨[], text.takeWhile (· != '\n'), text.dropWhile (· != '\n')⟩
  | .lineComment, a :: b :: rest => ⟨[a, b], rest, []⟩
  | _, text => ⟨[], text, []⟩

/-- The parts make up the text. -/
theorem append_of (kind : Kind) (text : List Char) :
    (of kind text).front ++ (of kind text).shown ++ (of kind text).back = text := by
  unfold of
  split
  · simp [List.append_assoc, List.takeWhile_append_dropWhile]
  · simp [List.takeWhile_append_dropWhile]
  · simp
  · simp

/-- The lengths of the parts add up to that of the text. -/
theorem length_of (kind : Kind) (text : List Char) :
    (of kind text).front.length + (of kind text).shown.length + (of kind text).back.length =
      text.length := by
  rw [← List.length_append, ← List.length_append, append_of]

/-- In front of what is shown of a heading stand the run of its marker and the spaces behind it. -/
theorem length_front_heading (marker : Char) (rest : List Char) :
    (of .heading (marker :: rest)).front.length = runLength marker (marker :: rest) +
      runLength ' ' ((marker :: rest).drop (runLength marker (marker :: rest))) := by
  rw [drop_runLength, of, List.length_append]
  rfl

/-- What is shown of a heading stands behind the run of its marker and the spaces after that. -/
theorem shown_heading (marker : Char) (rest : List Char) :
    (of .heading (marker :: rest)).shown =
      ((marker :: rest).dropWhile (· == marker)).dropWhile (· == ' ') := rfl

/-- What is shown of a two-line heading is its first line. -/
theorem shown_headingOldstyle (text : List Char) :
    (of .headingOldstyle text).shown = text.takeWhile (· != '\n') := by
  rw [of]

end TokenParts

/-! ## The ranges of markup -/

/-- The markup in a text is the front of it, or goes from behind what is shown to just past the end,
or there is none. -/
theorem markupRange?_cases (kind : Kind) (text : List Char) :
    (∃ last, markupRange? kind text = some ⟨0, last⟩ ∧
      (TokenParts.of kind text).front.length = last + 1 ∧ (TokenParts.of kind text).back = []) ∨
    (markupRange? kind text = some ⟨(TokenParts.of kind text).shown.length, text.length⟩ ∧
      (TokenParts.of kind text).front = []) ∨
    (markupRange? kind text = none ∧
      (TokenParts.of kind text).front = [] ∧ (TokenParts.of kind text).back = []) := by
  unfold markupRange?
  split
  -- the two slashes of a line comment
  · exact .inl ⟨1, rfl, rfl, rfl⟩
  · rename_i marker rest
    -- the marker itself is there, so that the number of the last character is no negative one
    have front := TokenParts.length_front_heading marker rest
    rw [runLength_cons_self] at front
    refine .inl ⟨_, rfl, ?_, rfl⟩
    rw [front]
    omega
  · rename_i c rest
    -- a two-line heading, of which the first line is shown
    refine .inr (.inl ⟨?_, rfl⟩)
    rw [TokenParts.shown_headingOldstyle, length_takeWhile_ne]
  · rename_i comment heading oldstyle
    -- all else: no other pattern of the parts fits either
    right; right
    unfold TokenParts.of
    split
    · exact (heading _ _ rfl rfl).elim
    · cases text with
      | nil => exact ⟨rfl, rfl, rfl⟩
      | cons c rest => exact (oldstyle c rest rfl rfl).elim
    · exact (comment _ _ _ rfl rfl).elim
    · exact ⟨rfl, rfl, rfl⟩

/-- A character of a text is in the range of markup if it is in front of what is shown, or
behind it. -/
theorem contains_markupRange?_iff {kind : Kind} {text : List Char} {i : Nat}
    (hi : i < text.length) :
    (markupRange? kind text).any (·.contains i) = true ↔
      i < (TokenParts.of kind text).front.length ∨
        (TokenParts.of kind text).front.length + (TokenParts.of kind text).shown.length ≤ i := by
  have length := TokenParts.length_of kind text
  obtain ⟨last, range, front, back⟩ | ⟨range, front⟩ | ⟨range, front, back⟩ :=
    markupRange?_cases kind text
  -- with nothing behind what is shown, to be in front of it is all that counts
  · rw [back, List.length_nil] at length
    rw [range, Option.any_some, CharRange.contains_iff]
    dsimp only; omega
  -- with nothing in front of what is shown, to be behind it is all that counts
  · rw [front, List.length_nil] at length ⊢
    rw [range, Option.any_some, CharRange.contains_iff]
    dsimp only; omega
  · rw [front, back, List.length_nil] at length
    rw [range, front, List.length_nil]
    simp; omega

/-- The range of markup does not end before it starts, and reaches at most just past the text. -/
theorem bounds_of_markupRange? {kind : Kind} {text : List Char} {r : CharRange}
    (h : markupRange? kind text = some r) : r.first ≤ r.last ∧ r.last ≤ text.length := by
  have length := TokenParts.length_of kind text
  obtain ⟨last, range, front, back⟩ | ⟨range, front⟩ | ⟨range, _⟩ := markupRange?_cases kind text
  · cases h.symm.trans range
    dsimp only; omega
  · cases h.symm.trans range
    dsimp only; omega
  · cases h.symm.trans range

/-- A token has the one range of its markup, if any. -/
theorem toList_markupRanges (token : Node) :
    (markupRanges token).toList = (markupRange? token.kind token.text.toList).toList := by
  rw [markupRanges]
  cases markupRange? token.kind token.text.toList <;> rfl

/-- A character of a token is hidden if the range of its markup holds it. -/
theorem covers_markupRanges (token : Node) (i : Nat) :
    (markupRanges token).covers i =
      (markupRange? token.kind token.text.toList).any (·.contains i) := by
  rw [StealthRanges.covers, toList_markupRanges]
  cases markupRange? token.kind token.text.toList <;> simp

/-- Of the characters of a token, those around what is shown are hidden. -/
theorem covers_markupRanges_iff {token : Node} {i : Nat} (hi : i < token.text.toList.length) :
    (markupRanges token).covers i = true ↔
      i < (TokenParts.of token.kind token.text.toList).front.length ∨
        (TokenParts.of token.kind token.text.toList).front.length +
          (TokenParts.of token.kind token.text.toList).shown.length ≤ i := by
  rw [covers_markupRanges, contains_markupRange?_iff hi]

/-! ## What is checked -/

/-- The characters of a token that are not hidden are those of what is shown, each in its place. -/
theorem charGlyphs_markupRanges (token : Node) (offset : Nat) :
    CheckableText.charGlyphs id (markupRanges token).covers 0 offset token.text.toList =
      CheckableText.placed
        (offset + (String.ofList (TokenParts.of token.kind token.text.toList).front).utf8ByteSize)
        (TokenParts.of token.kind token.text.toList).shown := by
  have parts := TokenParts.append_of token.kind token.text.toList
  -- read the text as its parts, of which the first and the last are hidden
  nth_rewrite 1 [← parts]
  apply CheckableText.charGlyphs_of_hidden_ends
  intro i hi
  exact covers_markupRanges_iff (parts ▸ hi)

namespace Strategy

variable (settings : GrammarSettings) {root : Site}

/-- A token that is a root of its own is reached if it is of a kind of text. -/
theorem leaves_markup_of_isLeaf (leaf : root.node.isLeaf = true) :
    (markup settings).leaves root = if root.node.kind ∈ KindSet.textKinds then [root] else [] := by
  have text : (markup settings).behavior root root = .text ↔
      root.node.kind ∈ KindSet.textKinds := by
    simp [behavior_markup_eq_text (Site.mem_preorder_self root)]
  rw [leaves_eq_filter, Site.leaves_of_isLeaf leaf]
  simp [List.filter_cons, Site.routeTo_self, text]

/-- What is checked of a token that is a root of its own: all that is shown of it, in its place, if
it is of a kind of text. -/
theorem glyphs_extract_of_isLeaf (leaf : root.node.isLeaf = true) :
    (CheckableText.extract (markup settings) root).glyphs =
      if root.node.kind ∈ KindSet.textKinds then
        CheckableText.placed
          (root.node.span.start + (String.ofList
            (TokenParts.of root.node.kind root.node.text.toList).front).utf8ByteSize)
          (TokenParts.of root.node.kind root.node.text.toList).shown
      else [] := by
  rw [CheckableText.glyphs_extract, leaves_markup_of_isLeaf settings leaf]
  split
  · rw [List.flatMap_singleton]
    exact charGlyphs_markupRanges root.node root.node.span.start
  · rfl

/-- The text of such a token is what is shown of it. -/
theorem toList_text_extract_of_isLeaf (leaf : root.node.isLeaf = true)
    (text : root.node.kind ∈ KindSet.textKinds) :
    (CheckableText.extract (markup settings) root).text.toList =
      (TokenParts.of root.node.kind root.node.text.toList).shown := by
  rw [← CheckableText.map_char_glyphs (CheckableText.inStep_extract _ root),
    glyphs_extract_of_isLeaf settings leaf, if_pos text, CheckableText.map_char_placed]

/-- Nothing is checked of such a token if it is of no kind of text. -/
theorem extract_of_not_mem_textKinds (leaf : root.node.isLeaf = true)
    (other : root.node.kind ∉ KindSet.textKinds) :
    CheckableText.extract (markup settings) root = ⟨root.node.span, "", []⟩ := by
  rw [CheckableText.extract_eq, leaves_markup_of_isLeaf settings leaf, if_neg other]
  rfl

/-- Where character number `i` of the text of such a token stands: behind the markup in front and
the first `i` characters of what is shown. -/
def shownOffset (token : Node) (i : Nat) : Nat :=
  token.span.start + (String.ofList ((TokenParts.of token.kind token.text.toList).front ++
    (TokenParts.of token.kind token.text.toList).shown.take i)).utf8ByteSize

/-- Where the characters of the text of such a token stand, and that there are no others. -/
theorem documentOffset?_extract_of_isLeaf (leaf : root.node.isLeaf = true)
    (text : root.node.kind ∈ KindSet.textKinds) (i : Nat) :
    (CheckableText.extract (markup settings) root).documentOffset? i =
      if i < (TokenParts.of root.node.kind root.node.text.toList).shown.length then
        some (shownOffset root.node i)
      else none := by
  have inStep := CheckableText.inStep_extract (markup settings) root
  rw [CheckableText.documentOffset?, CheckableText.getElem?_spans inStep,
    glyphs_extract_of_isLeaf settings leaf, if_pos text, CheckableText.getElem?_placed]
  split
  · rename_i hi
    rw [List.getElem?_eq_getElem hi, shownOffset, String.ofList_append, String.utf8ByteSize_append,
      ← Nat.add_assoc]
    rfl
  · rename_i hi
    rw [List.getElem?_eq_none (Nat.le_of_not_lt hi)]
    rfl

/-- What is shown of such a token stands at offsets if the token ends within them. -/
theorem shownOffset_lt (leaf : root.node.isLeaf = true)
    (text : root.node.kind ∈ KindSet.textKinds) (fits : root.node.textSpan.stop ≤ offsetLimit)
    {i : Nat} (hi : i < (TokenParts.of root.node.kind root.node.text.toList).shown.length) :
    shownOffset root.node i < offsetLimit := by
  have reached : ∀ l ∈ (markup {}).leaves root, l.node.textSpan.stop ≤ offsetLimit := by
    rw [leaves_markup_of_isLeaf {} leaf, if_pos text]
    exact List.forall_mem_singleton.mpr fits
  -- the offset is the start of the glyph of that number
  have offset := documentOffset?_extract_of_isLeaf {} leaf text i
  rw [if_pos hi, CheckableText.documentOffset?,
    CheckableText.getElem?_spans (CheckableText.inStep_extract _ root), Option.map_map] at offset
  obtain ⟨g, hg, start⟩ := Option.map_eq_some_iff.mp offset
  rw [← start]
  exact CheckableText.start_lt_of_mem_glyphs reached (List.mem_of_getElem? hg)

end Strategy

/-- What is checked of a token is its text without the markup. If the token is of a kind of text, it
is what `TokenParts.of` calls shown, and otherwise it is nothing; the parts leave nothing of the
text out. Each character stands behind the bytes of the text in front of it, at what the program
keeps of that sum, and that is the sum itself if the token ends within the offsets; a program stops
only if it was built to, at a character of what is shown that has no offset. No range of markup ends
before it starts or reaches further than just past the text: in a heading the run of the marker lies
within the text and, with the spaces behind it, has a last character. -/
theorem tokens_checked_without_markup (o : Overflow) (settings : GrammarSettings) :
    (∀ (tree : Nat) (path : List Nat) (kind : Kind) (start : Nat) (text : String),
      let t? := CheckableText.extract? o (.markup settings) ⟨tree, path, .token kind start text⟩
      let parts := TokenParts.of kind text.toList
      let offset (i : Nat) :=
        start + (String.ofList (parts.front ++ parts.shown.take i)).utf8ByteSize
      parts.front ++ parts.shown ++ parts.back = text.toList ∧
      if kind ∈ KindSet.textKinds then
        (∀ t, t? = some t → t.text.toList = parts.shown ∧
          ∀ i < parts.shown.length, t.documentOffset? i = o.keep? (offset i)) ∧
        (t? = none ↔ o = .stop ∧ ∃ i < parts.shown.length, offsetLimit ≤ offset i) ∧
        (start + text.utf8ByteSize ≤ offsetLimit → ∃ t, t? = some t ∧
          ∀ i < parts.shown.length, t.documentOffset? i = some (offset i))
      else ∃ t, t? = some t ∧ t.text = "") ∧
    (∀ token, ∀ r ∈ ((Strategy.markup settings).stealthRanges token).toList,
      r.first ≤ r.last ∧ r.last ≤ token.node.textLength) ∧
    ∀ marker rest,
      let text := marker :: rest
      let markers := runLength marker text
      let hidden := markers + runLength ' ' (text.drop markers)
      markers ≤ text.length ∧ 1 ≤ hidden ∧ markupRange? .heading text = some ⟨0, hidden - 1⟩ := by
  refine ⟨?texts, ?ranges, ?heading⟩
  case texts =>
    intro tree path kind start text t? parts offset
    let root : Site := ⟨tree, path, .token kind start text⟩
    refine ⟨TokenParts.append_of kind text.toList, ?_⟩
    split
    · rename_i isText
      -- before anything is cut off of them, the places of what is shown are known
      have offsets : ∀ i, (CheckableText.extract (.markup settings) root).documentOffset? i =
          if i < parts.shown.length then some (offset i) else none :=
        Strategy.documentOffset?_extract_of_isLeaf settings rfl isText
      -- a program that stops does so at the offset of a character, and those are known
      have stops : t? = none ↔ o = .stop ∧ ∃ i < parts.shown.length, offsetLimit ≤ offset i := by
        refine CheckableText.keep?_eq_none_iff_documentOffset?.trans (and_congr_right fun _ => ?_)
        constructor
        · rintro ⟨i, n, at_, large⟩
          rw [offsets, Option.ite_none_right_eq_some] at at_
          obtain ⟨hi, here⟩ := at_
          rw [← Option.some.inj here] at large
          exact ⟨i, hi, large⟩
        · rintro ⟨i, hi, large⟩
          exact ⟨i, offset i, (offsets i).trans (if_pos hi), large⟩
      have places : ∀ t, t? = some t → ∀ i < parts.shown.length,
          t.documentOffset? i = o.keep? (offset i) := by
        intro t kept i hi
        rw [CheckableText.documentOffset?_of_keep? kept, offsets, if_pos hi]
        rfl
      refine ⟨fun t kept => ⟨?_, places t kept⟩, stops, fun fits => ?_⟩
      · rw [(CheckableText.keep?_eq_some_iff.mp kept).2.1]
        exact Strategy.toList_text_extract_of_isLeaf settings rfl isText
      · have ends : root.node.textSpan.stop ≤ offsetLimit := fits
        -- if the token ends within the offsets, there is no character to stop at
        have inside : ∀ i < parts.shown.length, offset i < offsetLimit :=
          fun i hi => Strategy.shownOffset_lt rfl isText ends hi
        obtain ⟨t, kept⟩ : ∃ t, t? = some t := by
          rw [← Option.ne_none_iff_exists']
          intro none
          obtain ⟨-, i, hi, large⟩ := stops.mp none
          exact absurd (inside i hi) (Nat.not_lt.mpr large)
        refine ⟨t, kept, fun i hi => ?_⟩
        rw [places t kept i hi, Overflow.keep?_of_lt (inside i hi)]
    · rename_i other
      refine ⟨⟨root.node.span, "", []⟩, ?_, rfl⟩
      show (CheckableText.extract (.markup settings) root).keep? o = _
      rw [Strategy.extract_of_not_mem_textKinds settings rfl other]
      rfl
  case ranges =>
    intro token r hr
    have range : r ∈ (markupRanges token.node).toList := hr
    rw [toList_markupRanges, Option.mem_toList] at range
    exact bounds_of_markupRange? range
  case heading =>
    intro marker rest text markers hidden
    have first : markers = runLength marker rest + 1 := runLength_cons_self marker rest
    refine ⟨runLength_le marker text, ?_, ?_⟩
    · omega
    · show some _ = some _
      rw [← first]

/-- The title of a heading stands behind the marker and the spaces, in bytes. -/
theorem spacedTitle_checked :
    ∃ t, CheckableText.extract? .stop (.markup {}) (.root (.token .heading 3 "éé  t")) = some t ∧
      t.text.toList = ['t'] ∧ t.documentOffset? 0 = some 9 := by
  have checked := (tokens_checked_without_markup .stop {}).1 0 [] .heading 3 "éé  t"
  obtain ⟨texts, _, fits⟩ := checked.2
  obtain ⟨t, kept, offsets⟩ := fits (by decide)
  exact ⟨t, kept, (texts t kept).1, offsets 0 (by decide)⟩

/-- The last character of a comment whose end is beyond 64 bits stands at no offset. -/
example :
    let comment := Site.root (.token .lineComment (offsetLimit - 3) "//ab")
    CheckableText.extract? .stop (.markup {}) comment = none ∧
      (CheckableText.extract? .wrap (.markup {}) comment).map (·.spans) =
        some [⟨offsetLimit - 1, 1⟩, ⟨0, 1⟩] := by decide

end Adoc
