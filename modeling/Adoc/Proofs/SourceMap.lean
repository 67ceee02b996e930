import Adoc.Proofs.CheckableText
import Adoc.Proofs.Leaves

/-! # The source map of a text

If the leaves of a tree say what the document says in their place, every glyph of a unit stands on
the bytes of one character of the document. If the leaves also follow each other, so do the
glyphs, and a range of the text maps to a span of the document that cuts no character.

* `cutsOut_of_mem_glyphs`      a glyph stands on the bytes of its character
* `pairwise_glyphs`            the glyphs of a unit follow each other
* `documentSpan?_eq_some_iff`  what a range of characters stands for -/

namespace Adoc

/-- Are the bytes of a document in a span, all of them, those of `text`? -/
def Span.CutsOut (s : Span) (document text : String) : Prop :=
  s.len = text.utf8ByteSize ∧ document.toByteArray.extract s.start s.stop = text.toByteArray

instance (s : Span) (document text : String) : Decidable (s.CutsOut document text) :=
  inferInstanceAs (Decidable (_ ∧ _))

namespace Site

/-- Does the text of every leaf stand in the document from the start of the leaf on? -/
def ReadsFrom (tree : Site) (document : String) : Prop :=
  ∀ leaf ∈ tree.leaves, leaf.node.textSpan.CutsOut document leaf.node.text

/-- Do the leaves that have a text follow each other in the document? -/
def InOrder (tree : Site) : Prop :=
  (tree.leaves.filter (·.node.text ≠ "")).IsChain fun a b => a.node.textSpan.Before b.node.textSpan

instance (tree : Site) (document : String) : Decidable (tree.ReadsFrom document) :=
  inferInstanceAs (Decidable (∀ _ ∈ _, _))

instance (tree : Site) : Decidable tree.InOrder := inferInstanceAs (Decidable (List.IsChain _ _))

/-- The leaves of a node in a tree are leaves of the tree, in the same order. -/
theorem leaves_sublist_of_mem_preorder {tree root : Site} (h : root ∈ tree.preorder) :
    root.leaves.Sublist tree.leaves :=
  (preorder_isInfix_of_mem h).sublist.filter _

end Site

namespace CheckableText

/-! ## Glyphs and the document -/

/-- Cutting out of three arrays in a row what the middle one takes gives the middle one. -/
private theorem extract_middle (a b c : ByteArray) :
    (a ++ (b ++ c)).extract a.size (a.size + b.size) = b := by
  rw [← Nat.add_zero a.size, Nat.add_assoc, ByteArray.extract_append_size_add, Nat.zero_add,
    ByteArray.extract_append_eq_left rfl]

/-- A character of a text that stands in the document takes just its own bytes there. -/
theorem cutsOut_of_mem_placed {document text : String} {start : Nat} {g : Glyph}
    (reads : (⟨start, text.utf8ByteSize⟩ : Span).CutsOut document text)
    (h : g ∈ placed start text.toList) :
    g.source.CutsOut document (String.singleton g.char) := by
  obtain ⟨before, after, split, source⟩ := mem_placed.mp h
  -- the bytes of the text are those of what is before, of the character, and of what is after
  have bytes : text.toByteArray = (String.ofList before).toByteArray ++
      ((String.singleton g.char).toByteArray ++ (String.ofList after).toByteArray) := by
    rw [← String.utf8Encode_toList, split, List.utf8Encode_append, List.utf8Encode_cons,
      String.toByteArray_ofList, String.toByteArray_ofList, String.toByteArray_singleton]
  have size : text.utf8ByteSize = (String.ofList before).utf8ByteSize +
      ((String.singleton g.char).utf8ByteSize + (String.ofList after).utf8ByteSize) := by
    rw [← String.size_toByteArray, bytes, ByteArray.size_append, ByteArray.size_append,
      String.size_toByteArray, String.size_toByteArray, String.size_toByteArray]
  rw [String.utf8ByteSize_singleton] at size
  constructor
  · rw [source, String.utf8ByteSize_singleton]
  -- so the bytes that the document has there are a part of the text's
  · have part : document.toByteArray.extract g.source.start g.source.stop =
        text.toByteArray.extract (String.ofList before).utf8ByteSize
          ((String.ofList before).utf8ByteSize + g.char.utf8Size) := by
      rw [← reads.2, ByteArray.extract_extract, source]
      simp only [Span.stop]
      congr 1
      omega
    rw [part, bytes, ← String.size_toByteArray, ← String.utf8ByteSize_singleton,
      ← String.size_toByteArray, extract_middle]

/-- The bytes of a character do not go beyond the document. -/
theorem stop_le_of_cutsOut {document : String} {span : Span} {c : Char}
    (h : span.CutsOut document (String.singleton c)) :
    span.start < span.stop ∧ span.stop ≤ document.utf8ByteSize := by
  obtain ⟨len, bytes⟩ := h
  have width := c.utf8Size_pos
  have size := congrArg ByteArray.size bytes
  rw [ByteArray.size_extract, String.size_toByteArray, String.size_toByteArray,
    String.utf8ByteSize_singleton] at size
  rw [String.utf8ByteSize_singleton] at len
  -- a span that goes beyond the document would have lost bytes
  simp only [Span.stop] at size ⊢
  omega

/-- The bytes of a character begin and end at characters of the document. -/
theorem isValid_of_cutsOut {document : String} {span : Span} {c : Char}
    (h : span.CutsOut document (String.singleton c)) :
    String.Pos.Raw.IsValid document ⟨span.start⟩ ∧
      String.Pos.Raw.IsValid document ⟨span.stop⟩ := by
  obtain ⟨forward, inside⟩ := stop_le_of_cutsOut h
  have le : (⟨span.start⟩ : String.Pos.Raw) ≤ ⟨span.stop⟩ := Nat.le_of_lt forward
  have valid := h.2 ▸ (String.singleton c).isValidUTF8
  obtain empty | ends := (String.Pos.Raw.isValidUTF8_extract_iff _ _ le inside).mp valid
  · exact absurd (congrArg String.Pos.Raw.byteIdx empty) (Nat.ne_of_lt forward)
  · exact ends

variable {s : Strategy} {tree root : Site} {document : String} {g h : Glyph}

/-- A glyph of a unit comes from a leaf of the tree that the unit is in. -/
theorem exists_leaf_of_mem_glyphs (hr : root ∈ tree.preorder)
    (hg : g ∈ (extract s root).glyphs) :
    ∃ leaf ∈ tree.leaves, g ∈ leafGlyphs s (s.replacements root) leaf := by
  rw [glyphs_extract] at hg
  obtain ⟨leaf, hl, hg⟩ := List.mem_flatMap.mp hg
  have sublist := (s.leaves_sublist root).trans (Site.leaves_sublist_of_mem_preorder hr)
  exact ⟨leaf, sublist.subset hl, hg⟩

/-- A glyph of a unit stands on the bytes of one character, and shows that character with the
replacements done. -/
theorem cutsOut_of_mem_glyphs (hr : root ∈ tree.preorder) (reads : tree.ReadsFrom document)
    (hg : g ∈ (extract s root).glyphs) :
    ∃ c, g.source.CutsOut document (String.singleton c) ∧
      g.char = CharReplacement.applyAll (s.replacements root) c := by
  obtain ⟨leaf, hl, hg⟩ := exists_leaf_of_mem_glyphs hr hg
  obtain ⟨c, placed, char⟩ := exists_of_mem_leafGlyphs hg
  exact ⟨c, cutsOut_of_mem_placed (reads leaf hl) placed, char⟩

/-! ## Order -/

/-- A leaf with an empty text has no glyphs. -/
theorem text_ne_empty_of_mem_leafGlyphs {rules : List CharReplacement} {leaf : Site}
    (hg : g ∈ leafGlyphs s rules leaf) : leaf.node.text ≠ "" := by
  intro empty
  obtain ⟨first, width, last⟩ := bounds_of_mem_leafGlyphs hg
  simp only [Node.textSpan, Span.stop, empty, String.utf8ByteSize_empty] at first last
  omega

/-- The glyphs of a unit follow each other in the document if the leaves do. -/
theorem pairwise_glyphs (s : Strategy) (hr : root ∈ tree.preorder) (order : tree.InOrder) :
    (extract s root).glyphs.Pairwise fun g h => g.source.Before h.source := by
  have : Trans (fun a b : Site => a.node.textSpan.Before b.node.textSpan)
      (fun a b : Site => a.node.textSpan.Before b.node.textSpan)
      (fun a b : Site => a.node.textSpan.Before b.node.textSpan) := ⟨fun {a b c} ab bc =>
    Nat.le_trans ab (Nat.le_trans (Nat.le_add_right ..) bc)⟩
  have apart := List.pairwise_filter.mp (List.IsChain.pairwise order)
  have sublist := (s.leaves_sublist root).trans (Site.leaves_sublist_of_mem_preorder hr)
  rw [glyphs_extract, List.pairwise_flatMap]
  -- the glyphs of one leaf follow each other, and those of two leaves do as the leaves do
  refine ⟨fun leaf _ => pairwise_leafGlyphs .., (apart.sublist sublist).imp ?_⟩
  intro a b before g hg h hh
  -- leaves without a text may stand anywhere, but they have no glyphs
  have hab := before (by simpa using text_ne_empty_of_mem_leafGlyphs hg)
    (by simpa using text_ne_empty_of_mem_leafGlyphs hh)
  have last := (bounds_of_mem_leafGlyphs hg).2.2
  have first := (bounds_of_mem_leafGlyphs hh).1
  exact Nat.le_trans last (Nat.le_trans hab first)

/-! ## Ranges of the text -/

/-- A range of characters stands for what goes from the start of its first to the end of its
last. -/
theorem documentSpan?_eq_some_iff {t : CheckableText} (inStep : t.InStep) {first last : Nat}
    {span : Span} :
    t.documentSpan? ⟨first, last⟩ = some span ↔ first ≤ last ∧ ∃ g h, t.glyphs[first]? = some g ∧
      t.glyphs[last]? = some h ∧ span = .between g.source.start h.source.stop := by
  by_cases le : first ≤ last
  · have range : (⟨first, last⟩ : CharRange).isEmpty = false := by simp [CharRange.isEmpty, le]
    simp only [documentSpan?, range, Bool.false_eq_true, if_false, le, true_and,
      getElem?_spans inStep, Option.bind_eq_bind, Option.bind_eq_some_iff, Option.map_eq_some_iff,
      Option.some.injEq, eq_comm (a := span)]
    constructor
    · intro h
      obtain ⟨_, ⟨g, hg, rfl⟩, _, ⟨h, hh, rfl⟩, rfl⟩ := h
      exact ⟨g, h, hg, hh, rfl⟩
    · intro h
      obtain ⟨g, h, hg, hh, rfl⟩ := h
      exact ⟨_, ⟨g, hg, rfl⟩, _, ⟨h, hh, rfl⟩, rfl⟩
  · have range : (⟨first, last⟩ : CharRange).isEmpty = true := by simp [CharRange.isEmpty, le]
    simp [documentSpan?, range, le]

/-- A range stands for a span if it is not inverted and ends within the text. -/
theorem isSome_documentSpan?_iff {t : CheckableText} (inStep : t.InStep) {first last : Nat} :
    (t.documentSpan? ⟨first, last⟩).isSome = true ↔ first ≤ last ∧ last < t.text.length := by
  simp only [Option.isSome_iff_exists, documentSpan?_eq_some_iff inStep, length_text inStep]
  constructor
  · intro h
    obtain ⟨_, le, g, h, _, hlast, _⟩ := h
    exact ⟨le, (List.getElem?_eq_some_iff.mp hlast).1⟩
  · intro h
    obtain ⟨le, hlast⟩ := h
    exact ⟨_, le, _, _, List.getElem?_eq_getElem (Nat.lt_of_le_of_lt le hlast),
      List.getElem?_eq_getElem hlast, rfl⟩

/-- In a text whose glyphs follow each other, those with smaller numbers come before. -/
theorem before_of_lt {t : CheckableText} {i j : Nat}
    (order : t.glyphs.Pairwise fun g h => g.source.Before h.source) (lt : i < j)
    (hg : t.glyphs[i]? = some g) (hh : t.glyphs[j]? = some h) : g.source.Before h.source := by
  obtain ⟨hi, rfl⟩ := List.getElem?_eq_some_iff.mp hg
  obtain ⟨hj, rfl⟩ := List.getElem?_eq_some_iff.mp hh
  exact List.pairwise_iff_getElem.mp order i j hi hj lt

/-- What the glyphs from number `first` to number `last` stand for: it goes from the start of the
first to the end of the last, holds the places of those between them, and of no others. -/
theorem between_glyphs {t : CheckableText} {first last : Nat}
    (order : t.glyphs.Pairwise fun g h => g.source.Before h.source) (le : first ≤ last)
    (hg : t.glyphs[first]? = some g) (hh : t.glyphs[last]? = some h) :
    g.source.start ≤ h.source.stop ∧
      ∀ i x, t.glyphs[i]? = some x →
        (first ≤ i → i ≤ last → g.source.start ≤ x.source.start ∧
          x.source.stop ≤ h.source.stop) ∧
        (i < first → x.source.Before (.between g.source.start h.source.stop)) ∧
        (last < i → (Span.between g.source.start h.source.stop).Before x.source) := by
  -- of two glyphs in order, the later one neither starts nor ends before the other
  have starts {i j : Nat} {x y : Glyph} (le : i ≤ j) (hx : t.glyphs[i]? = some x)
      (hy : t.glyphs[j]? = some y) :
      x.source.start ≤ y.source.start ∧ x.source.stop ≤ y.source.stop := by
    obtain lt | rfl := Nat.lt_or_eq_of_le le
    · have before := before_of_lt order lt hx hy
      simp only [Span.Before, Span.stop] at before ⊢
      omega
    · obtain rfl := Option.some.inj (hx.symm.trans hy)
      exact ⟨Nat.le_refl _, Nat.le_refl _⟩
  have forward : g.source.start ≤ h.source.stop :=
    Nat.le_trans (starts le hg hh).1 (Nat.le_add_right ..)
  refine ⟨forward, ?_⟩
  intro i x hx
  refine ⟨?_, ?_, ?_⟩
  · intro hi hi'
    exact ⟨(starts hi hg hx).1, (starts hi' hx hh).2⟩
  · intro hi
    exact before_of_lt order hi hx hg
  · intro hi
    have after := before_of_lt order hi hh hx
    simp only [Span.Before, Span.stop, Span.between] at forward after ⊢
    omega

/-! ## What a program says -/

/-- If all spans end at offsets, and none starts behind the end of one after it, a program says of
every range of characters what it stands for. -/
theorem keptSpan?_of_fits {t : CheckableText} {o : Overflow}
    (fits : ∀ span ∈ t.spans, span.stop < offsetLimit)
    (forward : ∀ (i j : Nat) (first last : Span), i ≤ j → t.spans[i]? = some first →
      t.spans[j]? = some last → first.start ≤ last.stop) (chars : CharRange) :
    t.keptSpan? o chars = some (t.documentSpan? chars) := by
  rw [keptSpan?, documentSpan?]
  by_cases le : chars.first ≤ chars.last
  · have range : chars.isEmpty = false := by simp [CharRange.isEmpty, le]
    rw [range, if_neg Bool.false_ne_true, if_neg Bool.false_ne_true]
    -- past the end of the text there is nothing to add up
    cases hf : t.spans[chars.first]? with
    | none => rfl
    | some first =>
      cases hl : t.spans[chars.last]? with
      | none => rfl
      | some last =>
        have stop : last.stop? o = some last.stop :=
          Span.stop?_of_lt (fits last (List.mem_of_getElem? hl))
        have len : o.difference? last.stop first.start = some (last.stop - first.start) :=
          Overflow.difference?_of_le (forward _ _ _ _ le hf hl)
        simp only [stop, len, Option.bind_eq_bind, Option.bind_some]
        rfl
  · have range : chars.isEmpty = true := by simp [CharRange.isEmpty, le]
    rw [range, if_pos rfl, if_pos rfl]

/-- A text that stands in a document of 64 bits is kept as it is, and with its characters in order
all its ranges are found as they should be. -/
theorem kept_of_cutsOut {t : CheckableText} (inStep : t.InStep) {document : String}
    (fits : document.utf8ByteSize < offsetLimit)
    (cut : ∀ g ∈ t.glyphs, ∃ c, g.source.CutsOut document (String.singleton c)) (o : Overflow) :
    t.keep? o = some t ∧
      (t.glyphs.Pairwise (fun g h => g.source.Before h.source) →
        ∀ chars, t.keptSpan? o chars = some (t.documentSpan? chars)) := by
  -- what stands on characters of the document lies within it
  have inside : ∀ span ∈ t.spans, span.start < span.stop ∧ span.stop < offsetLimit := by
    rw [← map_source_glyphs inStep, List.forall_mem_map]
    intro g hg
    obtain ⟨c, bytes⟩ := cut g hg
    obtain ⟨forward, within⟩ := stop_le_of_cutsOut bytes
    exact ⟨forward, Nat.lt_of_le_of_lt within fits⟩
  refine ⟨keep?_of_fits fun span hs => Nat.lt_trans (inside span hs).1 (inside span hs).2,
    fun order chars => keptSpan?_of_fits (fun span hs => (inside span hs).2) ?_ chars⟩
  intro i j first last le hf hl
  rw [getElem?_spans inStep, Option.map_eq_some_iff] at hf hl
  obtain ⟨g, hg, rfl⟩ := hf
  obtain ⟨h, hh, rfl⟩ := hl
  exact (between_glyphs order le hg hh).1

/-- The source map of a unit's text is sound. In a tree whose leaves say what the document says in
their place, every character of the text is recorded with the bytes of one character of the
document, and is that character with the replacements done. If the leaves with a text also follow
each other, the places of the characters are in strictly increasing order, and a range of the text
stands for a span that cuts no character: from the start of its first character to the end of its
last, with the places of those between them and of no other character of the text. A program finds
all of this, without a sum or a difference that is no offset, if the document has no more than 64
bits of them. -/
theorem source_map_sound (s : Strategy) (document : String) (tree root : Site)
    (hr : root ∈ tree.preorder) (reads : tree.ReadsFrom document) :
    let t := extract s root
    t.glyphs.length = t.text.length ∧
    (∀ i < t.text.length, ∃ g c, t.glyphs[i]? = some g ∧
      g.source.CutsOut document (String.singleton c) ∧
      t.text.toList[i]? = some (CharReplacement.applyAll (s.replacements root) c)) ∧
    (tree.InOrder →
      (∀ (i j : Nat) (g h : Glyph), i < j → t.glyphs[i]? = some g → t.glyphs[j]? = some h →
        g.source.start < h.source.start ∧ g.source.Before h.source) ∧
      ∀ first last,
        ((t.documentSpan? ⟨first, last⟩).isSome = true ↔ first ≤ last ∧ last < t.text.length) ∧
        ∀ span, t.documentSpan? ⟨first, last⟩ = some span →
          ∃ g h, t.glyphs[first]? = some g ∧ t.glyphs[last]? = some h ∧
            g.source.start ≤ h.source.stop ∧
            span.start = g.source.start ∧ span.stop = h.source.stop ∧
            String.Pos.Raw.IsValid document ⟨span.start⟩ ∧
            String.Pos.Raw.IsValid document ⟨span.stop⟩ ∧
            ∀ i x, t.glyphs[i]? = some x →
              (first ≤ i ∧ i ≤ last → span.start ≤ x.source.start ∧
                x.source.stop ≤ span.stop) ∧
              (i < first ∨ last < i → x.source.Disjoint span)) ∧
    (document.utf8ByteSize < offsetLimit → ∀ o : Overflow, extract? o s root = some t ∧
      (tree.InOrder → ∀ chars, t.keptSpan? o chars = some (t.documentSpan? chars))) := by
  intro t
  -- every glyph stands on the bytes of a character, and shows that one replaced
  have cut {i : Nat} {g : Glyph} (hg : t.glyphs[i]? = some g) :
      ∃ c, g.source.CutsOut document (String.singleton c) ∧
        g.char = CharReplacement.applyAll (s.replacements root) c :=
    cutsOut_of_mem_glyphs hr reads (List.mem_of_getElem? hg)
  have inStep : t.InStep := inStep_extract s root
  refine ⟨(length_text inStep).symm, ?chars, fun order => ?order, fun fits o => ?program⟩
  case chars =>
    intro i hi
    have hg := List.getElem?_eq_getElem (length_text inStep ▸ hi)
    obtain ⟨c, bytes, char⟩ := cut hg
    refine ⟨_, c, hg, bytes, ?_⟩
    rw [← map_char_glyphs inStep, List.getElem?_map, hg, Option.map_some, char]
  case order =>
    -- from here on the leaves play no part: all follows from the order of the glyphs
    have order := pairwise_glyphs s hr order
    refine ⟨?_, fun first last => ⟨?_, ?_⟩⟩
    · intro i j g h lt hg hh
      have before : g.source.Before h.source := before_of_lt order lt hg hh
      obtain ⟨c, bytes, _⟩ := cut hg
      exact ⟨Nat.lt_of_lt_of_le (stop_le_of_cutsOut bytes).1 before, before⟩
    · exact isSome_documentSpan?_iff inStep
    · intro span hspan
      obtain ⟨le, g, h, hg, hh, rfl⟩ := (documentSpan?_eq_some_iff inStep).mp hspan
      obtain ⟨forward, places⟩ := between_glyphs order le hg hh
      obtain ⟨_, first, _⟩ := cut hg
      obtain ⟨_, last, _⟩ := cut hh
      have stop : (Span.between g.source.start h.source.stop).stop = h.source.stop :=
        Nat.add_sub_cancel' forward
      refine ⟨g, h, hg, hh, forward, rfl, stop, (isValid_of_cutsOut first).1, ?_, ?_⟩
      · rw [stop]
        exact (isValid_of_cutsOut last).2
      · intro i x hx
        obtain ⟨inside, before, after⟩ := places i x hx
        rw [stop]
        refine ⟨fun hi => inside hi.1 hi.2, ?_⟩
        intro h
        obtain hi | hi := h
        · exact (before hi).disjoint
        · exact (after hi).disjoint.symm
  case program =>
    have places : ∀ g ∈ t.glyphs, ∃ c, g.source.CutsOut document (String.singleton c) := by
      intro g hg
      obtain ⟨c, bytes, _⟩ := cutsOut_of_mem_glyphs hr reads hg
      exact ⟨c, bytes⟩
    obtain ⟨kept, ranges⟩ := kept_of_cutsOut inStep fits places o
    exact ⟨kept, fun order => ranges (pairwise_glyphs s hr order)⟩

/-- A block of two lines, with the line end hidden and an accent taken away. -/
private def twoLines : Site :=
  .root (.ofChildren .block [.token .text 0 "aé", .token .newline 3 "\n", .token .text 4 "b"])

/-- A strategy to which line ends are no text, and which takes one accent away. -/
private def withoutLineEnds : Strategy where
  behavior _ n := if n.node.kind = .newline then .stealth else .text
  isContextRoot _ := true
  stealthRanges _ := .empty
  replacements _ := [⟨'é', 'e'⟩]

/-- The last two characters of the block stand for three of the document, in four bytes. -/
theorem twoLines_source_map :
    twoLines.ReadsFrom "aé\nb" ∧ twoLines.InOrder ∧
      (extract withoutLineEnds twoLines).text = "aeb" ∧
      ((extract withoutLineEnds twoLines).documentSpan? ⟨1, 2⟩).isSome = true ∧
      (extract withoutLineEnds twoLines).documentSpan? ⟨1, 2⟩ = some ⟨1, 4⟩ ∧
      (extract withoutLineEnds twoLines).keptSpan? .stop ⟨1, 2⟩ = some (some ⟨1, 4⟩) := by
  have reads : twoLines.ReadsFrom "aé\nb" := by decide
  have order : twoLines.InOrder := by decide
  have sound := source_map_sound withoutLineEnds "aé\nb" twoLines twoLines
    (Site.mem_preorder_self twoLines) reads
  have span : (extract withoutLineEnds twoLines).documentSpan? ⟨1, 2⟩ = some ⟨1, 4⟩ := by decide
  refine ⟨reads, order, by decide, ?_, span, ?_⟩
  · exact ((sound.2.2.1 order).2 1 2).1.mpr ⟨by decide, by decide⟩
  · rw [(sound.2.2.2 (by decide) .stop).2 order, span]

end CheckableText

end Adoc
