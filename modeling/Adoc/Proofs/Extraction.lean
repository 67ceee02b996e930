import Adoc.Proofs.SourceMap

/-! # Extraction along paths

The walk that extracts the text of a unit stops wherever a node is not text. What it finds can be
said without a walk: the leaves whose paths pass text alone, in the order of the tree, and of each
leaf the characters that are not hidden, each on its own bytes of the document. The texts and spans
of the nodes above the leaves play no part.

* `leaves_eq_filter_isPrefix`  the leaves of a unit, selected by their paths
* `leafGlyphs_eq_map_glyphAt`  the glyphs of a leaf, selected by the numbers of its characters
* `start_lt_of_mem_glyphs`     they start at offsets if the leaf ends within them -/

namespace Adoc

/-- The leaves of a unit are the leaves at whose path every beginning, from the unit's root on,
leads to a node that is text. -/
theorem Strategy.leaves_eq_filter_isPrefix (s : Strategy) (root : Site) :
    s.leaves root = root.preorder.filter fun leaf => leaf.node.isLeaf = true ∧
      ∀ n ∈ root.preorder, n.path <+: leaf.path → s.behavior root n = .text := by
  rw [leaves_eq_filter, Site.leaves, List.filter_filter]
  apply List.filter_congr
  intro leaf hl
  have route : (∀ n ∈ root.routeTo leaf, s.behavior root n = .text) ↔
      ∀ n ∈ root.preorder, n.path <+: leaf.path → s.behavior root n = .text := by
    simp only [Site.mem_routeTo_iff_isPrefix hl, and_imp]
  rw [Bool.decide_and, Bool.decide_eq_true, Bool.and_comm, decide_eq_decide.mpr route]

namespace CheckableText

/-- The characters of a leaf that are not hidden, with their numbers. -/
def visibleChars (s : Strategy) (leaf : Site) : List (Char × Nat) :=
  leaf.node.text.toList.zipIdx.filter fun p => !(s.stealthRanges leaf).covers p.2

/-- The glyph of the character `c`, number `i` of a leaf: the character with all `rules` applied in
order, on the bytes of `c` behind those of the characters before it. -/
def glyphAt (rules : List CharReplacement) (leaf : Site) (c : Char) (i : Nat) : Glyph where
  char := CharReplacement.applyAll rules c
  source :=
    { start := leaf.node.span.start + (String.ofList (leaf.node.text.toList.take i)).utf8ByteSize
      len := c.utf8Size }

/-- The glyphs of the rest of a text, `before` having been read. -/
private theorem charGlyphs_eq_map_zipIdx (replace : Char → Char) (hidden : Nat → Bool)
    (start : Nat) (before cs : List Char) :
    charGlyphs replace hidden before.length (start + (String.ofList before).utf8ByteSize) cs =
      ((cs.zipIdx before.length).filter fun p => !hidden p.2).map fun p =>
        ⟨replace p.1,
          ⟨start + (String.ofList ((before ++ cs).take p.2)).utf8ByteSize, p.1.utf8Size⟩⟩ := by
  induction cs generalizing before with
  | nil => rfl
  | cons c cs ih =>
    have size : (String.ofList (before ++ [c])).utf8ByteSize =
        (String.ofList before).utf8ByteSize + c.utf8Size := by
      rw [String.ofList_append, String.utf8ByteSize_append, ← String.singleton_eq_ofList,
        String.utf8ByteSize_singleton]
    -- to the rest of the text, the character just read is one of those before it
    have rest := ih (before ++ [c])
    rw [List.length_append, List.length_singleton, size, ← Nat.add_assoc, List.append_assoc,
      List.singleton_append] at rest
    rw [charGlyphs, List.zipIdx_cons, List.filter_cons, rest]
    cases hidden before.length with
    | true => rfl
    | false => simp

/-- The glyphs of a leaf: one for each character that is not hidden, in order. -/
theorem leafGlyphs_eq_map_glyphAt (s : Strategy) (rules : List CharReplacement) (leaf : Site) :
    leafGlyphs s rules leaf =
      (visibleChars s leaf).map fun p => glyphAt rules leaf p.1 p.2 :=
  charGlyphs_eq_map_zipIdx (CharReplacement.applyAll rules) (s.stealthRanges leaf).covers
    leaf.node.span.start [] leaf.node.text.toList

/-- What a walk finds of a unit starts at offsets if the leaves that it reaches end within them. -/
theorem start_lt_of_mem_glyphs {s : Strategy} {root : Site}
    (fits : ∀ leaf ∈ s.leaves root, leaf.node.textSpan.stop ≤ offsetLimit) {g : Glyph}
    (hg : g ∈ (extract s root).glyphs) : g.source.start < offsetLimit := by
  rw [glyphs_extract] at hg
  obtain ⟨leaf, hl, hg⟩ := List.mem_flatMap.mp hg
  -- a glyph takes a byte at least, and so starts in front of the end of its leaf
  obtain ⟨_, width, last⟩ := bounds_of_mem_leafGlyphs hg
  have := fits leaf hl
  simp only [Span.stop] at last this
  omega

/-- Extraction by paths. The text of a unit is made from those leaves below its root, in the order
of the tree, to which every node on the way from the root, both included, is text; from each leaf
come the characters that are not hidden, with the replacements done, each with the bytes that it
takes in the document. A program keeps of each place what it keeps of the sum that the place starts
at: the sum itself if the leaves end within the offsets. It stops only if it was built to, and a
character that is not hidden has no offset. So every character of the text has its span, offsets are
known of the characters of the text and of no others, and a text is empty if it has no spans. -/
theorem extraction_by_paths (o : Overflow) (s : Strategy) (root : Site) :
    let shown := (root.preorder.filter fun leaf => leaf.node.isLeaf = true ∧
          ∀ n ∈ root.preorder, n.path <+: leaf.path → s.behavior root n = .text).flatMap
        (fun leaf => (visibleChars s leaf).map fun p =>
          glyphAt (s.replacements root) leaf p.1 p.2)
    (extract? o s root).map (·.glyphs) = shown.mapM (·.keep? o) ∧
    (extract? o s root = none ↔ o = .stop ∧ ∃ g ∈ shown, offsetLimit ≤ g.source.start) ∧
    ((∀ leaf ∈ s.leaves root, leaf.node.textSpan.stop ≤ offsetLimit) →
      (extract? o s root).map (·.glyphs) = some shown) ∧
    ∀ t, extract? o s root = some t →
      t.rootSpan = root.node.span ∧
      t.text.toList = shown.map (·.char) ∧
      t.text.length = t.spans.length ∧
      (∀ i, (t.documentOffset? i).isSome = true ↔ i < t.text.length) ∧
      (t.isEmpty = true ↔ t.spans = []) := by
  intro shown
  have inStep : (extract s root).InStep := inStep_extract s root
  have found : (extract s root).glyphs = shown := by
    rw [glyphs_extract, s.leaves_eq_filter_isPrefix root]
    exact List.flatMap_congr fun leaf _ => leafGlyphs_eq_map_glyphAt s (s.replacements root) leaf
  refine ⟨?glyphs, ?stops, ?fits, ?program⟩
  case glyphs => rw [extract?, map_glyphs_keep? inStep, found]
  case stops =>
    -- the program stops at a place that it does not keep, and places are those of glyphs
    rw [extract?, keep?_eq_none_iff, ← found, ← map_source_glyphs inStep]
    simp only [List.mem_map, exists_exists_and_eq_and]
  case fits =>
    intro fits
    -- all places that the walk finds start at offsets, and are kept as they are
    have kept : (extract s root).keep? o = some (extract s root) := by
      apply keep?_of_fits
      rw [← map_source_glyphs inStep, List.forall_mem_map]
      exact fun g hg => start_lt_of_mem_glyphs fits hg
    rw [extract?, kept, Option.map_some, found]
  case program =>
    intro t kept
    have inStep' : t.InStep := inStep.of_keep? kept
    -- keeping changes places alone: the root and the characters are those that the walk found
    obtain ⟨span, text, -⟩ := keep?_eq_some_iff.mp kept
    refine ⟨span.trans (rootSpan_extract s root), ?_, inStep',
      fun i => isSome_documentOffset?_iff inStep', isEmpty_iff inStep'⟩
    rw [text, ← map_char_glyphs inStep, found]

/-- A block with an emphasized word at the very end of the offsets. -/
private def atTheEnd : Site :=
  .root (.ofChildren .block [.token .text (offsetLimit - 4) "é",
    .token .newline (offsetLimit - 2) "\n",
    .ofChildren .italicRun [.token .italic (offsetLimit - 1) "ab"]])

/-- Of the last word, one character stands at an offset. A program that does not stop takes the
other to stand at the start of the document; with the emphasis hidden no program stops. -/
theorem atTheEnd_extracted :
    let hidden := (Strategy.markup {}).override { behavior := [(.italicRun, .stealth)] }
    (extract? .stop (.markup {}) atTheEnd).isNone = true ∧
    ((extract? .wrap (.markup {}) atTheEnd).map (·.text)) = some "éab" ∧
    ((extract? .wrap (.markup {}) atTheEnd).map (·.spans)) =
      some [⟨offsetLimit - 4, 2⟩, ⟨offsetLimit - 1, 1⟩, ⟨0, 1⟩] ∧
    (∀ leaf ∈ hidden.leaves atTheEnd, leaf.node.textSpan.stop ≤ offsetLimit) ∧
    ((extract? .stop hidden atTheEnd).map (·.glyphs)) = some [⟨'é', ⟨offsetLimit - 4, 2⟩⟩] := by
  intro hidden
  have fits : ∀ leaf ∈ hidden.leaves atTheEnd, leaf.node.textSpan.stop ≤ offsetLimit := by decide
  refine ⟨by decide, by decide, by decide, fits, ?_⟩
  rw [(extraction_by_paths .stop hidden atTheEnd).2.2.1 fits]
  decide

end CheckableText

end Adoc
