import Adoc.Proofs.Basic
import Adoc.Proofs.Glyphs

/-! # Text and spans in step

A walk pushes a character onto a text and its span onto a list, one beside the other. Neither
knows of the other; that there are as many of these as of those is an invariant of the pushing. In
step they are the same as the list of their glyphs, and the glyphs of a unit are those of its
leaves. What a program keeps of them is the same text, with what it keeps of each span.

* `InStep.push`           pushing keeps a text and its spans in step
* `inStep_extract`        so that they are in step after a walk
* `glyphs_extract`        and have the glyphs of the leaves, one leaf after the other
* `map_glyphs_keep?`      of which a program keeps what it keeps of each -/

namespace Adoc.CheckableText

/-- Are there as many spans as there are characters? -/
def InStep (t : CheckableText) : Prop := t.text.length = t.spans.length

/-- The empty text, with which a walk starts, is in step. -/
theorem inStep_empty (root : Span) : InStep ⟨root, "", []⟩ := rfl

/-- The characters of a text, each with its span. -/
def glyphs (t : CheckableText) : List Glyph :=
  (t.text.toList.zip t.spans).map fun p => ⟨p.1, p.2⟩

/-- Push glyphs one by one. -/
def pushAll (t : CheckableText) (gs : List Glyph) : CheckableText :=
  gs.foldl (fun t g => t.push g.char g.source) t

variable {t t' : CheckableText} {o : Overflow} {s : Strategy} {root : Site} {i : Nat}

/-! ## In step -/

/-- The text is spelled by the glyphs. -/
theorem map_char_glyphs (h : t.InStep) : t.glyphs.map (·.char) = t.text.toList := by
  have enough : t.text.toList.length ≤ t.spans.length := by
    rw [String.length_toList]
    exact Nat.le_of_eq h
  rw [glyphs, List.map_map]
  exact List.map_fst_zip enough

/-- The spans are those of the glyphs. -/
theorem map_source_glyphs (h : t.InStep) : t.glyphs.map (·.source) = t.spans := by
  have enough : t.spans.length ≤ t.text.toList.length := by
    rw [String.length_toList]
    exact Nat.le_of_eq h.symm
  rw [glyphs, List.map_map]
  exact List.map_snd_zip enough

/-- The span of a character is that of its glyph. -/
theorem getElem?_spans (h : t.InStep) (i : Nat) :
    t.spans[i]? = t.glyphs[i]?.map (·.source) := by
  rw [← map_source_glyphs h, List.getElem?_map]

/-- There are as many characters as glyphs. -/
theorem length_text (h : t.InStep) : t.text.length = t.glyphs.length := by
  rw [← String.length_toList, ← map_char_glyphs h, List.length_map]

/-- In step, a text is empty if it has no spans. -/
theorem isEmpty_iff (h : t.InStep) : t.isEmpty = true ↔ t.spans = [] := by
  rw [isEmpty, String.isEmpty_iff, ← String.length_eq_zero_iff, h, List.length_eq_zero_iff]

/-- In step, offsets are known of the characters of a text and of no others. -/
theorem isSome_documentOffset?_iff (h : t.InStep) :
    (t.documentOffset? i).isSome = true ↔ i < t.text.length := by
  rw [documentOffset?, Option.isSome_map, isSome_getElem?, h]

/-! ## Pushing -/

/-- Pushing a character with its span keeps a text and its spans in step. -/
theorem InStep.push (h : t.InStep) (c : Char) (source : Span) : (t.push c source).InStep := by
  rw [InStep, CheckableText.push, String.length_push, List.length_append, List.length_singleton, h]

/-- Pushing glyphs keeps a text and its spans in step. -/
theorem InStep.pushAll (h : t.InStep) (gs : List Glyph) : (t.pushAll gs).InStep := by
  induction gs generalizing t with
  | nil => exact h
  | cons g gs ih => exact ih (h.push g.char g.source)

/-- What is pushed comes behind the other glyphs. -/
theorem glyphs_push (h : t.InStep) (c : Char) (source : Span) :
    (t.push c source).glyphs = t.glyphs ++ [⟨c, source⟩] := by
  have same : t.text.toList.length = t.spans.length := by rw [String.length_toList, h]
  rw [glyphs, CheckableText.push, String.toList_push, List.zip_append same, List.map_append]
  rfl

/-- Glyphs that are pushed come behind the others, in their order. -/
theorem glyphs_pushAll (h : t.InStep) (gs : List Glyph) :
    (t.pushAll gs).glyphs = t.glyphs ++ gs := by
  induction gs generalizing t with
  | nil => exact (List.append_nil _).symm
  | cons g gs ih =>
    have rest : (t.pushAll (g :: gs)).glyphs = _ := ih (h.push g.char g.source)
    rw [rest, glyphs_push h, List.append_assoc, List.singleton_append]

/-- The characters of a leaf are pushed as its glyphs. -/
theorem pushChars_eq (replace : Char → Char) (hidden : Nat → Bool) (start i byte : Nat)
    (cs : List Char) (t : CheckableText) :
    pushChars replace hidden start t i byte cs =
      t.pushAll (charGlyphs replace hidden i (start + byte) cs) := by
  induction cs generalizing t i byte with
  | nil => rfl
  | cons c cs ih =>
    -- both leave a hidden character out and go on behind its bytes
    rw [pushChars, charGlyphs, ih, Nat.add_assoc]
    cases hidden i <;> rfl

/-- A leaf is pushed as its glyphs. -/
theorem pushLeaf_eq (s : Strategy) (rules : List CharReplacement) (t : CheckableText)
    (leaf : Site) : pushLeaf s rules t leaf = t.pushAll (leafGlyphs s rules leaf) :=
  pushChars_eq ..

/-! ## Extraction -/

/-- A walk pushes the glyphs of all leaves, one leaf after the other. -/
theorem extract_eq (s : Strategy) (root : Site) :
    extract s root = pushAll ⟨root.node.span, "", []⟩
      ((s.leaves root).flatMap (leafGlyphs s (s.replacements root))) := by
  -- leaf by leaf, what the walk pushes are the glyphs of the leaf
  have leaf : pushLeaf s (s.replacements root) =
      fun t leaf => t.pushAll (leafGlyphs s (s.replacements root) leaf) :=
    funext fun t => funext fun leaf => pushLeaf_eq s _ t leaf
  rw [extract, leaf, pushAll, List.foldl_flatMap]
  rfl

/-- Pushing does not touch the span of the root. -/
@[simp]
theorem rootSpan_pushAll (t : CheckableText) (gs : List Glyph) :
    (t.pushAll gs).rootSpan = t.rootSpan := by
  induction gs generalizing t with
  | nil => rfl
  | cons g gs ih => exact ih _

/-- The text of a unit has the span of its root. -/
@[simp]
theorem rootSpan_extract (s : Strategy) (root : Site) :
    (extract s root).rootSpan = root.node.span := by
  rw [extract_eq, rootSpan_pushAll]

/-- After a walk there are as many spans as characters. -/
theorem inStep_extract (s : Strategy) (root : Site) : (extract s root).InStep := by
  rw [extract_eq]
  exact (inStep_empty _).pushAll _

/-- The glyphs of a unit are those of its leaves. -/
@[simp]
theorem glyphs_extract (s : Strategy) (root : Site) :
    (extract s root).glyphs =
      (s.leaves root).flatMap (leafGlyphs s (s.replacements root)) := by
  rw [extract_eq, glyphs_pushAll (inStep_empty _)]
  rfl

/-- Texts in step are the same if they are of the same root and have the same glyphs. -/
theorem InStep.ext (h : t.InStep) (h' : t'.InStep) (root : t.rootSpan = t'.rootSpan)
    (glyphs : t.glyphs = t'.glyphs) : t = t' := by
  -- text and spans are read off the glyphs
  have text : t.text = t'.text := by
    rw [← String.toList_inj, ← map_char_glyphs h, ← map_char_glyphs h', glyphs]
  have spans : t.spans = t'.spans := by
    rw [← map_source_glyphs h, ← map_source_glyphs h', glyphs]
  cases t
  cases t'
  cases root
  cases text
  cases spans
  rfl

/-! ## What a program keeps -/

/-- A program keeps the text as it is, and of each span what it keeps of that. -/
theorem keep?_eq_some_iff :
    t.keep? o = some t' ↔ t'.rootSpan = t.rootSpan ∧ t'.text = t.text ∧
      t.spans.map (Span.keep? o) = t'.spans.map some := by
  rw [keep?, Option.map_eq_some_iff]
  simp only [mapM_eq_some_iff]
  constructor
  · rintro ⟨spans, kept, rfl⟩
    exact ⟨rfl, rfl, kept⟩
  · rintro ⟨root, text, kept⟩
    refine ⟨t'.spans, kept, ?_⟩
    rw [← root, ← text]

/-- Of each offset a program keeps what it keeps of that sum. -/
theorem documentOffset?_of_keep? (kept : t.keep? o = some t') (i : Nat) :
    t'.documentOffset? i = (t.documentOffset? i).bind o.keep? := by
  -- the spans are kept one by one, so the one at `i` is what is kept of the one at `i`
  have spans := congrArg (·[i]?) (keep?_eq_some_iff.mp kept).2.2
  simp only [List.getElem?_map] at spans
  rw [documentOffset?, documentOffset?]
  cases hs : t.spans[i]? with
  | none =>
    rw [hs, Option.map_none, eq_comm, Option.map_eq_none_iff] at spans
    rw [spans]
    rfl
  | some span =>
    rw [hs, Option.map_some, eq_comm, Option.map_eq_some_iff] at spans
    obtain ⟨span', hs', same⟩ := spans
    obtain ⟨start, hstart, rfl⟩ := Option.map_eq_some_iff.mp same.symm
    rw [hs', Option.map_some, Option.map_some, Option.bind_some, hstart]

/-- What is kept of a text in step is in step. -/
theorem InStep.of_keep? (h : t.InStep) (kept : t.keep? o = some t') : t'.InStep := by
  obtain ⟨-, text, spans⟩ := keep?_eq_some_iff.mp kept
  -- a span is kept for each one that there was, and the text is the same
  have length := congrArg List.length spans
  rw [List.length_map, List.length_map] at length
  rw [InStep, text, ← length, h]

/-- In step, what is kept of a text is what is kept of its glyphs. -/
theorem map_glyphs_keep? (h : t.InStep) :
    (t.keep? o).map glyphs = t.glyphs.mapM (Glyph.keep? o) := by
  cases kept : t.keep? o with
  | none =>
    rw [keep?, Option.map_eq_none_iff, mapM_eq_none_iff, ← map_source_glyphs h] at kept
    -- a span that is not kept is that of a glyph that is not kept
    obtain ⟨source, hs, lost⟩ := kept
    obtain ⟨g, hg, rfl⟩ := List.mem_map.mp hs
    symm
    rw [Option.map_none, mapM_eq_none_iff]
    exact ⟨g, hg, by rw [Glyph.keep?, lost, Option.map_none]⟩
  | some t' =>
    obtain ⟨-, text, spans⟩ := keep?_eq_some_iff.mp kept
    symm
    rw [Option.map_some, mapM_eq_some_iff, glyphs, glyphs, text, List.map_map, List.map_map]
    -- both sides are made from the text and from what is kept of the spans
    calc (t.text.toList.zip t.spans).map (Glyph.keep? o ∘ fun p => ⟨p.1, p.2⟩)
      _ = (t.text.toList.zip (t.spans.map (Span.keep? o))).map
          fun p => p.2.map (Glyph.mk p.1) := by
        rw [List.zip_map_right, List.map_map]
        rfl
      _ = (t.text.toList.zip t'.spans).map (some ∘ fun p => ⟨p.1, p.2⟩) := by
        rw [spans, List.zip_map_right, List.map_map]
        rfl

/-- Of a text with a part of the glyphs a program keeps a part. -/
theorem exists_keep?_of_sublist {u : CheckableText} (h : t.InStep) (h' : t'.InStep)
    (part : t'.glyphs.Sublist t.glyphs) (kept : t.keep? o = some u) :
    ∃ u', t'.keep? o = some u' ∧ u'.glyphs.Sublist u.glyphs := by
  have glyphs := map_glyphs_keep? h (o := o)
  rw [kept, Option.map_some] at glyphs
  -- all glyphs are kept, and so the part is
  obtain ⟨gs, kept', part⟩ := exists_mapM_of_sublist part glyphs.symm
  rw [← map_glyphs_keep? h', Option.map_eq_some_iff] at kept'
  obtain ⟨u', kept', rfl⟩ := kept'
  exact ⟨u', kept', part⟩

/-- A text of which all spans start at offsets is kept as it is. -/
theorem keep?_of_fits (fits : ∀ span ∈ t.spans, span.start < offsetLimit) :
    t.keep? o = some t := by
  refine keep?_eq_some_iff.mpr ⟨rfl, rfl, List.map_congr_left ?_⟩
  intro span hs
  rw [Span.keep?, Overflow.keep?_of_lt (fits span hs), Option.map_some]

/-- A program stops over a text if it was built to, and a span does not start at an offset. -/
theorem keep?_eq_none_iff :
    t.keep? o = none ↔ o = .stop ∧ ∃ span ∈ t.spans, offsetLimit ≤ span.start := by
  rw [keep?, Option.map_eq_none_iff, mapM_eq_none_iff]
  simp only [Span.keep?, Option.map_eq_none_iff, Overflow.keep?_eq_none_iff]
  constructor
  · rintro ⟨span, hs, stops, large⟩
    exact ⟨stops, span, hs, large⟩
  · rintro ⟨stops, span, hs, large⟩
    exact ⟨span, hs, stops, large⟩

/-- The same in terms of what the text says of its characters. -/
theorem keep?_eq_none_iff_documentOffset? :
    t.keep? o = none ↔ o = .stop ∧ ∃ i n, t.documentOffset? i = some n ∧ offsetLimit ≤ n := by
  rw [keep?_eq_none_iff]
  apply and_congr_right
  intro _
  constructor
  · rintro ⟨span, hs, large⟩
    obtain ⟨i, hi⟩ := List.getElem?_of_mem hs
    exact ⟨i, span.start, by rw [documentOffset?, hi, Option.map_some], large⟩
  · rintro ⟨i, n, hn, large⟩
    obtain ⟨span, hs, rfl⟩ := Option.map_eq_some_iff.mp hn
    exact ⟨span, List.mem_of_getElem? hs, large⟩

end Adoc.CheckableText
