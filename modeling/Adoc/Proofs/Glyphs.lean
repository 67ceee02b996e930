import Adoc.CheckableText

/-! # The glyphs of a leaf

The characters of a text that starts somewhere in a document follow each other there, each on the
bytes that it takes. The glyphs of a leaf are those of its characters that are not hidden, with the
replacements done and every character left in its place.

* `charGlyphs_eq_map_filter`   the glyphs of a text, selected by the numbers of its characters
* `charGlyphs_of_hidden_ends`  the glyphs of a text of which only the ends are hidden
* `exists_of_mem_leafGlyphs`   where a glyph of a leaf stands, and which character it is
* `pairwise_leafGlyphs`        the glyphs of a leaf follow each other in the document -/

namespace Adoc

/-- The bytes of the document that the text of a node takes, if it is the text of a leaf. -/
def Node.textSpan (n : Node) : Span := ⟨n.span.start, n.text.utf8ByteSize⟩

namespace Span

/-- Does all of `s` come before `t`? -/
def Before (s t : Span) : Prop := s.stop ≤ t.start

instance (s t : Span) : Decidable (s.Before t) := inferInstanceAs (Decidable (_ ≤ _))

/-- Have the two spans no byte in common? -/
def Disjoint (s t : Span) : Prop :=
  ∀ offset, ¬(s.contains offset = true ∧ t.contains offset = true)

/-- A span holds the bytes from its start to just before its end. -/
@[simp]
theorem contains_iff {s : Span} {offset : Nat} :
    s.contains offset = true ↔ s.start ≤ offset ∧ offset < s.stop := by
  rw [contains, Bool.and_eq_true, decide_eq_true_eq, decide_eq_true_eq]

/-- What comes before has no byte in common with what comes behind. -/
theorem Before.disjoint {s t : Span} (h : s.Before t) : s.Disjoint t := by
  intro offset both
  rw [contains_iff, contains_iff] at both
  have := Nat.lt_of_lt_of_le both.1.2 h
  omega

/-- To have no byte in common is symmetric. -/
theorem Disjoint.symm {s t : Span} (h : s.Disjoint t) : t.Disjoint s :=
  fun offset both => h offset both.symm

/-- What lies within disjoint spans is disjoint. -/
theorem Disjoint.mono {s s' t t' : Span} (h : s.Disjoint t)
    (hs : s.start ≤ s'.start ∧ s'.stop ≤ s.stop) (ht : t.start ≤ t'.start ∧ t'.stop ≤ t.stop) :
    s'.Disjoint t' := by
  intro offset both
  rw [contains_iff, contains_iff] at both
  apply h offset
  rw [contains_iff, contains_iff]
  omega

end Span

/-- A character to check and the span of the document that it stands for. -/
structure Glyph where
  char : Char
  source : Span
deriving DecidableEq, Repr

namespace Glyph

/-- The glyph with another character in the same place. -/
def mapChar (f : Char → Char) (g : Glyph) : Glyph := ⟨f g.char, g.source⟩

/-- The glyph with its place as the program keeps it. -/
def keep? (o : Overflow) (g : Glyph) : Option Glyph := (g.source.keep? o).map (⟨g.char, ·⟩)

end Glyph

namespace CheckableText

/-- The glyphs of the characters `cs` of a leaf: those not hidden, with the replacements done.
The first of `cs` is character number `i` of the leaf and stands at `offset` in the document. -/
def charGlyphs (replace : Char → Char) (hidden : Nat → Bool) :
    (i offset : Nat) → List Char → List Glyph
  | _, _, [] => []
  | i, offset, c :: cs =>
    let rest := charGlyphs replace hidden (i + 1) (offset + c.utf8Size) cs
    if hidden i then rest else ⟨replace c, ⟨offset, c.utf8Size⟩⟩ :: rest

/-- The glyphs of a leaf, with `rules` for replacements. -/
def leafGlyphs (s : Strategy) (rules : List CharReplacement) (leaf : Site) : List Glyph :=
  charGlyphs (CharReplacement.applyAll rules) (s.stealthRanges leaf).covers 0
    leaf.node.span.start leaf.node.text.toList

/-! ## Characters in their places -/

/-- The characters of a text that starts at `offset`, each with the bytes that it takes. -/
def placed (offset : Nat) : List Char → List Glyph
  | [] => []
  | c :: cs => ⟨c, ⟨offset, c.utf8Size⟩⟩ :: placed (offset + c.utf8Size) cs

/-- The first character takes its bytes in front of the others. -/
private theorem utf8ByteSize_cons (c : Char) (cs : List Char) :
    (String.ofList (c :: cs)).utf8ByteSize = c.utf8Size + (String.ofList cs).utf8ByteSize := by
  rw [← List.singleton_append, String.ofList_append, String.utf8ByteSize_append,
    ← String.singleton_eq_ofList, String.utf8ByteSize_singleton]

/-- A character stands behind the bytes of the characters before it. -/
theorem mem_placed {offset : Nat} {cs : List Char} {g : Glyph} :
    g ∈ placed offset cs ↔ ∃ before after, cs = before ++ g.char :: after ∧
      g.source = ⟨offset + (String.ofList before).utf8ByteSize, g.char.utf8Size⟩ := by
  induction cs generalizing offset with
  | nil => simp [placed]
  | cons c cs ih =>
    rw [placed, List.mem_cons, ih]
    constructor
    · intro h
      obtain rfl | ⟨before, after, rfl, source⟩ := h
      · exact ⟨[], cs, rfl, rfl⟩
      · refine ⟨c :: before, after, rfl, ?_⟩
        rw [source, utf8ByteSize_cons, Nat.add_assoc]
    · intro h
      obtain ⟨before, after, split, source⟩ := h
      -- the character in front has none before it; the others have one more than they had
      obtain _ | ⟨b, before⟩ := before
      · obtain ⟨rfl, rfl⟩ := List.cons.inj split
        exact .inl (congrArg (Glyph.mk g.char) source)
      · obtain ⟨rfl, rfl⟩ := List.cons.inj split
        right
        refine ⟨before, after, rfl, ?_⟩
        rw [source, utf8ByteSize_cons, Nat.add_assoc]

/-- Every character stands on bytes of the text. -/
theorem bounds_of_mem_placed {offset : Nat} {cs : List Char} {g : Glyph}
    (h : g ∈ placed offset cs) :
    offset ≤ g.source.start ∧ 0 < g.source.len ∧
      g.source.stop ≤ offset + (String.ofList cs).utf8ByteSize := by
  obtain ⟨before, after, rfl, source⟩ := mem_placed.mp h
  have width := g.char.utf8Size_pos
  -- the bytes of the text are those before the character, its own, and those after it
  rw [String.ofList_append, String.utf8ByteSize_append, utf8ByteSize_cons, Span.stop, source]
  dsimp only
  omega

/-- In their places the characters are the same. -/
@[simp]
theorem map_char_placed (offset : Nat) (cs : List Char) : (placed offset cs).map (·.char) = cs := by
  induction cs generalizing offset with
  | nil => rfl
  | cons c cs ih => rw [placed, List.map_cons, ih]

/-- Character number `i` stands behind the bytes of the first `i` characters. -/
theorem getElem?_placed (offset i : Nat) (cs : List Char) :
    (placed offset cs)[i]? = cs[i]?.map fun c =>
      ⟨c, ⟨offset + (String.ofList (cs.take i)).utf8ByteSize, c.utf8Size⟩⟩ := by
  induction cs generalizing offset i with
  | nil => simp [placed]
  | cons c cs ih =>
    -- the first character, or one of those behind its bytes
    cases i with
    | zero => simp [placed]
    | succ i => simp [placed, ih, Nat.add_assoc]

/-- Characters in their places follow each other. -/
theorem pairwise_placed (offset : Nat) (cs : List Char) :
    (placed offset cs).Pairwise fun g h => g.source.Before h.source := by
  induction cs generalizing offset with
  | nil => exact .nil
  -- all that comes behind the first character starts behind its bytes
  | cons c cs ih => exact .cons (fun g hg => (bounds_of_mem_placed hg).1) (ih _)

/-- The glyphs of a text: of its characters, those whose number is not hidden. -/
theorem charGlyphs_eq_map_filter (replace : Char → Char) (hidden : Nat → Bool) (i offset : Nat)
    (cs : List Char) :
    charGlyphs replace hidden i offset cs =
      (((placed offset cs).zipIdx i).filter fun p => !hidden p.2).map fun p =>
        p.1.mapChar replace := by
  induction cs generalizing i offset with
  | nil => rfl
  | cons c cs ih =>
    rw [charGlyphs, placed, List.zipIdx_cons, List.filter_cons, ih]
    cases hidden i <;> rfl

/-! ## Hidden ends -/

variable {replace : Char → Char} {hidden : Nat → Bool} {i offset : Nat} {cs : List Char}

/-- The glyphs of a text that goes on: the rest is numbered on and stands behind the beginning. -/
theorem charGlyphs_append (replace : Char → Char) (hidden : Nat → Bool) (i offset : Nat)
    (s t : List Char) :
    charGlyphs replace hidden i offset (s ++ t) =
      charGlyphs replace hidden i offset s ++
        charGlyphs replace hidden (i + s.length)
          (offset + (String.ofList s).utf8ByteSize) t := by
  induction s generalizing i offset with
  | nil => simp [charGlyphs]
  | cons c s ih =>
    -- behind the first character the numbers and the offsets go on in the same way
    have number : i + (c :: s).length = i + 1 + s.length := by rw [List.length_cons]; omega
    have bytes : offset + (String.ofList (c :: s)).utf8ByteSize =
        offset + c.utf8Size + (String.ofList s).utf8ByteSize := by
      rw [utf8ByteSize_cons, Nat.add_assoc]
    rw [List.cons_append, charGlyphs, charGlyphs, ih, number, bytes]
    split <;> rfl

/-- A text that is all hidden has no glyphs. -/
theorem charGlyphs_eq_nil (h : ∀ j, i ≤ j → j < i + cs.length → hidden j = true) :
    charGlyphs replace hidden i offset cs = [] := by
  induction cs generalizing i offset with
  | nil => rfl
  | cons c cs ih =>
    rw [List.length_cons] at h
    rw [charGlyphs, if_pos (h i (by omega) (by omega))]
    exact ih fun j hj hj' => h j (by omega) (by omega)

/-- Of a text that is not hidden anywhere, every character is a glyph in its place. -/
theorem charGlyphs_eq_placed (h : ∀ j, i ≤ j → j < i + cs.length → hidden j = false) :
    charGlyphs id hidden i offset cs = placed offset cs := by
  induction cs generalizing i offset with
  | nil => rfl
  | cons c cs ih =>
    rw [List.length_cons] at h
    have first : ¬ hidden i = true := by simp [h i (by omega) (by omega)]
    rw [charGlyphs, if_neg first, placed, ih fun j hj hj' => h j (by omega) (by omega)]
    rfl

/-- If just the ends of a text are hidden, the glyphs are those of what is between them, which
stands behind the bytes of what is in front. -/
theorem charGlyphs_of_hidden_ends {front shown back : List Char}
    (h : ∀ j < (front ++ shown ++ back).length,
      hidden j = true ↔ j < front.length ∨ front.length + shown.length ≤ j) :
    charGlyphs id hidden 0 offset (front ++ shown ++ back) =
      placed (offset + (String.ofList front).utf8ByteSize) shown := by
  simp only [List.length_append] at h
  -- what is in front is hidden, what is behind is hidden, and between them nothing is
  have first : charGlyphs id hidden 0 offset front = [] :=
    charGlyphs_eq_nil fun j _ hj => (h j (by omega)).mpr (by omega)
  have last (offset : Nat) :
      charGlyphs id hidden (0 + (front ++ shown).length) offset back = [] := by
    rw [List.length_append]
    exact charGlyphs_eq_nil fun j hj hj' => (h j (by omega)).mpr (by omega)
  rw [charGlyphs_append, charGlyphs_append, first, last, List.nil_append, List.append_nil]
  apply charGlyphs_eq_placed
  intro j hj hj'
  rw [Bool.eq_false_iff, ne_eq, h j (by omega)]
  omega

/-! ## The glyphs of a leaf -/

variable {s : Strategy} {rules : List CharReplacement} {leaf : Site} {g : Glyph}

/-- The glyphs of a leaf are its characters in their places, but for the hidden ones, with the
replacements done. -/
theorem leafGlyphs_eq_map_filter (s : Strategy) (rules : List CharReplacement) (leaf : Site) :
    leafGlyphs s rules leaf =
      (((placed leaf.node.span.start leaf.node.text.toList).zipIdx).filter fun p =>
        !(s.stealthRanges leaf).covers p.2).map fun p =>
          p.1.mapChar (CharReplacement.applyAll rules) :=
  charGlyphs_eq_map_filter ..

/-- A glyph of a leaf is one of the leaf's characters, replaced, in its place. -/
theorem exists_of_mem_leafGlyphs (h : g ∈ leafGlyphs s rules leaf) :
    ∃ c, ⟨c, g.source⟩ ∈ placed leaf.node.span.start leaf.node.text.toList ∧
      g.char = CharReplacement.applyAll rules c := by
  rw [leafGlyphs_eq_map_filter, List.mem_map] at h
  -- the glyph was made of a character in its place, with its number
  obtain ⟨⟨p, i⟩, hp, rfl⟩ := h
  exact ⟨p.char, List.fst_mem_of_mem_zipIdx (List.mem_filter.mp hp).1, rfl⟩

/-- A glyph of a leaf takes bytes of its text. -/
theorem bounds_of_mem_leafGlyphs (h : g ∈ leafGlyphs s rules leaf) :
    leaf.node.textSpan.start ≤ g.source.start ∧ 0 < g.source.len ∧
      g.source.stop ≤ leaf.node.textSpan.stop := by
  obtain ⟨c, hc, _⟩ := exists_of_mem_leafGlyphs h
  have bounds := bounds_of_mem_placed hc
  rwa [String.ofList_toList] at bounds

/-- The glyphs of a leaf follow each other in the document. -/
theorem pairwise_leafGlyphs (s : Strategy) (rules : List CharReplacement) (leaf : Site) :
    (leafGlyphs s rules leaf).Pairwise fun g h => g.source.Before h.source := by
  have places := pairwise_placed leaf.node.span.start leaf.node.text.toList
  -- the numbers only say which characters are hidden, and hiding keeps the order
  rw [← List.zipIdx_map_fst 0 (placed _ _), List.pairwise_map] at places
  rw [leafGlyphs_eq_map_filter, List.pairwise_map]
  exact places.filter _

end CheckableText

end Adoc
