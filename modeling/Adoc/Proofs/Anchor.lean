import Adoc.Proofs.Names
import Adoc.Proofs.Trim
import Adoc.Section

/-! # Anchors are read as they are written

An anchor is written as one token or as an element with parts, and the id in it is found by taking
the brackets off, cutting at what ends an id, and trimming. So what comes back is what was written
only if none of these has anything to do.

* `ofNode_of_spelledBy`  the body of an anchor is read as it was written
* `id?_eq`               the id in a body
* `id?_eq_some`          the id in a body without white space
* `blockId?_of_accepts`  what becomes of a name that a block may have -/

namespace Adoc

open Text

namespace Section

namespace AnchorBody

/-! ## The body -/

/-- What opens an anchor of this form. -/
def opening (a : AnchorBody) : List Char := if a.shorthand then ['[', '#'] else ['[', '[']

/-- What closes an anchor of this form. -/
def closing (a : AnchorBody) : List Char := if a.shorthand then [']'] else [']', ']']

/-- Is `n` an anchor of this form and with this body? -/
inductive SpelledBy (a : AnchorBody) (n : Node) : Prop where
  /-- As a single token. -/
  | token (leaf : n.isLeaf = true)
      (text : n.text = String.ofList (a.opening ++ a.body ++ a.closing))
  /-- As an element, with the body split over any number of nodes between the brackets. -/
  | parts (start stop : Node) (parts : List Node)
      (children : n.children = start :: (parts ++ [stop]))
      (opens : start.kind = .blockIdStart ∧ start.text = String.ofList a.opening)
      (closes : stop.kind = .blockIdEnd)
      (between : ∀ p ∈ parts, p.kind ≠ .blockIdStart ∧ p.kind ≠ .blockIdEnd)
      (body : parts.flatMap (·.text.toList) = a.body)

/-- An anchor is closed by closing brackets. -/
theorem closing_brackets (a : AnchorBody) : ∀ c ∈ a.closing, (c == ']') = true := by
  rw [closing]
  cases a.shorthand <;> simp

/-- Of an anchor that is a token, the opening bracket is taken off, and at the end all closing
brackets, be they of the body or not. -/
theorem ofToken_brackets {a : AnchorBody} (first : ∀ c ∈ a.body.head?, c ≠ '[') :
    ofToken (a.opening ++ a.body ++ a.closing) =
      ⟨a.shorthand, (a.body ++ a.closing).rdropWhile (· == ']')⟩ := by
  -- behind the opening bracket stands the body or, if that is empty, the closing bracket
  have next : (a.body ++ a.closing).head? ≠ some '[' := by
    cases body : a.body with
    | nil =>
      rw [closing]
      cases a.shorthand <;> decide
    | cons c rest => simpa using first c (by simp [body])
  -- of the pairs that may stand in front, each form has its own
  rw [List.append_assoc, opening]
  cases a.shorthand with
  | false =>
    show ofToken ('[' :: '[' :: (a.body ++ a.closing)) = _
    rw [ofToken, dropPairs, if_pos ⟨rfl, rfl⟩, dropPairs_eq_self next, dropPairs_eq_self next]
    rfl
  | true =>
    show ofToken ('[' :: '#' :: (a.body ++ a.closing)) = _
    rw [ofToken, dropPairs, if_neg (by decide), dropPairs, if_pos ⟨rfl, rfl⟩,
      dropPairs_eq_self next]
    rfl

/-- The brackets around a body without brackets are taken off. -/
private theorem ofToken_spelled (a : AnchorBody) (plain : ∀ c ∈ a.body, c ≠ '[' ∧ c ≠ ']') :
    ofToken (a.opening ++ a.body ++ a.closing) = a := by
  have inner : ∀ c ∈ a.body, (c == ']') = false := fun c hc => beq_false_of_ne (plain c hc).2
  have first : ∀ c ∈ a.body.head?, c ≠ '[' := fun c hc => (plain c (List.mem_of_head? hc)).1
  rw [ofToken_brackets first, rdropWhile_append inner a.closing_brackets]

/-- The brackets on both sides of the parts are left out. -/
theorem ofParts_spelled {a : AnchorBody} {start stop : Node} {parts : List Node}
    (opens : start.kind = .blockIdStart ∧ start.text = String.ofList a.opening)
    (closes : stop.kind = .blockIdEnd)
    (between : ∀ p ∈ parts, p.kind ≠ .blockIdStart ∧ p.kind ≠ .blockIdEnd)
    (body : parts.flatMap (·.text.toList) = a.body) :
    ofParts (start :: (parts ++ [stop])) = a := by
  have form : (start.text == "[#") = a.shorthand := by
    rw [opens.2, opening]
    cases a.shorthand <;> decide
  -- of all children just the parts are no brackets
  have kept : (start :: (parts ++ [stop])).filter
      (fun c => c.kind != .blockIdStart && c.kind != .blockIdEnd) = parts := by
    rw [List.filter_cons_of_neg (by simp [opens.1]), List.filter_append,
      List.filter_cons_of_neg (by simp [closes]), List.filter_nil, List.append_nil,
      List.filter_eq_self]
    intro p hp
    simpa using between p hp
  have first : (start :: (parts ++ [stop])).find? (·.kind == .blockIdStart) = some start :=
    List.find?_cons_of_pos (beq_iff_eq.mpr opens.1)
  rw [ofParts, kept, first, Option.any_some, form, body]

/-- An anchor is read with the form and the body that it was written with. -/
theorem ofNode_of_spelledBy {a : AnchorBody} {n : Node} (h : a.SpelledBy n)
    (plain : ∀ c ∈ a.body, c ≠ '[' ∧ c ≠ ']') : ofNode n = a := by
  cases h with
  | token leaf text => rw [ofNode, if_pos leaf, text, String.toList_ofList, ofToken_spelled a plain]
  | parts _ _ _ children opens closes between body =>
    have inner : ¬ n.isLeaf = true := by simp [Node.isLeaf, children]
    rw [ofNode, if_neg inner, children, ofParts_spelled opens closes between body]

/-! ## The id -/

/-- The id in a body is what stands in front of the first character that ends it, without the white
space around it; there is none if that is blank. -/
theorem id?_eq (a : AnchorBody) :
    a.id? = if (a.body.takeWhile fun c => !endsId a.shorthand c).all isBlank then none
      else some (trim (a.body.takeWhile fun c => !endsId a.shorthand c)) := by
  -- an id that is trimmed to nothing is blank
  have blank {s : List Char} : trim s = [] ↔ s.all isBlank = true := by
    rw [trim_eq_nil_iff, List.all_eq_true]
  rw [id?]
  split
  · rename_i none
    rw [if_pos (blank.mp none)]
  · rename_i some
    rw [if_neg fun all => some (blank.mpr all)]

/-- In a body without white space the id is all that stands in front of the first character that
ends it. -/
theorem id?_eq_some {a : AnchorBody} (blank : ∀ c ∈ a.body, isBlank c = false)
    (some : (a.body.takeWhile fun c => !endsId a.shorthand c) ≠ []) :
    a.id? = .some (a.body.takeWhile fun c => !endsId a.shorthand c) := by
  -- without white space in the body there is nothing to trim
  have inner : ∀ c ∈ a.body.takeWhile fun c => !endsId a.shorthand c, isBlank c = false :=
    fun c hc => blank c ((List.takeWhile_sublist _).subset hc)
  have visible : ¬ (a.body.takeWhile fun c => !endsId a.shorthand c).all isBlank = true := by
    rw [List.all_eq_true, ← trim_eq_nil_iff, trim_eq_self inner]
    exact some
  rw [id?_eq, if_neg visible, trim_eq_self inner]

/-- A character does not end an id, in either form, if it has a property that those which do have
not. -/
theorem endsId_eq_false {p : Char → Bool} (others : ['.', '%', ','].any p = false) {c : Char}
    (h : p c = true) (shorthand : Bool) : endsId shorthand c = false := by
  have other {d : Char} (hd : d ∈ ['.', '%', ',']) : (c == d) = false := by
    apply beq_false_of_ne
    rintro rfl
    exact List.any_eq_false.mp others c hd h
  cases shorthand <;> simp [endsId, other]

end AnchorBody

/-- If an anchor is written with a name that a block may have, its id is what stands in front of the
first character that ends an id. -/
theorem blockId?_of_accepts {s : Section} {anchor : Node} {shorthand : Bool} {name : List Char}
    (accepted : RenameTarget.blockId.accepts name = true)
    (first : s.node.childOfKind? .blockId = some anchor)
    (spelled : (⟨shorthand, name⟩ : AnchorBody).SpelledBy anchor) :
    s.blockId? = some (name.takeWhile fun c => !AnchorBody.endsId shorthand c) := by
  have chars := RenameTarget.isBlockIdRest_of_accepts accepted
  -- a name has no brackets in it, and its first character stays in the id
  have read : AnchorBody.ofNode anchor = ⟨shorthand, name⟩ :=
    AnchorBody.ofNode_of_spelledBy spelled fun c hc =>
      ⟨RenameTarget.ne_of_isBlockIdRest (chars c hc) (by decide),
        RenameTarget.ne_of_isBlockIdRest (chars c hc) (by decide)⟩
  rw [blockId?, first, Option.bind_some, read]
  apply AnchorBody.id?_eq_some
  · exact fun c hc => RenameTarget.isBlank_of_isBlockIdRest (chars c hc)
  · obtain ⟨c, rest, rfl, start, _⟩ := RenameTarget.accepts_blockId_iff.mp accepted
    have kept : AnchorBody.endsId shorthand c = false :=
      AnchorBody.endsId_eq_false (by decide +kernel) start shorthand
    rw [List.takeWhile_cons_of_pos (by simp [kept])]
    exact List.cons_ne_nil _ _

/-- A name that a block may have comes back from an anchor. From the form `[[id]]` it comes back
whole; in the form `[#id]` a dot in it begins a role, so that only what stands in front of the first
dot comes back. -/
theorem accepted_name_read_back (s : Section) (anchor : Node) (name : List Char)
    (first : s.node.childOfKind? .blockId = some anchor)
    (accepted : RenameTarget.blockId.accepts name = true) :
    ((⟨false, name⟩ : AnchorBody).SpelledBy anchor → s.blockId? = some name) ∧
    ((⟨true, name⟩ : AnchorBody).SpelledBy anchor →
      s.blockId? = some (name.takeWhile (· != '.')) ∧ (s.blockId? = some name ↔ '.' ∉ name)) := by
  have chars := RenameTarget.isBlockIdRest_of_accepts accepted
  have other {c d : Char} (hc : c ∈ name) (hd : d ∈ RenameTarget.delimiters) : (c == d) = false :=
    beq_false_of_ne (RenameTarget.ne_of_isBlockIdRest (chars c hc) hd)
  constructor
  · intro spelled
    -- the long form ends an id at a comma, which no name has
    have whole : (name.takeWhile fun c => !AnchorBody.endsId false c) = name := by
      rw [List.takeWhile_eq_self_iff]
      intro c hc
      have comma : (c == ',') = false := other hc (by decide)
      simp [AnchorBody.endsId, comma]
    rw [blockId?_of_accepts accepted first spelled, whole]
  · intro spelled
    have cut : (name.takeWhile fun c => !AnchorBody.endsId true c) =
        name.takeWhile (· != '.') := by
      apply takeWhile_congr
      intro c hc
      have percent : (c == '%') = false := other hc (by decide)
      simp [AnchorBody.endsId, percent, bne]
    -- of the two characters that end an id here only the dot may stand in a name
    have read := (blockId?_of_accepts accepted first spelled).trans (congrArg some cut)
    refine ⟨read, ?_⟩
    rw [read, Option.some.injEq, List.takeWhile_eq_self_iff]
    constructor
    · intro h dot
      exact absurd (h '.' dot) (by decide)
    · intro h c hc
      exact bne_iff_ne.mpr fun dot => h (dot ▸ hc)

/-- The section that holds nothing but an anchor. -/
private def ofAnchor (anchor : Node) : Section := ⟨.ofChildren .section [anchor], rfl⟩

/-- The texts of `[[{a}_é:1.2]]` between the brackets. -/
private def splitName : List Node := [.token .text 2 "\x7ba\x7d_é", .token .text 8 ":1.2"]

/-- The anchor with its name in two parts. -/
private def splitAnchor : Node :=
  .ofChildren .blockId (.token .blockIdStart 0 "[[" :: (splitName ++ [.token .blockIdEnd 12 "]]"]))

/-- A name with nearly every kind of character, in two parts, comes back. -/
theorem splitAnchor_read_back :
    (ofAnchor splitAnchor).node.childOfKind? .blockId = some splitAnchor ∧
    RenameTarget.blockId.accepts "\x7ba\x7d_é:1.2".toList = true ∧
    (⟨false, "\x7ba\x7d_é:1.2".toList⟩ : AnchorBody).SpelledBy splitAnchor ∧
    (ofAnchor splitAnchor).blockId? = some "\x7ba\x7d_é:1.2".toList := by
  have accepted : RenameTarget.blockId.accepts "\x7ba\x7d_é:1.2".toList = true := by decide +kernel
  have spelled : (⟨false, "\x7ba\x7d_é:1.2".toList⟩ : AnchorBody).SpelledBy splitAnchor :=
    .parts _ _ splitName rfl ⟨rfl, rfl⟩ rfl (by decide) (by decide)
  refine ⟨rfl, accepted, spelled, ?_⟩
  exact (accepted_name_read_back _ splitAnchor _ rfl accepted).1 spelled

/-- The anchor `[#a.b]` as a token. -/
private def dottedToken : Node := .token .blockId 0 "[#a.b]"

/-- The same anchor in parts. -/
private def dottedParts : Node :=
  .ofChildren .blockId [.token .blockIdStart 0 "[#", .token .text 2 "a.b",
    .token .blockIdEnd 5 "]"]

/-- A block may have the name `a.b`, but in the form `[#id]` only `a` comes back of it. -/
theorem dotted_name_cut_in_short_form :
    RenameTarget.blockId.accepts "a.b".toList = true ∧
    ((⟨true, "a.b".toList⟩ : AnchorBody).SpelledBy dottedToken ∧
      (ofAnchor dottedToken).node.childOfKind? .blockId = some dottedToken ∧
      (ofAnchor dottedToken).blockId? = some "a".toList ∧
      (ofAnchor dottedToken).blockId? ≠ some "a.b".toList) ∧
    ((⟨true, "a.b".toList⟩ : AnchorBody).SpelledBy dottedParts ∧
      (ofAnchor dottedParts).node.childOfKind? .blockId = some dottedParts ∧
      (ofAnchor dottedParts).blockId? = some "a".toList ∧
      (ofAnchor dottedParts).blockId? ≠ some "a.b".toList) := by
  have parts : (⟨true, "a.b".toList⟩ : AnchorBody).SpelledBy dottedParts :=
    .parts _ _ [.token .text 2 "a.b"] rfl ⟨rfl, rfl⟩ rfl (by decide) (by decide)
  exact ⟨by decide +kernel, ⟨.token rfl rfl, rfl, by decide, by decide⟩,
    ⟨parts, rfl, by decide, by decide⟩⟩

end Section

end Adoc
