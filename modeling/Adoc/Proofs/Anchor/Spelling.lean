import Adoc.Proofs.Anchor

/-! # All spellings of an anchor give the same id

Behind the id an anchor may hold a reference text, or roles and options, and it may be one token or
an element with parts. Of a token, the brackets are taken off as often as they stand there, so that
what comes behind the id may lose some of its own; the id does not.

* `holds_ofNode`   an anchor is read with the id that it was written with
* `id?_of_holds`   the id in a body, trimmed, unless it is blank -/

namespace Adoc.Section

open Text

namespace AnchorBody

/-- The characters that end the id in a body: a reference text begins with the one of the long form,
roles and options with those of the short form. -/
def dividers (shorthand : Bool) : List Char := if shorthand then ['.', '%'] else [',']

/-- Does the body begin with `id`, alone or with a divider and anything else behind it? -/
structure Holds (a : AnchorBody) (id : List Char) : Prop where
  whole : ∀ c ∈ id, c ∉ dividers a.shorthand
  body : a.body = id ∨ ∃ c ∈ dividers a.shorthand, ∃ more, a.body = id ++ c :: more

variable {a : AnchorBody} {id : List Char}

/-- The characters that end an id are the dividers. -/
@[simp]
theorem endsId_iff {shorthand : Bool} {c : Char} :
    endsId shorthand c = true ↔ c ∈ dividers shorthand := by
  cases shorthand <;> simp [endsId, dividers]

/-- A divider is no bracket. -/
theorem ne_of_mem_dividers {shorthand : Bool} {c : Char} (h : c ∈ dividers shorthand) :
    c ≠ '[' ∧ c ≠ ']' := by
  have long : ∀ c ∈ dividers false, c ≠ '[' ∧ c ≠ ']' := by simp [dividers]
  have short : ∀ c ∈ dividers true, c ≠ '[' ∧ c ≠ ']' := by simp [dividers]
  cases shorthand with
  | false => exact long c h
  | true => exact short c h

/-- What stands in front of the first divider is the id. -/
theorem Holds.takeWhile_eq (h : a.Holds id) :
    (a.body.takeWhile fun c => !endsId a.shorthand c) = id := by
  have inside : ∀ c ∈ id, (!endsId a.shorthand c) = true := by
    intro c hc
    rw [Bool.not_eq_true', Bool.eq_false_iff, ne_eq, endsId_iff]
    exact h.whole c hc
  obtain body | ⟨c, hc, more, body⟩ := h.body
  -- nothing ends the id, or a divider does
  · rw [body, List.takeWhile_eq_self_iff]
    exact inside
  · have ends : ∀ d ∈ (c :: more).head?, (!endsId a.shorthand d) = false := by
      intro d hd
      obtain rfl := Option.some.inj hd
      rw [Bool.not_eq_false', endsId_iff]
      exact hc
    rw [body]
    exact (takeWhile_append_of_ends inside ends).1

/-- The id in a body is given without the white space around it, and not at all if it is blank. -/
theorem id?_of_holds (h : a.Holds id) :
    a.id? = if id.all isBlank then none else some (trim id) := by
  rw [id?_eq, h.takeWhile_eq]

/-! ## Reading -/

/-- Brackets are taken off behind the id only. -/
theorem Holds.rdropWhile (h : a.Holds id) (plain : ∀ c ∈ id, c ≠ '[' ∧ c ≠ ']') :
    (⟨a.shorthand, (a.body ++ a.closing).rdropWhile (· == ']')⟩ : AnchorBody).Holds id := by
  refine ⟨h.whole, ?_⟩
  obtain body | ⟨c, hc, rest, body⟩ := h.body
  · left
    have inner : ∀ c ∈ id, (c == ']') = false := fun c hc => beq_false_of_ne (plain c hc).2
    rw [body, rdropWhile_append inner a.closing_brackets]
  · right
    -- the divider is no bracket, so that it stays with all that is in front of it
    have other : (c == ']') = false := beq_false_of_ne (ne_of_mem_dividers hc).2
    refine ⟨c, hc, (rest ++ a.closing).rdropWhile (· == ']'), ?_⟩
    rw [body, List.append_assoc, List.cons_append]
    exact rdropWhile_append_cons (p := (· == ']')) other id (rest ++ a.closing)

/-- The body does not begin with a bracket: there stands the id or, if that is empty, a divider. -/
theorem Holds.head?_ne (h : a.Holds id) (plain : ∀ c ∈ id, c ≠ '[' ∧ c ≠ ']') :
    ∀ c ∈ a.body.head?, c ≠ '[' := by
  intro c hc
  obtain body | ⟨d, hd, more, body⟩ := h.body
  · rw [body] at hc
    exact (plain c (List.mem_of_head? hc)).1
  · rw [body] at hc
    cases id with
    | nil =>
      obtain rfl : d = c := by simpa using hc
      exact (ne_of_mem_dividers hd).1
    | cons e id =>
      obtain rfl : e = c := by simpa using hc
      exact (plain e List.mem_cons_self).1

/-- An anchor is read with the id that it was written with, by both ways. -/
theorem holds_ofNode {n : Node} (h : a.Holds id) (plain : ∀ c ∈ id, c ≠ '[' ∧ c ≠ ']')
    (spelled : a.SpelledBy n) : (ofNode n).Holds id := by
  cases spelled with
  | token leaf text =>
    rw [ofNode, if_pos leaf, text, String.toList_ofList, ofToken_brackets (h.head?_ne plain)]
    -- what is lost at the end stands behind the id
    exact h.rdropWhile plain
  | parts _ _ _ children opens closes between body =>
    have inner : ¬ n.isLeaf = true := by simp [Node.isLeaf, children]
    rw [ofNode, if_neg inner, children, ofParts_spelled opens closes between body]
    exact h

end AnchorBody

/-- All spellings of an anchor give the same id. If the first anchor among the children of a section
holds an id without brackets and without a divider of its form, then the section has this id without
the white space around it, or none if it is blank. It makes no difference of which form the anchor
is, whether something follows the id, whether the anchor is one token or an element with its body in
any number of parts, and what the other children are. -/
theorem spellings_give_same_id (s : Section) (before after : List Node) (anchor : Node)
    (a : AnchorBody) (id : List Char)
    (children : s.node.children = before ++ anchor :: after)
    (first : ∀ c ∈ before, c.kind ≠ .blockId) (kind : anchor.kind = .blockId)
    (plain : ∀ c ∈ id, c ≠ '[' ∧ c ≠ ']') (holds : a.Holds id) (spelled : a.SpelledBy anchor) :
    s.blockId? = if id.all isBlank then none else some (trim id) := by
  -- the anchor is the first of its kind, so that the other children are not looked at
  have found : s.node.childOfKind? .blockId = some anchor := by
    rw [Node.childOfKind?, List.find?_eq_some_iff_append]
    refine ⟨beq_iff_eq.mpr kind, before, after, children, ?_⟩
    intro c hc
    simpa using first c hc
  rw [blockId?, found, Option.bind_some]
  exact AnchorBody.id?_of_holds (AnchorBody.holds_ofNode holds plain spelled)

/-- The anchor `[[ né e , [a], b]]]`, whose reference text ends with a bracket. -/
private def longToken : Node := .token .blockId 4 "[[ né e , [a], b]]]"

/-- What stands between the brackets of `[#né e.x%[y]]`, in parts that end anywhere. -/
private def shortBody : List Node :=
  [.token .text 6 "né ", .token .bold 10 "e.", .token .lbracket 12 "x%[y]"]

/-- The anchor `[#né e.x%[y]]`. -/
private def shortParts : Node :=
  .ofChildren .blockId (.token .blockIdStart 4 "[#" :: (shortBody ++ [.token .blockIdEnd 17 "]"]))

/-- A section with an anchor in it, and something in front. -/
private def anchored (anchor : Node) : Section :=
  ⟨.ofChildren .section [.token .heading 0 "= A\n", anchor], rfl⟩

/-- An id with a space in it is found in both forms, also in front of brackets. -/
theorem spaced_id_found_in_both_forms :
    ((⟨false, " né e , [a], b]".toList⟩ : AnchorBody).Holds " né e ".toList ∧
      (⟨false, " né e , [a], b]".toList⟩ : AnchorBody).SpelledBy longToken ∧
      (anchored longToken).blockId? = some "né e".toList) ∧
    ((⟨true, "né e.x%[y]".toList⟩ : AnchorBody).Holds "né e".toList ∧
      (⟨true, "né e.x%[y]".toList⟩ : AnchorBody).SpelledBy shortParts ∧
      (anchored shortParts).blockId? = some "né e".toList) := by
  have longHolds : (⟨false, " né e , [a], b]".toList⟩ : AnchorBody).Holds " né e ".toList :=
    ⟨by simp [AnchorBody.dividers], .inr ⟨',', by decide, " [a], b]".toList, rfl⟩⟩
  have longSpelled : (⟨false, " né e , [a], b]".toList⟩ : AnchorBody).SpelledBy longToken :=
    .token rfl rfl
  have shortHolds : (⟨true, "né e.x%[y]".toList⟩ : AnchorBody).Holds "né e".toList :=
    ⟨by simp [AnchorBody.dividers], .inr ⟨'.', by decide, "x%[y]".toList, rfl⟩⟩
  have shortSpelled : (⟨true, "né e.x%[y]".toList⟩ : AnchorBody).SpelledBy shortParts :=
    .parts _ _ shortBody rfl ⟨rfl, rfl⟩ rfl (by decide) (by decide)
  refine ⟨⟨longHolds, longSpelled, ?_⟩, shortHolds, shortSpelled, ?_⟩
  · exact spellings_give_same_id (anchored longToken) [.token .heading 0 "= A\n"] [] longToken _ _
      rfl (by decide) rfl (by simp) longHolds longSpelled
  · exact spellings_give_same_id (anchored shortParts) [.token .heading 0 "= A\n"] [] shortParts
      _ _ rfl (by decide) rfl (by simp) shortHolds shortSpelled

/-- A blank id is none, whatever follows it. -/
example : (anchored (.token .blockId 4 "[[ ,x]]")).blockId? = none := by decide

end Adoc.Section
