import Adoc.SectionId
import Adoc.Strategy

/-! # Sections

What an outline needs to know of a section: its heading, title and level, the id that an anchor
gives it, and the id made from its title. -/

namespace Adoc

open Text

/-- A node of kind `section`. -/
structure Section where
  node : Node
  isSection : node.kind = .section

namespace Section

/-- View a node as a section, if it is one. -/
def ofNode? (n : Node) : Option Section :=
  if h : n.kind = .section then some ⟨n, h⟩ else none

/-- The heading: the first child that is a heading of either style. -/
def heading? (s : Section) : Option Node :=
  s.node.children.find? fun c => c.kind == .heading || c.kind == .headingOldstyle

/-- The characters of `text`, the first of them number `i`, that are not hidden. -/
def visibleFrom (hidden : Nat → Bool) : (i : Nat) → List Char → List Char
  | _, [] => []
  | i, c :: cs =>
    if hidden i then visibleFrom hidden (i + 1) cs else c :: visibleFrom hidden (i + 1) cs

/-- The title that a heading gives: its text without markup and without white space around it. -/
def titleOf (heading : Node) : List Char :=
  trim (visibleFrom (markupRanges heading).covers 0 heading.text.toList)

/-- The title; empty if there is no heading. -/
def title (s : Section) : List Char := (s.heading?.map titleOf).getD []

/-- The level of a two-line heading, by the first character of its underline. -/
def levelOfUnderline : Option Char → Nat
  | some '-' => 1
  | some '~' => 2
  | some '^' => 3
  | some '+' => 4
  | _ => 0

/-- The level that a heading gives: by the underline of a two-line heading, and otherwise one less
than the number of marker characters. -/
def levelOf (heading : Node) : Nat :=
  let text := heading.text.toList
  if heading.kind = .headingOldstyle then
    levelOfUnderline ((text.dropWhile (· != '\n')).drop 1).head?
  else
    match text with
    | [] => 0
    | marker :: rest => runLength marker rest

/-- The level: 0 for the title of the document, 1 for `==`, and so on; 0 if there is no
heading. -/
def level (s : Section) : Nat := (s.heading?.map levelOf).getD 0

/-! ## Anchors -/

/-- What an anchor holds between its brackets. -/
structure AnchorBody where
  /-- The anchor has the form `[#id]`, not `[[id]]`. -/
  shorthand : Bool
  body : List Char

namespace AnchorBody

/-- The body of an anchor that is a single token. -/
def ofToken (text : List Char) : AnchorBody where
  shorthand := (strip? ['[', '#'] text).isSome
  body := dropWhileEnd (· == ']') (dropPairs '[' '#' (dropPairs '[' '[' text))

/-- The body of an anchor with the given parts: the text of all that is not a bracket. -/
def ofParts (parts : List Node) : AnchorBody where
  shorthand := (parts.find? (·.kind == .blockIdStart)).any (·.text == "[#")
  body := (parts.filter fun c => c.kind != .blockIdStart && c.kind != .blockIdEnd).flatMap
    (·.text.toList)

/-- The body of an anchor node. -/
def ofNode (n : Node) : AnchorBody :=
  if n.isLeaf then ofToken n.text.toList else ofParts n.children

/-- Does `c` end the id in the body? In the form `[[id,text]]` a reference text follows, in the
form `[#id.role%option]` roles and options. -/
def endsId (shorthand : Bool) (c : Char) : Bool :=
  if shorthand then c == '.' || c == '%' else c == ','

/-- The id in the body, if it is not blank. -/
def id? (a : AnchorBody) : Option (List Char) :=
  match trim (a.body.takeWhile fun c => !endsId a.shorthand c) with
  | [] => none
  | id => some id

end AnchorBody

/-- The id that the first anchor among the children gives. -/
def blockId? (s : Section) : Option (List Char) :=
  (s.node.childOfKind? .blockId).bind (AnchorBody.ofNode · |>.id?)

/-! ## Generated ids -/

/-- The id made from the title. -/
def autoId (s : Section) : List Char := SectionId.generate s.title

/-- Does `key` name the id, as it is or with the number that a repeated id gets: a separator and
digits? The empty id is named by nothing. -/
def keyNames (id key : List Char) : Bool :=
  !id.isEmpty && match strip? id key with
    | none => false
    | some [] => true
    | some (c :: digits) => c == SectionId.separator && !digits.isEmpty && digits.all (·.isDigit)

/-- Does `key` refer to the section by its generated id? -/
def matchesAutoId (s : Section) (key : List Char) : Bool := keyNames s.autoId key

/-- The sections directly below. -/
def subsections (s : Section) : List Section := s.node.children.filterMap ofNode?

end Section

end Adoc
