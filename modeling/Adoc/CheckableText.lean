import Adoc.Strategy

/-! # Checkable text

The text of a unit as a checker sees it, each character with the place in the document that it
was taken from, so that what the checker finds can be found in the document again. Characters and
places are recorded side by side, in a text and in a list of spans.

A walk through the unit finds the places as sums of any size. A program keeps them in 64 bits, and
may stop at one that does not fit: `extract?` is the walk of a program, and `extract` the walk
itself. -/

namespace Adoc

/-- The text extracted from a unit. -/
structure CheckableText where
  rootSpan : Span
  text : String
  /-- For each character of the text the span of the document that it stands for. -/
  spans : List Span
deriving DecidableEq

/-! ## The leaves of a unit -/

namespace Strategy

mutual

/-- The leaves below the node at `path` whose text belongs to the unit at `root`, in the same
tree: those that are reached through nodes that are text, and are text themselves. -/
def leavesAt (s : Strategy) (root : Site) (path : List Nat) : Node → List Site
  | ⟨kind, span, text, children⟩ =>
    let site : Site := ⟨root.tree, path, ⟨kind, span, text, children⟩⟩
    match s.behavior root site with
    | .absorb | .stealth => []
    | .text => if children.isEmpty then [site] else leavesFrom s root path 0 children

/-- The same for the nodes that are children from number `i` on of the node at `path`. -/
def leavesFrom (s : Strategy) (root : Site) (path : List Nat) (i : Nat) : List Node → List Site
  | [] => []
  | c :: cs => leavesAt s root (path ++ [i]) c ++ leavesFrom s root path (i + 1) cs

end

/-- The leaves whose text belongs to the unit at `root`, in the order of the tree. -/
def leaves (s : Strategy) (root : Site) : List Site := s.leavesAt root root.path root.node

end Strategy

/-! ## Their characters -/

namespace CheckableText

/-- The text with one more character, which stands for `source`. -/
def push (t : CheckableText) (c : Char) (source : Span) : CheckableText :=
  { t with text := t.text.push c, spans := t.spans ++ [source] }

/-- Push the characters `cs` of a leaf that starts at `start`: those not hidden, with the
replacements done. The first of `cs` is character number `i` of the leaf, behind `byte` bytes. -/
def pushChars (replace : Char → Char) (hidden : Nat → Bool) (start : Nat) :
    (t : CheckableText) → (i byte : Nat) → List Char → CheckableText
  | t, _, _, [] => t
  | t, i, byte, c :: cs =>
    let t := if hidden i then t else t.push (replace c) ⟨start + byte, c.utf8Size⟩
    pushChars replace hidden start t (i + 1) (byte + c.utf8Size) cs

/-- Push the text of a leaf, with `rules` for replacements. -/
def pushLeaf (s : Strategy) (rules : List CharReplacement) (t : CheckableText) (leaf : Site) :
    CheckableText :=
  pushChars (CharReplacement.applyAll rules) (s.stealthRanges leaf).covers leaf.node.span.start
    t 0 0 leaf.node.text.toList

/-- The text of the unit at `root`. -/
def extract (s : Strategy) (root : Site) : CheckableText :=
  (s.leaves root).foldl (pushLeaf s (s.replacements root)) ⟨root.node.span, "", []⟩

/-- The text as a program keeps it: with the starts of its spans in 64 bits. Each start is one sum,
of the start of a leaf and the bytes in front of a character in it, and part of no other. -/
def keep? (o : Overflow) (t : CheckableText) : Option CheckableText :=
  (t.spans.mapM (Span.keep? o)).map fun spans => { t with spans }

/-- The text of the unit at `root`, unless the program stops. -/
def extract? (o : Overflow) (s : Strategy) (root : Site) : Option CheckableText :=
  (extract s root).keep? o

/-- Is there nothing to check? -/
def isEmpty (t : CheckableText) : Bool := t.text.isEmpty

/-- Where in the document character number `i` of the text stands. -/
def documentOffset? (t : CheckableText) (i : Nat) : Option Nat := t.spans[i]?.map (·.start)

/-- What `chars` of the text stands for in the document: from the start of the first character to
the end of the last, with anything hidden between them. -/
def documentSpan? (t : CheckableText) (chars : CharRange) : Option Span :=
  if chars.isEmpty then none
  else do
    let first ← t.spans[chars.first]?
    let last ← t.spans[chars.last]?
    some (Span.between first.start last.stop)

/-- What the program says that `chars` stands for, unless it stops: there is the sum that gives the
end of the last character, and the length is the difference of two offsets. -/
def keptSpan? (o : Overflow) (t : CheckableText) (chars : CharRange) : Option (Option Span) :=
  if chars.isEmpty then some none
  else
    match t.spans[chars.first]?, t.spans[chars.last]? with
    | some first, some last => do
      let stop ← last.stop? o
      let len ← o.difference? stop first.start
      return some ⟨first.start, len⟩
    | _, _ => some none

end CheckableText

end Adoc
