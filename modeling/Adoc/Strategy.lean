import Adoc.KindSet
import Adoc.Settings
import Adoc.Site
import Adoc.StealthRanges

/-! # Checking strategies

A `Strategy` is what a grammar checker asks of a language: which nodes are units of text of their
own, how the nodes below a unit add to its text, and what to hide. Every question is about sites,
so that an answer may depend on where a node stands and not only on what it holds. -/

namespace Adoc

/-! ## Rule groups

A named group of checker rules is a set of rule names, kept in ascending order, each once. -/

/-- Put `x` into its place in an ascending list, unless it is there already. -/
def insertSorted (x : String) : List String → List String
  | [] => [x]
  | y :: ys => if x < y then x :: y :: ys else if x = y then y :: ys else y :: insertSorted x ys

/-- A set of rules, by their names. -/
structure RuleGroup where
  rules : List String
deriving DecidableEq, Repr

namespace RuleGroup

/-- The group without rules. -/
def empty : RuleGroup := ⟨[]⟩

/-- The group of the given rules, in any order and with any repetitions. -/
def ofList (rules : List String) : RuleGroup :=
  ⟨rules.foldl (fun acc r => insertSorted r acc) []⟩

def contains (g : RuleGroup) (rule : String) : Bool := g.rules.contains rule

end RuleGroup

/-! ## Strategies -/

/-- How a node adds to the text of the unit that it lies in. -/
inductive Behavior where
  /-- Left out here, because it is a unit of its own. -/
  | absorb
  /-- Its text belongs to the unit. -/
  | text
  /-- Hidden, with all that lies below it. -/
  | stealth
deriving DecidableEq, Repr

/-- The kinds of problem that a checker reports. -/
inductive TypoCategory where
  | grammar
  | spelling
  | punctuation
  | typography
  | casing
  | style
  | other
deriving DecidableEq, Repr

/-- A character to be shown to the checker in place of another. -/
structure CharReplacement where
  source : Char
  target : Char
deriving DecidableEq, Repr

namespace CharReplacement

/-- The character to show in place of `c`. -/
def apply (r : CharReplacement) (c : Char) : Char := if c = r.source then r.target else c

/-- Apply the replacements in order, each to the result of the one before. -/
def applyAll (rs : List CharReplacement) (c : Char) : Char := rs.foldl (fun c r => r.apply c) c

/-- Replacements of two lists are done one list after the other. -/
theorem applyAll_append (rs rs' : List CharReplacement) (c : Char) :
    applyAll (rs ++ rs') c = applyAll rs' (applyAll rs c) :=
  List.foldl_append

end CharReplacement

/-- The answers of a language to the questions of a checker. Only the first three have to be
given. -/
structure Strategy where
  /-- How `child`, which is `root` or lies below it, adds to the text of `root`. -/
  behavior : (root child : Site) → Behavior
  /-- Is the node a unit of text of its own? -/
  isContextRoot : Site → Bool
  /-- The parts of a token's text to hide. -/
  stealthRanges : Site → StealthRanges
  /-- Is a problem to be reported, if its rule matched `pattern` and it concerns `typo`? -/
  isTypoAccepted : (root : Site) → (pattern typo : CharRange) → Bool := fun _ _ _ => true
  /-- The rules that do not apply below `child`. -/
  ignoredRules : (root child : Site) → Option RuleGroup := fun _ _ => none
  /-- The problems that are not looked for below `child`. -/
  ignoredCategories : (root child : Site) → List TypoCategory := fun _ _ => []
  /-- The replacements in the text of a unit. -/
  replacements : (root : Site) → List CharReplacement := fun _ => []
  /-- Is checking on where the user has made no explicit choice? -/
  enabledByDefault : Bool := true

namespace Strategy

/-- The strategy that hides nothing: every node is a unit, and all below it is text. -/
def plain : Strategy where
  behavior _ _ := .text
  isContextRoot _ := true
  stealthRanges _ := .empty

/-- The units of text in a tree, in the order of the tree. -/
def contextRoots (s : Strategy) (tree : Site) : List Site :=
  tree.descendants.filter s.isContextRoot

end Strategy

/-! ## Adjusted strategies

A strategy may be adjusted by kind of node: other stealth ranges, another behaviour, and
replacements for all units of text. -/

/-- What an adjusted strategy answers in place of the one it is made from. -/
structure Overrides where
  replacements : List CharReplacement := []
  stealth : List (Kind × StealthRanges) := []
  behavior : List (Kind × Behavior) := []

/-- The strategy that answers as `o` says and otherwise, on nodes, as `s` does. What `s` says of
typos, rules and the user's choice is not taken over. -/
def Strategy.override (s : Strategy) (o : Overrides) : Strategy where
  behavior root child := (o.behavior.lookup child.node.kind).getD (s.behavior root child)
  isContextRoot := s.isContextRoot
  stealthRanges token := (o.stealth.lookup token.node.kind).getD (s.stealthRanges token)
  replacements _ := o.replacements

/-! ## The strategy for AsciiDoc markup

Headings, block titles, comments, literal blocks and the like are units of text. Below a unit,
text and inline markup around text belong to it, units in it are left to themselves, and all else
is hidden, as is the markup inside a heading or a line comment. -/

/-- The characters of a run of `c` at the start of `s`. -/
def runLength (c : Char) (s : List Char) : Nat := (s.takeWhile (· == c)).length

/-- The markup inside the text of a token, if it has any:

* of a line comment the two slashes,
* of a one-line heading the run of its first character and the spaces after it,
* of a two-line heading everything from the first line end on, to just past the text. -/
def markupRange? (kind : Kind) (text : List Char) : Option CharRange :=
  match kind, text with
  | .lineComment, _ :: _ :: _ => some ⟨0, 1⟩
  | .heading, marker :: rest =>
    -- the marker is whatever stands first, be it `=`, `#` or a letter
    let markers := runLength marker rest + 1
    some ⟨0, markers + runLength ' ' (text.drop markers) - 1⟩
  | .headingOldstyle, _ :: _ => some ⟨text.idxOf '\n', text.length⟩
  | _, _ => none

/-- The stealth ranges of a token: its markup. -/
def markupRanges (token : Node) : StealthRanges :=
  .ofList (markupRange? token.kind token.text.toList).toList

/-- The strategy for AsciiDoc under the given settings. -/
def Strategy.markup (settings : GrammarSettings) : Strategy where
  behavior root child :=
    if ¬ root.same child ∧ child.node.kind ∈ KindSet.checkRoots then .absorb
    else if child.node.kind ∈ KindSet.textKinds then .text
    else .stealth
  isContextRoot s :=
    if s.node.kind.isComment then settings.checkComments
    else s.node.kind ∈ KindSet.checkRoots
  stealthRanges s := markupRanges s.node
  enabledByDefault := settings.enabled

end Adoc
