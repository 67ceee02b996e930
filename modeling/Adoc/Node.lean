import Adoc.Kind
import Adoc.Span

/-! # Syntax trees

A tree describes a document: leaves are tokens and carry its text, composite nodes group what
lies below them. `Node.token` and `Node.ofChildren` build nodes whose span and text agree with
the document; a tree received from outside is taken as it is. -/

namespace Adoc

/-- A node of a syntax tree, with everything below it. -/
structure Node where
  kind : Kind
  span : Span
  text : String
  children : List Node

namespace Node

/-- The leaf of the given kind with its text at offset `start`. -/
def token (kind : Kind) (start : Nat) (text : String) : Node :=
  ⟨kind, ⟨start, text.utf8ByteSize⟩, text, []⟩

/-- The composite node over `children`: from the start of the first to the end of the last, with
their texts joined. Without children it is empty at offset 0. Of the end there are the low 64 bits,
and with an end in front of its start the node is empty. -/
def ofChildren (kind : Kind) (children : List Node) : Node :=
  let start := (children.head?.map (·.span.start)).getD 0
  let stop := (children.getLast?.map (·.span.stop % offsetLimit)).getD start
  ⟨kind, Span.between start stop, String.join (children.map (·.text)), children⟩

/-- The same, unless the program stops because the end of the last child is no offset. -/
def ofChildren? (o : Overflow) (kind : Kind) (children : List Node) : Option Node :=
  if o = .stop ∧ children.getLast?.any (offsetLimit ≤ ·.span.stop) then none
  else some (ofChildren kind children)

/-- The number of characters of the text. -/
def textLength (n : Node) : Nat := n.text.length

/-- Is the node without children? -/
def isLeaf (n : Node) : Bool := n.children.isEmpty

/-- The first child of the given kind. -/
def childOfKind? (n : Node) (kind : Kind) : Option Node :=
  n.children.find? (·.kind == kind)

mutual

/-- The number of nodes of the tree. -/
def size : Node → Nat
  | ⟨_, _, _, children⟩ => sizeAll children + 1

/-- The number of nodes of all the trees together. -/
def sizeAll : List Node → Nat
  | [] => 0
  | c :: cs => c.size + sizeAll cs

end

/-- A tree has one node more than its children together. -/
theorem size_eq (n : Node) : n.size = sizeAll n.children + 1 := by
  cases n; rfl

/-! ## Equality

Two trees are equal if they agree in kind, span, text and children, all the way down. -/

mutual

/-- Are the two trees equal? -/
def beq : Node → Node → Bool
  | ⟨k, s, t, cs⟩, ⟨k', s', t', cs'⟩ => k == k' && s == s' && t == t' && beqAll cs cs'

/-- Are the trees equal one by one? -/
def beqAll : List Node → List Node → Bool
  | [], [] => true
  | c :: cs, c' :: cs' => c.beq c' && beqAll cs cs'
  | _, _ => false

end

mutual

/-- The comparison of trees is equality, by recursion on the first of them. -/
theorem beq_iff : ∀ {m n : Node}, m.beq n = true ↔ m = n
  | ⟨k, s, t, cs⟩, ⟨k', s', t', cs'⟩ => by
    have children : beqAll cs cs' = true ↔ cs = cs' := beqAll_iff
    simp [beq, children, and_assoc]

theorem beqAll_iff : ∀ {cs cs' : List Node}, beqAll cs cs' = true ↔ cs = cs'
  | [], [] => by simp [beqAll]
  | [], _ :: _ => by simp [beqAll]
  | _ :: _, [] => by simp [beqAll]
  | c :: cs, c' :: cs' => by
    have first : c.beq c' = true ↔ c = c' := beq_iff
    have rest : beqAll cs cs' = true ↔ cs = cs' := beqAll_iff
    simp [beqAll, first, rest]

end

instance : DecidableEq Node := fun _ _ => decidable_of_iff _ beq_iff

end Node

/-! ## Building trees

Trees are put together on a stack: tokens are pushed in the order of the document, and the nodes on
top of the stack are wrapped into a composite node. -/

/-- One step in building a tree. -/
inductive BuildStep where
  /-- Push a token. -/
  | push (kind : Kind) (start : Nat) (text : String)
  /-- Take the last `count` nodes, or all if there are fewer, and push the node over them. -/
  | wrap (kind : Kind) (count : Nat)

/-- The nodes built so far that are not yet part of another one, the last first. -/
abbrev BuildStack := List Node

namespace BuildStep

/-- What the step leaves on the stack. -/
def run (stack : BuildStack) : BuildStep → BuildStack
  | .push kind start text => Node.token kind start text :: stack
  | .wrap kind count => Node.ofChildren kind (stack.take count).reverse :: stack.drop count

/-- What all the steps leave on the stack. -/
def runAll (stack : BuildStack) (steps : List BuildStep) : BuildStack := steps.foldl run stack

/-- What the step leaves on the stack, unless the program stops. -/
def run? (o : Overflow) (stack : BuildStack) : BuildStep → Option BuildStack
  | .push kind start text => some (Node.token kind start text :: stack)
  | .wrap kind count =>
    (Node.ofChildren? o kind (stack.take count).reverse).map (· :: stack.drop count)

/-- What all the steps leave on the stack, unless the program stops at one of them. -/
def runAll? (o : Overflow) (stack : BuildStack) (steps : List BuildStep) : Option BuildStack :=
  steps.foldlM (run? o) stack

end BuildStep

end Adoc
