import Adoc.Node

/-! # Sites: nodes in their place

Equal nodes may stand at several places of a tree, and a copy of a tree is a tree of its own. A
`Site` is a node together with where it stands, so that two sites are the same node exactly when
they have the same place.

Walking a tree lists its sites, each node before those below it. `Site.walk` keeps the sites still
to be visited on a stack; `Site.preorder` is the same list by recursion on the tree. -/

namespace Adoc

/-- A node and its place: `path` leads to it from the root of the tree numbered `tree`, by the
index of the child to take at each node. -/
structure Site where
  tree : Nat
  path : List Nat
  node : Node
deriving DecidableEq

namespace Site

/-- The root of the tree numbered 0. -/
def root (node : Node) : Site := ⟨0, [], node⟩

/-- The root of a copy of what stands at `s`: an equal node at a place in another tree. -/
def copy (s : Site) : Site := ⟨s.tree + 1, [], s.node⟩

/-- Are `s` and `t` one node, at one place? -/
def same (s t : Site) : Bool := s.tree == t.tree && s.path == t.path

/-- The sites of nodes that are children from number `i` on, below `path`. -/
def childrenFrom (tree : Nat) (path : List Nat) : (i : Nat) → List Node → List Site
  | _, [] => []
  | i, c :: cs => ⟨tree, path ++ [i], c⟩ :: childrenFrom tree path (i + 1) cs

/-- The sites of the node's children. -/
def children (s : Site) : List Site := childrenFrom s.tree s.path 0 s.node.children

/-- The site that `path` leads to from `s`, if there is one. -/
def descend? (s : Site) : List Nat → Option Site
  | [] => some s
  | i :: path => (s.children[i]?).bind (·.descend? path)

/-- The number of nodes below the sites of a stack, the sites themselves included. -/
def pending (stack : List Site) : Nat := Node.sizeAll (stack.map (·.node))

/-- A site on top of a stack counts for as many nodes as its tree has. -/
theorem pending_cons (s : Site) (stack : List Site) :
    pending (s :: stack) = s.node.size + pending stack := rfl

/-- The sites of two stacks count together. -/
theorem pending_append (stack rest : List Site) :
    pending (stack ++ rest) = pending stack + pending rest := by
  induction stack with
  | nil => simp [pending, Node.sizeAll]
  | cons s stack ih => simp only [List.cons_append, pending_cons, ih, Nat.add_assoc]

/-- The children of a node count as its trees do, wherever they stand. -/
theorem pending_childrenFrom (tree : Nat) (path : List Nat) (i : Nat) (cs : List Node) :
    pending (childrenFrom tree path i cs) = Node.sizeAll cs := by
  induction cs generalizing i with
  | nil => rfl
  | cons c cs ih => simp only [childrenFrom, pending_cons, ih, Node.sizeAll]

/-- Visit the sites on the stack, topmost first, and all that lies below them. -/
def walk : List Site → List Site
  | [] => []
  -- the children go on top of the stack, the first uppermost
  | s :: stack => s :: walk (s.children ++ stack)
termination_by stack => pending stack
decreasing_by
  rw [pending_append, pending_cons, children, pending_childrenFrom, Node.size_eq]
  omega

/-- The site and all that lies below it, each node before its children. -/
def descendants (s : Site) : List Site := walk [s]

mutual

/-- What `descendants` lists, by recursion on the node at the site. -/
def preorderOf (tree : Nat) (path : List Nat) : Node → List Site
  | ⟨k, s, t, cs⟩ => ⟨tree, path, ⟨k, s, t, cs⟩⟩ :: preorderFrom tree path 0 cs

/-- The sites in and below nodes that are children from number `i` on, below `path`. -/
def preorderFrom (tree : Nat) (path : List Nat) (i : Nat) : List Node → List Site
  | [] => []
  | c :: cs => preorderOf tree (path ++ [i]) c ++ preorderFrom tree path (i + 1) cs

end

/-- The site and all that lies below it: first itself, then the same for each child in turn. -/
def preorder (s : Site) : List Site := preorderOf s.tree s.path s.node

end Site

end Adoc
