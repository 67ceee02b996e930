import Adoc.CheckableText
import Adoc.Proofs.Route

/-! # The leaves of a unit

The text of a unit comes from those leaves of its tree that are text, as are all nodes on the route
to them. The recursion that collects these leaves, which stops wherever a node is not text, is here
shown to be a selection among all leaves of the tree.

* `leaves_eq_filter`  the leaves of a unit are the leaves that are reached through text alone -/

namespace Adoc

namespace Site

/-- The leaves of the tree of a site, from left to right. -/
def leaves (s : Site) : List Site := s.preorder.filter (·.node.isLeaf)

/-- The leaves of a tree are the sites in it that have no children. -/
theorem mem_leaves {s t : Site} : t ∈ s.leaves ↔ t ∈ s.preorder ∧ t.node.isLeaf = true :=
  List.mem_filter

/-- A leaf is the only leaf of its tree. -/
theorem leaves_of_isLeaf {s : Site} (h : s.node.isLeaf = true) : s.leaves = [s] := by
  rw [leaves, preorder_eq, children_eq_nil_iff.mpr h, List.flatMap_nil, List.filter_cons,
    if_pos h, List.filter_nil]

/-- The leaves of a node with children are those of the children. -/
theorem leaves_of_not_isLeaf {s : Site} (h : ¬ s.node.isLeaf = true) :
    s.leaves = s.children.flatMap leaves := by
  rw [leaves, preorder_eq, List.filter_cons, if_neg h, List.filter_flatMap]
  rfl

end Site

namespace Strategy

variable (s : Strategy) (root : Site)

/-- The leaves that are reached in the tree of `t`, for the unit at `root`. -/
private def leavesBelow (t : Site) : List Site := s.leavesAt root t.path t.node

/-- What is reached from several children is what is reached from each, in turn. -/
private theorem leavesFrom_eq (path : List Nat) (i : Nat) (cs : List Node) :
    s.leavesFrom root path i cs =
      (Site.childrenFrom root.tree path i cs).flatMap (s.leavesBelow root) := by
  induction cs generalizing i with
  | nil => rfl
  | cons c cs ih => rw [leavesFrom, Site.childrenFrom, List.flatMap_cons, ih]; rfl

/-- What is reached from a site: nothing if it is not text, a leaf itself, and otherwise what is
reached from its children. -/
private theorem leavesBelow_eq {t : Site} (ht : t.tree = root.tree) :
    s.leavesBelow root t =
      if s.behavior root t = .text then
        if t.node.isLeaf then [t] else t.children.flatMap (s.leavesBelow root)
      else [] := by
  obtain ⟨tree, path, kind, span, text, children⟩ := t
  obtain rfl : tree = root.tree := ht
  rw [leavesBelow, leavesAt, leavesFrom_eq]
  -- only the answer `text` lets the recursion go on
  cases s.behavior root ⟨root.tree, path, kind, span, text, children⟩ <;> rfl

/-- Is the route from `u` to `t` text alone? -/
private def reaches (u t : Site) : Bool := ∀ v ∈ u.routeTo t, s.behavior root v = .text

/-- Below a node that is text, a route is text if it is so from the child on. -/
private theorem reaches_child {t c u : Site} (hc : c ∈ t.children) (hu : u ∈ c.preorder)
    (ht : s.behavior root t = .text) : s.reaches root t u = s.reaches root c u := by
  simp only [reaches, Site.routeTo_child hc hu, List.forall_mem_cons, ht, true_and]

/-- The recursion selects the leaves to which the route is text. -/
private theorem leavesBelow_eq_filter {t : Site} (tree : t.tree = root.tree) :
    s.leavesBelow root t = t.leaves.filter (s.reaches root t) := by
  induction t using Site.induction with
  | step t ih =>
    rw [leavesBelow_eq s root tree]
    -- the recursion stops at a node that is not text, and so does every route through it
    split
    · rename_i ht
      split
      · rename_i leaf
        have reached : s.reaches root t t = true := by
          simpa [reaches, Site.routeTo_self] using ht
        rw [Site.leaves_of_isLeaf leaf, List.filter_cons_of_pos reached, List.filter_nil]
      · rename_i inner
        rw [Site.leaves_of_not_isLeaf inner, List.filter_flatMap]
        -- the routes from `t` go on as the routes from its children
        apply List.flatMap_congr
        intro c hc
        rw [ih c hc ((Site.tree_of_mem_children hc).trans tree)]
        apply List.filter_congr
        intro u hu
        exact (reaches_child s root hc (Site.mem_leaves.mp hu).1 ht).symm
    · rename_i ht
      symm
      rw [List.filter_eq_nil_iff]
      intro u hu reached
      have top : t ∈ t.routeTo u :=
        Site.mem_routeTo.mpr ⟨Site.mem_preorder_self t, (Site.mem_leaves.mp hu).1⟩
      exact ht (of_decide_eq_true reached t top)

/-- The leaves of a unit are the leaves to which the route from the unit's root is text alone. -/
theorem leaves_eq_filter :
    s.leaves root = root.leaves.filter fun t => ∀ u ∈ root.routeTo t, s.behavior root u = .text :=
  leavesBelow_eq_filter s root rfl

/-- A leaf belongs to a unit if every node on the route to it is text. -/
theorem mem_leaves {s : Strategy} {root t : Site} :
    t ∈ s.leaves root ↔ t ∈ root.leaves ∧ ∀ u ∈ root.routeTo t, s.behavior root u = .text := by
  rw [leaves_eq_filter, List.mem_filter, decide_eq_true_eq]

/-- Which leaves belong to a unit is a matter of how nodes behave in it, and of nothing else that a
strategy answers. -/
theorem leaves_congr {s s' : Strategy} {root : Site} (h : s.behavior root = s'.behavior root) :
    s.leaves root = s'.leaves root := by
  rw [leaves_eq_filter, leaves_eq_filter, h]

/-- The leaves of a unit come in the order of the tree. -/
theorem leaves_sublist : (s.leaves root).Sublist root.leaves := by
  rw [leaves_eq_filter]
  exact List.filter_sublist

end Strategy

end Adoc
