import Adoc.Site
import Mathlib.Data.List.Nodup

/-! # The order of a walk

The walk with a stack visits a tree in the order of the recursive definition: a node, then its
children's trees from left to right. From the recursion it follows where the sites of a tree lie,
and that none is visited twice.

* `descendants_eq_preorder`  the walk lists what `preorder` lists
* `preorder_eq`              a site, then the trees of its children
* `nodup_preorder`           no site is listed twice
* `preorder_isInfix_of_mem`  the tree of a site is one block of every tree it is in -/

namespace Adoc.Site

/-! ## Children -/

/-- The sites of the children, with their numbers counted on from `i`. -/
private theorem childrenFrom_eq_mapIdx (tree : Nat) (path : List Nat) (i : Nat) (cs : List Node) :
    childrenFrom tree path i cs = cs.mapIdx fun j c => ⟨tree, path ++ [i + j], c⟩ := by
  induction cs generalizing i with
  | nil => rfl
  | cons c cs ih =>
    rw [childrenFrom, ih, List.mapIdx_cons]
    simp only [Nat.add_zero, Nat.add_assoc, Nat.add_comm 1]

/-- The children stand at the node's own path, followed by their number. -/
theorem mem_children {s c : Site} :
    c ∈ s.children ↔ ∃ i, ∃ h : i < s.node.children.length,
      c = ⟨s.tree, s.path ++ [i], s.node.children[i]⟩ := by
  rw [children, childrenFrom_eq_mapIdx, List.mem_mapIdx]
  simp only [Nat.zero_add, eq_comm]

/-- Child number `i` stands at the path that ends with `i`. -/
theorem path_of_getElem?_children {s c : Site} {i : Nat} (h : s.children[i]? = some c) :
    c.path = s.path ++ [i] := by
  rw [children, childrenFrom_eq_mapIdx, List.getElem?_mapIdx] at h
  obtain ⟨_, _, rfl⟩ := Option.map_eq_some_iff.mp h
  rw [Nat.zero_add]

/-- The sites of the children hold the node's children. -/
@[simp]
theorem map_node_children (s : Site) : s.children.map (·.node) = s.node.children := by
  rw [children, childrenFrom_eq_mapIdx]
  apply List.ext_getElem
  · rw [List.length_map, List.length_mapIdx]
  · intro i _ _
    rw [List.getElem_map, List.getElem_mapIdx]

/-- A site without children is one of a leaf. -/
theorem children_eq_nil_iff {s : Site} : s.children = [] ↔ s.node.isLeaf = true := by
  rw [children, childrenFrom_eq_mapIdx, List.mapIdx_eq_nil_iff, Node.isLeaf, List.isEmpty_iff]

/-- A child stands in the same tree. -/
theorem tree_of_mem_children {s c : Site} (h : c ∈ s.children) : c.tree = s.tree := by
  obtain ⟨i, _, rfl⟩ := mem_children.mp h
  rfl

/-- Equal children stand at different sites: their paths end with different numbers. -/
theorem nodup_children (s : Site) : s.children.Nodup := by
  rw [children, childrenFrom_eq_mapIdx, List.nodup_iff_injective_getElem]
  intro i j h
  -- equal sites have equal paths, and those end with the numbers
  have path : s.path ++ [0 + i.val] = s.path ++ [0 + j.val] := by
    simpa only [List.getElem_mapIdx] using congrArg Site.path h
  apply Fin.ext
  simpa using path

/-- One of several trees has no more nodes than all of them. -/
private theorem size_le_sizeAll {c : Node} {cs : List Node} (h : c ∈ cs) :
    c.size ≤ Node.sizeAll cs := by
  -- by where it stands: in front, or among those behind
  induction h with
  | head cs => exact Nat.le_add_right ..
  | tail d _ ih => exact Nat.le_trans ih (Nat.le_add_left ..)

/-- A child has fewer nodes below it than the site itself, so that induction on sites ends. -/
private theorem size_lt_of_mem_children {s c : Site} (h : c ∈ s.children) :
    c.node.size < s.node.size := by
  obtain ⟨i, hi, rfl⟩ := mem_children.mp h
  rw [Node.size_eq s.node, Nat.lt_succ_iff]
  exact size_le_sizeAll (List.getElem_mem hi)

/-- What holds of a site if it holds of all its children, holds of every site. -/
theorem induction {P : Site → Prop} (step : ∀ s, (∀ c ∈ s.children, P c) → P s) (s : Site) :
    P s :=
  step s fun c _h => induction step c
termination_by s.node.size
decreasing_by exact size_lt_of_mem_children _h

/-! ## The walk -/

/-- The preorder of several children is that of each, in turn. -/
private theorem preorderFrom_eq (tree : Nat) (path : List Nat) (i : Nat) (cs : List Node) :
    preorderFrom tree path i cs = (childrenFrom tree path i cs).flatMap preorder := by
  induction cs generalizing i with
  | nil => rfl
  | cons c cs ih => rw [preorderFrom, childrenFrom, List.flatMap_cons, ih]; rfl

/-- The preorder of a site is the site and the preorders of its children. -/
theorem preorder_eq (s : Site) : s.preorder = s :: s.children.flatMap preorder := by
  obtain ⟨tree, path, kind, span, text, cs⟩ := s
  rw [preorder, preorderOf, preorderFrom_eq]
  rfl

/-- A walk lists the preorders of the sites on its stack, the topmost first. -/
theorem walk_eq_flatMap_preorder (stack : List Site) : walk stack = stack.flatMap preorder := by
  fun_induction walk stack with
  | case1 => rfl
  -- the children go on top of the stack, so that their trees come first
  | case2 s stack ih =>
    rw [ih, List.flatMap_append, List.flatMap_cons, preorder_eq s, List.cons_append]

/-- The walk through a tree lists its preorder. -/
@[simp]
theorem descendants_eq_preorder (s : Site) : s.descendants = s.preorder := by
  rw [descendants, walk_eq_flatMap_preorder, List.flatMap_singleton]

/-! ## The sites of a tree -/

/-- In the tree of a site is the site itself and what is in the trees of its children. -/
theorem mem_preorder {s t : Site} :
    t ∈ s.preorder ↔ t = s ∨ ∃ c ∈ s.children, t ∈ c.preorder := by
  rw [preorder_eq, List.mem_cons, List.mem_flatMap]

/-- A site is in its own tree. -/
@[simp]
theorem mem_preorder_self (s : Site) : s ∈ s.preorder := mem_preorder.mpr (.inl rfl)

/-- What is in the tree of a child is in that of the site. -/
theorem mem_preorder_of_mem_children {s c t : Site} (hc : c ∈ s.children) (ht : t ∈ c.preorder) :
    t ∈ s.preorder :=
  mem_preorder.mpr (.inr ⟨c, hc, ht⟩)

/-- The tree of a site is one block of every tree that the site is in. -/
theorem preorder_isInfix_of_mem {s t : Site} (h : t ∈ s.preorder) : t.preorder <:+: s.preorder := by
  induction s using induction with
  | step s ih =>
    obtain rfl | ⟨c, hc, ht⟩ := mem_preorder.mp h
    · exact List.infix_refl _
    -- the tree of a child is one block among those of the children
    · have block : c.preorder <:+: s.children.flatMap preorder :=
        List.infix_flatMap_of_mem hc preorder
      rw [preorder_eq s]
      exact (ih c hc ht).trans (List.infix_cons block)

/-- What is in a tree inside another one is in that one. -/
theorem mem_preorder_trans {s t u : Site} (ht : t ∈ s.preorder) (hu : u ∈ t.preorder) :
    u ∈ s.preorder :=
  (preorder_isInfix_of_mem ht).subset hu

/-! ## Places -/

/-- All sites below another one stand in the same tree as that. -/
theorem tree_of_mem_preorder {s t : Site} (h : t ∈ s.preorder) : t.tree = s.tree := by
  induction s using induction with
  | step s ih =>
    obtain rfl | ⟨c, hc, ht⟩ := mem_preorder.mp h
    · rfl
    · rw [ih c hc ht, tree_of_mem_children hc]

/-- The path of a site goes on from the path of the site at the top of its tree. -/
theorem path_isPrefix_of_mem {s t : Site} (h : t ∈ s.preorder) : s.path <+: t.path := by
  induction s using induction with
  | step s ih =>
    obtain rfl | ⟨c, hc, ht⟩ := mem_preorder.mp h
    · exact List.prefix_refl _
    -- the path of a child is one number longer, and what is below it goes on from there
    · have rest := ih c hc ht
      obtain ⟨i, _, rfl⟩ := mem_children.mp hc
      exact (List.prefix_append ..).trans rest

/-- The path of a site below a child is longer than that of the site itself. -/
private theorem length_path_lt {s c t : Site} (hc : c ∈ s.children) (ht : t ∈ c.preorder) :
    s.path.length < t.path.length := by
  have path := (path_isPrefix_of_mem ht).length_le
  obtain ⟨i, _, rfl⟩ := mem_children.mp hc
  rw [List.length_append, List.length_singleton] at path
  exact path

/-- A site is in none of the trees of its children. -/
theorem ne_of_mem_preorder_child {s c t : Site} (hc : c ∈ s.children) (ht : t ∈ c.preorder) :
    t ≠ s := by
  rintro rfl
  exact absurd (length_path_lt hc ht) (Nat.lt_irrefl _)

/-- A path leads through one child only. -/
theorem child_eq_of_isPrefix {s c d : Site} {path : List Nat} (hc : c ∈ s.children)
    (hd : d ∈ s.children) (hcp : c.path <+: path) (hdp : d.path <+: path) : c = d := by
  obtain ⟨i, _, rfl⟩ := mem_children.mp hc
  obtain ⟨j, _, rfl⟩ := mem_children.mp hd
  -- both paths are beginnings of one path, and of the same length
  have h : s.path ++ [i] = s.path ++ [j] :=
    (List.prefix_of_prefix_length_le hcp hdp (by simp)).eq_of_length (by simp)
  obtain rfl : i = j := by simpa using h
  rfl

/-- The path of a site tells below which child it stands. -/
private theorem child_eq_of_path_eq {s c d t u : Site} (hc : c ∈ s.children)
    (hd : d ∈ s.children) (ht : t ∈ c.preorder) (hu : u ∈ d.preorder) (path : t.path = u.path) :
    c = d :=
  child_eq_of_isPrefix hc hd (path_isPrefix_of_mem ht) (path ▸ path_isPrefix_of_mem hu)

/-- The trees of two children have no site in common. -/
theorem child_unique {s c d t : Site} (hc : c ∈ s.children) (hd : d ∈ s.children)
    (htc : t ∈ c.preorder) (htd : t ∈ d.preorder) : c = d :=
  child_eq_of_path_eq hc hd htc htd rfl

/-- The paths of a tree lead to one site each. -/
theorem eq_of_path_eq {s t u : Site} (ht : t ∈ s.preorder) (hu : u ∈ s.preorder)
    (path : t.path = u.path) : t = u := by
  induction s using induction with
  | step s ih =>
    obtain rfl | ⟨c, hc, htc⟩ := mem_preorder.mp ht
    · obtain rfl | ⟨d, hd, hud⟩ := mem_preorder.mp hu
      · rfl
      · exact absurd (path ▸ length_path_lt hd hud) (Nat.lt_irrefl _)
    · obtain rfl | ⟨d, hd, hud⟩ := mem_preorder.mp hu
      · exact absurd (path ▸ length_path_lt hc htc) (Nat.lt_irrefl _)
      · obtain rfl := child_eq_of_path_eq hc hd htc hud path
        exact ih c hc htc hud

/-- Two sites of one tree are one node exactly if they are equal. -/
theorem same_iff_eq {s t u : Site} (ht : t ∈ s.preorder) (hu : u ∈ s.preorder) :
    t.same u = true ↔ t = u := by
  rw [same, tree_of_mem_preorder ht, tree_of_mem_preorder hu, beq_self_eq_true, Bool.true_and,
    beq_iff_eq]
  exact ⟨eq_of_path_eq ht hu, congrArg Site.path⟩

/-- No site is listed twice. -/
theorem nodup_preorder (s : Site) : s.preorder.Nodup := by
  induction s using induction with
  | step s ih =>
    rw [preorder_eq, List.nodup_cons, List.nodup_flatMap]
    -- a site can come again neither in its own tree nor in that of a sibling
    refine ⟨?_, ih, (nodup_children s).pairwise_of_forall_ne ?_⟩
    · intro h
      obtain ⟨c, hc, hs⟩ := List.mem_flatMap.mp h
      exact ne_of_mem_preorder_child hc hs rfl
    · intro c hc d hd hne t htc htd
      exact hne (child_unique hc hd htc htd)

end Adoc.Site
