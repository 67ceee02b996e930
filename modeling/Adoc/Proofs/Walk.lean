import Adoc.Proofs.Glyphs
import Adoc.Proofs.Preorder
import Adoc.Strategy

/-! # Walking through a document

A walk takes the site on top of a stack and pushes its children, step by step until the stack is
empty. What is on the stack is the forest that is still to be visited: each step takes the first
site of its preorder, so that a walk ends after as many steps as there are nodes. Where the spans of
a tree follow the document, so does the walk.

* `visits_eq`               the first steps of a walk take the first sites of the preorder
* `mem_preorder_iff`        the sites of a tree are those that paths lead to
* `pairwise_path_preorder`  the paths of a tree come in lexicographic order
* `pairwise_span_preorder`  what comes later lies inside or behind -/

namespace Adoc

namespace Site

/-! ## Step by step -/

/-- One step of a walk: take the site on top of the stack and push its children, the last first. -/
def visit? : (stack : List Site) → Option (Site × List Site)
  | [] => none
  | s :: stack => some (s, s.children.reverse.foldl (fun stack c => c :: stack) stack)

/-- What the first `n` steps from a stack take, and the stack that they leave. There is no step from
the empty stack. -/
def visits : (n : Nat) → (stack : List Site) → List Site × List Site
  | 0, stack => ([], stack)
  | n + 1, stack =>
    match visit? stack with
    | none => ([], [])
    | some (s, rest) => (s :: (visits n rest).1, (visits n rest).2)

/-- A step takes the top of the stack, and its children come in their order in front of the others.
-/
@[simp]
theorem visit?_cons (s : Site) (stack : List Site) :
    visit? (s :: stack) = some (s, s.children ++ stack) := by
  rw [visit?, List.foldl_flip_cons_eq_append', List.reverse_reverse]

/-- A step takes the first site of the forest on the stack and leaves the others. -/
theorem flatMap_preorder_of_visit? {s : Site} {stack rest : List Site}
    (h : visit? stack = some (s, rest)) :
    stack.flatMap preorder = s :: rest.flatMap preorder := by
  cases stack with
  | nil => exact nomatch h
  | cons t stack =>
    rw [visit?_cons, Option.some.injEq, Prod.mk.injEq] at h
    obtain ⟨rfl, rfl⟩ := h
    rw [List.flatMap_cons, List.flatMap_append, preorder_eq t, List.cons_append]

/-- The first steps take the first sites of the forest on the stack and leave the others. -/
theorem visits_eq (n : Nat) (stack : List Site) :
    (visits n stack).1 = (stack.flatMap preorder).take n ∧
      (visits n stack).2.flatMap preorder = (stack.flatMap preorder).drop n := by
  induction n generalizing stack with
  | zero => exact ⟨rfl, rfl⟩
  | succ n ih =>
    rw [visits]
    cases h : visit? stack with
    | none =>
      cases stack with
      | nil => exact ⟨rfl, rfl⟩
      | cons s stack =>
        rw [visit?_cons] at h
        exact nomatch h
    | some step =>
      obtain ⟨s, rest⟩ := step
      -- a step takes the first site, and the steps behind it take from the others
      rw [flatMap_preorder_of_visit? h, List.take_succ_cons, List.drop_succ_cons]
      exact ⟨congrArg (s :: ·) (ih rest).1, (ih rest).2⟩

/-- A walk takes as many steps as there are nodes in the forest on its stack. -/
theorem length_walk (stack : List Site) : (walk stack).length = pending stack := by
  fun_induction walk stack with
  | case1 => rfl
  | case2 s stack ih =>
    rw [List.length_cons, ih, pending_append, pending_cons, children, pending_childrenFrom,
      Node.size_eq]
    omega

/-- A tree is as long to walk through as it has nodes. -/
theorem length_preorder (s : Site) : s.preorder.length = s.node.size := by
  rw [← descendants_eq_preorder]
  exact length_walk [s]

/-- The stack is empty once there were as many steps as there are nodes, and not before. -/
theorem visits_eq_nil_iff {n : Nat} {s : Site} : (visits n [s]).2 = [] ↔ s.node.size ≤ n := by
  -- the stack holds what is left of the preorder
  have left := (visits_eq n [s]).2
  rw [List.flatMap_singleton] at left
  constructor
  · intro h
    rw [h, List.flatMap_nil] at left
    rw [← length_preorder]
    exact List.drop_eq_nil_iff.mp left.symm
  · intro h
    rw [List.drop_eq_nil_iff.mpr (length_preorder s ▸ h), List.flatMap_eq_nil_iff] at left
    rw [List.eq_nil_iff_forall_not_mem]
    intro t ht
    -- a site on the stack would still have its own tree to give
    exact absurd (left t ht) (List.ne_nil_of_mem (mem_preorder_self t))

/-! ## Paths -/

/-- The sites of a tree are those that paths lead to. -/
theorem mem_preorder_iff {s t : Site} : t ∈ s.preorder ↔ ∃ path, s.descend? path = some t := by
  constructor
  · intro h
    induction s using induction with
    | step s ih =>
      obtain rfl | ⟨c, hc, ht⟩ := mem_preorder.mp h
      · exact ⟨[], rfl⟩
      -- the path to a site further down begins with the number of the child
      · obtain ⟨i, hi⟩ := List.getElem?_of_mem hc
        obtain ⟨path, below⟩ := ih c hc ht
        exact ⟨i :: path, by rw [descend?, hi, Option.bind_some, below]⟩
  · rintro ⟨path, h⟩
    induction path generalizing s with
    | nil =>
      obtain rfl := Option.some.inj h
      exact mem_preorder_self s
    | cons i path ih =>
      obtain ⟨c, hc, below⟩ := Option.bind_eq_some_iff.mp h
      exact mem_preorder_of_mem_children (List.mem_of_getElem? hc) (ih below)

/-- The path of a site in a tree goes on from that of the tree. -/
theorem path_of_descend? {s t : Site} {path : List Nat} (h : s.descend? path = some t) :
    t.path = s.path ++ path := by
  induction path generalizing s with
  | nil =>
    obtain rfl := Option.some.inj h
    rw [List.append_nil]
  | cons i path ih =>
    obtain ⟨c, hc, below⟩ := Option.bind_eq_some_iff.mp h
    rw [ih below, path_of_getElem?_children hc, List.append_assoc, List.singleton_append]

/-- All sites below a child come before all sites below a later one. -/
theorem pairwise_children_path (s : Site) :
    s.children.Pairwise fun c d => ∀ t ∈ c.preorder, ∀ u ∈ d.preorder, t.path < u.path := by
  rw [List.pairwise_iff_getElem]
  intro i j hi hj lt t ht u hu
  obtain ⟨front, path⟩ := path_isPrefix_of_mem ht
  obtain ⟨back, path'⟩ := path_isPrefix_of_mem hu
  rw [← path, ← path', path_of_getElem?_children (List.getElem?_eq_getElem hi),
    path_of_getElem?_children (List.getElem?_eq_getElem hj), List.append_assoc, List.append_assoc]
  -- the paths part at the numbers of the children
  exact List.append_left_lt (List.cons_lt_cons_iff.mpr (.inl lt))

/-- The sites of a tree come in the lexicographic order of their paths. -/
theorem pairwise_path_preorder (s : Site) : s.preorder.Pairwise fun t u => t.path < u.path := by
  induction s using induction with
  | step s ih =>
    rw [preorder_eq, List.pairwise_cons, List.pairwise_flatMap]
    refine ⟨?_, ih, pairwise_children_path s⟩
    intro t ht
    obtain ⟨c, hc, htc⟩ := List.mem_flatMap.mp ht
    obtain ⟨i, _, rfl⟩ := mem_children.mp hc
    obtain ⟨rest, path⟩ := path_isPrefix_of_mem htc
    -- the path of a node is in front of those of the nodes below it
    have longer : s.path ++ [] < s.path ++ i :: rest :=
      List.append_left_lt (List.nil_lt_cons i rest)
    rwa [List.append_nil, ← List.singleton_append, ← List.append_assoc, path] at longer

/-- A site comes before those that lie below it. -/
theorem pair_sublist_preorder {s t u : Site} (ht : t ∈ s.preorder) (hu : u ∈ t.preorder)
    (ne : u ≠ t) : [t, u].Sublist s.preorder := by
  -- in the tree of `t` the site itself comes first
  have below : [t, u].Sublist t.preorder := by
    rw [preorder_eq] at hu ⊢
    exact (List.singleton_sublist.mpr (List.mem_of_ne_of_mem ne hu)).cons_cons t
  exact below.trans (preorder_isInfix_of_mem ht).sublist

end Site

/-! ## Spans -/

/-- Does `t` lie inside `s`? -/
def Span.Within (t s : Span) : Prop := s.start ≤ t.start ∧ t.stop ≤ s.stop

/-- A span lies inside itself. -/
theorem Span.Within.refl (s : Span) : s.Within s := ⟨Nat.le_refl _, Nat.le_refl _⟩

/-- What lies inside a span that lies inside another lies inside that. -/
theorem Span.Within.trans {s t u : Span} (h : u.Within t) (h' : t.Within s) : u.Within s :=
  ⟨Nat.le_trans h'.1 h.1, Nat.le_trans h.2 h'.2⟩

instance (t s : Span) : Decidable (t.Within s) := inferInstanceAs (Decidable (_ ∧ _))

namespace Site

/-- Do the spans of a tree follow the document? Each child lies inside its parent, and starts
where its neighbour in front ends, or behind. -/
structure FollowsDocument (tree : Site) : Prop where
  nested : ∀ s ∈ tree.preorder, ∀ c ∈ s.children, c.node.span.Within s.node.span
  siblings : ∀ s ∈ tree.preorder, s.children.IsChain fun c d => c.node.span.Before d.node.span

/-- The tree of a child follows the document as the whole does. -/
theorem FollowsDocument.of_mem_children {s c : Site} (h : s.FollowsDocument)
    (hc : c ∈ s.children) : c.FollowsDocument where
  nested t ht := h.nested t (mem_preorder_of_mem_children hc ht)
  siblings t ht := h.siblings t (mem_preorder_of_mem_children hc ht)

/-- All nodes of a tree lie inside its root. -/
theorem FollowsDocument.within {s t : Site} (h : s.FollowsDocument) (ht : t ∈ s.preorder) :
    t.node.span.Within s.node.span := by
  induction s using induction with
  | step s ih =>
    obtain rfl | ⟨c, hc, htc⟩ := mem_preorder.mp ht
    · exact .refl _
    · exact (ih c hc (h.of_mem_children hc) htc).trans (h.nested s (mem_preorder_self s) c hc)

/-- Each of a site's children ends before all that come after it. -/
theorem FollowsDocument.pairwise_children {s : Site} (h : s.FollowsDocument) :
    s.children.Pairwise fun c d => c.node.span.Before d.node.span := by
  have : Trans (fun c d : Site => c.node.span.Before d.node.span)
      (fun c d : Site => c.node.span.Before d.node.span)
      (fun c d : Site => c.node.span.Before d.node.span) := ⟨fun {a b c} ab bc => by
    simp only [Span.Before, Span.stop] at ab bc ⊢
    omega⟩
  exact (h.siblings s (mem_preorder_self s)).pairwise

/-- Of two nodes the later one lies inside the other, below it, or behind it. -/
theorem FollowsDocument.pairwise_span_preorder {s : Site} (h : s.FollowsDocument) :
    s.preorder.Pairwise fun t u =>
      u ∈ t.preorder ∧ u.node.span.Within t.node.span ∨ t.node.span.Before u.node.span := by
  induction s using induction with
  | step s ih =>
    rw [preorder_eq, List.pairwise_cons, List.pairwise_flatMap]
    refine ⟨?below, fun c hc => ih c hc (h.of_mem_children hc), ?apart⟩
    case below =>
      intro t ht
      have hts : t ∈ s.preorder := by
        rw [preorder_eq]
        exact List.mem_cons_of_mem s ht
      exact .inl ⟨hts, h.within hts⟩
    case apart =>
      -- two sites are in the trees of two children, or below one and the same
      refine h.pairwise_children.imp_of_mem ?_
      intro c d hc hd before t ht u hu
      -- what is in the first child ends before the second starts, and so before what is in that
      have inside := (h.of_mem_children hc).within ht
      have inside' := (h.of_mem_children hd).within hu
      exact .inr (Nat.le_trans inside.2 (Nat.le_trans before inside'.1))

/-- The sites of a tree come in the order in which they start. -/
theorem FollowsDocument.pairwise_start_preorder {s : Site} (h : s.FollowsDocument) :
    s.preorder.Pairwise fun t u => t.node.span.start ≤ u.node.span.start := by
  refine h.pairwise_span_preorder.imp ?_
  rintro t u (⟨-, inside⟩ | behind)
  · exact inside.1
  · exact Nat.le_trans (Nat.le_add_right ..) behind

/-- A walk with a stack lists the sites of a tree in preorder: first the top, then the trees of its
children from left to right. It takes as many steps as there are nodes and visits each place once,
the tree of each site in one block and the paths in lexicographic order. So the units of text are
the sites of the preorder that are units, in their order, each once; and where the spans of the tree
follow the document, so do they: none starts before the one in front of it, each comes before those
that lie below it, and of any two the later one is inside the other or behind it. -/
theorem walked_in_document_order :
    (∀ s : Site,
      s.descendants = s.preorder ∧ s.preorder = s :: s.children.flatMap preorder ∧
      (∀ n, (visits n [s]).1 = s.descendants.take n ∧
        ((visits n [s]).2 = [] ↔ s.node.size ≤ n)) ∧
      s.descendants.Nodup ∧
      (∀ t, t ∈ s.descendants ↔ ∃ path, s.descend? path = some t ∧ t.path = s.path ++ path) ∧
      (∀ t ∈ s.descendants, t.descendants <:+: s.descendants) ∧
      s.descendants.Pairwise fun t u => t.path < u.path) ∧
    ∀ (strategy : Strategy) (tree : Site),
      let roots := strategy.contextRoots tree
      roots = tree.preorder.filter strategy.isContextRoot ∧ roots.Nodup ∧
      (tree.FollowsDocument →
        (roots.Pairwise fun r q => r.node.span.start ≤ q.node.span.start) ∧
        (∀ r ∈ roots, ∀ q ∈ roots, q ∈ r.descendants → q ≠ r → [r, q].Sublist roots) ∧
        roots.Pairwise fun r q =>
          q ∈ r.descendants ∧ q.node.span.Within r.node.span ∨
            r.node.span.Before q.node.span) := by
  constructor
  · intro s
    simp only [descendants_eq_preorder]
    refine ⟨trivial, preorder_eq s, ?steps, nodup_preorder s, ?places,
      fun t ht => preorder_isInfix_of_mem ht, pairwise_path_preorder s⟩
    case steps =>
      intro n
      have taken := (visits_eq n [s]).1
      rw [List.flatMap_singleton] at taken
      exact ⟨taken, visits_eq_nil_iff⟩
    case places =>
      intro t
      rw [mem_preorder_iff]
      exact exists_congr fun path => (and_iff_left_of_imp path_of_descend?).symm
  · intro strategy tree roots
    have selected : roots = tree.preorder.filter strategy.isContextRoot :=
      congrArg (List.filter strategy.isContextRoot) (descendants_eq_preorder tree)
    simp only [descendants_eq_preorder]
    refine ⟨selected, ?_, fun h => ?_⟩
    · rw [selected]
      exact (nodup_preorder tree).filter _
    · rw [selected]
      refine ⟨h.pairwise_start_preorder.filter _, ?_, h.pairwise_span_preorder.filter _⟩
      intro r hr q hq below ne
      obtain ⟨hr, root⟩ := List.mem_filter.mp hr
      obtain ⟨-, root'⟩ := List.mem_filter.mp hq
      -- nothing is lost of the pair when the units are selected
      have pair := (pair_sublist_preorder hr below ne).filter strategy.isContextRoot
      rwa [List.filter_cons_of_pos root, List.filter_cons_of_pos root', List.filter_nil] at pair

/-- A section whose block holds a comment. -/
private def notedSection : Site :=
  .root (.ofChildren .section [.token .heading 0 "= Ä", .token .newline 4 "\n",
    .ofChildren .block [.token .text 5 "b", .token .lineComment 6 "// c"]])

/-- The section is a unit, and so are the heading, the block and the comment in it, which come in
the order in which they start. -/
theorem notedSection_units :
    notedSection.FollowsDocument ∧
    ((Strategy.markup {}).contextRoots notedSection).map (·.path) = [[], [0], [2], [2, 1]] ∧
    ((Strategy.markup {}).contextRoots notedSection).map (·.node.span.start) = [0, 0, 5, 6] ∧
    (((Strategy.markup {}).contextRoots notedSection).Pairwise fun r q =>
      r.node.span.start ≤ q.node.span.start) := by
  have follows : notedSection.FollowsDocument := ⟨by decide, by decide⟩
  have roots : (Strategy.markup {}).contextRoots notedSection =
      notedSection.preorder.filter (Strategy.markup {}).isContextRoot :=
    (walked_in_document_order.2 (.markup {}) notedSection).1
  refine ⟨follows, ?_, ?_, ((walked_in_document_order.2 (.markup {}) notedSection).2.2 follows).1⟩
  · rw [roots]
    decide
  · rw [roots]
    decide

end Site

end Adoc
