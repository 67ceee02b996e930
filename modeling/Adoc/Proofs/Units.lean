import Adoc.Proofs.CheckableText
import Adoc.Proofs.Leaves
import Adoc.Strategy
import Mathlib.Data.List.Pairwise

/-! # Which unit checks a leaf

Units of text lie within each other, and the markup strategy leaves what lies in an inner unit to
that unit. So a leaf belongs to the nearest unit around it or to none.

* `unitOf?_eq_some_iff`             what it is to be the nearest unit around a leaf
* `mem_contextRoots_leaves_iff`     when a context root reaches a leaf
* `nodup_flatMap_leaves`            no leaf is reached twice -/

namespace Adoc

namespace Site

/-- The nearest node around `leaf` in a tree, `leaf` itself included, whose kind makes it a unit of
text. -/
def unitOf? (tree leaf : Site) : Option Site :=
  (tree.routeTo leaf).reverse.find? fun n => n.node.kind ∈ KindSet.checkRoots

variable {tree leaf unit : Site}

/-- The nearest unit around a leaf is a unit, with no other unit on the route to the leaf. -/
theorem unitOf?_eq_some_iff :
    tree.unitOf? leaf = some unit ↔ unit ∈ tree.routeTo leaf ∧
      unit.node.kind ∈ KindSet.checkRoots ∧
      ∀ n ∈ (unit.routeTo leaf).tail, n.node.kind ∉ KindSet.checkRoots := by
  have split (hu : unit ∈ tree.routeTo leaf) :
      (tree.routeTo leaf).reverse =
        (unit.routeTo leaf).tail.reverse ++ (tree.routeTo unit).reverse := by
    obtain ⟨hu, hl⟩ := mem_routeTo.mp hu
    rw [routeTo_append hu hl, List.reverse_append]
  constructor
  · intro found
    have hu : unit ∈ tree.routeTo leaf := List.mem_reverse.mp (List.mem_of_find?_eq_some found)
    have kind := List.find?_some found
    refine ⟨hu, of_decide_eq_true kind, ?_⟩
    intro n hn root
    -- a unit further down would have been found first, and is another node
    have inner : ((unit.routeTo leaf).tail.reverse.find?
        fun n => n.node.kind ∈ KindSet.checkRoots).isSome = true := by
      rw [List.find?_isSome]
      exact ⟨n, List.mem_reverse.mpr hn, decide_eq_true root⟩
    obtain ⟨m, hm⟩ := Option.isSome_iff_exists.mp inner
    rw [unitOf?, split hu, List.find?_append, hm, Option.some_or, Option.some.injEq] at found
    have below := List.mem_reverse.mp (List.mem_of_find?_eq_some hm)
    exact ((mem_tail_routeTo (mem_routeTo.mp hu).2).mp below).2 found
  · intro h
    obtain ⟨hu, root, inner⟩ := h
    have none : (unit.routeTo leaf).tail.reverse.find?
        (fun n => n.node.kind ∈ KindSet.checkRoots) = none := by
      simpa [List.find?_eq_none] using inner
    rw [unitOf?, split hu, List.find?_append, none, Option.none_or,
      routeTo_eq_append (mem_routeTo.mp hu).1, List.reverse_append, List.reverse_singleton,
      List.singleton_append]
    exact List.find?_cons_of_pos (decide_eq_true root)

end Site

/-! ## The kinds of units -/

namespace Kind

/-- Units are of kinds of text. -/
theorem mem_textKinds_of_mem_checkRoots {k : Kind} (h : k ∈ KindSet.checkRoots) :
    k ∈ KindSet.textKinds :=
  KindSet.mem_union.mpr (.inr h)

/-- Of the comments, those that are text are units. -/
theorem mem_checkRoots_of_isComment {k : Kind} (comment : k.isComment = true)
    (text : k ∈ KindSet.textKinds) : k ∈ KindSet.checkRoots := by
  cases k <;> first | exact absurd comment (by decide) | decide | exact absurd text (by decide)

/-- A comment of which no more is known is of no kind of text. -/
theorem comment_not_mem_textKinds : comment ∉ KindSet.textKinds := by decide

end Kind

/-! ## What the markup strategy reaches -/

namespace Strategy

variable {settings : GrammarSettings} {tree root leaf n : Site}

/-- The context roots of the markup strategy are the units, but among the comments all or none of
them. -/
theorem mem_contextRoots_markup :
    root ∈ (markup settings).contextRoots tree ↔ root ∈ tree.preorder ∧
      if root.node.kind.isComment then settings.checkComments = true
      else root.node.kind ∈ KindSet.checkRoots := by
  rw [contextRoots, List.mem_filter, Site.descendants_eq_preorder, markup]
  cases comment : root.node.kind.isComment <;> simp [comment]

/-- A node below a unit is text to it if it is of a kind of text and no unit of its own. -/
theorem behavior_markup_eq_text (hn : n ∈ root.preorder) :
    (markup settings).behavior root n = .text ↔
      n.node.kind ∈ KindSet.textKinds ∧ (n = root ∨ n.node.kind ∉ KindSet.checkRoots) := by
  have same : root.same n = true ↔ n = root :=
    (Site.same_iff_eq (Site.mem_preorder_self root) hn).trans eq_comm
  simp only [markup, same]
  -- the strategy asks three questions of a node
  by_cases unit : n.node.kind ∈ KindSet.checkRoots <;>
    by_cases text : n.node.kind ∈ KindSet.textKinds <;> by_cases top : n = root <;>
      simp [unit, text, top]

/-- A root reaches a leaf of its tree if the root is of a kind of text, and the nodes on the way
from there down to the leaf are of kinds of text and no units. -/
theorem mem_leaves_markup :
    leaf ∈ (markup settings).leaves root ↔ leaf ∈ root.leaves ∧
      root.node.kind ∈ KindSet.textKinds ∧ ∀ n ∈ (root.routeTo leaf).tail,
        n.node.kind ∈ KindSet.textKinds ∧ n.node.kind ∉ KindSet.checkRoots := by
  rw [mem_leaves]
  apply and_congr_right
  intro hl
  have hl : leaf ∈ root.preorder := (Site.mem_leaves.mp hl).1
  -- the root itself may be a unit, the sites behind it may not
  rw [Site.routeTo_eq_cons hl, List.forall_mem_cons, List.tail_cons,
    behavior_markup_eq_text (Site.mem_preorder_self root), eq_self, true_or, and_true]
  apply and_congr_right
  intro _
  apply forall₂_congr
  intro n hn
  obtain ⟨route, other⟩ := (Site.mem_tail_routeTo hl).mp hn
  rw [behavior_markup_eq_text (Site.mem_routeTo.mp route).1, or_iff_right other]

/-- Of the context roots of a tree, the one that reaches a leaf is the nearest unit around it, if
what lies between them is of kinds of text, and unless it is a comment that is not checked. -/
theorem mem_contextRoots_leaves_iff (hl : leaf ∈ tree.leaves) :
    root ∈ (markup settings).contextRoots tree ∧ leaf ∈ (markup settings).leaves root ↔
      tree.unitOf? leaf = some root ∧
        (∀ n ∈ (root.routeTo leaf).tail, n.node.kind ∈ KindSet.textKinds) ∧
        (root.node.kind.isComment = true → settings.checkComments = true) := by
  rw [mem_contextRoots_markup, mem_leaves_markup, Site.unitOf?_eq_some_iff, Site.mem_routeTo]
  constructor
  · intro h
    obtain ⟨⟨hr, root⟩, hlr, text, inner⟩ := h
    refine ⟨⟨⟨hr, (Site.mem_leaves.mp hlr).1⟩, ?_, fun n hn => (inner n hn).2⟩,
      fun n hn => (inner n hn).1, ?_⟩
    -- a comment is a context root whatever its kind, but without a text if it is no unit
    · split at root
      · exact Kind.mem_checkRoots_of_isComment ‹_› text
      · exact root
    · intro comment
      rwa [if_pos comment] at root
  · intro h
    obtain ⟨⟨⟨hr, hlr⟩, unit, inner⟩, text, checked⟩ := h
    refine ⟨⟨hr, ?_⟩, Site.mem_leaves.mpr ⟨hlr, (Site.mem_leaves.mp hl).2⟩,
      Kind.mem_textKinds_of_mem_checkRoots unit, fun n hn => ⟨text n hn, inner n hn⟩⟩
    split
    · exact checked ‹_›
    · exact unit

/-- A leaf is reached from one context root only. -/
theorem contextRoot_unique {root' : Site} (hl : leaf ∈ tree.leaves)
    (hr : root ∈ (markup settings).contextRoots tree) (hlr : leaf ∈ (markup settings).leaves root)
    (hr' : root' ∈ (markup settings).contextRoots tree)
    (hlr' : leaf ∈ (markup settings).leaves root') : root = root' := by
  have nearest := ((mem_contextRoots_leaves_iff hl).mp ⟨hr, hlr⟩).1
  have nearest' := ((mem_contextRoots_leaves_iff hl).mp ⟨hr', hlr'⟩).1
  exact Option.some.inj (nearest.symm.trans nearest')

/-- What a context root reaches are leaves of the tree. -/
theorem leaves_subset_of_mem_contextRoots {s : Strategy} (hr : root ∈ s.contextRoots tree) :
    s.leaves root ⊆ tree.leaves := by
  intro leaf hl
  rw [contextRoots, List.mem_filter, Site.descendants_eq_preorder] at hr
  obtain ⟨hlr, leaf⟩ := Site.mem_leaves.mp ((leaves_sublist s root).subset hl)
  exact Site.mem_leaves.mpr ⟨Site.mem_preorder_trans hr.1 hlr, leaf⟩

/-- All context roots of a tree together reach no leaf twice. -/
theorem nodup_flatMap_leaves (settings : GrammarSettings) (tree : Site) :
    (((markup settings).contextRoots tree).flatMap (markup settings).leaves).Nodup := by
  rw [List.nodup_flatMap]
  constructor
  · intro root _
    exact ((Site.nodup_preorder root).filter _).sublist (leaves_sublist _ root)
  -- two context roots that are not the same share no leaf
  · have roots : ((markup settings).contextRoots tree).Nodup := by
      rw [contextRoots, Site.descendants_eq_preorder]
      exact (Site.nodup_preorder tree).filter _
    apply roots.pairwise_of_forall_ne
    intro root hr root' hr' hne leaf hl hl'
    exact hne (contextRoot_unique (leaves_subset_of_mem_contextRoots hr hl) hr hl hr' hl')

/-! ## The texts of all units -/

/-- The units of a tree, each with its text. -/
def results (s : Strategy) (tree : Site) : List (Site × CheckableText) :=
  (s.contextRoots tree).map fun root => (root, .extract s root)

/-- The text of a unit does not depend on the settings. -/
theorem extract_markup_eq (settings settings' : GrammarSettings) (root : Site) :
    CheckableText.extract (markup settings) root = .extract (markup settings') root := by
  have leaves : (markup settings).leaves root = (markup settings').leaves root := leaves_congr rfl
  rw [CheckableText.extract_eq, CheckableText.extract_eq, leaves]
  rfl

/-- Without the checking of comments the units are those that are no comments. -/
theorem results_uncheckedComments (settings : GrammarSettings) (tree : Site) :
    (markup { settings with checkComments := false }).results tree =
      ((markup { settings with checkComments := true }).results tree).filter
        fun r => !r.1.node.kind.isComment := by
  rw [results, results, contextRoots, contextRoots, List.filter_map, List.filter_filter]
  -- the setting is looked at for comments alone
  have roots (n : Site) : (markup { settings with checkComments := false }).isContextRoot n =
      (!n.node.kind.isComment &&
        (markup { settings with checkComments := true }).isContextRoot n) := by
    cases comment : n.node.kind.isComment <;> simp [markup, comment]
  rw [funext roots]
  apply List.map_congr_left
  intro root _
  rw [extract_markup_eq]

/-- A comment of which no more is known has no text. -/
theorem extract_comment (settings : GrammarSettings) (h : root.node.kind = .comment) :
    (CheckableText.extract (markup settings) root).glyphs = [] := by
  have none : (markup settings).leaves root = [] := by
    rw [List.eq_nil_iff_forall_not_mem]
    intro leaf hl
    exact Kind.comment_not_mem_textKinds (h ▸ (mem_leaves_markup.mp hl).2.1)
  rw [CheckableText.glyphs_extract, none, List.flatMap_nil]

/-- All that is checked in a tree comes from the leaves that its context roots reach. -/
theorem flatMap_glyphs_results (settings : GrammarSettings) (tree : Site) :
    ((markup settings).results tree).flatMap (·.2.glyphs) =
      (((markup settings).contextRoots tree).flatMap (markup settings).leaves).flatMap
        (CheckableText.leafGlyphs (markup settings) []) := by
  rw [results, List.flatMap_map, List.flatMap_assoc]
  exact List.flatMap_congr fun root _ => CheckableText.glyphs_extract (markup settings) root

/-- If no two leaves of a tree take the same byte, no byte is checked twice. -/
theorem pairwise_disjoint_glyphs (settings : GrammarSettings) (tree : Site)
    (apart : tree.leaves.Pairwise fun a b => a.node.textSpan.Disjoint b.node.textSpan) :
    (((markup settings).results tree).flatMap (·.2.glyphs)).Pairwise
      fun g h => g.source.Disjoint h.source := by
  have : Std.Symm fun a b : Site => a.node.textSpan.Disjoint b.node.textSpan :=
    ⟨fun _ _ h => h.symm⟩
  have subset : ∀ leaf ∈ ((markup settings).contextRoots tree).flatMap (markup settings).leaves,
      leaf ∈ tree.leaves := by
    intro leaf hl
    obtain ⟨root, hr, hl⟩ := List.mem_flatMap.mp hl
    exact leaves_subset_of_mem_contextRoots hr hl
  rw [flatMap_glyphs_results, List.pairwise_flatMap]
  constructor
  · intro leaf _
    exact (CheckableText.pairwise_leafGlyphs ..).imp Span.Before.disjoint
  · apply (nodup_flatMap_leaves settings tree).pairwise_of_forall_ne
    intro a ha b hb hne g hg h hh
    -- two leaves that are reached are different, and their glyphs stay within them
    have hg := CheckableText.bounds_of_mem_leafGlyphs hg
    have hh := CheckableText.bounds_of_mem_leafGlyphs hh
    -- spans within disjoint ones are disjoint
    have disjoint := apart.forall (subset a ha) (subset b hb) hne
    exact disjoint.mono ⟨hg.1, hg.2.2⟩ ⟨hh.1, hh.2.2⟩

/-- Every leaf of a tree is checked at most once, and exactly when it should be: by the nearest unit
around it, provided that all nodes from below the unit down to the leaf are of kinds of text, and
that the unit is no comment or comments are checked. Hence a comment of which no more is known has
no text, the setting for comments decides about the texts of comments only, and a document whose
leaves take different bytes has no byte checked twice. -/
theorem leaves_checked_once_by_nearest_unit (settings : GrammarSettings) (tree : Site) :
    (∀ leaf ∈ tree.leaves,
      (∀ root ∈ (markup settings).contextRoots tree,
        ∀ root' ∈ (markup settings).contextRoots tree,
          leaf ∈ (markup settings).leaves root → leaf ∈ (markup settings).leaves root' →
            root = root') ∧
      ((∃ root ∈ (markup settings).contextRoots tree, leaf ∈ (markup settings).leaves root) ↔
        ∃ unit, tree.unitOf? leaf = some unit ∧
          (∀ n ∈ (unit.routeTo leaf).tail, n.node.kind ∈ KindSet.textKinds) ∧
          (unit.node.kind.isComment = true → settings.checkComments = true)) ∧
      ∀ root ∈ (markup settings).contextRoots tree, leaf ∈ (markup settings).leaves root →
        tree.unitOf? leaf = some root) ∧
    (((markup settings).contextRoots tree).flatMap (markup settings).leaves).Nodup ∧
    (∀ root ∈ (markup settings).contextRoots tree, root.node.kind = .comment →
      (CheckableText.extract (markup settings) root).text = "") ∧
    (markup { settings with checkComments := false }).results tree =
      ((markup { settings with checkComments := true }).results tree).filter
        (fun r => !r.1.node.kind.isComment) ∧
    ((tree.leaves.Pairwise fun a b => a.node.textSpan.Disjoint b.node.textSpan) →
      (((markup settings).results tree).flatMap (·.2.glyphs)).Pairwise
        fun g h => g.source.Disjoint h.source) := by
  refine ⟨?leaf, nodup_flatMap_leaves settings tree, ?comment,
    results_uncheckedComments settings tree, pairwise_disjoint_glyphs settings tree⟩
  case leaf =>
    intro leaf hl
    refine ⟨?_, ?_, ?_⟩
    · intro root hr root' hr' hlr hlr'
      exact contextRoot_unique hl hr hlr hr' hlr'
    · exact exists_congr fun root => mem_contextRoots_leaves_iff hl
    · intro root hr hlr
      exact ((mem_contextRoots_leaves_iff hl).mp ⟨hr, hlr⟩).1
  case comment =>
    intro root _ kind
    have inStep := CheckableText.inStep_extract (markup settings) root
    rw [← String.toList_inj, ← CheckableText.map_char_glyphs inStep, extract_comment settings kind]
    rfl

/-- A section with a heading and a block, which holds a text and a comment. -/
private def commentedSection : Site :=
  .root (.ofChildren .section [.token .heading 0 "= A",
    .ofChildren .block [.token .text 4 "b", .token .lineComment 5 "// c"]])

/-- The text in the section's block. -/
private def word : Site := ⟨0, [1, 0], .token .text 4 "b"⟩

/-- In a section with a comment in it, the text is checked as part of the block around it, and no
byte is checked twice. -/
theorem commentedSection_checked_once :
    commentedSection.unitOf? word = commentedSection.children[1]? ∧
    (∃ root ∈ (markup {}).contextRoots commentedSection, word ∈ (markup {}).leaves root) ∧
    (commentedSection.leaves.Pairwise fun a b => a.node.textSpan.Disjoint b.node.textSpan) ∧
    (((markup {}).results commentedSection).flatMap (·.2.glyphs)).Pairwise
      fun g h => g.source.Disjoint h.source := by
  have once := leaves_checked_once_by_nearest_unit {} commentedSection
  have leaf : word ∈ commentedSection.leaves := by decide
  have unit : commentedSection.unitOf? word = commentedSection.children[1]? := by decide
  have reached := (once.1 word leaf).2.1.mpr ⟨_, unit, by decide, by decide⟩
  have order : commentedSection.leaves.Pairwise
      fun a b => a.node.textSpan.Before b.node.textSpan := by decide
  have apart := order.imp Span.Before.disjoint
  exact ⟨unit, reached, apart, once.2.2.2.2 apart⟩

end Strategy

end Adoc
