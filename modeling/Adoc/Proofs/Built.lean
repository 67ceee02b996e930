import Adoc.Proofs.Leaves
import Mathlib.Data.List.Chain

/-! # Trees of tokens

A composite node looks at its first and its last child only to find its span. If it is built from
tokens that follow each other without a gap, that is enough: the spans of its children tile its own,
and its span and text are those of the tokens, whatever the groups between it and them. All of this
is under the condition that the tokens end at offsets, since no more than that is kept of an end.

* `Built.text_eq`       the text of a built node is that of its leaves
* `Built.span_of_tile`  if the leaves of a built node tile a stretch of the document, so does it
* `Built.exact`         the span of such a node agrees with its tokens, its text and its children -/

namespace Adoc

/-! ## Tilings -/

namespace Span

/-- Two spans with the same start and the same end are the same. -/
theorem eq_of_start_of_stop {s t : Span} (start : s.start = t.start) (stop : s.stop = t.stop) :
    s = t := by
  obtain ⟨_, len⟩ := s
  obtain ⟨_, len'⟩ := t
  -- with the same start, it is the lengths that the ends are made from
  obtain rfl := start
  exact congrArg _ (Nat.add_left_cancel stop)

/-- Do the spans follow each other without a gap, from offset `first` to offset `stop`? -/
def Tile : (first : Nat) → List Span → (stop : Nat) → Prop
  | first, [], stop => first = stop
  | first, s :: ss, stop => s.start = first ∧ Tile s.stop ss stop

/-- Spans in two parts tile a stretch if each part tiles its own piece of it. -/
theorem tile_append {first stop : Nat} {ss ts : List Span} :
    Tile first (ss ++ ts) stop ↔ ∃ middle, Tile first ss middle ∧ Tile middle ts stop := by
  induction ss generalizing first with
  | nil => simp [Tile]
  | cons s ss ih => simp only [List.cons_append, Tile, ih, and_assoc, exists_and_left]

/-- What is tiled does not end before it starts. -/
theorem Tile.le {first stop : Nat} {ss : List Span} (h : Tile first ss stop) : first ≤ stop := by
  induction ss generalizing first with
  | nil => exact Nat.le_of_eq h
  | cons s ss ih =>
    obtain ⟨rfl, rest⟩ := h
    exact Nat.le_trans (Nat.le_add_right ..) (ih rest)

/-- The first of the spans starts where the stretch does. -/
theorem Tile.start_head {first stop : Nat} {ss : List Span} (h : Tile first ss stop) {s : Span}
    (hs : ss.head? = some s) : s.start = first := by
  obtain ⟨ss, rfl⟩ := List.head?_eq_some_iff.mp hs
  exact h.1

/-- The last of them ends where the stretch does. -/
theorem Tile.stop_getLast {first stop : Nat} {ss : List Span} (h : Tile first ss stop) {s : Span}
    (hs : ss.getLast? = some s) : s.stop = stop := by
  obtain ⟨ss, rfl⟩ := List.getLast?_eq_some_iff.mp hs
  obtain ⟨_, _, last⟩ := tile_append.mp h
  exact last.2

/-- Spans of which each begins where the one before ends tile what they cover. -/
theorem exists_tile_of_isChain {ss : List Span} (h : ss.IsChain fun s t => s.stop = t.start)
    (fits : ∀ s ∈ ss, s.stop < offsetLimit) :
    ∃ first stop, stop < offsetLimit ∧ Tile first ss stop := by
  induction ss with
  | nil => exact ⟨0, 0, by decide, rfl⟩
  | cons s ss ih =>
    obtain ⟨here, others⟩ := List.forall_mem_cons.mp fits
    cases ss with
    | nil => exact ⟨s.start, s.stop, here, rfl, rfl⟩
    | cons t ss =>
      -- where the first span ends, the tiling of the others begins
      obtain ⟨meet, rest⟩ := List.isChain_cons_cons.mp h
      obtain ⟨_, stop, fits, ht⟩ := ih rest others
      exact ⟨s.start, stop, fits, rfl, meet.symm, ht.2⟩

end Span

/-! ## Built nodes -/

namespace Node

/-- The nodes that are made from tokens by grouping. -/
inductive Built : Node → Prop where
  | token (kind : Kind) (start : Nat) (text : String) : Built (.token kind start text)
  | ofChildren (kind : Kind) {children : List Node} (h : ∀ c ∈ children, Built c) :
      Built (.ofChildren kind children)

mutual

/-- The leaves of a tree from left to right. -/
def leaves : Node → List Node
  | ⟨kind, span, text, children⟩ =>
    if children.isEmpty then [⟨kind, span, text, children⟩] else leavesAll children

/-- The leaves of all the trees together. -/
def leavesAll : List Node → List Node
  | [] => []
  | c :: cs => c.leaves ++ leavesAll cs

end

/-- The leaves of several trees, without the recursion through the list. -/
private theorem leavesAll_eq (cs : List Node) : leavesAll cs = cs.flatMap leaves := by
  induction cs with
  | nil => rfl
  | cons c cs ih => rw [leavesAll, ih, List.flatMap_cons]

/-- A leaf has itself for its only leaf, any other node has those of its children. -/
theorem leaves_eq (n : Node) :
    n.leaves = if n.isLeaf then [n] else n.children.flatMap leaves := by
  cases n
  rw [leaves, leavesAll_eq]
  rfl

/-- Putting nodes below a composite one leaves them their leaves. -/
theorem leaves_ofChildren (kind : Kind) {children : List Node} (h : children ≠ []) :
    (ofChildren kind children).leaves = children.flatMap leaves := by
  have inner : ¬ (ofChildren kind children).isLeaf = true := by
    simpa [isLeaf, ofChildren] using h
  rw [leaves_eq, if_neg inner]
  rfl

/-- The leaves of a node are those that the walk of its tree visits, in the order of the walk. -/
theorem map_node_leaves (s : Site) : s.leaves.map (·.node) = s.node.leaves := by
  induction s using Site.induction with
  | step s ih =>
    rw [leaves_eq]
    split
    case isTrue leaf => rw [Site.leaves_of_isLeaf leaf, List.map_singleton]
    case isFalse inner =>
      -- the walk takes the children one after the other, as the recursion does
      rw [Site.leaves_of_not_isLeaf inner, List.map_flatMap, List.flatMap_congr ih,
        ← Site.map_node_children, List.flatMap_map]

/-- The children of a built node are built. -/
theorem Built.of_mem_children {n c : Node} (h : n.Built) (hc : c ∈ n.children) : c.Built := by
  cases h with
  | token => exact nomatch hc
  | ofChildren kind h => exact h c hc

/-! ### Texts -/

/-- The texts of lists of nodes may be joined list by list. -/
private theorem join_map_flatMap (cs : List Node) (f : Node → List Node) :
    String.join ((cs.flatMap f).map (·.text)) =
      String.join (cs.map fun c => String.join ((f c).map (·.text))) := by
  induction cs with
  | nil => rfl
  | cons c cs ih =>
    rw [List.flatMap_cons, List.map_append, String.join_append, ih, List.map_cons,
      String.join_cons]

/-- The text of a built node is that of its leaves, joined. -/
theorem Built.text_eq {n : Node} (h : n.Built) : n.text = String.join (n.leaves.map (·.text)) := by
  induction h with
  | token kind start text =>
    show text = String.join [text]
    rw [String.join_cons, String.join_nil, String.append_empty]
  | @ofChildren kind children h ih =>
    by_cases none : children = []
    · subst none
      rfl
    · rw [leaves_ofChildren kind none, join_map_flatMap, Node.ofChildren]
      exact congrArg String.join (List.map_congr_left ih)

/-! ### Spans -/

/-- If the leaves of a tree tile a stretch of a document, and each child does so for its own leaves,
then the children tile the stretch. -/
private theorem tile_children {cs : List Node} {first stop : Nat} (fits : stop < offsetLimit)
    (ih : ∀ c ∈ cs, ∀ first stop, stop < offsetLimit →
      Span.Tile first (c.leaves.map (·.span)) stop → c.span.start = first ∧ c.span.stop = stop)
    (h : Span.Tile first ((cs.flatMap leaves).map (·.span)) stop) :
    Span.Tile first (cs.map (·.span)) stop := by
  induction cs generalizing first with
  | nil => exact h
  | cons c cs rest =>
    rw [List.flatMap_cons, List.map_append, Span.tile_append] at h
    obtain ⟨middle, hc, hcs⟩ := h
    -- the stretch of the first child ends no later than that of all of them
    have within := Nat.lt_of_le_of_lt hcs.le fits
    obtain ⟨start, rfl⟩ := ih c List.mem_cons_self first middle within hc
    exact ⟨start, rest (fun d hd => ih d (List.mem_cons_of_mem c hd)) hcs⟩

/-- Over children that tile a stretch of a document, a composite node covers the stretch. -/
private theorem span_ofChildren (kind : Kind) {children : List Node} (h : children ≠ [])
    {first stop : Nat} (fits : stop < offsetLimit)
    (tile : Span.Tile first (children.map (·.span)) stop) :
    (ofChildren kind children).span = .between first stop := by
  have head := List.head?_eq_some_head h
  have last := List.getLast?_eq_some_getLast h
  have start : (children.head h).span.start = first := tile.start_head (by simp [head])
  have stop : (children.getLast h).span.stop = stop := tile.stop_getLast (by simp [last])
  simp only [ofChildren, head, last, Option.map_some, Option.getD_some, start, stop,
    Nat.mod_eq_of_lt fits]

/-- If the leaves of a built node tile a stretch of the document, that is where the node is. -/
theorem Built.span_of_tile {n : Node} (h : n.Built) {first stop : Nat} (fits : stop < offsetLimit)
    (tile : Span.Tile first (n.leaves.map (·.span)) stop) :
    n.span.start = first ∧ n.span.stop = stop := by
  -- on how the node is built: each child knows of its own leaves where they are
  induction h generalizing first stop with
  | token => exact tile
  | @ofChildren kind children h ih =>
    by_cases none : children = []
    · subst none
      exact tile
    · rw [leaves_ofChildren kind none] at tile
      have children := tile_children fits (fun c hc _ _ => ih c hc) tile
      rw [span_ofChildren kind none fits children]
      exact ⟨rfl, Nat.add_sub_cancel' children.le⟩

/-- Tokens that tile a stretch of the document fill it with their texts. -/
private theorem add_size_of_tile {tokens : List Node} {first stop : Nat}
    (len : ∀ n ∈ tokens, n.span.len = n.text.utf8ByteSize)
    (tile : Span.Tile first (tokens.map (·.span)) stop) :
    first + (String.join (tokens.map (·.text))).utf8ByteSize = stop := by
  induction tokens generalizing first with
  | nil => exact tile
  | cons n tokens ih =>
    obtain ⟨rfl, rest⟩ := tile
    -- the first token is as long as its text, and the others start behind it
    obtain ⟨width, len⟩ := List.forall_mem_cons.mp len
    rw [List.map_cons, String.join_cons, String.utf8ByteSize_append, ← Nat.add_assoc, ← width]
    exact ih len rest

/-- The leaves of a built node are as long as their texts. -/
private theorem Built.len_leaf {n : Node} (h : n.Built) :
    ∀ leaf ∈ n.leaves, leaf.span.len = leaf.text.utf8ByteSize := by
  induction h with
  | token kind start text =>
    intro leaf hl
    obtain rfl := List.mem_singleton.mp hl
    rfl
  | @ofChildren kind children h ih =>
    by_cases none : children = []
    · subst none
      intro leaf hl
      obtain rfl := List.mem_singleton.mp hl
      rfl
    · intro leaf hl
      rw [leaves_ofChildren kind none] at hl
      obtain ⟨c, hc, hl⟩ := List.mem_flatMap.mp hl
      exact ih c hc leaf hl

/-- A built node has at least one leaf, which is the node itself if it has no children. -/
theorem Built.leaves_ne_nil {n : Node} (h : n.Built) : n.leaves ≠ [] := by
  induction h with
  | token => exact List.cons_ne_nil _ _
  | @ofChildren kind children h ih =>
    cases children with
    | nil => exact List.cons_ne_nil _ _
    | cons c cs =>
      rw [leaves_ofChildren kind (List.cons_ne_nil c cs), List.flatMap_cons]
      exact List.append_ne_nil_of_left_ne_nil (ih c List.mem_cons_self) _

/-- Does the span of a node agree with its tokens, its text and its children? -/
structure Exact (n : Node) : Prop where
  /-- The node starts at the start of its first token. -/
  start_eq : n.leaves.head?.map (·.span.start) = some n.span.start
  /-- It is as long as its text. -/
  len_eq : n.span.len = n.text.utf8ByteSize
  /-- The children of a composite node follow each other without a gap, and fill its span. -/
  tile : n.isLeaf = false → Span.Tile n.span.start (n.children.map (·.span)) n.span.stop
  /-- The first child does not start behind the end of the last, so that nothing is cut off where
  the length is taken. -/
  forward : ∀ first last, n.children.head? = some first → n.children.getLast? = some last →
    first.span.start ≤ last.span.stop
  /-- The end of the node is an offset, so that nothing is cut off of that either. -/
  fits : n.span.stop < offsetLimit

/-- A built node whose leaves tile a stretch of the document agrees with them. -/
theorem Built.exact {n : Node} (h : n.Built) {first stop : Nat} (fits : stop < offsetLimit)
    (tile : Span.Tile first (n.leaves.map (·.span)) stop) : n.Exact := by
  -- where the node is, its children tile that stretch, and its text fills it
  obtain ⟨start, stop⟩ := h.span_of_tile fits tile
  have children (inner : n.isLeaf = false) :
      Span.Tile n.span.start (n.children.map (·.span)) n.span.stop := by
    rw [leaves_eq, inner, if_neg Bool.false_ne_true] at tile
    rw [start, stop]
    exact tile_children fits (fun c hc _ _ => (h.of_mem_children hc).span_of_tile) tile
  refine ⟨?start, ?len, children, ?forward, stop ▸ fits⟩
  case start =>
    have head := List.head?_eq_some_head h.leaves_ne_nil
    have first := tile.start_head (s := (n.leaves.head h.leaves_ne_nil).span) (by simp [head])
    rw [head, Option.map_some, first, start]
  case len =>
    -- the tokens fill the stretch, which is then as long as all their texts
    have size := add_size_of_tile h.len_leaf tile
    rw [← h.text_eq] at size
    simp only [Span.stop] at stop
    omega
  case forward =>
    intro first last head last'
    have inner : n.isLeaf = false := by
      obtain ⟨cs, hcs⟩ := List.head?_eq_some_iff.mp head
      simp [isLeaf, hcs]
    -- the first and the last child are where the node begins and ends
    have tile := children inner
    have start : first.span.start = _ := tile.start_head (by simp [head])
    have stop : last.span.stop = _ := tile.stop_getLast (by simp [last'])
    rw [start, stop]
    exact tile.le

/-! ### Nodes below -/

/-- What lies in the tree of a built node is built. -/
theorem Built.of_mem_preorder {s t : Site} (h : s.node.Built) (ht : t ∈ s.preorder) :
    t.node.Built := by
  induction s using Site.induction with
  | step s ih =>
    obtain rfl | ⟨c, hc, htc⟩ := Site.mem_preorder.mp ht
    · exact h
    -- a node further down lies in the tree of a child
    · have child : c.node ∈ s.node.children := by
        rw [← s.map_node_children]
        exact List.mem_map_of_mem hc
      exact ih c hc (h.of_mem_children child) htc

/-- The leaves of what lies in a tree are a stretch of the leaves of the tree. -/
theorem leaves_isInfix_of_mem_preorder {s t : Site} (ht : t ∈ s.preorder) :
    t.node.leaves <:+: s.node.leaves := by
  rw [← map_node_leaves, ← map_node_leaves]
  exact ((Site.preorder_isInfix_of_mem ht).filter _).map _

/-! ### Tokens of a document -/

/-- Do the tokens follow each other, each starting where the one before ends? -/
def Contiguous (tokens : List Node) : Prop :=
  tokens.IsChain fun a b => a.span.stop = b.span.start

instance (tokens : List Node) : Decidable (Contiguous tokens) :=
  inferInstanceAs (Decidable (List.IsChain _ _))

/-- Tokens that follow each other tile a stretch of the document. -/
theorem Contiguous.exists_tile {tokens : List Node} (h : Contiguous tokens)
    (fits : ∀ n ∈ tokens, n.span.stop < offsetLimit) :
    ∃ first stop, stop < offsetLimit ∧ Span.Tile first (tokens.map (·.span)) stop :=
  Span.exists_tile_of_isChain ((List.isChain_map _).mpr h) (List.forall_mem_map.mpr fits)

/-- A built node whose leaves are a stretch of such tokens agrees with them. -/
theorem Built.exact_of_isInfix {n : Node} (h : n.Built) {tokens : List Node}
    (part : n.leaves <:+: tokens) (contiguous : Contiguous tokens)
    (fits : ∀ n ∈ tokens, n.span.stop < offsetLimit) : n.Exact := by
  have chain : Contiguous n.leaves := contiguous.infix part
  obtain ⟨first, stop, within, tile⟩ :=
    chain.exists_tile fun leaf hl => fits leaf (part.subset hl)
  exact h.exact within tile

end Node

end Adoc
