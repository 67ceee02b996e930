import Adoc.Proofs.Preorder

/-! # Routes

The route from a site down to one below it passes the nodes that the latter lies in. A question
about a node and all nodes around it, up to some root, is a question about a route.

* `mem_routeTo`                a route passes the sites below its start that have its end below them
* `mem_routeTo_iff_isPrefix`   a route passes the sites at the beginnings of the path to its end
* `routeTo_child`              a route goes on through the child that its end is below
* `routeTo_append`             the part of a route up to a site is the route to it -/

namespace Adoc.Site

/-- The sites from `s` down to `t`, both included; none if `t` is not in the tree of `s`. -/
def routeTo (s t : Site) : List Site := s.preorder.filter (t ∈ ·.preorder)

/-- A route passes the sites below its start that have its end below them. -/
theorem mem_routeTo {s t u : Site} : u ∈ s.routeTo t ↔ u ∈ s.preorder ∧ t ∈ u.preorder := by
  rw [routeTo, List.mem_filter, decide_eq_true_eq]

/-- In a tree a site is below those whose path is the beginning of its own. -/
theorem mem_preorder_iff_isPrefix {s t u : Site} (ht : t ∈ s.preorder) (hu : u ∈ s.preorder) :
    t ∈ u.preorder ↔ u.path <+: t.path := by
  refine ⟨path_isPrefix_of_mem, fun path => ?_⟩
  induction s using induction with
  | step s ih =>
    obtain rfl | ⟨c, hc, huc⟩ := mem_preorder.mp hu
    · exact ht
    · obtain rfl | ⟨d, hd, htd⟩ := mem_preorder.mp ht
      · -- the path to a site is not the beginning of the path to a node around it
        have root : u = t := eq_of_path_eq hu (mem_preorder_self t)
          (path.eq_of_length_le (path_isPrefix_of_mem hu).length_le)
        exact absurd root (ne_of_mem_preorder_child hc huc)
      -- both are below a child, and the path of `t` leads through one child only
      · obtain rfl : c = d := child_eq_of_isPrefix hc hd
          ((path_isPrefix_of_mem huc).trans path) (path_isPrefix_of_mem htd)
        exact ih c hc htd huc

/-- A route passes the sites whose paths are the beginnings of the path to its end. -/
theorem mem_routeTo_iff_isPrefix {s t u : Site} (ht : t ∈ s.preorder) :
    u ∈ s.routeTo t ↔ u ∈ s.preorder ∧ u.path <+: t.path := by
  rw [mem_routeTo]
  exact and_congr_right fun hu => mem_preorder_iff_isPrefix ht hu

/-- Only below the child that holds `t` are there sites that hold `t`. -/
private theorem filter_flatMap_children {s c t : Site} (hc : c ∈ s.children)
    (ht : t ∈ c.preorder) :
    (s.children.flatMap preorder).filter (t ∈ ·.preorder) = c.routeTo t := by
  obtain ⟨before, after, split⟩ := List.append_of_mem hc
  -- another child that holds `t` too would be the same child, listed twice
  have others (d : Site) (hd : d ∈ before ∨ d ∈ after) :
      d.preorder.filter (t ∈ ·.preorder) = [] := by
    rw [List.filter_eq_nil_iff]
    intro u hu htu
    have hds : d ∈ s.children := by
      rw [split, List.mem_append, List.mem_cons]
      exact hd.imp_right .inr
    obtain rfl : d = c :=
      child_unique hds hc (mem_preorder_trans hu (of_decide_eq_true htu)) ht
    have nodup := split ▸ nodup_children s
    rw [List.nodup_append, List.nodup_cons] at nodup
    obtain hd | hd := hd
    · exact nodup.2.2 d hd d List.mem_cons_self rfl
    · exact nodup.2.1.1 hd
  have none (ds : List Site) (h : ∀ d ∈ ds, d ∈ before ∨ d ∈ after) :
      (ds.flatMap preorder).filter (t ∈ ·.preorder) = [] := by
    rw [List.filter_flatMap, List.flatMap_eq_nil_iff]
    exact fun d hd => others d (h d hd)
  rw [split, List.flatMap_append, List.flatMap_cons, List.filter_append, List.filter_append,
    none before fun _ => .inl, none after fun _ => .inr, List.nil_append, List.append_nil, routeTo]

/-- The route from a site to itself passes nothing else. -/
@[simp]
theorem routeTo_self (s : Site) : s.routeTo s = [s] := by
  rw [routeTo, preorder_eq, List.filter_cons_of_pos (by simp),
    List.cons.injEq, List.filter_eq_nil_iff]
  refine ⟨rfl, ?_⟩
  -- a site is not below its own children
  intro u hu hs
  obtain ⟨c, hc, huc⟩ := List.mem_flatMap.mp hu
  exact ne_of_mem_preorder_child hc (mem_preorder_trans huc (of_decide_eq_true hs)) rfl

/-- A route goes on through the child that its end is below. -/
theorem routeTo_child {s c t : Site} (hc : c ∈ s.children) (ht : t ∈ c.preorder) :
    s.routeTo t = s :: c.routeTo t := by
  have hts : t ∈ s.preorder := mem_preorder_of_mem_children hc ht
  rw [routeTo, preorder_eq, List.filter_cons_of_pos (by simpa using hts),
    filter_flatMap_children hc ht]

/-- A route starts with its start. -/
theorem routeTo_eq_cons {s t : Site} (ht : t ∈ s.preorder) :
    s.routeTo t = s :: (s.routeTo t).tail := by
  -- it ends there at once, or goes on below a child
  obtain rfl | ⟨c, hc, htc⟩ := mem_preorder.mp ht
  · rw [routeTo_self, List.tail_cons]
  · rw [routeTo_child hc htc, List.tail_cons]

/-- A route ends with its end. -/
theorem routeTo_eq_append {s t : Site} (ht : t ∈ s.preorder) :
    s.routeTo t = (s.routeTo t).dropLast ++ [t] := by
  induction s using induction with
  | step s ih =>
    obtain rfl | ⟨c, hc, htc⟩ := mem_preorder.mp ht
    · rw [routeTo_self]
      rfl
    · have rest := ih c hc htc
      rw [routeTo_child hc htc, rest, ← List.cons_append, List.dropLast_concat]

/-- A route through `m` is the route to `m` and the rest of the route from there. -/
theorem routeTo_append {s m t : Site} (hm : m ∈ s.preorder) (ht : t ∈ m.preorder) :
    s.routeTo t = s.routeTo m ++ (m.routeTo t).tail := by
  induction s using induction with
  | step s ih =>
    obtain rfl | ⟨c, hc, hmc⟩ := mem_preorder.mp hm
    · rw [routeTo_self, List.singleton_append]
      exact routeTo_eq_cons ht
    · rw [routeTo_child hc (mem_preorder_trans hmc ht), routeTo_child hc hmc, ih c hc hmc,
        List.cons_append]

/-- Behind its start a route passes the other sites on it. -/
theorem mem_tail_routeTo {s t u : Site} (ht : t ∈ s.preorder) :
    u ∈ (s.routeTo t).tail ↔ u ∈ s.routeTo t ∧ u ≠ s := by
  have nodup : (s.routeTo t).Nodup := (nodup_preorder s).filter _
  -- no site is passed twice, so that the start is not passed again
  rw [routeTo_eq_cons ht] at nodup ⊢
  rw [List.tail_cons, List.mem_cons]
  constructor
  · intro hu
    exact ⟨.inr hu, fun h => (List.nodup_cons.mp nodup).1 (h ▸ hu)⟩
  · intro h
    obtain ⟨hu | hu, hne⟩ := h
    · exact absurd hu hne
    · exact hu

end Adoc.Site
