import Adoc.Proofs.Builder
import Adoc.Proofs.CheckableText
import Adoc.Strategy
import Mathlib.Data.List.Flatten

/-! # Hiding more shows less

A strategy that hides more than another leaves fewer characters of a unit to check, and those that
it leaves it leaves as they were: each in its place, and all in the same order. Nothing can be shown
that a strategy without anything to hide would not show, and of a built tree that is just the text.

* `leaves_sublist_of_hidesMore`   the leaves of a unit if more nodes are hidden
* `charGlyphs_sublist`            the glyphs of a text if more of its characters are hidden
* `glyphs_sublist_of_hidesMore`   the glyphs of a unit if more of both is hidden
* `text_extract_of_hidesNothing`  the text of a built tree if nothing is hidden -/

namespace Adoc

namespace Strategy

/-- Does `s'` hide all that `s` hides in the unit at `root`? A node is text for `s'` only if it is
text for `s`, and of each leaf `s'` hides every character that `s` hides. -/
structure HidesMore (s' s : Strategy) (root : Site) : Prop where
  text : ∀ n ∈ root.preorder, s'.behavior root n = .text → s.behavior root n = .text
  covers : ∀ leaf ∈ root.leaves, ∀ i < leaf.node.textLength,
    (s.stealthRanges leaf).covers i = true → (s'.stealthRanges leaf).covers i = true

/-- Is all of the unit at `root` text, and no character of its leaves hidden? -/
structure HidesNothing (s : Strategy) (root : Site) : Prop where
  text : ∀ n ∈ root.preorder, s.behavior root n = .text
  covers : ∀ leaf ∈ root.leaves, ∀ i < leaf.node.textLength,
    (s.stealthRanges leaf).covers i = false

variable {s s' : Strategy} {root : Site}

/-- The plain strategy hides nothing in any unit. -/
theorem hidesNothing_plain (root : Site) : plain.HidesNothing root :=
  ⟨fun _ _ => rfl, fun _ _ _ _ => rfl⟩

/-- Every strategy hides at least as much as one that hides nothing. -/
theorem HidesNothing.hidesMore (h : s.HidesNothing root) (s' : Strategy) :
    s'.HidesMore s root where
  text n hn _ := h.text n hn
  covers leaf hl i hi hidden := absurd hidden (Bool.eq_false_iff.mp (h.covers leaf hl i hi))

/-! ## Leaves -/

/-- A leaf that is reached past the nodes that `s'` hides is reached past those that `s` hides. -/
theorem leaves_sublist_of_hidesMore (h : s'.HidesMore s root) :
    (s'.leaves root).Sublist (s.leaves root) := by
  -- both walks are selections among the same leaves, wherever each of them turns back
  rw [leaves_eq_filter, leaves_eq_filter]
  apply List.monotone_filter_right
  intro leaf reached
  rw [decide_eq_true_eq] at reached ⊢
  intro n hn
  exact h.text n (Site.mem_routeTo.mp hn).1 (reached n hn)

/-- If nothing is hidden, all leaves of a unit are reached. -/
theorem leaves_of_hidesNothing (h : s.HidesNothing root) : s.leaves root = root.leaves := by
  rw [leaves_eq_filter, List.filter_eq_self]
  intro leaf _
  rw [decide_eq_true_eq]
  intro n hn
  exact h.text n (Site.mem_routeTo.mp hn).1

end Strategy

namespace CheckableText

variable {s s' : Strategy} {root : Site}

/-! ## Glyphs -/

/-- If more characters of a text are hidden, the glyphs are some of those that there were. -/
theorem charGlyphs_sublist {replace : Char → Char} {hidden hidden' : Nat → Bool} {i offset : Nat}
    {cs : List Char}
    (more : ∀ j, i ≤ j → j < i + cs.length → hidden j = true → hidden' j = true) :
    (charGlyphs replace hidden' i offset cs).Sublist (charGlyphs replace hidden i offset cs) := by
  induction cs generalizing i offset with
  | nil => exact .slnil
  | cons c cs ih =>
    rw [List.length_cons] at more
    -- a hidden character takes its bytes along, so that both runs go on from the same offset
    have rest : (charGlyphs replace hidden' (i + 1) (offset + c.utf8Size) cs).Sublist
        (charGlyphs replace hidden (i + 1) (offset + c.utf8Size) cs) :=
      ih fun j hj hj' => more j (by omega) (by omega)
    rw [charGlyphs, charGlyphs]
    cases here' : hidden' i with
    | true =>
      rw [if_pos rfl]
      split
      · exact rest
      · exact rest.cons _
    | false =>
      have here : ¬ hidden i = true := fun here =>
        Bool.eq_false_iff.mp here' (more i (by omega) (by omega) here)
      rw [if_neg Bool.false_ne_true, if_neg here]
      exact rest.cons_cons _

/-- The glyphs that are left of a unit if more is hidden. -/
theorem glyphs_sublist_of_hidesMore (h : s'.HidesMore s root)
    (rules : s'.replacements root = s.replacements root) :
    (extract s' root).glyphs.Sublist (extract s root).glyphs := by
  have leaf : ∀ leaf ∈ s'.leaves root,
      (leafGlyphs s' (s.replacements root) leaf).Sublist
        (leafGlyphs s (s.replacements root) leaf) := by
    intro leaf hl
    apply charGlyphs_sublist
    intro i _ hi
    rw [Nat.zero_add, String.length_toList] at hi
    exact h.covers leaf ((s'.leaves_sublist root).subset hl) i hi
  rw [glyphs_extract, glyphs_extract, rules]
  exact (List.Sublist.flatMap_right _ leaf).trans
    ((Strategy.leaves_sublist_of_hidesMore h).flatMap _)

/-- If nothing is hidden and nothing replaced, a built tree has all of its text extracted. -/
theorem text_extract_of_hidesNothing (h : s.HidesNothing root) (rules : s.replacements root = [])
    (built : root.node.Built) : (extract s root).text = root.node.text := by
  have leaf : ∀ leaf ∈ root.leaves,
      (leafGlyphs s [] leaf).map (·.char) = leaf.node.text.toList := by
    intro leaf hl
    have whole : leafGlyphs s [] leaf =
        placed leaf.node.span.start leaf.node.text.toList := by
      apply charGlyphs_eq_placed
      intro i _ hi
      rw [Nat.zero_add, String.length_toList] at hi
      exact h.covers leaf hl i hi
    rw [whole, map_char_placed]
  rw [← String.toList_inj]
  -- all leaves are reached, and each gives all of its characters
  calc (extract s root).text.toList
    _ = root.leaves.flatMap fun leaf => (leafGlyphs s [] leaf).map (·.char) := by
      rw [← map_char_glyphs (inStep_extract s root), glyphs_extract, rules,
        Strategy.leaves_of_hidesNothing h, List.map_flatMap]
    _ = root.leaves.flatMap (·.node.text.toList) := List.flatMap_congr leaf
    _ = (String.join (root.node.leaves.map (·.text))).toList := by
      rw [String.toList_join, ← Node.map_node_leaves, List.flatMap_map, List.flatMap_map]
    _ = root.node.text.toList := by rw [← built.text_eq]

/-- Hiding more never reveals or reorders anything. If of two strategies with the same replacements
one hides all that the other hides, it extracts from a unit a part of what the other does, each
character in the same place and all in the same order, and where a program extracts the text of the
other it extracts such a part of it. A strategy that hides nothing and replaces nothing extracts
from a built tree its whole text, and so any strategy that replaces nothing extracts from it a part
of that. -/
theorem hiding_more_shows_less :
    (∀ (s s' : Strategy) (root : Site), s'.replacements root = s.replacements root →
      s'.HidesMore s root → (extract s' root).glyphs.Sublist (extract s root).glyphs ∧
        ∀ o t, extract? o s root = some t →
          ∃ t', extract? o s' root = some t' ∧ t'.glyphs.Sublist t.glyphs) ∧
    ∀ (s : Strategy) (root : Site), root.node.Built → s.replacements root = [] →
      (s.HidesNothing root → (extract s root).text = root.node.text) ∧
      (extract s root).text.toList.Sublist root.node.text.toList := by
  constructor
  · intro s s' root rules h
    have part := glyphs_sublist_of_hidesMore h rules
    exact ⟨part, fun o t =>
      exists_keep?_of_sublist (inStep_extract s root) (inStep_extract s' root) part⟩
  · intro s root built rules
    refine ⟨fun h => text_extract_of_hidesNothing h rules built, ?_⟩
    have nothing := Strategy.hidesNothing_plain root
    have whole := text_extract_of_hidesNothing nothing rfl built
    -- the whole text is what the plain strategy shows, and nothing hides less than that one
    rw [← whole, ← map_char_glyphs (inStep_extract s root),
      ← map_char_glyphs (inStep_extract _ root)]
    exact (glyphs_sublist_of_hidesMore (nothing.hidesMore s) rules).map _

/-- A block with a word and an emphasized one, and a line end. -/
private def emphasized : Site :=
  .root (.ofChildren .block [.token .text 0 "Ä ", .ofChildren .italicRun
    [.token .italicStart 3 "_", .token .italic 4 "b", .token .italicEnd 5 "_"],
    .token .newline 6 "\n"])

/-- The strategy for markup, but that what is emphasized and all second characters of a text are
hidden. -/
private def unemphatic : Strategy :=
  (Strategy.markup {}).override
    { stealth := [(.text, .ofList [⟨1, 1⟩])], behavior := [(.italicRun, .stealth)] }

/-- Without the emphasis a part is left of what is checked, which is itself a part of the text. -/
theorem emphasized_part_left :
    unemphatic.HidesMore (.markup {}) emphasized ∧ emphasized.node.Built ∧
      (extract unemphatic emphasized).text = "Ä" ∧
      (extract (.markup {}) emphasized).text = "Ä b" ∧
      (extract .plain emphasized).text = "Ä _b_\n" ∧
      (extract unemphatic emphasized).glyphs.Sublist (extract (.markup {}) emphasized).glyphs ∧
      (extract (.markup {}) emphasized).text.toList.Sublist "Ä _b_\n".toList := by
  have more : unemphatic.HidesMore (.markup {}) emphasized := ⟨by decide, by decide⟩
  have built : emphasized.node.Built := BuildStep.built_iff_exists_run.mpr
    ⟨[.push .text 0 "Ä ", .push .italicStart 3 "_", .push .italic 4 "b", .push .italicEnd 5 "_",
      .wrap .italicRun 3, .push .newline 6 "\n", .wrap .block 3], rfl⟩
  have whole := (hiding_more_shows_less.2 .plain emphasized built rfl).1
    (Strategy.hidesNothing_plain emphasized)
  have text : emphasized.node.text = "Ä _b_\n" := rfl
  refine ⟨more, built, by decide, by decide, whole.trans text, ?_, ?_⟩
  · exact (hiding_more_shows_less.1 (.markup {}) unemphatic emphasized rfl more).1
  · rw [← text]
    exact (hiding_more_shows_less.2 (.markup {}) emphasized built rfl).2

end CheckableText

end Adoc
