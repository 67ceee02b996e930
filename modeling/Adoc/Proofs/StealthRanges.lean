import Adoc.Proofs.CheckableText
import Adoc.Proofs.Leaves
import Mathlib.Data.Finset.Card
import Mathlib.Data.List.Induction

/-! # Inserting stealth ranges

A set of stealth ranges comes about by inserting one range after another, and the order in which
that happens shows in the set: it holds each range once, where it was first inserted. It does not
show in what is hidden. A character is hidden if one of the ranges holds it, so that any insertions
of the same ranges, however often and in whatever order, hide the same characters of a token.

* `InOrderOf.add`              one more insertion keeps the order of first insertions
* `inOrderOf_ofList`           the ranges held are those inserted, in the order of that
* `insertAll_ofList`           what a run of insertions answers, and where it leads
* `covers_ofList_iff`          a character is hidden when a range that was inserted holds it
* `extract_withStealth_congr`  what is extracted depends on which ranges were inserted alone -/

namespace Adoc

/-- An inverted range holds no character. -/
theorem CharRange.contains_eq_false {r : CharRange} (h : r.last < r.first) (i : Nat) :
    r.contains i = false := by
  rw [Bool.eq_false_iff, ne_eq, contains_iff]
  omega

namespace StealthRanges

/-- Insert `rs` one by one: what each of the insertions answers, and the set in the end. -/
def insertAll (s : StealthRanges) : List CharRange → List Bool × StealthRanges
  | [] => ([], s)
  | r :: rs =>
    let (isNew, t) := s.insert r
    let (answers, u) := t.insertAll rs
    (isNew :: answers, u)

/-- Does the set hold the ranges of `rs`, each in the order in which it first comes there? -/
structure InOrderOf (s : StealthRanges) (rs : List CharRange) : Prop where
  mem : ∀ r, r ∈ s.toList ↔ r ∈ rs
  order : s.toList.Pairwise fun r q => rs.idxOf r < rs.idxOf q

/-! ## One more insertion -/

variable {s : StealthRanges} {rs qs : List CharRange} {r q : CharRange}

/-- Adding a range makes it a member, and changes nothing about the others. -/
@[simp]
theorem mem_add : q ∈ (s.add r).toList ↔ q ∈ s.toList ∨ q = r := by
  rw [toList_add]
  split
  · rename_i known
    exact (or_iff_left_of_imp fun same => same ▸ known).symm
  · rw [List.mem_append, List.mem_singleton]

/-- Adding a range that is held already changes nothing. -/
theorem add_of_mem (h : r ∈ s.toList) : s.add r = s := dif_pos h

/-- A range that comes last in `rs` comes behind all others in the set, unless it is not new. -/
theorem InOrderOf.add (h : s.InOrderOf rs) (new : CharRange) :
    (s.add new).InOrderOf (rs ++ [new]) := by
  refine ⟨fun r => by rw [mem_add, h.mem, List.mem_append, List.mem_singleton], ?_⟩
  -- what is held already has its first place in front
  have place {r : CharRange} (hr : r ∈ s.toList) : (rs ++ [new]).idxOf r = rs.idxOf r :=
    List.idxOf_append_of_mem ((h.mem r).mp hr)
  have kept : s.toList.Pairwise fun r q => (rs ++ [new]).idxOf r < (rs ++ [new]).idxOf q := by
    refine h.order.imp_of_mem fun hr hq before => ?_
    rwa [place hr, place hq]
  rw [toList_add]
  split
  · exact kept
  · rename_i unknown
    rw [h.mem] at unknown
    have last : (rs ++ [new]).idxOf new = rs.length := by
      rw [List.idxOf_append_of_notMem unknown, List.idxOf_cons_self, Nat.add_zero]
    -- a new range has its first place at the end, behind the places of all others
    refine List.pairwise_append.mpr ⟨kept, List.pairwise_singleton _ _, ?_⟩
    intro r hr q hq
    rw [List.mem_singleton.mp hq, last, place hr]
    exact List.idxOf_lt_length_of_mem ((h.mem r).mp hr)

/-! ## A run of insertions -/

/-- The last range of a list is added last. -/
theorem ofList_append_singleton (rs : List CharRange) (r : CharRange) :
    ofList (rs ++ [r]) = (ofList rs).add r := by
  rw [ofList, List.foldl_append]
  rfl

/-- The ranges held are those inserted, in the order in which each was first inserted. -/
theorem inOrderOf_ofList (rs : List CharRange) : (ofList rs).InOrderOf rs := by
  -- from the end, as the last of the ranges is the last one added
  induction rs using List.reverseRecOn with
  | nil => exact ⟨fun _ => Iff.rfl, .nil⟩
  | append_singleton rs r ih =>
    rw [ofList_append_singleton]
    exact ih.add r

/-- The ranges of the list are the members of the set. -/
@[simp]
theorem mem_ofList : r ∈ (ofList rs).toList ↔ r ∈ rs := (inOrderOf_ofList rs).mem r

/-- Inserting a range once more leaves the set as it is. -/
theorem ofList_append_of_mem (h : r ∈ rs) : ofList (rs ++ [r]) = ofList rs := by
  rw [ofList_append_singleton, add_of_mem (mem_ofList.mpr h)]

/-- An insertion says whether the range was inserted before. -/
theorem insert_ofList (rs : List CharRange) (r : CharRange) :
    (ofList rs).insert r = (decide (r ∉ rs), ofList (rs ++ [r])) := by
  -- the set holds what was inserted before, which is what the answer depends on
  have answer : (!(ofList rs).toList.contains r) = decide (r ∉ rs) := by
    rw [List.contains_eq_mem, decide_eq_decide.mpr mem_ofList, decide_not]
  rw [insert, answer, ofList_append_singleton]

/-- A run that goes on after `qs`: each range is new if it is neither among those nor among the
ranges of the run before it. -/
theorem insertAll_ofList (qs rs : List CharRange) :
    (ofList qs).insertAll rs =
      (rs.mapIdx fun i r => decide (r ∉ qs ++ rs.take i), ofList (qs ++ rs)) := by
  induction rs generalizing qs with
  | nil =>
    rw [List.append_nil]
    rfl
  | cons r rs ih =>
    -- to the rest of the run the range just inserted is one of those before it
    have before (i : Nat) : qs ++ [r] ++ rs.take i = qs ++ (r :: rs).take (i + 1) := by
      rw [List.take_succ_cons, ← List.append_cons]
    rw [insertAll, insert_ofList]
    dsimp only
    rw [ih, List.mapIdx_cons, List.take_zero, List.append_nil, ← List.append_cons]
    simp only [before]

/-- As many ranges are held as distinct ones were inserted. -/
theorem size_ofList (rs : List CharRange) : (ofList rs).size = rs.toFinset.card := by
  -- the set holds no range twice, so that it is as long as it has members
  have members : (ofList rs).toList.toFinset = rs.toFinset := by
    ext r
    rw [List.mem_toFinset, List.mem_toFinset, mem_ofList]
  rw [size, ← members, List.toFinset_card_of_nodup (ofList rs).nodup]

/-! ## What is hidden -/

/-- A character is hidden if and only if one of the inserted ranges holds it. -/
theorem covers_ofList_iff {i : Nat} :
    (ofList rs).covers i = true ↔ ∃ r ∈ rs, r.first ≤ i ∧ i ≤ r.last := by
  rw [covers_iff]
  simp only [mem_ofList]

/-- Which characters are hidden depends on which ranges were inserted alone. -/
theorem covers_ofList_congr (same : rs.toFinset = qs.toFinset) (i : Nat) :
    (ofList rs).covers i = (ofList qs).covers i := by
  rw [Bool.eq_iff_iff, covers_ofList_iff, covers_ofList_iff]
  simp only [List.toFinset.ext_iff.mp same]

/-- An empty range hides nothing, and makes no difference to what others hide. -/
theorem covers_ofList_filter (rs : List CharRange) (i : Nat) :
    (ofList (rs.filter fun r => !r.isEmpty)).covers i = (ofList rs).covers i := by
  rw [Bool.eq_iff_iff, covers_ofList_iff, covers_ofList_iff]
  constructor
  · rintro ⟨r, hr, holds⟩
    exact ⟨r, (List.mem_filter.mp hr).1, holds⟩
  · rintro ⟨r, hr, holds⟩
    -- a range that holds a character is not empty, so that it is among those kept
    have full : (!r.isEmpty) = true := by
      rw [CharRange.isEmpty, Bool.not_not, decide_eq_true_eq]
      exact Nat.le_trans holds.1 holds.2
    exact ⟨r, List.mem_filter.mpr ⟨hr, full⟩, holds⟩

end StealthRanges

/-- The strategy that hides of each token the ranges `ranges token`, inserted one by one, in place
of its own. -/
def Strategy.withStealth (s : Strategy) (ranges : Site → List CharRange) : Strategy :=
  { s with stealthRanges := fun token => .ofList (ranges token) }

namespace CheckableText

variable {s : Strategy} {f g : Site → List CharRange}

/-- Of a token the same is left if the same ranges were inserted for it. -/
theorem leafGlyphs_withStealth_congr {token : Site} (same : (f token).toFinset = (g token).toFinset)
    (rules : List CharReplacement) :
    leafGlyphs (s.withStealth f) rules token = leafGlyphs (s.withStealth g) rules token := by
  have covers : ((s.withStealth f).stealthRanges token).covers =
      ((s.withStealth g).stealthRanges token).covers :=
    funext (StealthRanges.covers_ofList_congr same)
  rw [leafGlyphs, leafGlyphs, covers]

/-- What is extracted depends on which ranges were inserted for each token alone. -/
theorem extract_withStealth_congr {root : Site}
    (same : ∀ token ∈ s.leaves root, (f token).toFinset = (g token).toFinset) :
    extract (s.withStealth f) root = extract (s.withStealth g) root := by
  have glyphs : ∀ token ∈ s.leaves root,
      leafGlyphs (s.withStealth f) (s.replacements root) token =
        leafGlyphs (s.withStealth g) (s.replacements root) token :=
    fun token ht => leafGlyphs_withStealth_congr (same token ht) _
  -- the ranges have no say in which leaves are reached
  have leaves (ranges : Site → List CharRange) :
      (s.withStealth ranges).leaves root = s.leaves root :=
    Strategy.leaves_congr rfl
  rw [extract_eq, extract_eq, leaves, leaves]
  exact congrArg (pushAll _) (List.flatMap_congr glyphs)

end CheckableText

namespace StealthRanges

open CheckableText

/-- Ranges are kept in order and hide in any. After any run of insertions into the empty set the
ranges held are those inserted, in the order in which each was first inserted, as many as distinct
ones were; each insertion says whether its range was inserted before, and one that was changes
nothing. A character is hidden if and only if one of the ranges inserted holds it. So two runs that
insert the same ranges, in any order and any number of times, hide the same characters of every
token, and the same is extracted from every unit. An empty range is held like any other and hides
nothing. -/
theorem kept_in_order_hiding_in_any :
    (∀ rs : List CharRange,
      empty.insertAll rs = (rs.mapIdx fun i r => decide (r ∉ rs.take i), ofList rs) ∧
      (∀ r, r ∈ (ofList rs).toList ↔ r ∈ rs) ∧
      (ofList rs).toList.Pairwise (fun r q => rs.idxOf r < rs.idxOf q) ∧
      (ofList rs).size = rs.toFinset.card ∧
      (∀ r, ((ofList rs).insert r).1 = true ↔ r ∉ rs) ∧
      (∀ r ∈ rs, ((ofList rs).insert r).2 = ofList rs) ∧
      (∀ i, (ofList rs).covers i = true ↔ ∃ r ∈ rs, r.first ≤ i ∧ i ≤ r.last)) ∧
    (∀ rs qs : List CharRange, rs.toFinset = qs.toFinset →
      ∀ i, (ofList rs).covers i = (ofList qs).covers i) ∧
    (∀ (s : Strategy) (f g : Site → List CharRange),
      (∀ token, (f token).toFinset = (g token).toFinset → ∀ rules,
        leafGlyphs (s.withStealth f) rules token = leafGlyphs (s.withStealth g) rules token) ∧
      ∀ root, (∀ token ∈ s.leaves root, (f token).toFinset = (g token).toFinset) →
        extract (s.withStealth f) root = extract (s.withStealth g) root) ∧
    ∀ (rs : List CharRange) (i : Nat),
      (∀ r ∈ rs, r.last < r.first → r ∈ (ofList rs).toList ∧ r.contains i = false) ∧
      (ofList (rs.filter fun r => !r.isEmpty)).covers i = (ofList rs).covers i := by
  refine ⟨fun rs => ⟨?run, (inOrderOf_ofList rs).mem, (inOrderOf_ofList rs).order, size_ofList rs,
    ?answer, ?unchanged, fun i => covers_ofList_iff⟩, fun rs qs => covers_ofList_congr,
    fun s f g => ⟨fun token => leafGlyphs_withStealth_congr, fun root => extract_withStealth_congr⟩,
    fun rs i => ⟨?inverted, covers_ofList_filter rs i⟩⟩
  case run => exact insertAll_ofList [] rs
  case answer =>
    intro r
    rw [insert_ofList, decide_eq_true_iff]
  case unchanged =>
    intro r hr
    rw [insert_ofList, ofList_append_of_mem hr]
  case inverted =>
    intro r hr inverted
    exact ⟨mem_ofList.mpr hr, CharRange.contains_eq_false inverted i⟩

/-- Ranges of which two overlap, two are inserted twice and one is inverted. -/
private def overlapping : List CharRange := [⟨4, 6⟩, ⟨0, 0⟩, ⟨4, 6⟩, ⟨5, 8⟩, ⟨3, 2⟩, ⟨0, 0⟩]

/-- The same ranges in another order, with the inverted one twice. -/
private def shuffled : List CharRange := [⟨3, 2⟩, ⟨5, 8⟩, ⟨0, 0⟩, ⟨3, 2⟩, ⟨4, 6⟩]

/-- A token of ten characters, the first of two bytes. -/
private def letters : Site := .root (.token .text 0 "Äbcdefghij")

/-- Two runs that insert the same ranges leave them in different orders, and the same of a text. -/
theorem overlapping_shuffled_hide_same :
    overlapping.toFinset = shuffled.toFinset ∧
      (empty.insertAll overlapping).1 = [true, true, false, true, true, false] ∧
      (ofList overlapping).toList = [⟨4, 6⟩, ⟨0, 0⟩, ⟨5, 8⟩, ⟨3, 2⟩] ∧
      (ofList shuffled).toList = [⟨3, 2⟩, ⟨5, 8⟩, ⟨0, 0⟩, ⟨4, 6⟩] ∧
      (ofList overlapping).size = 4 ∧
      ((ofList overlapping).insert ⟨3, 2⟩).2 = ofList overlapping ∧
      (ofList shuffled).covers 4 = true ∧ (ofList shuffled).covers 3 = false ∧
      (∀ i, (ofList overlapping).covers i = (ofList shuffled).covers i) ∧
      ⟨3, 2⟩ ∈ (ofList overlapping).toList ∧
      leafGlyphs (Strategy.plain.withStealth fun _ => overlapping) [] letters =
        leafGlyphs (Strategy.plain.withStealth fun _ => shuffled) [] letters ∧
      (extract (Strategy.plain.withStealth fun _ => overlapping) letters).text = "bcdj" ∧
      extract (Strategy.plain.withStealth fun _ => overlapping) letters =
        extract (Strategy.plain.withStealth fun _ => shuffled) letters := by
  obtain ⟨runs, coverage, tokens, inverted⟩ := kept_in_order_hiding_in_any
  have same : overlapping.toFinset = shuffled.toFinset := by decide
  obtain ⟨run, _, _, _, _, unchanged, _⟩ := runs overlapping
  obtain ⟨token, unit⟩ := tokens .plain (fun _ => overlapping) fun _ => shuffled
  refine ⟨same, ?_, by decide, by decide, by decide, unchanged ⟨3, 2⟩ (by decide), by decide,
    by decide, coverage overlapping shuffled same,
    ((inverted overlapping 2).1 ⟨3, 2⟩ (by decide) (by decide)).1,
    token letters same [], by decide, unit letters fun _ _ => same⟩
  rw [run]
  decide

end StealthRanges

end Adoc
