import Adoc.KindSet
import Mathlib.Data.Finset.Card

/-! # Sets of kinds as finite sets

A mask is read in four ways: bit by bit, by the number of its bits, kind by kind, and as a whole.
That all of them speak of one finite set of kinds rests on the numbering: the known kinds have the
numbers below 52, each its own, and no bit beyond them is ever set.

* `eq_iff`   a mask is determined by its members
* `size_eq`  the bits that are set are as many as the members
* `mem_set`  what is put together from lists has the known kinds of the lists -/

namespace Adoc

namespace Kind

/-- No kind is listed twice. -/
theorem nodup_all : all.Nodup := by decide

/-- The kinds are numbered in the order of the list. -/
@[simp]
theorem map_index_all : all.map index = List.range 52 := by decide +kernel

/-- Every number below that of `unknown` is the number of a known kind. -/
theorem exists_index_eq {i : Nat} (h : i < 52) : ∃ k ≠ unknown, k.index = i := by
  rw [← List.mem_range, ← map_index_all] at h
  obtain ⟨k, hk, rfl⟩ := List.mem_map.mp h
  exact ⟨k, mem_all_iff.mp hk, rfl⟩

end Kind

namespace KindSet

open Kind

/-! ## Bits and members -/

/-- No bit is set that is not that of a known kind. -/
theorem getLsbD_of_le {s : KindSet} {i : Nat} (h : 52 ≤ i) : s.mask.getLsbD i = false := by
  -- the bits beyond are those that are left when the mask is shifted
  have clear := congrArg (·.getLsbD (i - 52)) s.clear
  rwa [BitVec.getLsbD_ushiftRight, BitVec.getLsbD_zero, Nat.add_sub_cancel' h] at clear

/-- A mask is determined by its members. -/
theorem mask_eq_iff {s t : KindSet} : s.mask = t.mask ↔ ∀ k, k ∈ s ↔ k ∈ t := by
  constructor
  · intro same k
    rw [mem_iff_contains, mem_iff_contains, contains, contains, same]
  · intro same
    apply BitVec.eq_of_getLsbD_eq
    intro i _
    -- each bit is either that of a kind or one that is never set
    by_cases known : i < 52
    · obtain ⟨k, hk, rfl⟩ := exists_index_eq known
      rw [Bool.eq_iff_iff, ← mem_iff_getLsbD hk, ← mem_iff_getLsbD hk]
      exact same k
    · rw [getLsbD_of_le (Nat.le_of_not_lt known), getLsbD_of_le (Nat.le_of_not_lt known)]

/-- Two sets are the same if they have the same members; nothing else is kept in a set. -/
theorem eq_iff {s t : KindSet} : s = t ↔ ∀ k, k ∈ s ↔ k ∈ t := by
  rw [← mask_eq_iff]
  cases s
  cases t
  rw [mk.injEq]

/-! ## The list of members -/

/-- The list of members is complete: it leaves out the unknown kind, which is never a member. -/
@[simp]
theorem mem_toList {s : KindSet} {k : Kind} : k ∈ s.toList ↔ k ∈ s := by
  rw [toList, List.mem_filter, mem_all_iff, ← mem_iff_contains]
  refine and_iff_right_of_imp ?_
  -- the unknown kind is not listed, and no member either
  rintro h rfl
  exact not_mem_unknown s h

/-- Every member is listed once. -/
theorem nodup_toList (s : KindSet) : s.toList.Nodup := nodup_all.filter _

/-- There are as many bits set as members. -/
theorem size_eq (s : KindSet) : s.size = s.toList.length := by
  -- the twelve bits that belong to no kind do not count
  have spare : (List.range 12).countP (s.mask.getLsbD ∘ (52 + ·)) = 0 := by
    rw [List.countP_eq_zero]
    intro i _
    rw [Function.comp_apply, getLsbD_of_le (Nat.le_add_right ..)]
    exact Bool.false_ne_true
  calc s.size
    _ = (List.range 52).countP s.mask.getLsbD := by
      rw [size, List.range_add (n := 52) (m := 12), List.countP_append, List.countP_map, spare,
        Nat.add_zero]
    _ = all.countP (s.mask.getLsbD ∘ index) := by rw [← map_index_all, List.countP_map]
    _ = all.countP s.contains := by
      refine List.countP_congr fun k hk => ?_
      rw [← mem_iff_contains, mem_iff_getLsbD (mem_all_iff.mp hk), Function.comp_apply]
    _ = s.toList.length := List.countP_eq_length_filter

/-- A set without bits has no members, and a set without members no bits. -/
theorem isEmpty_iff {s : KindSet} : s.isEmpty = true ↔ ∀ k, k ∉ s := by
  have mask : s.isEmpty = true ↔ s.mask = empty.mask := beq_iff_eq
  rw [mask, mask_eq_iff]
  exact forall_congr' fun k => iff_false_right (not_mem_empty k)

/-! ## Unions -/

/-- The laws of unions follow from those of `or`, member by member. -/
theorem union_comm (s t : KindSet) : s.union t = t.union s :=
  eq_iff.mpr fun k => by rw [mem_union, mem_union, or_comm]

theorem union_assoc (s t u : KindSet) : (s.union t).union u = s.union (t.union u) :=
  eq_iff.mpr fun k => by simp only [mem_union, or_assoc]

@[simp]
theorem union_self (s : KindSet) : s.union s = s :=
  eq_iff.mpr fun k => by rw [mem_union, or_self]

@[simp]
theorem union_empty (s : KindSet) : s.union empty = s :=
  eq_iff.mpr fun k => by rw [mem_union, or_iff_left (not_mem_empty k)]

/-- The set of a list, made at once or kind by kind. -/
theorem ofList_eq_insertMany (ks : List Kind) : ofList ks = empty.insertMany ks :=
  eq_iff.mpr fun k => by rw [mem_ofList, mem_insertMany, or_iff_right (not_mem_empty k)]

/-! ## Sets put together from lists -/

/-- How a set is put together. -/
inductive Recipe where
  /-- At once from a list. -/
  | ofList (kinds : List Kind)
  /-- By inserting the kinds of a list one by one. -/
  | insertMany (kinds : List Kind)
  | union (r q : Recipe)

namespace Recipe

/-- The set that a recipe makes. -/
def set : Recipe → KindSet
  | .ofList kinds => .ofList kinds
  | .insertMany kinds => .insertMany .empty kinds
  | .union r q => r.set.union q.set

/-- The lists that go into a set. -/
def lists : Recipe → List (List Kind)
  | .ofList kinds | .insertMany kinds => [kinds]
  | .union r q => r.lists ++ q.lists

/-- The known kinds in the lists. -/
def members (r : Recipe) : Finset Kind := r.lists.flatten.toFinset.erase .unknown

/-- A set put together from lists has the known kinds of the lists. -/
theorem mem_set {r : Recipe} {k : Kind} :
    k ∈ r.set ↔ k ≠ .unknown ∧ ∃ kinds ∈ r.lists, k ∈ kinds := by
  induction r with
  | ofList kinds =>
    rw [set, lists, mem_ofList, and_comm, List.exists_mem_cons_iff]
    simp
  | insertMany kinds =>
    rw [set, lists, mem_insertMany, or_iff_right (not_mem_empty k), and_comm]
    simp
  -- the lists of both parts are the lists of the whole
  | union r q ihr ihq =>
    rw [set, lists, mem_union, ihr, ihq, ← and_or_left]
    simp only [List.mem_append, or_and_right, exists_or]

/-- The members of a recipe are those of the set that it makes. -/
@[simp]
theorem mem_members {r : Recipe} {k : Kind} : k ∈ r.members ↔ k ∈ r.set := by
  rw [members, Finset.mem_erase, List.mem_toFinset, List.mem_flatten, mem_set]

/-- The list of members, as a finite set. -/
theorem toFinset_toList (r : Recipe) : r.set.toList.toFinset = r.members := by
  ext k
  rw [List.mem_toFinset, mem_toList, mem_members]

end Recipe

/-- A mask stands for a finite set of known kinds, in whatever way it is put together from lists of
kinds: the members are the known kinds in the lists, listed each once in declaration order, as many
as bits are set, and two masks are the same if their members are. Making a set at once and kind by
kind are the same, and the laws of unions hold. No kind has a number that is not below the width of
a mask. -/
theorem masks_are_finite_sets :
    (∀ r : Recipe,
      (∀ k, r.set.contains k = true ↔ k ≠ .unknown ∧ ∃ kinds ∈ r.lists, k ∈ kinds) ∧
      r.set.toList.Sublist Kind.all ∧ r.set.toList.Nodup ∧ r.set.toList.toFinset = r.members ∧
      r.set.size = r.members.card ∧
      (r.set.isEmpty = true ↔ r.members = ∅)) ∧
    (∀ r q : Recipe, (r.set.mask = q.set.mask ↔ ∀ k, k ∈ r.set ↔ k ∈ q.set) ∧
      (r.set = q.set ↔ r.members = q.members)) ∧
    (∀ kinds, ofList kinds = empty.insertMany kinds) ∧
    (∀ s t u : KindSet, s.union t = t.union s ∧ (s.union t).union u = s.union (t.union u) ∧
      s.union s = s ∧ s.union empty = s ∧ empty.union s = s) ∧
    ∀ k : Kind, k.index < 64 := by
  refine ⟨fun r => ⟨fun k => Recipe.mem_set, List.filter_sublist, nodup_toList r.set,
    r.toFinset_toList, ?size, ?none⟩, fun r q => ⟨mask_eq_iff, ?same⟩, ofList_eq_insertMany,
    fun s t u => ⟨union_comm s t, union_assoc s t u, union_self s, union_empty s, ?unit⟩, ?width⟩
  case size =>
    rw [size_eq, ← r.toFinset_toList, List.toFinset_card_of_nodup (nodup_toList r.set)]
  case none =>
    rw [isEmpty_iff, Finset.eq_empty_iff_forall_notMem]
    exact forall_congr' fun k => not_congr Recipe.mem_members.symm
  case same =>
    rw [eq_iff, Finset.ext_iff]
    exact forall_congr' fun k => by rw [Recipe.mem_members, Recipe.mem_members]
  case unit => rw [union_comm, union_empty]
  case width =>
    intro k
    by_cases known : k = .unknown
    · subst known
      decide
    · exact Nat.lt_trans (index_lt known) (by decide)

end KindSet

end Adoc
