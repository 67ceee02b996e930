import Adoc.Kind

/-! # Sets of known kinds

A `KindSet` keeps one bit of a 64-bit mask for each known kind, the kind's position in `Kind.all`.
`unknown` has no bit, so it is a member of no set. The invariant that no bit lies beyond the known
kinds is carried as a proof field; it makes two sets with the same members the same mask.

A set is read by membership, and the operations are described through it:

* `mem_iff_getLsbD`  a known kind is a member if its bit is set
* `not_mem_empty`    the empty set has no members
* `mem_insert`       inserting adds exactly the kind, unless it is `unknown`
* `mem_union`        a union has the members of both sets
* `mem_insertMany`   inserting one by one adds the known kinds of the list
* `mem_ofList`       the members of `ofList ks` are the known kinds among `ks` -/

namespace Adoc

/-- The mask bit of a kind; `unknown` has none. -/
def Kind.bit (k : Kind) : BitVec 64 :=
  if k = .unknown then 0#64 else 1#64 <<< k.index

/-- The numbers of the known kinds are those below 52. -/
theorem Kind.index_lt {k : Kind} (h : k ≠ .unknown) : k.index < 52 :=
  List.idxOf_lt_length_iff.mpr (mem_all_iff.mpr h)

/-- A known kind shares its number with no other kind. -/
theorem Kind.index_inj {j k : Kind} (h : j ≠ .unknown) : j.index = k.index ↔ j = k := by
  constructor
  · intro same
    have found {i : Kind} (hi : i.index < all.length) : all[i.index]? = some i := by
      rw [List.getElem?_eq_getElem hi]
      exact congrArg some (List.getElem_idxOf hi)
    have there : j.index < all.length := index_lt h
    apply Option.some.inj
    rw [← found there, ← found (same ▸ there), same]
  · exact congrArg index

@[simp]
theorem Kind.bit_unknown : Kind.unknown.bit = 0#64 := if_pos rfl

/-- The bit of a known kind is a power of two, by the number of the kind. -/
theorem Kind.bit_of_ne {k : Kind} (h : k ≠ .unknown) : k.bit = BitVec.twoPow 64 k.index := by
  rw [bit, if_neg h, BitVec.twoPow_eq]

/-- The bits that belong to no kind are not set in the bit of any. -/
private theorem Kind.bit_clear (k : Kind) : k.bit >>> 52 = 0#64 := by
  cases k <;> decide

/-- A set of known kinds. -/
structure KindSet where
  mask : BitVec 64
  /-- No bit lies beyond those of the known kinds. -/
  clear : mask >>> 52 = 0#64
deriving DecidableEq

namespace KindSet

/-- The set without members. -/
def empty : KindSet := ⟨0#64, by decide⟩

/-- The kinds that are in `s` or in `t`. -/
def union (s t : KindSet) : KindSet :=
  ⟨s.mask ||| t.mask, by rw [BitVec.ushiftRight_or_distrib, s.clear, t.clear]; rfl⟩

/-- Add `k` to `s`; `unknown` adds nothing. -/
def insert (s : KindSet) (k : Kind) : KindSet :=
  s.union ⟨k.bit, k.bit_clear⟩

/-- Add all of `ks` to `s`, from left to right. -/
def insertMany (s : KindSet) (ks : List Kind) : KindSet :=
  ks.foldl insert s

/-- The set of the known kinds among `ks`. -/
def ofList : List Kind → KindSet
  | [] => empty
  | k :: ks => (ofList ks).insert k

/-- Is `k` a member? -/
def contains (s : KindSet) (k : Kind) : Bool :=
  s.mask &&& k.bit != 0#64

/-- The number of members: that of the bits set. -/
def size (s : KindSet) : Nat :=
  (List.range 64).countP s.mask.getLsbD

/-- Is there no member? -/
def isEmpty (s : KindSet) : Bool := s.mask == 0#64

/-- The members in declaration order. -/
def toList (s : KindSet) : List Kind := Kind.all.filter s.contains

instance : Membership Kind KindSet := ⟨fun s k => s.contains k = true⟩

instance (s : KindSet) (k : Kind) : Decidable (k ∈ s) :=
  inferInstanceAs (Decidable (s.contains k = true))

/-- Membership is what `contains` says. -/
theorem mem_iff_contains {s : KindSet} {k : Kind} : k ∈ s ↔ s.contains k = true := Iff.rfl

/-- The unknown kind has no bit that could be set. -/
@[simp]
theorem not_mem_unknown (s : KindSet) : Kind.unknown ∉ s := by
  rw [mem_iff_contains, contains, Kind.bit_unknown, BitVec.and_zero]
  exact Bool.false_ne_true

/-- A known kind is a member if its bit is set. -/
theorem mem_iff_getLsbD {s : KindSet} {k : Kind} (h : k ≠ .unknown) :
    k ∈ s ↔ s.mask.getLsbD k.index = true := by
  have width : k.index < 64 := Nat.lt_trans (Kind.index_lt h) (by decide)
  have nonzero : BitVec.twoPow 64 k.index ≠ 0#64 := by
    intro zero
    -- the bit of the kind itself is set in the power
    have bit := congrArg (·.getLsbD k.index) zero
    rw [BitVec.getLsbD_twoPow, decide_eq_true width, decide_eq_true rfl,
      BitVec.getLsbD_zero] at bit
    exact nomatch bit
  rw [mem_iff_contains, contains, Kind.bit_of_ne h, BitVec.and_twoPow]
  split
  · rename_i set
    exact iff_of_true (bne_iff_ne.mpr nonzero) set
  · rename_i clear
    exact iff_of_false (by rw [bne_self_eq_false]; exact Bool.false_ne_true) clear

@[simp]
theorem not_mem_empty (k : Kind) : k ∉ empty := by
  simp [mem_iff_contains, contains, empty]

/-- A union has the members of both sets: its mask has the bits of both. -/
@[simp]
theorem mem_union {s t : KindSet} {k : Kind} : k ∈ s.union t ↔ k ∈ s ∨ k ∈ t := by
  simp only [mem_iff_contains, contains, union, bne_iff_ne, ne_eq, BitVec.and_or_distrib_right,
    BitVec.or_eq_zero_iff]
  exact Decidable.not_and_iff_or_not

/-- The mask of one bit has the kind of that bit as its member. -/
private theorem mem_singleton (j k : Kind) :
    k ∈ (⟨j.bit, j.bit_clear⟩ : KindSet) ↔ k = j ∧ k ≠ .unknown := by
  -- the unknown kind is in neither; for the others the bits are compared, and they have different
  -- bits
  by_cases known : k = .unknown
  · subst known
    exact iff_of_false (not_mem_unknown _) fun h => h.2 rfl
  rw [mem_iff_getLsbD known, and_iff_left known]
  show j.bit.getLsbD k.index = true ↔ k = j
  by_cases empty : j = .unknown
  · rw [empty, Kind.bit_unknown, BitVec.getLsbD_zero]
    exact iff_of_false Bool.false_ne_true known
  · have width : j.index < 64 := Nat.lt_trans (Kind.index_lt empty) (by decide)
    rw [Kind.bit_of_ne empty, BitVec.getLsbD_twoPow, decide_eq_true width, Bool.true_and,
      decide_eq_true_iff, Kind.index_inj empty, eq_comm]

/-- Inserting a kind adds that kind, if it is known. -/
@[simp]
theorem mem_insert {s : KindSet} {j k : Kind} :
    k ∈ s.insert j ↔ k ∈ s ∨ k = j ∧ k ≠ .unknown := by
  rw [insert, mem_union, mem_singleton]

/-- Inserting one by one adds the known kinds of the list. -/
@[simp]
theorem mem_insertMany {s : KindSet} {ks : List Kind} {k : Kind} :
    k ∈ s.insertMany ks ↔ k ∈ s ∨ k ∈ ks ∧ k ≠ .unknown := by
  induction ks generalizing s with
  | nil => simp [insertMany]
  | cons j ks ih =>
    rw [insertMany, List.foldl_cons, ← insertMany, ih, mem_insert, List.mem_cons, or_assoc,
      ← or_and_right]

/-- The set of a list has the known kinds of the list. -/
@[simp]
theorem mem_ofList {ks : List Kind} {k : Kind} : k ∈ ofList ks ↔ k ∈ ks ∧ k ≠ .unknown := by
  induction ks with
  | nil => simp [ofList]
  | cons j ks ih => rw [ofList, mem_insert, ih, List.mem_cons, ← or_and_right, or_comm]

/-- Kinds that hold whole sentences and are checked as units of their own. -/
def checkRoots : KindSet :=
  ofList [.heading, .headingOldstyle, .titleToken, .lineComment, .blockComment, .literalBlock,
    .blockRefText, .section, .block]

/-- Kinds whose text belongs to the sentences of the unit around them. White space is among them:
without it, neighbouring words would run together. -/
def textKinds : KindSet :=
  (ofList [.text, .italic, .bold, .boldItalic, .mono, .monoBold, .description, .linkText,
    .blockRefText, .monoItalic, .monoBoldItalic, .endOfSentence, .lparen, .rparen, .lbracket,
    .rbracket, .bullet, .whiteSpace, .whiteSpaceMono, .hostWhiteSpace, .url, .ref, .link,
    .monoRun, .italicRun]).union checkRoots

end KindSet

end Adoc
