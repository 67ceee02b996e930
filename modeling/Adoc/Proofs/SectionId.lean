import Adoc.Proofs.Anchor
import Adoc.Proofs.Decimal

/-! # Generated ids as explicit ids

What is left of a title when it is cleaned and its words are joined is made of parts of words alone.
So a generated id may be the name of a block, and nothing in it ends an id in an anchor: written
down as an anchor of its section, it is the section's id again.

* `isWord_of_mem_generate`  a generated id consists of parts of words
* `accepts_generate`        it may be the name of a block
* `keyNames_iff`            an id is named by itself and by itself with digits behind it -/

namespace Adoc

open Text

namespace SectionId

/-! ## The characters of an id -/

/-- What is left of a title when it is cleaned may remain in it. -/
theorem isValid_of_mem_clean {s : List Char} {c : Char} (h : c ∈ clean s) : isValid c = true := by
  fun_induction clean s with
  | case1 => exact nomatch h
  | case2 _ _ _ _ ih => exact ih h
  | case3 _ _ _ _ _ ih => exact ih h
  | case4 d s _ _ valid ih =>
    obtain rfl | h := List.mem_cons.mp h
    · exact valid
    · exact ih h
  | case5 _ _ _ _ _ ih => exact ih h

/-- What joining writes is a separator, or it stands in the text and separates nothing. -/
theorem mem_joinFrom {separated : Bool} {s : List Char} {c : Char} (h : c ∈ joinFrom separated s) :
    c = separator ∨ c ∈ s ∧ isSeparator c = false := by
  induction s generalizing separated with
  | nil => exact nomatch h
  | cons d s ih =>
    -- whatever is written for the first character, the others are joined in the same way
    have rest {b : Bool} (h : c ∈ joinFrom b s) :
        c = separator ∨ c ∈ d :: s ∧ isSeparator c = false :=
      (ih h).imp_right fun mem => ⟨List.mem_cons_of_mem d mem.1, mem.2⟩
    rw [joinFrom] at h
    split at h
    · split at h
      · exact rest h
      · obtain rfl | h := List.mem_cons.mp h
        · exact .inl rfl
        · exact rest h
    · rename_i word
      obtain rfl | h := List.mem_cons.mp h
      · exact .inr ⟨List.mem_cons_self, Bool.eq_false_iff.mpr word⟩
      · exact rest h

/-- The same of an id, which is a joined text without a separator at its end. -/
theorem mem_join {s : List Char} {c : Char} (h : c ∈ join s) :
    c = separator ∨ c ∈ s ∧ isSeparator c = false := by
  -- to drop a separator at the end leaves nothing in the id that was not there
  have kept : c ∈ separator :: joinFrom true s := by
    rw [join, dropLastSeparator] at h
    split at h
    · exact (List.dropLast_sublist _).subset h
    · exact h
  obtain rfl | kept := List.mem_cons.mp kept
  · exact .inl rfl
  · exact mem_joinFrom kept

/-- A generated id consists of parts of words. -/
theorem isWord_of_mem_generate {title : List Char} {c : Char} (h : c ∈ generate title) :
    isWord c = true := by
  obtain rfl | ⟨kept, word⟩ := mem_join h
  · have lowLine : isWord separator = true := by decide +kernel
    exact lowLine
  · -- what may remain of a title and does not separate words is part of one
    have valid := isValid_of_mem_clean kept
    simp only [isSeparator, Bool.or_eq_false_iff] at word
    simpa [isValid, word] using valid

/-- An id starts with a separator, unless it is empty. -/
theorem join_eq_nil_or_cons (s : List Char) :
    join s = [] ∨ ∃ rest, join s = separator :: rest := by
  rw [join, dropLastSeparator]
  split
  -- the separator that is dropped is the one at the start if nothing else was joined
  · cases joinFrom true s with
    | nil => exact .inl rfl
    | cons c rest => exact .inr ⟨_, rfl⟩
  · exact .inr ⟨_, rfl⟩

/-- A generated id may be the name of a block. -/
theorem accepts_generate {title : List Char} (h : generate title ≠ []) :
    RenameTarget.blockId.accepts (generate title) = true := by
  obtain none | ⟨rest, some⟩ := join_eq_nil_or_cons (clean (lowercase title))
  · exact absurd none h
  · refine RenameTarget.accepts_blockId_iff.mpr ⟨separator, rest, some, by decide +kernel, ?_⟩
    intro d hd
    have mem : d ∈ generate title := by
      rw [generate, some]
      exact List.mem_cons_of_mem _ hd
    exact RenameTarget.isBlockIdRest_iff.mpr (.inl (isWord_of_mem_generate mem))

/-- The id with digits behind it, as it is repeated. -/
def numbered (id digits : List Char) : List Char := id ++ separator :: digits

end SectionId

namespace Section

/-! ## Keys -/

/-- An id is named by itself and by itself with digits behind it. -/
theorem keyNames_iff {id key : List Char} :
    keyNames id key = true ↔ id ≠ [] ∧
      (key = id ∨ ∃ digits, Decimal.IsDigits digits ∧ key = SectionId.numbered id digits) := by
  rw [keyNames, Bool.and_eq_true, Bool.not_eq_true', List.isEmpty_eq_false_iff]
  refine and_congr_right fun _ => ?_
  -- what is left of the key behind the id is nothing, or a separator and the digits
  constructor
  · intro named
    split at named
    · exact nomatch named
    · rename_i found
      left
      rw [strip?_eq_some_iff.mp found, List.append_nil]
    · rename_i c digits found
      rw [Bool.and_assoc, Bool.and_eq_true, beq_iff_eq, ← Decimal.isDigits_iff] at named
      obtain ⟨rfl, hd⟩ := named
      exact .inr ⟨digits, hd, strip?_eq_some_iff.mp found⟩
  · rintro (rfl | ⟨digits, hd, rfl⟩)
    · have found : strip? key key = some [] := strip?_eq_some_iff.mpr (List.append_nil key).symm
      rw [found]
    · have found : strip? id (SectionId.numbered id digits) =
          .some (SectionId.separator :: digits) := strip?_eq_some_iff.mpr rfl
      rw [found]
      show (SectionId.separator == SectionId.separator && !digits.isEmpty &&
        digits.all (·.isDigit)) = true
      rwa [Bool.and_assoc, beq_self_eq_true, Bool.true_and, ← Decimal.isDigits_iff]

/-- An id that is not empty names itself. -/
theorem keyNames_self {id : List Char} (h : id ≠ []) : keyNames id id = true :=
  keyNames_iff.mpr ⟨h, .inl rfl⟩

/-! ## Ids in anchors -/

/-- A generated id comes back from an anchor of either form. -/
private theorem blockId?_of_generate {s : Section} {anchor : Node} {shorthand : Bool}
    {title : List Char} (notEmpty : SectionId.generate title ≠ [])
    (first : s.node.childOfKind? .blockId = some anchor)
    (spelled : (⟨shorthand, SectionId.generate title⟩ : AnchorBody).SpelledBy anchor) :
    s.blockId? = some (SectionId.generate title) := by
  -- an id ends where the generated one does
  have whole : ((SectionId.generate title).takeWhile fun c => !AnchorBody.endsId shorthand c) =
      SectionId.generate title := by
    rw [List.takeWhile_eq_self_iff]
    intro c hc
    -- no part of a word ends an id
    have kept : AnchorBody.endsId shorthand c = false :=
      AnchorBody.endsId_eq_false (p := isWord) (by decide +kernel)
        (SectionId.isWord_of_mem_generate hc) shorthand
    rw [kept, Bool.not_false]
  rw [blockId?_of_accepts (SectionId.accepts_generate notEmpty) first spelled, whole]

/-- Generated ids are legal explicit ids and survive being written down as one. If something is left
of a title, the id made from it may be the name of a block, and an anchor of either form with it, as
a token or in parts, gives a section just this id. Hence a section with an anchor of its own
generated id has the same id by both ways, and is found by it. -/
theorem generated_ids_survive_as_anchors :
    (∀ title, SectionId.generate title ≠ [] →
      RenameTarget.blockId.accepts (SectionId.generate title) = true ∧
      ∀ (s : Section) (anchor : Node) (shorthand : Bool),
        s.node.childOfKind? .blockId = some anchor →
          (⟨shorthand, SectionId.generate title⟩ : AnchorBody).SpelledBy anchor →
            s.blockId? = some (SectionId.generate title)) ∧
    ∀ (s : Section) (anchor : Node) (shorthand : Bool), s.autoId ≠ [] →
      s.node.childOfKind? .blockId = some anchor →
        (⟨shorthand, s.autoId⟩ : AnchorBody).SpelledBy anchor →
          s.blockId? = some s.autoId ∧ s.blockId?.any s.matchesAutoId = true := by
  constructor
  · intro title notEmpty
    exact ⟨SectionId.accepts_generate notEmpty, fun _ _ _ => blockId?_of_generate notEmpty⟩
  · intro s anchor shorthand notEmpty first spelled
    have read : s.blockId? = some s.autoId := blockId?_of_generate notEmpty first spelled
    refine ⟨read, ?_⟩
    rw [read, Option.any_some, matchesAutoId]
    exact keyNames_self notEmpty

/-- The anchor `[#_ça_va_2]`. -/
private def ownAnchor : Node := .token .blockId 0 "[#_ça_va_2]"

/-- A section with the anchor that its title would give it. -/
private def ownAnchored : Section :=
  ⟨.ofChildren .section [ownAnchor, .token .newline 12 "\n",
    .token .heading 13 "== Ça <em>va</em> 2?"], rfl⟩

/-- In a title with markup and an accent, only parts of words are left for the id. -/
theorem ownAnchored_found :
    SectionId.generate ownAnchored.title ≠ [] ∧ ownAnchored.autoId ≠ [] ∧
    ownAnchored.node.childOfKind? .blockId = some ownAnchor ∧
    (⟨true, ownAnchored.autoId⟩ : AnchorBody).SpelledBy ownAnchor ∧
    RenameTarget.blockId.accepts ownAnchored.autoId = true ∧
    ownAnchored.blockId? = some ownAnchored.autoId ∧
    ownAnchored.blockId?.any ownAnchored.matchesAutoId = true := by
  have id : ownAnchored.autoId = "_ça_va_2".toList := by decide +kernel
  have notEmpty : ownAnchored.autoId ≠ [] := by
    rw [id]
    decide
  have spelled : (⟨true, ownAnchored.autoId⟩ : AnchorBody).SpelledBy ownAnchor := by
    rw [id]
    exact .token rfl rfl
  have legal := generated_ids_survive_as_anchors.1 ownAnchored.title notEmpty
  have found := generated_ids_survive_as_anchors.2 ownAnchored ownAnchor true notEmpty rfl spelled
  exact ⟨notEmpty, notEmpty, rfl, spelled, legal.1, found⟩

end Section

end Adoc
