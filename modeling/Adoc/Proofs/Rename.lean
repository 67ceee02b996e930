import Adoc.Proofs.Names

/-! # The languages of names

A name is accepted or not by its characters alone. What identifiers consist of may also stand in the
name of a block behind its first character, so that one language goes on where the other begins.

* `accepts_iff_of_ne`               an identifier consists of characters of identifiers
* `accepts_blockId_append_iff`      what may follow in the name of a block
* `isBlockIdRest_of_accepts_of_ne`  it may be an identifier
* `accepts_append_newline`          no name ends in a newline -/

namespace Adoc

open Text

namespace RenameTarget

/-- An identifier consists of characters of identifiers. -/
theorem accepts_iff_of_ne {target : RenameTarget} (h : target ≠ .blockId) {name : List Char} :
    target.accepts name = true ↔ ∀ c ∈ name, isIdentifierChar c = true := by
  cases target with
  | blockId => exact absurd rfl h
  | includeTagInDocument => exact List.all_eq_true
  | tagDeclaration => exact List.all_eq_true
  | attributeDeclarationName => exact List.all_eq_true

/-- Two names make an identifier together if each of them is one. -/
theorem accepts_append_iff {target : RenameTarget} (h : target ≠ .blockId) {a b : List Char} :
    target.accepts (a ++ b) = true ↔ target.accepts a = true ∧ target.accepts b = true := by
  rw [accepts_iff_of_ne h, accepts_iff_of_ne h, accepts_iff_of_ne h, List.forall_mem_append]

/-- A character of identifiers may follow in the name of a block. -/
theorem isBlockIdRest_of_isIdentifierChar {c : Char} (h : isIdentifierChar c = true) :
    isBlockIdRest c = true := by
  have lowLine : isWord '_' = true := by decide +kernel
  simp only [isIdentifierChar, Bool.or_eq_true, beq_iff_eq] at h
  rw [isBlockIdRest_iff]
  obtain ((h | h) | rfl) | rfl := h
  -- letters and digits are parts of words, and so is the low line
  · exact .inl (by rw [isWord, h]; rfl)
  · exact .inl (by simp only [isWord, h, Bool.or_true, Bool.true_or])
  · exact .inl lowLine
  · exact .inr (by decide)

/-- So an identifier may follow in the name of a block. -/
theorem isBlockIdRest_of_accepts_of_ne {target : RenameTarget} (h : target ≠ .blockId)
    {name : List Char} (accepted : target.accepts name = true) :
    ∀ c ∈ name, isBlockIdRest c = true :=
  fun c hc => isBlockIdRest_of_isIdentifierChar ((accepts_iff_of_ne h).mp accepted c hc)

/-- The name of a block goes on with any characters that may follow in one. -/
theorem accepts_blockId_append_iff {a b : List Char} (h : a ≠ []) :
    blockId.accepts (a ++ b) = true ↔
      blockId.accepts a = true ∧ ∀ c ∈ b, isBlockIdRest c = true := by
  cases a with
  | nil => exact absurd rfl h
  | cons c rest =>
    rw [List.cons_append, accepts, accepts, List.all_append, ← Bool.and_assoc,
      Bool.and_eq_true, List.all_eq_true]

/-- The whole of a name counts: what ends in a newline is none, whatever the target. -/
theorem accepts_append_newline (target : RenameTarget) (name : List Char) :
    target.accepts (name ++ ['\n']) = false := by
  -- a newline may not even follow in the name of a block, which allows more than identifiers do
  have newline : ¬ isBlockIdRest '\n' = true := by decide +kernel
  have last : '\n' ∈ name ++ ['\n'] := List.mem_append_right name List.mem_cons_self
  rw [Bool.eq_false_iff]
  intro accepted
  by_cases h : target = .blockId
  · subst h
    exact newline (isBlockIdRest_of_accepts accepted '\n' last)
  · exact newline (isBlockIdRest_of_accepts_of_ne h accepted '\n' last)

/-- Names are judged character by character, and the two languages of names fit together. Two names
make an identifier if each of them is one, so that a single bad character makes a bad name, a
newline at the end among them. The name of a block is not empty; each part at its front is one
again, and it may go on with another such name or with an identifier. An identifier that starts with
a letter or a low line is the name of a block. A node that is no target of a rename accepts no
name. -/
theorem names_fit_together :
    (∀ target : RenameTarget, target ≠ .blockId →
      target.accepts [] = true ∧
      (∀ a b, target.accepts (a ++ b) = true ↔
        target.accepts a = true ∧ target.accepts b = true) ∧
      (∀ a c b, target.accepts [c] = false → target.accepts (a ++ c :: b) = false) ∧
      (∀ a, target.accepts (a ++ ['\n']) = false) ∧
      (∀ b, blockId.accepts b = true ∨ target.accepts b = true →
        ∀ a, blockId.accepts a = true → blockId.accepts (a ++ b) = true) ∧
      ∀ c rest, isAlphabetic c = true ∨ c = '_' →
        target.accepts (c :: rest) = true → blockId.accepts (c :: rest) = true) ∧
    blockId.accepts [] = false ∧
    (∀ a b, a ≠ [] → blockId.accepts (a ++ b) = true → blockId.accepts a = true) ∧
    (∀ a, blockId.accepts (a ++ ['\n']) = false) ∧
    ∀ n : Node, n.renameTarget? = none → ∀ name, n.acceptsName name = false := by
  refine ⟨fun target h => ⟨?empty, fun a b => accepts_append_iff h, ?bad,
    accepts_append_newline target, ?goesOn, ?starts⟩, rfl, ?front, accepts_append_newline blockId,
    ?noTarget⟩
  case empty =>
    rw [accepts_iff_of_ne h]
    exact fun c hc => absurd hc List.not_mem_nil
  case bad =>
    intro a c b bad
    rw [Bool.eq_false_iff] at bad ⊢
    intro accepted
    -- the bad character is a name of its own in the middle of the others
    rw [← List.singleton_append, accepts_append_iff h, accepts_append_iff h] at accepted
    exact bad accepted.2.1
  case goesOn =>
    intro b accepted a front
    -- no block has the empty name, and so there is a first character in front
    have nonempty : a ≠ [] := by
      rintro rfl
      exact nomatch front
    refine (accepts_blockId_append_iff nonempty).mpr ⟨front, ?_⟩
    obtain accepted | accepted := accepted
    · exact isBlockIdRest_of_accepts accepted
    · exact isBlockIdRest_of_accepts_of_ne h accepted
  case starts =>
    intro c rest start accepted
    have others := isBlockIdRest_of_accepts_of_ne h accepted
    -- the first character is asked for more than the others
    refine accepts_blockId_iff.mpr ⟨c, rest, rfl, ?_, (List.forall_mem_cons.mp others).2⟩
    simp only [isBlockIdStart, Bool.or_eq_true, beq_iff_eq]
    exact .inl (.inl start)
  case front =>
    intro a b nonempty accepted
    exact ((accepts_blockId_append_iff nonempty).mp accepted).1
  case noTarget =>
    intro n noTarget name
    rw [Node.acceptsName, noTarget]
    rfl

/-- Identifiers of two scripts make one together, but not with a space between them. Each of them is
the name of a block too, and what is made of the first and a version number is another. -/
theorem two_scripts_named :
    attributeDeclarationName ≠ blockId ∧
    attributeDeclarationName.accepts "größe".toList = true ∧
    attributeDeclarationName.accepts "版本-2".toList = true ∧
    attributeDeclarationName.accepts ("größe".toList ++ "版本-2".toList) = true ∧
    attributeDeclarationName.accepts [' '] = false ∧
    attributeDeclarationName.accepts ("größe".toList ++ ' ' :: "版本-2".toList) = false ∧
    isAlphabetic '版' = true ∧ blockId.accepts "版本-2".toList = true ∧
    blockId.accepts ":1.2".toList = true ∧
    blockId.accepts ("版本-2".toList ++ ":1.2".toList) = true ∧
    ("版本".toList ≠ [] ∧ blockId.accepts ("版本".toList ++ "-2".toList) = true) ∧
    blockId.accepts "版本".toList = true ∧
    (Node.token .text 0 "版本").renameTarget? = none ∧
    (Node.token .text 0 "版本").acceptsName "版本".toList = false := by
  have other : attributeDeclarationName ≠ blockId := by decide
  have name : attributeDeclarationName.accepts "größe".toList = true := by decide +kernel
  have name' : attributeDeclarationName.accepts "版本-2".toList = true := by decide +kernel
  have space : attributeDeclarationName.accepts [' '] = false := by decide +kernel
  have letter : isAlphabetic '版' = true := by decide +kernel
  have version : blockId.accepts ":1.2".toList = true := by decide +kernel
  have split : "版本".toList ≠ [] ∧ blockId.accepts ("版本".toList ++ "-2".toList) = true :=
    ⟨by decide, by decide +kernel⟩
  obtain ⟨-, append, bad, -, goesOn, starts⟩ := names_fit_together.1 _ other
  have block := starts '版' "本-2".toList (.inl letter) name'
  exact ⟨other, name, name', (append _ _).mpr ⟨name, name'⟩, space, bad _ _ _ space, letter, block,
    version, goesOn _ (.inl version) _ block, split,
    names_fit_together.2.2.1 _ _ split.1 split.2, rfl,
    names_fit_together.2.2.2.2 _ rfl _⟩

end RenameTarget

end Adoc
