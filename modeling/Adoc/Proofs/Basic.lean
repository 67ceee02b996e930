import Mathlib.Data.List.DropRight

/-! # Lists and results

Facts on lists, options and results that hold of any data.

* `bind_eq_ok_iff`         a computation of two steps, seen from its result
* `mapM_eq_some_iff`       a list of results that are all there
* `rdropWhile_append_cons` where a run at the end of a list begins
* `lookup_filter`          what a key stands for if other keys are left out -/

namespace Adoc

/-! ## Results -/

section

variable {α β : Type} {ε : Type}

/-- Two steps succeed if the first gives something from which the second succeeds. -/
theorem bind_eq_ok_iff {x : Except ε α} {f : α → Except ε β} {b : β} :
    x >>= f = .ok b ↔ ∃ a, x = .ok a ∧ f a = .ok b := by
  cases x with
  | error e => exact ⟨nofun, fun ⟨_, h, _⟩ => nomatch h⟩
  | ok a =>
    constructor
    · exact fun h => ⟨a, rfl, h⟩
    · intro h
      obtain ⟨c, hc, h⟩ := h
      rw [Except.ok.inj hc]
      exact h

/-- A step that only gives a value gives that value. -/
@[simp]
theorem pure_eq_ok_iff {x y : α} : (pure x : Except ε α) = .ok y ↔ x = y :=
  ⟨Except.ok.inj, congrArg _⟩

/-- What a function makes of a result is there if the result is, and is made of it. -/
theorem map_eq_ok_iff {x : Except ε α} {f : α → β} {b : β} :
    x.map f = .ok b ↔ ∃ a, x = .ok a ∧ f a = b := by
  cases x with
  | error e => exact ⟨nofun, fun ⟨_, h, _⟩ => nomatch h⟩
  | ok a => simp [Except.map]

/-- Making something of a result leaves its error as it is. -/
@[simp]
theorem map_eq_error_iff {x : Except ε α} {f : α → β} {e : ε} :
    x.map f = .error e ↔ x = .error e := by
  cases x <;> simp [Except.map]

end

/-! ## Options -/

section

variable {α β : Type} {f : α → Option β}

/-- A list has all its images if they are there one by one. -/
theorem mapM_eq_some_iff {as : List α} {bs : List β} :
    as.mapM f = some bs ↔ as.map f = bs.map some := by
  induction as generalizing bs with
  | nil => cases bs <;> simp
  | cons a as ih =>
    -- both sides want the first image to be there; the others are left to the induction
    cases h : f a with
    | none => cases bs <;> simp [h]
    | some b =>
      simp only [List.mapM_cons, h, Option.bind_eq_bind, Option.bind_some, Option.bind_eq_some_iff,
        Option.pure_def, Option.some.injEq, ih, List.map_cons]
      cases bs with
      | nil => simp
      | cons b' bs =>
        rw [List.map_cons, List.cons.injEq, Option.some.injEq]
        constructor
        · rintro ⟨bs', images, same⟩
          obtain ⟨rfl, rfl⟩ := List.cons.inj same
          exact ⟨rfl, images⟩
        · rintro ⟨rfl, images⟩
          exact ⟨bs, images, rfl⟩

/-- A part of a list has a part of its images. -/
theorem exists_mapM_of_sublist {as as' : List α} {bs : List β} (part : as'.Sublist as)
    (h : as.mapM f = some bs) : ∃ bs', as'.mapM f = some bs' ∧ bs'.Sublist bs := by
  -- the images of the part are a part of those of the list, and these are all there
  have images := part.map f
  rw [mapM_eq_some_iff.mp h] at images
  obtain ⟨bs', part, images⟩ := List.sublist_map_iff.mp images
  exact ⟨bs', mapM_eq_some_iff.mpr images, part⟩

/-- A list lacks its images if one of them is not there. -/
theorem mapM_eq_none_iff {as : List α} : as.mapM f = none ↔ ∃ a ∈ as, f a = none := by
  induction as with
  | nil => simp
  | cons a as ih =>
    cases h : f a with
    | none => simp [h]
    | some b =>
      simp only [List.mapM_cons, h, Option.bind_eq_bind, Option.bind_some, Option.pure_def,
        Option.bind_eq_none_iff, reduceCtorEq, List.mem_cons, exists_eq_or_imp, false_or, ← ih]
      cases as.mapM f <;> simp

end

/-! ## Runs -/

section

variable {α : Type} {p q : α → Bool}

/-- Tests that agree on a list find the same run at its front. -/
theorem takeWhile_congr {s : List α} (h : ∀ a ∈ s, p a = q a) :
    s.takeWhile p = s.takeWhile q := by
  induction s with
  | nil => rfl
  | cons a s ih =>
    obtain ⟨first, rest⟩ := List.forall_mem_cons.mp h
    rw [List.takeWhile_cons, List.takeWhile_cons, first, ih rest]

/-- A run at the front ends where it does not go on. -/
theorem takeWhile_append_of_ends {run rest : List α} (belongs : ∀ a ∈ run, p a = true)
    (ends : ∀ a ∈ rest.head?, p a = false) :
    (run ++ rest).takeWhile p = run ∧ (run ++ rest).dropWhile p = rest := by
  rw [List.takeWhile_append_of_pos belongs, List.dropWhile_append_of_pos belongs]
  cases rest with
  | nil => exact ⟨List.append_nil run, rfl⟩
  | cons a rest =>
    have other : ¬p a = true := Bool.eq_false_iff.mp (ends a rfl)
    rw [List.takeWhile_cons_of_neg other, List.dropWhile_cons_of_neg other, List.append_nil]
    exact ⟨rfl, rfl⟩

/-- What belongs to the run at the end makes no difference to what is left in front of it. -/
theorem rdropWhile_append_of_pos {s t : List α} (ht : ∀ a ∈ t, p a = true) :
    (s ++ t).rdropWhile p = s.rdropWhile p := by
  -- from the end of `t`, where the run is taken off one element at a time
  induction t using List.reverseRecOn with
  | nil => rw [List.append_nil]
  | append_singleton t a ih =>
    rw [List.forall_mem_append, List.forall_mem_singleton] at ht
    rw [← List.append_assoc, List.rdropWhile_concat_pos p _ a ht.2, ih ht.1]

/-- The run at the end does not go beyond an element that does not belong to it. -/
theorem rdropWhile_append_cons {a : α} (ha : p a = false) (s t : List α) :
    (s ++ a :: t).rdropWhile p = s ++ a :: t.rdropWhile p := by
  induction t using List.reverseRecOn with
  | nil => exact List.rdropWhile_concat_neg p s a (Bool.eq_false_iff.mp ha)
  -- the run takes off the last element, or ends there
  | append_singleton t b ih =>
    rw [← List.cons_append, ← List.append_assoc, List.rdropWhile_concat, List.rdropWhile_concat]
    split
    · exact ih
    · rw [List.append_assoc, List.cons_append]

/-- A run at the end is taken off, and no more than it. -/
theorem rdropWhile_append {s t : List α} (hs : ∀ a ∈ s, p a = false) (ht : ∀ a ∈ t, p a = true) :
    (s ++ t).rdropWhile p = s := by
  rw [rdropWhile_append_of_pos ht, List.rdropWhile_eq_self_iff]
  exact fun some => Bool.eq_false_iff.mp (hs _ (List.getLast_mem some))

end

/-! ## Keys and values -/

section

variable {κ β : Type} [BEq κ] [LawfulBEq κ] {entries : List (κ × β)} {key : κ}

/-- A key stands for nothing if it is not among the keys. -/
theorem lookup_eq_none_iff : entries.lookup key = none ↔ key ∉ entries.map (·.1) := by
  rw [List.lookup_eq_none_iff, List.mem_map]
  constructor
  · rintro other ⟨e, he, rfl⟩
    exact bne_iff_ne.mp (other e he) rfl
  · intro new e he
    exact bne_iff_ne.mpr fun same => new ⟨e, he, same.symm⟩

/-- An entry under another key is passed over. -/
theorem lookup_cons_of_ne {k : κ} {v : β} (h : key ≠ k) :
    List.lookup key ((k, v) :: entries) = entries.lookup key := by
  rw [List.lookup_cons, beq_eq_false_iff_ne.mpr h]

/-- Leaving other keys out changes nothing about a key. -/
theorem lookup_filter {p : κ → Bool} (h : p key = true) :
    (entries.filter (p ·.1)).lookup key = entries.lookup key := by
  induction entries with
  | nil => rfl
  | cons e entries ih =>
    obtain ⟨k, v⟩ := e
    -- an entry under the key is kept, and any other is passed over in both lists
    by_cases same : key = k
    · subst same
      rw [List.filter_cons, if_pos h, List.lookup_cons_self, List.lookup_cons_self]
    · rw [List.filter_cons]
      split
      · rw [lookup_cons_of_ne same, lookup_cons_of_ne same, ih]
      · rw [lookup_cons_of_ne same, ih]

end

end Adoc
