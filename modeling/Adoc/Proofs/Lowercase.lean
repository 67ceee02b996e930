import Adoc.Text.Lowercase

/-! # Texts in lower case

A text is in lower case if each of its characters is its own lower case, and putting a text into
lower case gives such a text. That no capital is the lower case of another one is read off the
table, run by run.

* `isLower_of_mem_lowercase`  what a text in lower case consists of
* `lowercase_eq_self_iff`     the texts that are in lower case -/

namespace Adoc.Text

/-- Is the character its own lower case? -/
def IsLower (c : Char) : Prop := lowerChar c = [c]

instance (c : Char) : Decidable (IsLower c) := inferInstanceAs (Decidable (_ = _))

namespace CapitalRun

/-- Is no capital of `q` the lower case of one of `r`? Either the lower cases of `r` lie on one side
of `q`, or they are every other code point among the capitals of `q`. -/
def spares (r q : CapitalRun) : Bool :=
  r.target + (r.last - r.first) < q.first || q.last < r.target ||
    q.stride == 2 && (r.stride == 2 || r.first == r.last) && (r.target + q.first) % 2 == 1

/-- Are the lower cases of `r` characters, and the dotted capital I not among them? -/
def sound (r : CapitalRun) : Bool :=
  (r.target + (r.last - r.first) < 0xD800 || 0xDFFF < r.target) &&
    r.target + (r.last - r.first) < 0x110000 &&
    (r.target + (r.last - r.first) < 0x130 || 0x130 < r.target)

/-- A run holds the code points between its ends that are a whole number of steps from its start. -/
theorem contains_iff {r : CapitalRun} {n : Nat} :
    r.contains n = true ↔ r.first ≤ n ∧ n ≤ r.last ∧ (n - r.first) % r.stride = 0 := by
  simp [contains, and_assoc]

/-- A run that is spared holds no lower case of the other run. They do not meet, or both go in steps
of two and never come to the same parity. -/
theorem not_contains_of_spares {r q : CapitalRun} (h : r.spares q = true) {n : Nat}
    (capital : r.contains n = true) : q.contains (r.target + (n - r.first)) = false := by
  rw [Bool.eq_false_iff]
  intro capital'
  obtain ⟨first, last, step⟩ := contains_iff.mp capital
  obtain ⟨first', last', step'⟩ := contains_iff.mp capital'
  simp only [spares, Bool.or_eq_true, Bool.and_eq_true, decide_eq_true_eq, beq_iff_eq] at h
  obtain (apart | apart) | ⟨⟨stride', stride | single⟩, odd⟩ := h
  · omega
  · omega
  · rw [stride] at step
    rw [stride'] at step'
    omega
  · rw [stride'] at step'
    omega

end CapitalRun

/-- Every run of the table is sound, and none holds a lower case of any. -/
private theorem capitalRuns_spare :
    (capitalRuns.all fun r => r.sound && capitalRuns.all fun q => r.spares q) = true := by
  decide +kernel

/-- What is in no run of capitals is its own lower case, but for the dotted capital I. -/
theorem isLower_of_not_contains {c : Char} (dotted : c ≠ '\u0130')
    (h : ∀ r ∈ capitalRuns, r.contains c.toNat = false) : IsLower c := by
  have none : capitalRuns.find? (·.contains c.toNat) = none :=
    List.find?_eq_none.mpr fun r hr => Bool.eq_false_iff.mp (h r hr)
  rw [IsLower, lowerChar, if_neg dotted, none]

/-- A code point that is a character is the one of that character. -/
private theorem toNat_ofNat {n : Nat} (h : n.isValidChar) : (Char.ofNat n).toNat = n := by
  rw [Char.ofNat, dif_pos h]
  rfl

/-- The lower case of a character is in lower case. -/
theorem isLower_of_mem_lowerChar {c d : Char} (h : d ∈ lowerChar c) : IsLower d := by
  unfold lowerChar at h
  split at h
  -- the dotted capital I has two characters for its lower case
  · have parts : IsLower 'i' ∧ IsLower '\u0307' := by decide +kernel
    exact List.forall_mem_cons.mpr ⟨parts.1, List.forall_mem_singleton.mpr parts.2⟩ d h
  · rename_i dotted
    split at h
    · rename_i r found
      obtain rfl := List.mem_singleton.mp h
      have capital : r.contains c.toNat = true := by simpa using List.find?_some found
      have all := List.all_eq_true.mp capitalRuns_spare r (List.mem_of_find?_eq_some found)
      rw [Bool.and_eq_true, List.all_eq_true] at all
      obtain ⟨sound, spares⟩ := all
      simp only [CapitalRun.sound, Bool.and_eq_true, Bool.or_eq_true, decide_eq_true_eq] at sound
      obtain ⟨first, last, -⟩ := CapitalRun.contains_iff.mp capital
      -- the table gives no code points between the surrogates, so that this is one of a character
      have valid : (r.target + (c.toNat - r.first)).isValidChar := by
        unfold Nat.isValidChar
        omega
      have code := toNat_ofNat valid
      apply isLower_of_not_contains
      -- by the check on the table `d` is neither the dotted capital I nor a capital of any run
      · intro same
        rw [same] at code
        have dotted : '\u0130'.toNat = 0x130 := rfl
        omega
      · intro q hq
        rw [code]
        exact CapitalRun.not_contains_of_spares (spares q hq) capital
    · rename_i none
      obtain rfl := List.mem_singleton.mp h
      rw [IsLower, lowerChar, if_neg dotted, none]

/-- Both forms of the small sigma are in lower case. -/
theorem isLower_lowerSigma (before after : List Char) : IsLower (lowerSigma before after) := by
  have sigmas : IsLower 'ς' ∧ IsLower 'σ' := by decide +kernel
  rw [lowerSigma]
  split
  · exact sigmas.1
  · exact sigmas.2

/-- A text that was put into lower case consists of characters in lower case. -/
theorem isLower_of_mem_lowercaseAfter {before s : List Char} {c : Char}
    (h : c ∈ lowercaseAfter before s) : IsLower c := by
  induction s generalizing before with
  | nil => exact nomatch h
  | cons d s ih =>
    rw [lowercaseAfter] at h
    obtain here | rest := List.mem_append.mp h
    -- a capital sigma is looked at with what stands around it
    · split at here
      · rw [List.mem_singleton.mp here]
        exact isLower_lowerSigma before s
      · exact isLower_of_mem_lowerChar here
    · exact ih rest

/-- A text that was put into lower case is in lower case. -/
theorem isLower_of_mem_lowercase {s : List Char} {c : Char} (h : c ∈ lowercase s) : IsLower c :=
  isLower_of_mem_lowercaseAfter h

/-- Characters in lower case are left as they are. A capital sigma is none of them, so that what
stands around does not matter. -/
theorem lowercaseAfter_eq_self {before s : List Char} (h : ∀ c ∈ s, IsLower c) :
    lowercaseAfter before s = s := by
  induction s generalizing before with
  | nil => rfl
  | cons c s ih =>
    obtain ⟨lower, others⟩ := List.forall_mem_cons.mp h
    have sigma : c ≠ 'Σ' := by
      rintro rfl
      exact absurd lower (by decide +kernel)
    rw [lowercaseAfter, if_neg sigma, lower, ih others]
    rfl

/-- A text is in lower case if all its characters are. -/
theorem lowercase_eq_self_iff {s : List Char} : lowercase s = s ↔ ∀ c ∈ s, IsLower c := by
  constructor
  · intro h c hc
    rw [← h] at hc
    exact isLower_of_mem_lowercase hc
  · exact lowercaseAfter_eq_self

end Adoc.Text
