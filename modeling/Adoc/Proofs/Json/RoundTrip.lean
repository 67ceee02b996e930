import Adoc.Json.Text
import Adoc.Proofs.Json.Numeral
import Adoc.Proofs.Json.Quoted

/-! # JSON values are read as they are written

Values whose strings are texts, whose numbers are natural numbers and whose brackets are closed
are written without loss: reading gives the same value and stops where its text ends.

* `readValue_print`  reading a written value, whatever follows it
* `read_print`       reading a text that is a written value -/

namespace Adoc.Json

mutual

/-- Is nothing lost in writing the value? -/
def IsPlain : Json → Prop
  | .null | .boolean _ => True
  | .number n => ∃ k, n = .ofNat k
  | .string text => text.isSome = true
  | .array items closed => ArePlain items ∧ closed = true
  | .object members closed => MembersArePlain members ∧ closed = true
  | .broken => False

/-- Is nothing lost in writing the values? -/
def ArePlain : List Json → Prop
  | [] => True
  | v :: vs => v.IsPlain ∧ ArePlain vs

/-- Is nothing lost in writing the members? -/
def MembersArePlain : List (Option String × Json) → Prop
  | [] => True
  | (key, v) :: ms => key.isSome = true ∧ v.IsPlain ∧ MembersArePlain ms

end

/-! ## One step of the reader -/

/-- No space is skipped where none stands. -/
theorem skipSpace_cons {c : Char} (h : isSpace c = false) (s : List Char) :
    skipSpace (c :: s) = c :: s := by
  rw [skipSpace, List.dropWhile_cons, h]
  rfl

/-- Behind an opening bracket stands an item, unless the array is empty. -/
theorem readValue_bracket (r : List Char) :
    readValue ('[' :: r) =
      match skipSpace r with
      | ']' :: rest => (.array [] true, rest)
      | _ => (.array (readItems r).1 (readItems r).2.1, (readItems r).2.2) := by
  rw [readValue]
  rfl

/-- Behind an opening brace stands a member, unless the object is empty. -/
theorem readValue_brace (r : List Char) :
    readValue ('\x7b' :: r) =
      match skipSpace r with
      | '\x7d' :: rest => (.object [] true, rest)
      | _ => (.object (readMembers r).1 (readMembers r).2.1, (readMembers r).2.2) := by
  rw [readValue]
  rfl

/-- What begins with no bracket is read as a value without parts. -/
theorem readValue_scalar {c : Char} (space : isSpace c = false) (array : c ≠ '[')
    (object : c ≠ '\x7b') (r : List Char) : readValue (c :: r) = readScalar (c :: r) := by
  rw [readValue]
  split
  · rename_i h
    rw [skipSpace_cons space] at h
    exact absurd (List.cons.inj h).1 array
  · rename_i h
    rw [skipSpace_cons space] at h
    exact absurd (List.cons.inj h).1 object
  · rw [skipSpace_cons space]

/-- The item in front of the closing bracket is the last. -/
theorem readItems_close {s rest : List Char} {v : Json} (h : readValue s = (v, ']' :: rest)) :
    readItems s = ([v], true, rest) := by
  rw [readItems, h]
  rfl

/-- Behind a comma the items go on. -/
theorem readItems_comma {s r : List Char} {v : Json} (h : readValue s = (v, ',' :: r))
    (lt : r.length < s.length) :
    readItems s = (v :: (readItems r).1, (readItems r).2.1, (readItems r).2.2) := by
  rw [readItems, h]
  exact dif_pos lt

/-- The member in front of the closing brace is the last. -/
theorem readMembers_close {s r rest : List Char} {key : Option String} {v : Json}
    (hk : readKey s = some (key, r)) (lt : r.length < s.length)
    (hv : readValue r = (v, '\x7d' :: rest)) : readMembers s = ([(key, v)], true, rest) := by
  rw [readMembers, hk]
  simp only [dif_pos lt, hv]
  rfl

/-- Behind a comma the members go on. -/
theorem readMembers_comma {s r r' : List Char} {key : Option String} {v : Json}
    (hk : readKey s = some (key, r)) (lt : r.length < s.length)
    (hv : readValue r = (v, ',' :: r')) (lt' : r'.length < s.length) :
    readMembers s =
      ((key, v) :: (readMembers r').1, (readMembers r').2.1, (readMembers r').2.2) := by
  rw [readMembers, hk]
  simp only [dif_pos lt, hv]
  exact dif_pos lt'

/-- A written key is read with the colon behind it. -/
theorem readKey_print (key : String) (r : List Char) :
    readKey (printString key ++ ':' :: r) = some (some key, r) := by
  -- behind the quotation mark stand the escaped characters, up to the one that closes
  have text : printString key ++ ':' :: r =
      '"' :: (key.toList.flatMap escape ++ '"' :: ':' :: r) := by
    simp [printString]
  rw [text, readKey, skipSpace_cons rfl]
  simp only [readString_escaped, Option.bind_eq_bind, Option.bind_some,
    skipSpace_cons (show isSpace ':' = false from rfl), Option.pure_def]

/-! ## What is written -/

/-- A natural number is written with a digit in front. -/
theorem head_print_ofNat (n : Nat) :
    ∃ c cs, (Numeral.ofNat n).print = c :: cs ∧ c.isDigit = true := by
  -- the digits of a number are never none, so there is a first
  cases digits : Nat.toDigits 10 n with
  | nil => exact absurd digits Nat.toDigits_ne_nil
  | cons c cs =>
    have mem : c ∈ Nat.toDigits 10 n := digits ▸ List.mem_cons_self
    have text : (Numeral.ofNat n).print = c :: cs := (print_ofNat n).trans digits
    exact ⟨c, cs, text, Nat.isDigit_of_mem_toDigits (by decide) (by decide) mem⟩

/-- A digit is no character that is none. -/
private theorem ne_of_isDigit {c d : Char} (hc : c.isDigit = true) (hd : d.isDigit = false) :
    c ≠ d := by
  rintro rfl
  exact Bool.false_ne_true (hd.symm.trans hc)

/-- A digit is no space. -/
private theorem isSpace_of_isDigit {c : Char} (h : c.isDigit = true) : isSpace c = false := by
  simp [isSpace, ne_of_isDigit h]

/-- A written value starts with a character that is neither space nor the end of an array. -/
theorem head_print {v : Json} (plain : v.IsPlain) :
    ∃ c cs, v.print = c :: cs ∧ isSpace c = false ∧ c ≠ ']' := by
  cases v with
  | null => exact ⟨_, _, rfl, rfl, by decide⟩
  | boolean b => cases b <;> exact ⟨_, _, rfl, rfl, by decide⟩
  | number n =>
    obtain ⟨k, rfl⟩ := plain
    obtain ⟨c, cs, text, digit⟩ := head_print_ofNat k
    exact ⟨c, cs, text, isSpace_of_isDigit digit, ne_of_isDigit digit rfl⟩
  | string text => exact ⟨_, _, rfl, rfl, by decide⟩
  | array items closed => cases items <;> exact ⟨_, _, rfl, rfl, by decide⟩
  | object members closed => cases members <;> exact ⟨_, _, rfl, rfl, by decide⟩
  | broken => exact plain.elim

/-- An item may end in front of those that are written behind it. -/
theorem endsValue_printItems (vs : List Json) (rest : List Char) :
    EndsValue (printItems vs ++ rest) := by
  cases vs with
  | nil => exact endsValue_cons (.inr (.inl rfl))
  | cons v vs => exact endsValue_cons (.inl rfl)

/-- The value of a member may end in front of the members that are written behind it. -/
theorem endsValue_printMembers (ms : List (Option String × Json)) (rest : List Char) :
    EndsValue (printMembers ms ++ rest) := by
  cases ms with
  | nil => exact endsValue_cons (.inr (.inr rfl))
  | cons m ms => exact endsValue_cons (.inl rfl)

/-! ## Reading what is written -/

/-- A written string is read as it was. -/
theorem readValue_printString (text : String) (rest : List Char) :
    readValue (printString text ++ rest) = (.string (some text), rest) := by
  have quoted : printString text ++ rest = '"' :: (text.toList.flatMap escape ++ '"' :: rest) := by
    simp [printString]
  rw [quoted, readValue_scalar rfl (by decide) (by decide), readScalar]
  simp only [readString_escaped]

/-- A written natural number is read as it was. -/
theorem readValue_ofNat (n : Nat) {rest : List Char} (ends : EndsValue rest) :
    readValue ((Numeral.ofNat n).print ++ rest) = (.number (.ofNat n), rest) := by
  have numeral := readNumeral_ofNat n ends
  obtain ⟨c, cs, text, digit⟩ := head_print_ofNat n
  -- a digit starts none of the other values
  rw [text, List.cons_append] at numeral ⊢
  rw [readValue_scalar (isSpace_of_isDigit digit) (ne_of_isDigit digit rfl)
    (ne_of_isDigit digit rfl), readScalar.eq_def]
  split
  case h_5 => rw [numeral]
  all_goals
    rename_i h
    exact absurd (List.cons.inj h).1 (ne_of_isDigit digit rfl)

mutual

/-- A written value is read as it was, if what follows it may follow a value. -/
theorem readValue_print : ∀ {v : Json}, v.IsPlain → ∀ {rest}, EndsValue rest →
    readValue (v.print ++ rest) = (v, rest)
  -- the recursion is on the value, whose parts are read before what stands behind them
  | .null, _, rest, _ => readValue_scalar rfl (by decide) (by decide) _
  | .boolean true, _, rest, _ => readValue_scalar rfl (by decide) (by decide) _
  | .boolean false, _, rest, _ => readValue_scalar rfl (by decide) (by decide) _
  | .number n, plain, rest, ends => by
    obtain ⟨k, rfl⟩ := plain
    exact readValue_ofNat k ends
  | .string text, plain, rest, _ => by
    obtain ⟨s, rfl⟩ := Option.isSome_iff_exists.mp plain
    exact readValue_printString s rest
  | .array [] closed, plain, rest, _ => by
    obtain ⟨_, rfl⟩ := plain
    rw [print, List.cons_append, readValue_bracket, List.cons_append, skipSpace_cons rfl]
    rfl
  | .array (v :: vs) closed, plain, rest, _ => by
    obtain ⟨⟨first, others⟩, rfl⟩ := plain
    have value := readValue_print first (endsValue_printItems vs rest)
    have items := readItems_print others value (by simp)
    -- the first item does not start like the end of an empty array
    obtain ⟨c, cs, head, space, ne⟩ := head_print first
    rw [print, List.cons_append, List.cons_append, List.append_assoc, readValue_bracket, items]
    rw [head, List.cons_append, skipSpace_cons space]
    split
    · rename_i h
      exact absurd (List.cons.inj h).1 ne
    · rfl
  | .object [] closed, plain, rest, _ => by
    obtain ⟨_, rfl⟩ := plain
    rw [print, List.cons_append, readValue_brace, List.cons_append, skipSpace_cons rfl]
    rfl
  | .object ((key, v) :: ms) closed, plain, rest, _ => by
    obtain ⟨⟨named, first, others⟩, rfl⟩ := plain
    obtain ⟨name, rfl⟩ := Option.isSome_iff_exists.mp named
    have value := readValue_print first (endsValue_printMembers ms rest)
    have members := readMembers_print others (readKey_print name _) (by simp; omega) value
      (by simp; omega)
    have text : (object ((some name, v) :: ms) true).print ++ rest =
        '\x7b' :: (printString name ++ ':' :: (v.print ++ (printMembers ms ++ rest))) := by
      simp [print]
    rw [text, readValue_brace, members, printString, List.append_assoc, List.cons_append,
      skipSpace_cons rfl]
    rfl
  | .broken, plain, _, _ => plain.elim

/-- The items of an array are read on from the first. Behind it the text is shorter, which is what
the reader looks at before it goes on. -/
theorem readItems_print : ∀ {vs : List Json}, ArePlain vs → ∀ {s rest : List Char} {v : Json},
    readValue s = (v, printItems vs ++ rest) → (printItems vs ++ rest).length ≤ s.length →
    readItems s = (v :: vs, true, rest)
  | [], _, s, rest, v, first, _ => readItems_close first
  | w :: ws, plain, s, rest, v, first, le => by
    obtain ⟨next, others⟩ := plain
    have value := readValue_print next (endsValue_printItems ws rest)
    have items := readItems_print others value (by simp)
    rw [printItems, List.cons_append, List.cons_append, List.append_assoc] at first le
    -- the comma tells that there is another item
    rw [readItems_comma first (Nat.lt_of_succ_le le), items]

/-- The members of an object are read on from the first. -/
theorem readMembers_print : ∀ {ms : List (Option String × Json)}, MembersArePlain ms →
    ∀ {s r rest : List Char} {key : Option String} {v : Json}, readKey s = some (key, r) →
    r.length < s.length → readValue r = (v, printMembers ms ++ rest) →
    (printMembers ms ++ rest).length ≤ s.length → readMembers s = ((key, v) :: ms, true, rest)
  | [], _, s, r, rest, key, v, named, lt, first, _ => readMembers_close named lt first
  | (key', w) :: ms, plain, s, r, rest, key, v, named, lt, first, le => by
    obtain ⟨named', next, others⟩ := plain
    obtain ⟨name, rfl⟩ := Option.isSome_iff_exists.mp named'
    have value := readValue_print next (endsValue_printMembers ms rest)
    have members := readMembers_print others (readKey_print name _) (by simp; omega) value
      (by simp; omega)
    have text : printMembers ((some name, w) :: ms) ++ rest =
        ',' :: (printString name ++ ':' :: (w.print ++ (printMembers ms ++ rest))) := by
      simp [printMembers]
    rw [text] at first le
    -- the comma tells that there is another member
    rw [readMembers_comma named lt first (Nat.lt_of_succ_le le), members]

end

/-- A text that is a written value is read as the value. -/
theorem read_print {v : Json} (plain : v.IsPlain) : read v.print = (v, true) := by
  have value := readValue_print plain endsValue_nil
  rw [List.append_nil] at value
  rw [read, value]
  rfl

end Adoc.Json
