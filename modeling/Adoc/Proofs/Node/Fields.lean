import Adoc.Node.Format
import Adoc.Proofs.Json.Numeral
import Mathlib.Data.List.Nodup

/-! # Fields and their values

The values that stand for the fields of a span or a node, and what reading an object takes from
its members: a field is taken from the only member with its key, wherever that stands, and other
members are passed over.

* `toSize_eq_ok_iff`, `toText_eq_ok_iff`, `toKind_eq_ok_iff`  the values of single fields
* `Takes`, `takes_cons`  a field that is read from the values under its key
* `ReadsFields.eq_ok_iff`  what an object makes of a draft, field by field
* `ReadsFields.perm`  the order of its members is of no account
* `Span.ofJson_eq_ok_iff`  the values that describe a span -/

namespace Adoc

/-! ## Steps of a decoder -/

/-- A value is accepted if its brackets are closed. -/
@[simp]
theorem whenClosed_eq_ok_iff {closed : Bool} {x y : α} :
    whenClosed closed x = .ok y ↔ closed = true ∧ x = y := by
  cases closed with
  | false => exact ⟨nofun, fun h => nomatch h.1⟩
  | true => exact ⟨fun h => ⟨rfl, Except.ok.inj h⟩, fun h => congrArg _ h.2⟩

/-- A field that is asked for has to be there. -/
@[simp]
theorem required_eq_ok_iff {name : String} {field : Option α} {x : α} :
    required name field = .ok x ↔ field = some x := by
  cases field with
  | none => exact ⟨nofun, nofun⟩
  | some y => exact ⟨fun h => congrArg _ (Except.ok.inj h), fun h => congrArg _ (Option.some.inj h)⟩

/-- A field is not refused if it is not there yet. -/
@[simp]
theorem refuseRepeated_eq_ok_iff {name : String} {field : Option α} {u : Unit} :
    refuseRepeated name field = .ok u ↔ field = none := by
  cases field with
  | none => exact ⟨fun _ => rfl, fun _ => rfl⟩
  | some y => exact ⟨nofun, nofun⟩

/-- A field is read into what follows if it is not there yet. -/
theorem readField_eq_ok_iff {name : String} {field : Option α} {read : Except TreeError α}
    {next : α → Except TreeError β} {e : β} :
    (do refuseRepeated name field; next (← read)) = .ok e ↔
      field = none ∧ ∃ x, read = .ok x ∧ next x = .ok e := by
  simp only [bind_eq_ok_iff, refuseRepeated_eq_ok_iff, exists_and_left, exists_const]

/-! ## The values of single fields -/

namespace Json

/-- Is the value the number `n`, spelled by digits alone and below 2^64? -/
def IsSize (v : Json) (n : Nat) : Prop :=
  ∃ digits, v = .number ⟨false, digits, none, none⟩ ∧ Nat.ofDigitChars 10 digits 0 = n ∧
    n < Nat.pow 2 64

/-- A number is what its numeral stands for. -/
theorem isSize_ofNat {n : Nat} (h : n < Nat.pow 2 64) : IsSize (.number (.ofNat n)) n :=
  ⟨Nat.toDigits 10 n, rfl, Nat.ofDigitChars_ten_toDigits, h⟩

/-- The values that stand for a kind. -/
inductive IsKind : Json → Kind → Prop
  | null : IsKind .null .unknown
  | name (s : String) : IsKind (.string (some s)) (Kind.ofName s)

/-- A kind is what its tag stands for. -/
theorem isKind_name (k : Kind) : IsKind (.string (some k.name)) k := by
  have named := IsKind.name k.name
  rwa [Kind.ofName_name] at named

/-- A size is read from the numerals of natural numbers alone. -/
theorem toSize_eq_ok_iff {v : Json} {n : Nat} : v.toSize = .ok n ↔ v.IsSize n := by
  constructor
  · intro h
    rw [toSize.eq_def] at h
    split at h
    -- of all the numerals only those of natural numbers are let through
    · rename_i numeral
      split at h
      · rename_i k value
        obtain rfl := Except.ok.inj h
        obtain ⟨negative, digits, fraction, exponent⟩ := numeral
        -- a natural number has no sign, no fraction and no exponent
        obtain ⟨rfl, rfl, rfl, number, lt⟩ := Numeral.value?_eq_natural_iff.mp value
        exact ⟨digits, rfl, number, lt⟩
      · exact nomatch h
      · exact nomatch h
    · exact nomatch h
  · intro h
    obtain ⟨digits, rfl, value, lt⟩ := h
    have natural : Numeral.value? ⟨false, digits, none, none⟩ = some (.natural n) :=
      Numeral.value?_eq_natural_iff.mpr ⟨rfl, rfl, rfl, value, lt⟩
    rw [toSize, natural]

/-- A text is read from itself. -/
theorem toText_eq_ok_iff {v : Json} {s : String} : v.toText = .ok s ↔ v = .string (some s) := by
  constructor
  · intro h
    rw [toText.eq_def] at h
    split at h
    · rw [Except.ok.inj h]
    · exact nomatch h
  · intro h
    subst h
    rfl

/-- A kind is read from a text or from null. -/
theorem toKind_eq_ok_iff {v : Json} {k : Kind} : v.toKind = .ok k ↔ v.IsKind k := by
  constructor
  · intro h
    rw [toKind.eq_def] at h
    split at h
    · obtain rfl := Except.ok.inj h
      exact .null
    -- whatever is no null has to be a text
    · cases text : v.toText with
      | error e =>
        rw [text] at h
        exact nomatch h
      | ok s =>
        rw [text] at h
        obtain rfl := Except.ok.inj h
        rw [toText_eq_ok_iff.mp text]
        exact .name s
  · intro h
    obtain _ | s := h
    · rfl
    · rfl

/-! ## Members of an object -/

/-- The values under `key`, in order. -/
def valuesOf (key : String) (members : List (Option String × Json)) : List Json :=
  (members.filter (·.1 = some key)).map (·.2)

/-- Are the members under other keys than `known` of no account? Their keys are texts and their
values are spelled to their ends. -/
def FreeBesides (known : List String) (members : List (Option String × Json)) : Prop :=
  ∀ m ∈ members, ∃ key, m.1 = some key ∧ (key ∉ known → m.2.isWhole = true)

/-- A member is of no account if its value is spelled to its end, and otherwise its key is known. -/
theorem freeBesides_cons {known : List String} {key : String} {v : Json}
    {ms : List (Option String × Json)} :
    FreeBesides known ((some key, v) :: ms) ↔
      (key ∉ known → v.isWhole = true) ∧ FreeBesides known ms := by
  simp [FreeBesides]

/-- Of a member with a known key nothing is asked. -/
theorem freeBesides_cons_known {known : List String} {key : String} {v : Json}
    {ms : List (Option String × Json)} (h : key ∈ known) :
    FreeBesides known ((some key, v) :: ms) ↔ FreeBesides known ms :=
  freeBesides_cons.trans (and_iff_right (absurd h))

/-- A member with a key that is no text is never passed over. -/
@[simp]
theorem not_freeBesides_none {known : List String} {v : Json}
    {ms : List (Option String × Json)} : ¬FreeBesides known ((none, v) :: ms) := by
  simp [FreeBesides]

/-- A value under `key` is the first of the values under it. -/
@[simp]
theorem valuesOf_cons_self {key : String} {v : Json} {ms : List (Option String × Json)} :
    valuesOf key ((some key, v) :: ms) = v :: valuesOf key ms := by
  simp [valuesOf]

/-- A value under another key is not among them. -/
theorem valuesOf_cons_of_ne {key name : String} {v : Json} {ms : List (Option String × Json)}
    (h : name ≠ key) : valuesOf key ((some name, v) :: ms) = valuesOf key ms := by
  simp [valuesOf, h]

end Json

/-- What reading the values under a key makes of a field: without values the field stays as it
is, and a field that is not there yet is read from a single value. -/
def Takes (read : Json → Except TreeError α) (before after : Option α) : List Json → Prop
  | [] => after = before
  | [v] => before = none ∧ ∃ x, read v = .ok x ∧ after = some x
  | _ => False

/-- The first of the values is read into a field that is not there yet, and the others into one that
is. -/
theorem takes_cons {read : Json → Except TreeError α} {before after : Option α} {v : Json}
    {vs : List Json} :
    Takes read before after (v :: vs) ↔
      before = none ∧ ∃ x, read v = .ok x ∧ Takes read (some x) after vs := by
  cases vs with
  | nil => exact Iff.rfl
  | cons w ws =>
    constructor
    · exact False.elim
    · -- the field is there by now, so that the next value is refused
      intro h
      obtain ⟨-, x, -, h⟩ := h
      cases ws with
      | nil => exact nomatch h.1
      | cons => exact h

/-- There is at most one value, so that their order is of no account. -/
theorem Takes.perm {read : Json → Except TreeError α} {before after : Option α} {vs vs' : List Json}
    (takes : Takes read before after vs) (h : vs.Perm vs') : Takes read before after vs' := by
  match vs with
  | [] => rwa [List.nil_perm.mp h]
  | [v] => rwa [← List.singleton_perm.mp h]
  | _ :: _ :: _ => exact takes.elim

/-- A field is filled from nothing by the only value under its key. -/
@[simp]
theorem takes_none_some {read : Json → Except TreeError α} {x : α} {vs : List Json} :
    Takes read none (some x) vs ↔ ∃ v, vs = [v] ∧ read v = .ok x := by
  match vs with
  | [] => exact ⟨nofun, nofun⟩
  | [v] =>
    constructor
    · intro h
      obtain ⟨-, y, h, same⟩ := h
      exact ⟨v, rfl, Option.some.inj same ▸ h⟩
    · intro h
      obtain ⟨w, same, h⟩ := h
      exact ⟨rfl, x, (List.cons.inj same).1 ▸ h, rfl⟩
  | _ :: _ :: _ => exact ⟨False.elim, nofun⟩

/-- A field is not there if there are no values for it. -/
@[simp]
theorem takes_none_none {read : Json → Except TreeError α} {vs : List Json} :
    Takes read none none vs ↔ vs = [] := by
  match vs with
  | [] => exact ⟨fun _ => rfl, fun _ => rfl⟩
  | [v] => exact ⟨fun ⟨_, _, _, h⟩ => (nomatch h), nofun⟩
  | _ :: _ :: _ => exact ⟨False.elim, nofun⟩

/-- A field that may be missing has its default without values, and is otherwise filled by the only
value under its key. -/
theorem takes_none_getD {read : Json → Except TreeError α} {default x : α} {vs : List Json} :
    (∃ field, Takes read none field vs ∧ field.getD default = x) ↔
      vs = [] ∧ default = x ∨ ∃ v, vs = [v] ∧ read v = .ok x := by
  constructor
  · intro h
    obtain ⟨_ | y, takes, rfl⟩ := h
    -- the field is still empty, or holds what was read
    · exact .inl ⟨takes_none_none.mp takes, rfl⟩
    · exact .inr (takes_none_some.mp takes)
  · intro h
    obtain ⟨rfl, rfl⟩ | only := h
    · exact ⟨none, rfl, rfl⟩
    · exact ⟨some x, takes_none_some.mpr only, rfl⟩

/-! ## Objects read field by field -/

/-- A field of a draft `δ`: its key, how its value is read, and where the draft has it. -/
structure Field (δ : Type) where
  name : String
  {α : Type}
  read : Json → Except TreeError α
  get : δ → Option α
  put : δ → α → δ

/-- What reading the values under the key of the field makes of it. -/
def Field.Takes (f : Field δ) (before after : δ) (members : List (Option String × Json)) : Prop :=
  Adoc.Takes f.read (f.get before) (f.get after) (Json.valuesOf f.name members)

/-- The functions that read the members of an object one after the other into the fields. -/
structure ReadsFields (fields : List (Field δ))
    (add : δ → List (Option String × Json) → Except TreeError δ) : Prop where
  /-- A draft is nothing but its fields. -/
  ext {d e : δ} : (∀ f ∈ fields, f.get e = f.get d) → d = e
  get_put : ∀ f ∈ fields, ∀ d x, f.get (f.put d x) = some x
  get_put_of_ne : ∀ f ∈ fields, ∀ g ∈ fields, g.name ≠ f.name → ∀ d x, g.get (f.put d x) = g.get d
  names : (fields.map (·.name)).Nodup
  nil (d : δ) : add d [] = .ok d
  broken (d : δ) (v : Json) (ms : List (Option String × Json)) :
    add d ((none, v) :: ms) = .error .malformed
  known : ∀ f ∈ fields, ∀ d v ms, add d ((some f.name, v) :: ms) =
    (do refuseRepeated f.name (f.get d); add (f.put d (← f.read v)) ms)
  other : ∀ key ∉ fields.map (·.name), ∀ d v ms, add d ((some key, v) :: ms) =
    (do whenClosed v.isWhole (); add d ms)

namespace ReadsFields

variable {fields : List (Field δ)} {add : δ → List (Option String × Json) → Except TreeError δ}

/-- A value under the key of a field comes to that field, and to no other. -/
theorem takes_cons_iff (r : ReadsFields fields add) {f : Field δ} (hf : f ∈ fields) {d e : δ}
    {v : Json} {ms : List (Option String × Json)} :
    (∀ g ∈ fields, g.Takes d e ((some f.name, v) :: ms)) ↔
      f.get d = none ∧ ∃ x, f.read v = .ok x ∧ ∀ g ∈ fields, g.Takes (f.put d x) e ms := by
  have here : f.Takes d e ((some f.name, v) :: ms) ↔
      f.get d = none ∧ ∃ x, f.read v = .ok x ∧ f.Takes (f.put d x) e ms := by
    simp only [Field.Takes, Json.valuesOf_cons_self, takes_cons, r.get_put f hf]
  -- the other fields find the same values without this one, and stay as they were
  have there (x : f.α) {g : Field δ} (hg : g ∈ fields) (other : g.name ≠ f.name) :
      g.Takes d e ((some f.name, v) :: ms) ↔ g.Takes (f.put d x) e ms := by
    rw [Field.Takes, Field.Takes, Json.valuesOf_cons_of_ne other.symm,
      r.get_put_of_ne f hf g hg other]
  constructor
  · intro all
    -- the other fields are the same before the value is put, and find no value here
    obtain ⟨new, x, read, takes⟩ := here.mp (all f hf)
    refine ⟨new, x, read, fun g hg => ?_⟩
    by_cases same : g.name = f.name
    · rwa [List.inj_on_of_nodup_map r.names hg hf same]
    · exact (there x hg same).mp (all g hg)
  · rintro ⟨new, x, read, all⟩ g hg
    by_cases same : g.name = f.name
    · rw [List.inj_on_of_nodup_map r.names hg hf same]
      exact here.mpr ⟨new, x, read, all f hf⟩
    · exact (there x hg same).mpr (all g hg)

/-- What reading the members of an object makes of a draft: each field is taken from the values
under its key, and the other members are of no account. -/
theorem eq_ok_iff (r : ReadsFields fields add) {ms : List (Option String × Json)} {d e : δ} :
    add d ms = .ok e ↔
      Json.FreeBesides (fields.map (·.name)) ms ∧ ∀ f ∈ fields, f.Takes d e ms := by
  induction ms generalizing d with
  | nil =>
    rw [r.nil]
    constructor
    · intro h
      obtain rfl := Except.ok.inj h
      exact ⟨nofun, fun f _ => rfl⟩
    -- no values leave all fields as they are, and a draft is nothing else
    · exact fun h => congrArg _ (r.ext h.2)
  | cons m ms ih =>
    obtain ⟨_ | key, v⟩ := m
    · rw [r.broken]
      exact ⟨nofun, fun h => absurd h.1 Json.not_freeBesides_none⟩
    -- a known key is taken into its field, and any other is passed over
    by_cases known : key ∈ fields.map (·.name)
    · obtain ⟨f, hf, rfl⟩ := List.mem_map.mp known
      rw [r.known f hf, readField_eq_ok_iff, Json.freeBesides_cons_known known, r.takes_cons_iff hf]
      -- the rest is read into the draft with the new value in it
      simp only [ih, ← exists_and_left, and_left_comm]
    · have passed : ∀ f ∈ fields, f.Takes d e ((some key, v) :: ms) ↔ f.Takes d e ms := by
        intro f hf
        have ne : key ≠ f.name := fun same => known (List.mem_map.mpr ⟨f, hf, same.symm⟩)
        rw [Field.Takes, Field.Takes, Json.valuesOf_cons_of_ne ne]
      rw [r.other key known, Json.freeBesides_cons, imp_iff_right known, forall₂_congr passed,
        and_assoc, ← ih]
      simp only [bind_eq_ok_iff, whenClosed_eq_ok_iff, and_true, exists_const]

/-- The order in which the members stand is of no account. -/
theorem perm (r : ReadsFields fields add) {ms ms' : List (Option String × Json)} {d e : δ}
    (h : ms.Perm ms') (read : add d ms = .ok e) : add d ms' = .ok e := by
  obtain ⟨free, takes⟩ := r.eq_ok_iff.mp read
  refine r.eq_ok_iff.mpr ⟨fun m hm => free m (h.mem_iff.mpr hm), fun f hf => ?_⟩
  -- under each key stand the same values, in another order
  exact (takes f hf).perm ((h.filter _).map _)

/-- Members are read one after the other. -/
theorem append (r : ReadsFields fields add) (d : δ) (ms ms' : List (Option String × Json)) :
    add d (ms ++ ms') = add d ms >>= fun e => add e ms' := by
  induction ms generalizing d with
  | nil =>
    rw [r.nil]
    rfl
  | cons m ms ih =>
    obtain ⟨_ | key, v⟩ := m
    · rw [List.cons_append, r.broken, r.broken]
      rfl
    by_cases known : key ∈ fields.map (·.name)
    · obtain ⟨f, hf, rfl⟩ := List.mem_map.mp known
      rw [List.cons_append, r.known f hf, r.known f hf]
      simp only [ih, bind_assoc]
    · rw [List.cons_append, r.other key known, r.other key known]
      simp only [ih, bind_assoc]

end ReadsFields

/-! ## Spans -/

/-- The keys that mean something in a span. -/
def Span.fieldNames : List String := ["start", "len"]

/-- The values that describe a span. -/
inductive Json.IsSpan : Json → Span → Prop
  | object {ms : List (Option String × Json)} {a b : Json} {s : Span}
      (free : FreeBesides Span.fieldNames ms)
      (start : valuesOf "start" ms = [a]) (isStart : a.IsSize s.start)
      (len : valuesOf "len" ms = [b]) (isLen : b.IsSize s.len) : IsSpan (.object ms true) s
  | array {a b : Json} {s : Span} (isStart : a.IsSize s.start) (isLen : b.IsSize s.len) :
      IsSpan (.array [a, b] true) s

namespace Span

/-- The value that is written for a span describes it, if its numbers can be read again. -/
theorem isSpan_toJson {s : Span} (start : s.start < Nat.pow 2 64) (len : s.len < Nat.pow 2 64) :
    s.toJson.IsSpan s :=
  .object (by simp [Json.FreeBesides, fieldNames]) rfl (Json.isSize_ofNat start) rfl
    (Json.isSize_ofNat len)

/-- The numbers of a span that a value describes fit 64 bits. -/
theorem lt_of_isSpan {v : Json} {s : Span} (is : v.IsSpan s) :
    s.start < Nat.pow 2 64 ∧ s.len < Nat.pow 2 64 := by
  cases is with
  | object _ _ isStart _ isLen =>
    obtain ⟨_, _, _, start⟩ := isStart
    obtain ⟨_, _, _, len⟩ := isLen
    exact ⟨start, len⟩
  | array isStart isLen =>
    obtain ⟨_, _, _, start⟩ := isStart
    obtain ⟨_, _, _, len⟩ := isLen
    exact ⟨start, len⟩

namespace Draft

/-- The fields of a span. -/
def fields : List (Field Draft) :=
  [⟨"start", Json.toSize, (·.start), fun d n => { d with start := some n }⟩,
    ⟨"len", Json.toSize, (·.len), fun d n => { d with len := some n }⟩]

/-- The draft of a span is read field by field. -/
theorem readsFields : ReadsFields fields addMembers where
  ext {d e} h := by
    obtain ⟨start, len⟩ : e.start = d.start ∧ e.len = d.len := by simpa [fields] using h
    exact (congr (congrArg Draft.mk start) len).symm
  get_put := by simp [fields]
  get_put_of_ne := by simp [fields]
  names := by decide
  nil _ := rfl
  broken _ _ _ := rfl
  known := by simp [fields, addMembers, addMember]
  other key h d v ms := by
    -- the equation for other keys asks that the key is neither of the two
    have passed : d.addMember (some key) v = whenClosed v.isWhole d := by
      rw [addMember]
      · rintro rfl
        exact h (by decide)
      · rintro rfl
        exact h (by decide)
    rw [addMembers, passed]
    cases v.isWhole <;> rfl

/-- What reading the members of an object makes of a draft. -/
theorem addMembers_eq_ok_iff {ms : List (Option String × Json)} {d e : Draft} :
    d.addMembers ms = .ok e ↔ Json.FreeBesides fieldNames ms ∧
      Takes Json.toSize d.start e.start (Json.valuesOf "start" ms) ∧
      Takes Json.toSize d.len e.len (Json.valuesOf "len" ms) := by
  rw [readsFields.eq_ok_iff, fields, List.forall_mem_cons, List.forall_mem_singleton]
  exact Iff.rfl

/-- A draft is a span if both numbers are there. -/
theorem finish_eq_ok_iff {d : Draft} {s : Span} :
    d.finish = .ok s ↔ d.start = some s.start ∧ d.len = some s.len := by
  simp only [finish, bind_eq_ok_iff, required_eq_ok_iff, pure_eq_ok_iff]
  constructor
  · intro h
    obtain ⟨m, start, n, len, rfl⟩ := h
    exact ⟨start, len⟩
  · intro h
    obtain ⟨start, len⟩ := h
    exact ⟨s.start, start, s.len, len, rfl⟩

end Draft

/-- An array is a span if it holds two numbers and nothing else. -/
theorem ofItems_eq_ok_iff {items : List Json} {closed : Bool} {s : Span} :
    ofItems items closed = .ok s ↔
      closed = true ∧ ∃ a b, items = [a, b] ∧ a.IsSize s.start ∧ b.IsSize s.len := by
  match items with
  | [] =>
    simp only [ofItems, bind_eq_ok_iff]
    exact ⟨fun ⟨_, _, h⟩ => (nomatch h), nofun⟩
  | [a] =>
    simp only [ofItems, bind_eq_ok_iff]
    exact ⟨fun ⟨_, _, _, _, h⟩ => (nomatch h), nofun⟩
  | a :: b :: rest =>
    simp only [ofItems, bind_eq_ok_iff, Json.toSize_eq_ok_iff, whenClosed_eq_ok_iff,
      Bool.and_eq_true, List.isEmpty_iff]
    constructor
    · intro h
      -- what stands behind the two numbers is nothing
      obtain ⟨m, start, n, len, ⟨closed, rfl⟩, rfl⟩ := h
      exact ⟨closed, a, b, rfl, start, len⟩
    · intro h
      obtain ⟨closed, _, _, same, start, len⟩ := h
      obtain ⟨rfl, rfl, rfl⟩ : a = _ ∧ b = _ ∧ rest = [] := by simpa using same
      exact ⟨s.start, start, s.len, len, ⟨closed, rfl⟩, rfl⟩

/-- Reading succeeds for the values that describe a span and gives that span. -/
theorem ofJson_eq_ok_iff {v : Json} {s : Span} : ofJson v = .ok s ↔ v.IsSpan s := by
  constructor
  · intro h
    rw [ofJson.eq_def] at h
    split at h
    · rename_i ms closed
      simp only [bind_eq_ok_iff, whenClosed_eq_ok_iff, Draft.finish_eq_ok_iff] at h
      obtain ⟨d, read, -, ⟨rfl, -⟩, start, len⟩ := h
      -- a draft that is complete has taken each field from the only value under its key
      obtain ⟨free, starts, lens⟩ := Draft.addMembers_eq_ok_iff.mp read
      rw [start] at starts
      rw [len] at lens
      obtain ⟨a, onlyStart, isStart⟩ := takes_none_some.mp starts
      obtain ⟨b, onlyLen, isLen⟩ := takes_none_some.mp lens
      exact .object free onlyStart (Json.toSize_eq_ok_iff.mp isStart) onlyLen
        (Json.toSize_eq_ok_iff.mp isLen)
    · obtain ⟨rfl, a, b, rfl, start, len⟩ := ofItems_eq_ok_iff.mp h
      exact .array start len
    · exact nomatch h
  · intro h
    obtain ⟨free, start, isStart, len, isLen⟩ | ⟨isStart, isLen⟩ := h
    · simp only [ofJson, bind_eq_ok_iff, whenClosed_eq_ok_iff, Draft.finish_eq_ok_iff]
      refine ⟨⟨some s.start, some s.len⟩, Draft.addMembers_eq_ok_iff.mpr ⟨free, ?_, ?_⟩, (),
        ⟨trivial, trivial⟩, rfl, rfl⟩
      · exact takes_none_some.mpr ⟨_, start, Json.toSize_eq_ok_iff.mpr isStart⟩
      · exact takes_none_some.mpr ⟨_, len, Json.toSize_eq_ok_iff.mpr isLen⟩
    · exact ofItems_eq_ok_iff.mpr ⟨rfl, _, _, rfl, isStart, isLen⟩

end Span

end Adoc
