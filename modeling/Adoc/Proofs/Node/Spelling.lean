import Adoc.Proofs.Node.Format

/-! # All spellings of a tree agree

One tree has many spellings: the members of an object may stand in any order and among others, a
kind and children may be missing, and an array may stand for an object. `Json.Respells` goes from
one spelling to another by such changes at any depth. None of them changes what is decoded. -/

namespace Adoc

namespace Json

/-- The second value spells what the first does, in another way. -/
inductive Respells : Json → Json → Prop
  | refl (v : Json) : Respells v v
  | symm {v v' : Json} (h : Respells v v') : Respells v' v
  | trans {v v' v'' : Json} (h : Respells v v') (h' : Respells v' v'') : Respells v v''
  /-- Members may stand in any order. -/
  | perm {ms ms' : List (Option String × Json)} {closed : Bool} (h : ms.Perm ms') :
      Respells (.object ms closed) (.object ms' closed)
  /-- Members under other keys may be left out. -/
  | free {key : String} {v : Json} {ms : List (Option String × Json)} {closed : Bool}
      (other : key ∉ Node.fieldNames) (whole : v.isWhole = true) :
      Respells (.object ((some key, v) :: ms) closed) (.object ms closed)
  /-- The unknown kind may be left out. -/
  | unknown {v : Json} {ms : List (Option String × Json)} {closed : Bool}
      (only : valuesOf "kind" ms = []) (is : v.IsKind .unknown) :
      Respells (.object ((some "kind", v) :: ms) closed) (.object ms closed)
  /-- An empty list of children may be left out. -/
  | leaf {ms : List (Option String × Json)} {closed : Bool} (only : valuesOf "children" ms = []) :
      Respells (.object ((some "children", .array [] true) :: ms) closed) (.object ms closed)
  /-- A kind may have other names. -/
  | kind {v v' : Json} {k : Kind} {ms : List (Option String × Json)} {closed : Bool}
      (is : v.IsKind k) (is' : v'.IsKind k) :
      Respells (.object ((some "kind", v) :: ms) closed) (.object ((some "kind", v') :: ms) closed)
  /-- A span may be spelled in another way. -/
  | range {v v' : Json} {s : Span} {ms : List (Option String × Json)} {closed : Bool}
      (is : v.IsSpan s) (is' : v'.IsSpan s) :
      Respells (.object ((some "range", v) :: ms) closed)
        (.object ((some "range", v') :: ms) closed)
  /-- A child may be spelled in another way. -/
  | child {v v' : Json} {before after : List Json} {ms : List (Option String × Json)}
      {closed : Bool} (h : Respells v v') :
      Respells (.object ((some "children", .array (before ++ v :: after) true) :: ms) closed)
        (.object ((some "children", .array (before ++ v' :: after) true) :: ms) closed)
  /-- The fields may be the elements of an array. -/
  | array {k r t : Json} {cs : List Json} :
      Respells (.array (k :: r :: t :: cs) true)
        (.object ((some "kind", k) :: (some "range", r) :: (some "text", t) ::
          cs.map fun c => (some "children", c)) true)

/-! ## Children as members -/

/-- The members for children mean something. -/
@[simp]
theorem freeBesides_children {cs : List Json} :
    FreeBesides Node.fieldNames (cs.map fun c => (some "children", c)) := by
  induction cs with
  | nil => exact nofun
  | cons c cs ih => exact (freeBesides_cons_known (by decide)).mpr ih

/-- Under the key of the children stand the elements themselves. -/
@[simp]
theorem valuesOf_children {cs : List Json} :
    valuesOf "children" (cs.map fun c => (some "children", c)) = cs := by
  induction cs with
  | nil => rfl
  | cons c cs ih => rw [List.map_cons, valuesOf_cons_self, ih]

/-- Under another key stands none of the elements. -/
theorem valuesOf_children_of_ne {name : String} (h : "children" ≠ name) {cs : List Json} :
    valuesOf name (cs.map fun c => (some "children", c)) = [] := by
  induction cs with
  | nil => rfl
  | cons c cs ih => rw [List.map_cons, valuesOf_cons_of_ne h, ih]

/-! ## Members in another order -/

/-- An object describes a tree however its members are ordered: so it is decoded. -/
theorem IsNode.perm {ms ms' : List (Option String × Json)} {closed : Bool} {t : Node}
    (is : IsNode (.object ms closed) t) (h : ms.Perm ms') : IsNode (.object ms' closed) t := by
  -- the decoder reads field by field, for which the order was shown to be of no account
  rw [← Node.ofJson_eq_ok_iff, Node.ofJson, bind_eq_ok_iff] at is ⊢
  obtain ⟨d, read, finished⟩ := is
  exact ⟨d, Node.readsFields.perm h read, finished⟩

/-! ## One change -/

/-- A value stands for one kind at most. -/
theorem IsKind.iff_eq {v : Json} {k k' : Kind} (is : v.IsKind k) : v.IsKind k' ↔ k' = k := by
  rw [← toKind_eq_ok_iff] at is ⊢
  rw [is, Except.ok.injEq, eq_comm]

/-- A value describes one span at most. -/
theorem IsSpan.iff_eq {v : Json} {s s' : Span} (is : v.IsSpan s) : v.IsSpan s' ↔ s' = s := by
  rw [← Span.ofJson_eq_ok_iff] at is ⊢
  rw [is, Except.ok.injEq, eq_comm]

/-- A value may be replaced by one that describes the same trees. -/
theorem areNodes_replace {v v' : Json} (same : ∀ t, v.IsNode t ↔ v'.IsNode t)
    (before after : List Json) {ts : List Node} :
    AreNodes (before ++ v :: after) ts ↔ AreNodes (before ++ v' :: after) ts := by
  induction before generalizing ts with
  | nil => simp only [List.nil_append, areNodes_cons, same]
  | cons w before ih => simp only [List.cons_append, areNodes_cons, ih]

section Members

variable {v : Json} {ms : List (Option String × Json)} {closed : Bool} {t : Node}

/-- A member under another key makes no difference. -/
theorem isNode_free_iff {key : String} (other : key ∉ Node.fieldNames)
    (whole : v.isWhole = true) :
    IsNode (.object ((some key, v) :: ms) closed) t ↔ IsNode (.object ms closed) t := by
  -- no field looks for values under this key
  have ne : ∀ name ∈ Node.fieldNames, key ≠ name := fun name hn same => other (same ▸ hn)
  rw [isNode_object_iff, isNode_object_iff, freeBesides_cons,
    valuesOf_cons_of_ne (ne "kind" (by decide)), valuesOf_cons_of_ne (ne "range" (by decide)),
    valuesOf_cons_of_ne (ne "text" (by decide)), valuesOf_cons_of_ne (ne "children" (by decide))]
  simp only [whole, implies_true, true_and]

/-- A member for the kind is the only one. -/
theorem isNode_kind_iff :
    IsNode (.object ((some "kind", v) :: ms) closed) t ↔
      closed = true ∧ FreeBesides Node.fieldNames ms ∧
      (valuesOf "kind" ms = [] ∧ v.IsKind t.kind) ∧
      (∃ r, valuesOf "range" ms = [r] ∧ r.IsSpan t.span) ∧
      valuesOf "text" ms = [.string (some t.text)] ∧
      GiveChildren (valuesOf "children" ms) t.children := by
  rw [isNode_object_iff, freeBesides_cons_known (by decide), valuesOf_cons_self, giveKind_cons]
  iterate 3 rw [valuesOf_cons_of_ne (by decide)]

/-- A member for the span is the only one. -/
theorem isNode_range_iff :
    IsNode (.object ((some "range", v) :: ms) closed) t ↔
      closed = true ∧ FreeBesides Node.fieldNames ms ∧ GiveKind (valuesOf "kind" ms) t.kind ∧
      (valuesOf "range" ms = [] ∧ v.IsSpan t.span) ∧
      valuesOf "text" ms = [.string (some t.text)] ∧
      GiveChildren (valuesOf "children" ms) t.children := by
  rw [isNode_object_iff, freeBesides_cons_known (by decide), valuesOf_cons_self]
  iterate 3 rw [valuesOf_cons_of_ne (by decide)]
  simp only [List.cons.injEq, and_assoc, exists_eq_left']

/-- A member for the children is the only one. -/
theorem isNode_children_iff {items : List Json} :
    IsNode (.object ((some "children", .array items true) :: ms) closed) t ↔
      closed = true ∧ FreeBesides Node.fieldNames ms ∧ GiveKind (valuesOf "kind" ms) t.kind ∧
      (∃ r, valuesOf "range" ms = [r] ∧ r.IsSpan t.span) ∧
      valuesOf "text" ms = [.string (some t.text)] ∧
      valuesOf "children" ms = [] ∧ AreNodes items t.children := by
  rw [isNode_object_iff, freeBesides_cons_known (by decide), valuesOf_cons_self, giveChildren_cons]
  iterate 3 rw [valuesOf_cons_of_ne (by decide)]

/-- The elements of an array count as members under the keys of the fields. -/
theorem isNode_array_iff_object {k r : Json} {cs : List Json} :
    IsNode (.array (k :: r :: v :: cs) true) t ↔
      IsNode (.object ((some "kind", k) :: (some "range", r) :: (some "text", v) ::
        cs.map fun c => (some "children", c)) true) t := by
  rw [isNode_array_iff, isNode_kind_iff, freeBesides_cons_known (by decide),
    freeBesides_cons_known (by decide)]
  -- each of the four keys finds its own element; more than one child is refused on both sides
  rw [valuesOf_cons_of_ne (show "range" ≠ "kind" by decide),
    valuesOf_cons_of_ne (show "text" ≠ "kind" by decide), valuesOf_children_of_ne (by decide),
    valuesOf_cons_self, valuesOf_cons_of_ne (show "text" ≠ "range" by decide),
    valuesOf_children_of_ne (by decide), valuesOf_cons_of_ne (show "range" ≠ "text" by decide),
    valuesOf_cons_self, valuesOf_children_of_ne (by decide),
    valuesOf_cons_of_ne (show "range" ≠ "children" by decide),
    valuesOf_cons_of_ne (show "text" ≠ "children" by decide), valuesOf_children]
  simp only [freeBesides_children, List.cons.injEq, and_true, true_and, exists_eq_left']

end Members

/-- Different spellings describe the same trees. -/
theorem Respells.isNode_iff {v v' : Json} (h : v.Respells v') : ∀ t, v.IsNode t ↔ v'.IsNode t := by
  induction h with
  | refl v => exact fun t => Iff.rfl
  | symm _ ih => exact fun t => (ih t).symm
  | trans _ _ ih ih' => exact fun t => (ih t).trans (ih' t)
  | perm h => exact fun t => ⟨fun is => is.perm h, fun is => is.perm h.symm⟩
  | free other whole => exact fun t => isNode_free_iff other whole
  | unknown only is =>
    intro t
    -- with the member the kind is given as unknown, and without it it is so by default
    rw [isNode_kind_iff, isNode_object_iff, is.iff_eq, only, giveKind_nil]
    simp only [true_and]
  | leaf only =>
    intro t
    -- with the member there are no children in the list, and without it there is no list
    rw [isNode_children_iff, isNode_object_iff, areNodes_nil, only, giveChildren_nil]
    simp only [true_and]
  | kind is is' =>
    intro t
    -- both values stand for the same kind and for no other
    rw [isNode_kind_iff, isNode_kind_iff, is.iff_eq, is'.iff_eq]
  | range is is' =>
    intro t
    rw [isNode_range_iff, isNode_range_iff, is.iff_eq, is'.iff_eq]
  | child _ ih =>
    intro t
    rw [isNode_children_iff, isNode_children_iff, areNodes_replace ih]
  | array => exact fun t => isNode_array_iff_object

end Json

namespace Node

/-! ## Trees -/

/-- A text is decoded if it spells a value that describes a tree, and nothing else. -/
theorem decode_eq_ok_iff {text : String} {t : Node} :
    decode text = .ok t ↔ ∃ v, Json.read text.toList = (v, true) ∧ v.IsNode t := by
  simp only [decode, bind_eq_ok_iff, whenClosed_eq_ok_iff, ofJson_eq_ok_iff]
  constructor
  · intro h
    obtain ⟨t, is, atEnd, rfl⟩ := h
    exact ⟨_, Prod.ext rfl atEnd, is⟩
  · intro h
    obtain ⟨v, read, is⟩ := h
    rw [read]
    exact ⟨t, is, rfl, rfl⟩

/-- The decoder accepts exactly the values that describe a tree, and gives that tree. Other
spellings of a value are accepted or refused with it, and give the same tree. A text is accepted
if it spells such a value and nothing else. -/
theorem decodes_exactly_the_format :
    (∀ v t, ofJson v = .ok t ↔ v.IsNode t) ∧
    (∀ v v' : Json, v.Respells v' → ∀ t, ofJson v = .ok t ↔ ofJson v' = .ok t) ∧
    ∀ text t, decode text = .ok t ↔ ∃ v, Json.read text.toList = (v, true) ∧ v.IsNode t := by
  refine ⟨fun _ _ => ofJson_eq_ok_iff, ?_, fun _ _ => decode_eq_ok_iff⟩
  intro v v' h t
  rw [ofJson_eq_ok_iff, ofJson_eq_ok_iff]
  exact h.isNode_iff t

/-- Three bytes into the document, one byte long. -/
private def compactSpan : Json := .array [.number (.ofNat 3), .number (.ofNat 1)] true

/-- A document over one token, spelled by arrays. -/
private def compact : Json :=
  .array [.string (some "DOCUMENT"), compactSpan, .string (some "a"),
    .array [.array [.null, compactSpan, .string (some "a")] true] true] true

/-- The same document, spelled by objects, with a member that means nothing. -/
private def verbose : Json :=
  .object [(some "id", .boolean true),
    (some "children", .array [.object [(some "range", (⟨3, 1⟩ : Span).toJson),
      (some "text", .string (some "a"))] true] true),
    (some "kind", .string (some "DOCUMENT")), (some "range", compactSpan),
    (some "text", .string (some "a"))] true

/-- The arrays are turned into members one level after the other. -/
private theorem compact_respells_verbose : compact.Respells verbose := by
  -- the span is an array in one spelling and an object in the other
  have span : compactSpan.IsSpan ⟨3, 1⟩ :=
    .array (Json.isSize_ofNat (by decide)) (Json.isSize_ofNat (by decide))
  have span' : (⟨3, 1⟩ : Span).toJson.IsSpan ⟨3, 1⟩ :=
    Span.isSpan_toJson (by decide) (by decide)
  have child : (Json.array [.null, compactSpan, .string (some "a")] true).Respells
      (.object [(some "range", (⟨3, 1⟩ : Span).toJson), (some "text", .string (some "a"))] true) :=
    .trans .array (.trans (.unknown rfl .null) (.range span span'))
  -- the children move to the front of the members and are changed there
  have fields : compact.Respells _ := .array
  have front := fields.trans (.perm (@List.perm_append_comm _ [_, _, _] [_]))
  -- last, the member that means nothing is put in front
  have changed := front.trans (@Json.Respells.child _ _ [] [] _ _ child)
  exact changed.trans (.symm (.free (by decide) rfl))

/-- The objects are decoded because the arrays are. -/
theorem decode_verbose :
    compact.Respells verbose ∧
    ofJson verbose = .ok ⟨.document, ⟨3, 1⟩, "a", [⟨.unknown, ⟨3, 1⟩, "a", []⟩]⟩ := by
  refine ⟨compact_respells_verbose, ?_⟩
  exact (decodes_exactly_the_format.2.1 compact verbose compact_respells_verbose _).mp rfl

end Node

end Adoc
