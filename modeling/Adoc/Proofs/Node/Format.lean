import Adoc.Proofs.Node.Fields

/-! # The decoder accepts exactly the format of a tree

`Json.IsNode` says which values describe which tree: objects and arrays of fields, at every level.
A value is decoded if and only if it describes a tree, and then as that tree.

* `addMembers_eq_ok_iff`  what the members of an object make of the fields of a node
* `ofJson_eq_ok_iff`      the values that are decoded, and as which trees -/

namespace Adoc

/-! ## The format -/

/-- The keys that mean something in a node. -/
def Node.fieldNames : List String := ["kind", "range", "text", "children"]

namespace Json

/-- What the values under the key of the kind come to. -/
inductive GiveKind : List Json → Kind → Prop
  | absent : GiveKind [] .unknown
  | given {v : Json} {k : Kind} (is : v.IsKind k) : GiveKind [v] k

mutual

/-- The values that describe a tree. -/
inductive IsNode : Json → Node → Prop
  | object {ms : List (Option String × Json)} {r : Json} {kind : Kind} {span : Span}
      {text : String} {children : List Node} (free : FreeBesides Node.fieldNames ms)
      (kinds : GiveKind (valuesOf "kind" ms) kind)
      (range : valuesOf "range" ms = [r]) (isSpan : r.IsSpan span)
      (isText : valuesOf "text" ms = [.string (some text)])
      (below : GiveChildren (valuesOf "children" ms) children) :
      IsNode (.object ms true) ⟨kind, span, text, children⟩
  | array {k r : Json} {cs : List Json} {kind : Kind} {span : Span} {text : String}
      {children : List Node} (isKind : k.IsKind kind) (isSpan : r.IsSpan span)
      (below : GiveChildren cs children) :
      IsNode (.array (k :: r :: .string (some text) :: cs) true) ⟨kind, span, text, children⟩

/-- What the values under the key of the children come to. -/
inductive GiveChildren : List Json → List Node → Prop
  | absent : GiveChildren [] []
  | given {vs : List Json} {ts : List Node} (are : AreNodes vs ts) :
      GiveChildren [.array vs true] ts

/-- The values that describe trees, one by one. -/
inductive AreNodes : List Json → List Node → Prop
  | nil : AreNodes [] []
  | cons {v : Json} {t : Node} {vs : List Json} {ts : List Node} (first : IsNode v t)
      (others : AreNodes vs ts) : AreNodes (v :: vs) (t :: ts)

end

/-- Without a value the kind is unknown. -/
@[simp]
theorem giveKind_nil {k : Kind} : GiveKind [] k ↔ k = .unknown := by
  constructor
  · intro h
    cases h
    rfl
  · intro h
    subst h
    exact .absent

/-- A kind is given by one value and no more. -/
@[simp]
theorem giveKind_cons {v : Json} {vs : List Json} {k : Kind} :
    GiveKind (v :: vs) k ↔ vs = [] ∧ v.IsKind k := by
  constructor
  · intro h
    cases h with
    | given is => exact ⟨rfl, is⟩
  · intro h
    obtain ⟨rfl, is⟩ := h
    exact .given is

/-- Without a value there are no children. -/
@[simp]
theorem giveChildren_nil {ts : List Node} : GiveChildren [] ts ↔ ts = [] := by
  constructor
  · intro h
    cases h
    rfl
  · intro h
    subst h
    exact .absent

/-- The children are given by one list and no more. -/
@[simp]
theorem giveChildren_cons {items vs : List Json} {ts : List Node} :
    GiveChildren (.array items true :: vs) ts ↔ vs = [] ∧ AreNodes items ts := by
  constructor
  · intro h
    cases h with
    | given are => exact ⟨rfl, are⟩
  · intro h
    obtain ⟨rfl, are⟩ := h
    exact .given are

/-- No values describe no trees. -/
@[simp]
theorem areNodes_nil {ts : List Node} : AreNodes [] ts ↔ ts = [] := by
  constructor
  · intro h
    cases h
    rfl
  · intro h
    subst h
    exact .nil

/-- The first value describes the first tree, and the others the others. -/
@[simp]
theorem areNodes_cons {v : Json} {vs : List Json} {ts : List Node} :
    AreNodes (v :: vs) ts ↔ ∃ t ts', ts = t :: ts' ∧ v.IsNode t ∧ AreNodes vs ts' := by
  constructor
  · intro h
    cases h with
    | cons first others => exact ⟨_, _, rfl, first, others⟩
  · intro h
    obtain ⟨t, ts', rfl, first, others⟩ := h
    exact .cons first others

/-- An object describes a tree if each field is given by the values under its key. -/
theorem isNode_object_iff {ms : List (Option String × Json)} {closed : Bool} {t : Node} :
    IsNode (.object ms closed) t ↔ closed = true ∧ FreeBesides Node.fieldNames ms ∧
      GiveKind (valuesOf "kind" ms) t.kind ∧
      (∃ r, valuesOf "range" ms = [r] ∧ r.IsSpan t.span) ∧
      valuesOf "text" ms = [.string (some t.text)] ∧
      GiveChildren (valuesOf "children" ms) t.children := by
  constructor
  · intro h
    obtain ⟨free, kinds, range, isSpan, text, below⟩ := h
    exact ⟨rfl, free, kinds, ⟨_, range, isSpan⟩, text, below⟩
  · obtain ⟨kind, span, text, children⟩ := t
    intro h
    obtain ⟨rfl, free, kinds, ⟨r, range, isSpan⟩, text, below⟩ := h
    exact .object free kinds range isSpan text below

/-- An array describes a tree if each field is given by the element in its place. -/
theorem isNode_array_iff {k r v : Json} {cs : List Json} {t : Node} :
    IsNode (.array (k :: r :: v :: cs) true) t ↔ k.IsKind t.kind ∧ r.IsSpan t.span ∧
      v = .string (some t.text) ∧ GiveChildren cs t.children := by
  constructor
  · intro h
    obtain _ | ⟨isKind, isSpan, below⟩ := h
    exact ⟨isKind, isSpan, rfl, below⟩
  · obtain ⟨kind, span, text, children⟩ := t
    intro h
    obtain ⟨isKind, isSpan, rfl, below⟩ := h
    exact .array isKind isSpan below

/-- Without a kind the kind is unknown; otherwise it is read from the only value. -/
theorem takes_toKind_iff {vs : List Json} {k : Kind} :
    (∃ field, Takes toKind none field vs ∧ field.getD .unknown = k) ↔ GiveKind vs k := by
  rw [takes_none_getD]
  constructor
  · intro h
    obtain ⟨rfl, rfl⟩ | ⟨v, rfl, read⟩ := h
    · exact .absent
    -- a default without a value, or what the only value is read as
    · exact .given (toKind_eq_ok_iff.mp read)
  · intro h
    obtain _ | is := h
    · exact .inl ⟨rfl, rfl⟩
    · exact .inr ⟨_, rfl, toKind_eq_ok_iff.mpr is⟩

end Json

namespace Node

/-! ## The members of an object -/

/-- The fields of a node. -/
def Draft.fields : List (Field Draft) :=
  [⟨"kind", Json.toKind, (·.kind), fun d x => { d with kind := some x }⟩,
    ⟨"range", Span.ofJson, (·.span), fun d x => { d with span := some x }⟩,
    ⟨"text", Json.toText, (·.text), fun d x => { d with text := some x }⟩,
    ⟨"children", listOfJson, (·.children), fun d x => { d with children := some x }⟩]

/-- The draft of a node is read field by field. -/
theorem readsFields : ReadsFields Draft.fields addMembers where
  ext {d e} h := by
    obtain ⟨kind, span, text, children⟩ : e.kind = d.kind ∧ e.span = d.span ∧ e.text = d.text ∧
        e.children = d.children := by simpa [Draft.fields] using h
    exact (congr (congr (congr (congrArg Draft.mk kind) span) text) children).symm
  get_put := by simp [Draft.fields]
  get_put_of_ne := by simp [Draft.fields]
  names := by decide
  nil d := by rw [addMembers]
  broken d v ms := by rw [addMembers]
  known := by simp [Draft.fields, addMembers]
  other key h d v ms := by
    rw [addMembers]
    -- the equation for other keys asks that the key is none of the four
    all_goals
      rintro rfl
      exact h (by decide)

/-- What reading the members of an object makes of a draft. -/
theorem addMembers_eq_ok_iff {ms : List (Option String × Json)} {d e : Draft} :
    addMembers d ms = .ok e ↔ Json.FreeBesides fieldNames ms ∧
      Takes Json.toKind d.kind e.kind (Json.valuesOf "kind" ms) ∧
      Takes Span.ofJson d.span e.span (Json.valuesOf "range" ms) ∧
      Takes Json.toText d.text e.text (Json.valuesOf "text" ms) ∧
      Takes listOfJson d.children e.children (Json.valuesOf "children" ms) := by
  -- each of the four fields has its place in the general statement
  rw [readsFields.eq_ok_iff, Draft.fields]
  iterate 3 rw [List.forall_mem_cons]
  rw [List.forall_mem_singleton]
  exact Iff.rfl

/-- A draft is a node if a span and a text are there; the other fields have defaults. -/
theorem Draft.finish_eq_ok_iff {d : Draft} {t : Node} :
    d.finish = .ok t ↔ d.kind.getD .unknown = t.kind ∧ d.span = some t.span ∧
      d.text = some t.text ∧ d.children.getD [] = t.children := by
  simp only [finish, bind_eq_ok_iff, required_eq_ok_iff, pure_eq_ok_iff]
  constructor
  · intro h
    obtain ⟨span, hspan, text, htext, rfl⟩ := h
    exact ⟨rfl, hspan, htext, rfl⟩
  · obtain ⟨kind, span, text, children⟩ := t
    intro h
    obtain ⟨rfl, hspan, htext, rfl⟩ := h
    exact ⟨span, hspan, text, htext, rfl⟩

/-! ## Nodes -/

/-- The children are read from an array. -/
theorem listOfJson_eq_ok_iff {v : Json} {ts : List Node} :
    listOfJson v = .ok ts ↔ ∃ vs, v = .array vs true ∧ listOfItems vs = .ok ts := by
  constructor
  · intro h
    rw [listOfJson.eq_def] at h
    split at h
    · rename_i vs closed
      simp only [bind_eq_ok_iff, whenClosed_eq_ok_iff] at h
      -- the array has to be closed, and then its items are the children
      obtain ⟨nodes, read, rfl, rfl⟩ := h
      exact ⟨vs, rfl, read⟩
    · cases h
  · intro h
    obtain ⟨vs, rfl, read⟩ := h
    simp only [listOfJson, bind_eq_ok_iff, whenClosed_eq_ok_iff]
    exact ⟨ts, read, trivial, rfl⟩

/-- Without children there are none; otherwise they are read from the only value. -/
theorem takes_listOfJson_iff {vs : List Json} {ts : List Node}
    (items : ∀ {vs}, listOfItems vs = .ok ts ↔ Json.AreNodes vs ts) :
    (∃ field, Takes listOfJson none field vs ∧ field.getD [] = ts) ↔ Json.GiveChildren vs ts := by
  rw [takes_none_getD]
  constructor
  · intro h
    obtain ⟨rfl, rfl⟩ | ⟨v, rfl, read⟩ := h
    · exact .absent
    · obtain ⟨vs, rfl, are⟩ := listOfJson_eq_ok_iff.mp read
      exact .given (items.mp are)
  · intro h
    obtain _ | are := h
    · exact .inl ⟨rfl, rfl⟩
    · exact .inr ⟨_, rfl, listOfJson_eq_ok_iff.mpr ⟨_, rfl, items.mpr are⟩⟩

/-- An object is decoded as the tree it describes, if its children are. -/
theorem ofJson_object_eq_ok_iff {ms : List (Option String × Json)} {closed : Bool} {kind : Kind}
    {span : Span} {text : String} {children : List Node}
    (items : ∀ {vs}, listOfItems vs = .ok children ↔ Json.AreNodes vs children) :
    ofJson (.object ms closed) = .ok ⟨kind, span, text, children⟩ ↔
      (Json.object ms closed).IsNode ⟨kind, span, text, children⟩ := by
  simp only [ofJson, bind_eq_ok_iff, whenClosed_eq_ok_iff, Draft.finish_eq_ok_iff]
  constructor
  · intro h
    obtain ⟨d, read, -, ⟨rfl, -⟩, isKind, isSpan, isText, are⟩ := h
    obtain ⟨free, kinds, ranges, texts, below⟩ := addMembers_eq_ok_iff.mp read
    -- the draft is complete, so that a span and a text were read from the only values there are
    rw [isSpan] at ranges
    rw [isText] at texts
    obtain ⟨r, range, isSpan⟩ := takes_none_some.mp ranges
    obtain ⟨t, text, isText⟩ := takes_none_some.mp texts
    obtain rfl := Json.toText_eq_ok_iff.mp isText
    exact .object free (Json.takes_toKind_iff.mp ⟨_, kinds, isKind⟩) range
      (Span.ofJson_eq_ok_iff.mp isSpan) text ((takes_listOfJson_iff items).mp ⟨_, below, are⟩)
  · intro h
    obtain ⟨free, kinds, range, isSpan, isText, below⟩ := h
    -- a draft is put together of what each field is read as
    obtain ⟨kindField, kinds, isKind⟩ := Json.takes_toKind_iff.mpr kinds
    obtain ⟨childrenField, below, are⟩ := (takes_listOfJson_iff items).mpr below
    refine ⟨⟨kindField, some span, some text, childrenField⟩,
      addMembers_eq_ok_iff.mpr ⟨free, kinds, ?_, ?_, below⟩, (), ⟨rfl, trivial⟩, isKind, rfl,
      rfl, are⟩
    · exact takes_none_some.mpr ⟨_, range, Span.ofJson_eq_ok_iff.mpr isSpan⟩
    · exact takes_none_some.mpr ⟨_, isText, rfl⟩

/-- An array is decoded as the tree it describes, if its children are. -/
theorem ofJson_array_eq_ok_iff {vs : List Json} {closed : Bool} {kind : Kind} {span : Span}
    {text : String} {children : List Node}
    (items : ∀ {vs}, listOfItems vs = .ok children ↔ Json.AreNodes vs children) :
    ofJson (.array vs closed) = .ok ⟨kind, span, text, children⟩ ↔
      (Json.array vs closed).IsNode ⟨kind, span, text, children⟩ := by
  match vs with
  -- without a text the decoder ends in an error, and no form of a tree is so short
  | [] =>
    simp only [ofJson, bind_eq_ok_iff]
    exact ⟨fun ⟨_, _, h⟩ => (nomatch h), nofun⟩
  | [k] =>
    simp only [ofJson, bind_eq_ok_iff]
    exact ⟨fun ⟨_, _, _, _, h⟩ => (nomatch h), nofun⟩
  | [k, r] =>
    simp only [ofJson, bind_eq_ok_iff]
    exact ⟨fun ⟨_, _, _, _, _, _, h⟩ => (nomatch h), nofun⟩
  -- a leaf may leave out the list of its children
  | [k, r, t] =>
    simp only [ofJson, bind_eq_ok_iff, whenClosed_eq_ok_iff, Json.toKind_eq_ok_iff,
      Span.ofJson_eq_ok_iff, Json.toText_eq_ok_iff]
    constructor
    · intro h
      obtain ⟨kind, isKind, span, isSpan, text, rfl, rfl, same⟩ := h
      obtain ⟨rfl, rfl, rfl, rfl⟩ := Node.mk.inj same
      exact .array isKind isSpan .absent
    · intro h
      obtain _ | ⟨isKind, isSpan, _ | _⟩ := h
      exact ⟨kind, isKind, span, isSpan, text, rfl, rfl, rfl⟩
  -- the fourth element holds the children, and nothing may follow it
  | k :: r :: t :: c :: rest =>
    simp only [ofJson, bind_eq_ok_iff, whenClosed_eq_ok_iff, Json.toKind_eq_ok_iff,
      Span.ofJson_eq_ok_iff, Json.toText_eq_ok_iff, listOfJson_eq_ok_iff, Bool.and_eq_true,
      List.isEmpty_iff]
    constructor
    · intro h
      obtain ⟨kind, isKind, span, isSpan, text, rfl, children, ⟨vs, rfl, read⟩, end_, same⟩ := h
      obtain ⟨rfl, rfl⟩ := end_
      obtain ⟨rfl, rfl, rfl, rfl⟩ := Node.mk.inj same
      exact .array isKind isSpan (.given (items.mp read))
    · intro h
      obtain _ | ⟨isKind, isSpan, _ | are⟩ := h
      exact ⟨kind, isKind, span, isSpan, text, rfl, children, ⟨_, rfl, items.mpr are⟩,
        ⟨rfl, rfl⟩, rfl⟩

mutual

/-- A value is decoded if and only if it describes a tree, and then as that tree. -/
theorem ofJson_eq_ok_iff : ∀ {t : Node} {v : Json}, ofJson v = .ok t ↔ v.IsNode t
  | ⟨_, _, _, children⟩, v => by
    -- the recursion is on the tree: its children are smaller, whatever form the value has
    have items : ∀ {vs}, listOfItems vs = .ok children ↔ Json.AreNodes vs children :=
      listOfItems_eq_ok_iff
    cases v with
    | object ms closed => exact ofJson_object_eq_ok_iff items
    | array vs closed => exact ofJson_array_eq_ok_iff items
    | null => exact ⟨nofun, nofun⟩
    | boolean b => exact ⟨nofun, nofun⟩
    | number n => exact ⟨nofun, nofun⟩
    | string s => exact ⟨nofun, nofun⟩
    | broken => exact ⟨nofun, nofun⟩

/-- The items of an array are decoded if they describe trees, one by one. -/
theorem listOfItems_eq_ok_iff : ∀ {ts : List Node} {vs : List Json},
    listOfItems vs = .ok ts ↔ Json.AreNodes vs ts
  | ts, [] => by
    constructor
    · intro h
      obtain rfl := Except.ok.inj h
      exact .nil
    · intro h
      cases h
      rfl
  | [], v :: vs => by
    simp only [listOfItems, bind_eq_ok_iff]
    exact ⟨fun ⟨_, _, _, _, h⟩ => (nomatch h), nofun⟩
  | t :: ts, v :: vs => by
    -- the first item belongs to the first tree, and the others to the others
    have first : ofJson v = .ok t ↔ v.IsNode t := ofJson_eq_ok_iff
    have others : listOfItems vs = .ok ts ↔ Json.AreNodes vs ts := listOfItems_eq_ok_iff
    simp only [listOfItems, bind_eq_ok_iff, pure_eq_ok_iff]
    constructor
    · intro h
      obtain ⟨node, read, nodes, reads, same⟩ := h
      obtain ⟨rfl, rfl⟩ := List.cons.inj same
      exact .cons (first.mp read) (others.mp reads)
    · intro h
      obtain _ | ⟨is, are⟩ := h
      exact ⟨t, first.mpr is, ts, others.mpr are, rfl⟩

end

end Node

end Adoc
