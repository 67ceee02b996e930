import Adoc.Proofs.Node.Spelling

/-! # Children are decoded in their place as they are alone

A `Json.Context` is a value with a hole for a child, at any depth: level by level what stands around
it. What is put into the hole is decoded as it is alone, be it a tree or an error, and an error
there is not touched by anything behind it.

* `isNode_fill_iff`        which trees a context with a child in it describes
* `ofJson_fill_eq_error`   an error in the hole is that of the whole value
* `HasFaults`              values with any number of malformed children -/

namespace Adoc

namespace Json

/-! ## Contexts -/

/-- What stands around the list of children in the value of a node. -/
inductive Shell where
  /-- The members of an object in front of the children and behind them. -/
  | object (before after : List (Option String × Json)) (closed : Bool)
  /-- The elements of an array in front of the children and behind them. -/
  | array (kind range text : Json) (rest : List Json) (closed : Bool)

namespace Shell

/-- The value with `v` for the children. -/
def put : Shell → Json → Json
  | object before after closed, v => .object (before ++ (some "children", v) :: after) closed
  | array k r t rest closed, v => .array (k :: r :: t :: v :: rest) closed

/-- The shells of the nodes of a kind, span and text. -/
inductive Describes (kind : Kind) (span : Span) (text : String) : Shell → Prop
  | object {before after : List (Option String × Json)} {r : Json}
      (free : FreeBesides Node.fieldNames (before ++ after))
      (kinds : GiveKind (valuesOf "kind" (before ++ after)) kind)
      (range : valuesOf "range" (before ++ after) = [r]) (isSpan : r.IsSpan span)
      (isText : valuesOf "text" (before ++ after) = [.string (some text)])
      (only : valuesOf "children" (before ++ after) = []) :
      Describes kind span text (.object before after true)
  | array {k r : Json} (isKind : k.IsKind kind) (isSpan : r.IsSpan span) :
      Describes kind span text (.array k r (.string (some text)) [] true)

end Shell

/-- Is there at most one value, and that with the given property? -/
def AtMostOne (p : Json → Prop) (vs : List Json) : Prop := vs = [] ∨ ∃ v, vs = [v] ∧ p v

/-- The shells that are those of a node as far as the children; nothing is said of what stands
behind them. -/
inductive Shell.Opens : Shell → Prop
  | object {before after : List (Option String × Json)} {closed : Bool}
      (free : FreeBesides Node.fieldNames before)
      (kinds : AtMostOne (fun v => ∃ k, v.IsKind k) (valuesOf "kind" before))
      (ranges : AtMostOne (fun v => ∃ s, v.IsSpan s) (valuesOf "range" before))
      (texts : AtMostOne (fun v => ∃ s, v = .string (some s)) (valuesOf "text" before))
      (only : valuesOf "children" before = []) : Opens (.object before after closed)
  | array {k r : Json} {kind : Kind} {span : Span} {text : String} {rest : List Json}
      {closed : Bool} (isKind : k.IsKind kind) (isSpan : r.IsSpan span) :
      Opens (.array k r (.string (some text)) rest closed)

/-- What stands around a child in the value of its parent. -/
structure Frame where
  shell : Shell
  /-- The siblings in front of the child. -/
  older : List Json
  /-- The siblings behind the child. -/
  younger : List Json
  /-- The text does not go wrong behind the siblings. -/
  closed : Bool

/-- The value of the parent with `x` for the child. -/
def Frame.fill (f : Frame) (x : Json) : Json :=
  f.shell.put (.array (f.older ++ x :: f.younger) f.closed)

/-- Is everything in front of the child as in the value of a node? -/
structure Frame.Opens (f : Frame) : Prop where
  shell : f.shell.Opens
  older : ∀ v ∈ f.older, ∃ t, v.IsNode t

/-- A value with a hole for a child: what stands around it, the outermost level first. -/
abbrev Context := List Frame

namespace Context

/-- The value with `x` in the hole. -/
def fill (c : Context) (x : Json) : Json := c.foldr Frame.fill x

/-- Is everything in front of the hole as in the value of a node? -/
def Opens (c : Context) : Prop := ∀ f ∈ c, f.Opens

end Context

end Json

namespace Node

/-- What lies around a child in a tree. -/
structure Frame where
  kind : Kind
  span : Span
  text : String
  older : List Node
  younger : List Node

/-- The parent of `t`. -/
def Frame.fill (f : Frame) (t : Node) : Node :=
  ⟨f.kind, f.span, f.text, f.older ++ t :: f.younger⟩

/-- A tree with a hole in it: what lies around it, the outermost level first. -/
abbrev Context := List Frame

/-- The tree with `t` in the hole. -/
def Context.fill (c : Context) (t : Node) : Node := c.foldr Frame.fill t

end Node

namespace Json

/-- The frame of a value that describes the one of a tree. -/
structure Frame.Describes (f : Frame) (g : Node.Frame) : Prop where
  shell : f.shell.Describes g.kind g.span g.text
  older : AreNodes f.older g.older
  younger : AreNodes f.younger g.younger
  closed : f.closed = true

/-- Does the value describe the tree, hole for hole? -/
def Context.Describes (c : Context) (d : Node.Context) : Prop := List.Forall₂ Frame.Describes c d

/-! ## A tree in the hole -/

/-- Where children are given there is one value for them. -/
theorem giveChildren_cons_iff {v : Json} {vs : List Json} {ts : List Node} :
    GiveChildren (v :: vs) ts ↔ vs = [] ∧ GiveChildren [v] ts := by
  constructor
  · intro h
    cases h with
    | given are => exact ⟨rfl, .given are⟩
  · intro h
    obtain ⟨rfl, give⟩ := h
    exact give

/-- The members in front of the children and behind them count together. -/
theorem isNode_put_iff {s : Shell} {v : Json} {t : Node} :
    (s.put v).IsNode t ↔ s.Describes t.kind t.span t.text ∧ GiveChildren [v] t.children := by
  cases s with
  | object before after closed =>
    -- the order of members is of no account, so the children may come first
    have front : IsNode (.object (before ++ (some "children", v) :: after) closed) t ↔
        IsNode (.object ((some "children", v) :: (before ++ after)) closed) t :=
      ⟨fun is => is.perm List.perm_middle, fun is => is.perm List.perm_middle.symm⟩
    rw [Shell.put, front, isNode_object_iff, freeBesides_cons_known (by decide),
      valuesOf_cons_self, giveChildren_cons_iff]
    iterate 3 rw [valuesOf_cons_of_ne (by decide)]
    constructor
    · intro h
      -- all but the children is said of the members around them
      obtain ⟨rfl, free, kinds, ⟨r, range, isSpan⟩, isText, only, below⟩ := h
      exact ⟨.object free kinds range isSpan isText only, below⟩
    · intro h
      obtain ⟨⟨free, kinds, range, isSpan, isText, only⟩, below⟩ := h
      exact ⟨rfl, free, kinds, ⟨_, range, isSpan⟩, isText, only, below⟩
  | array k r w rest closed =>
    rw [Shell.put]
    constructor
    · intro h
      obtain _ | ⟨isKind, isSpan, give⟩ := h
      obtain ⟨rfl, below⟩ := giveChildren_cons_iff.mp give
      exact ⟨.array isKind isSpan, below⟩
    · intro h
      obtain ⟨_ | ⟨isKind, isSpan⟩, below⟩ := h
      exact isNode_array_iff.mpr ⟨isKind, isSpan, rfl, below⟩

/-- Values in a row describe, in a row, the trees that their parts describe. -/
theorem areNodes_append {vs ws : List Json} {ts : List Node} :
    AreNodes (vs ++ ws) ts ↔ ∃ us us', ts = us ++ us' ∧ AreNodes vs us ∧ AreNodes ws us' := by
  induction vs generalizing ts with
  | nil => simp [areNodes_nil]
  | cons v vs ih =>
    simp only [List.cons_append, areNodes_cons, ih]
    constructor
    · intro h
      obtain ⟨t, _, rfl, first, us, us', rfl, front, back⟩ := h
      exact ⟨t :: us, us', rfl, ⟨t, us, rfl, first, front⟩, back⟩
    · intro h
      obtain ⟨_, us', rfl, ⟨t, us, rfl, first, front⟩, back⟩ := h
      exact ⟨t, us ++ us', rfl, first, us, us', rfl, front, back⟩

/-- One of several values describes the tree in its place. -/
theorem areNodes_append_cons {vs ws : List Json} {x : Json} {ts : List Node} :
    AreNodes (vs ++ x :: ws) ts ↔ ∃ us t us', ts = us ++ t :: us' ∧ AreNodes vs us ∧ x.IsNode t ∧
      AreNodes ws us' := by
  simp only [areNodes_append, areNodes_cons]
  constructor
  · intro h
    obtain ⟨us, _, rfl, front, t, us', rfl, is, back⟩ := h
    exact ⟨us, t, us', rfl, front, is, back⟩
  · intro h
    obtain ⟨us, t, us', rfl, front, is, back⟩ := h
    exact ⟨us, t :: us', rfl, front, t, us', rfl, is, back⟩

/-- One level: the parent is a tree if the child is one and all around it is in order. -/
theorem Frame.isNode_fill_iff {f : Frame} {x : Json} {t : Node} :
    (f.fill x).IsNode t ↔ ∃ g u, f.Describes g ∧ x.IsNode u ∧ t = g.fill u := by
  rw [Frame.fill, isNode_put_iff]
  constructor
  · obtain ⟨kind, span, text, children⟩ := t
    intro h
    obtain ⟨shell, give⟩ := h
    obtain ⟨shell', older, younger, closed⟩ := f
    -- there is one list of children, and its items are divided at the child
    obtain _ | are := give
    obtain ⟨us, u, us', rfl, front, is, back⟩ := areNodes_append_cons.mp are
    exact ⟨⟨kind, span, text, us, us'⟩, u, ⟨shell, front, back, rfl⟩, is, rfl⟩
  · intro h
    obtain ⟨g, u, ⟨shell, front, back, closed⟩, is, rfl⟩ := h
    refine ⟨shell, ?_⟩
    rw [closed]
    exact .given (areNodes_append_cons.mpr ⟨_, _, _, rfl, front, is, back⟩)

/-- The trees that a context describes with a child in it. -/
theorem Context.isNode_fill_iff {c : Context} {x : Json} {t : Node} :
    (c.fill x).IsNode t ↔ ∃ d u, c.Describes d ∧ x.IsNode u ∧ t = Node.Context.fill d u := by
  induction c generalizing t with
  | nil =>
    constructor
    · intro h
      exact ⟨[], t, .nil, h, rfl⟩
    · intro h
      obtain ⟨d, u, same, is, rfl⟩ := h
      cases same
      exact is
  | cons f c ih =>
    rw [Context.fill, List.foldr_cons, ← Context.fill, Frame.isNode_fill_iff]
    constructor
    · intro h
      obtain ⟨g, u, frame, inner, rfl⟩ := h
      -- the outermost frame holds the tree of all the others
      obtain ⟨d, u, context, is, rfl⟩ := ih.mp inner
      exact ⟨g :: d, u, .cons frame context, is, rfl⟩
    · intro h
      obtain ⟨d, u, same, is, rfl⟩ := h
      obtain _ | ⟨frame, context⟩ := same
      exact ⟨_, _, frame, ih.mpr ⟨_, u, context, is, rfl⟩, rfl⟩

end Json

namespace Node

/-! ## An error in the hole -/

/-- A field that is given at most once, and then properly, can be read. -/
theorem exists_takes {read : Json → Except TreeError α} {p : Json → Prop} {vs : List Json}
    (reads : ∀ v, p v → ∃ x, read v = .ok x) (h : Json.AtMostOne p vs) :
    ∃ field, Takes read none field vs := by
  obtain rfl | ⟨v, rfl, hv⟩ := h
  · exact ⟨none, rfl⟩
  · obtain ⟨x, hx⟩ := reads v hv
    exact ⟨some x, rfl, x, hx, rfl⟩

/-- The members in front of the children are read, and no children are among them. -/
theorem exists_addMembers_of_opens {before after : List (Option String × Json)} {closed : Bool}
    (h : (Json.Shell.object before after closed).Opens) :
    ∃ d : Draft, addMembers {} before = .ok d ∧ d.children = none := by
  obtain ⟨free, kinds, ranges, texts, only⟩ := h
  -- each field is read by itself, from the values that are there for it
  obtain ⟨kind, kinds⟩ := exists_takes
    (fun _ ⟨k, is⟩ => ⟨k, Json.toKind_eq_ok_iff.mpr is⟩) kinds
  obtain ⟨span, ranges⟩ := exists_takes
    (fun _ ⟨s, is⟩ => ⟨s, Span.ofJson_eq_ok_iff.mpr is⟩) ranges
  obtain ⟨text, texts⟩ := exists_takes
    (fun _ ⟨s, is⟩ => ⟨s, Json.toText_eq_ok_iff.mpr is⟩) texts
  refine ⟨⟨kind, span, text, none⟩, addMembers_eq_ok_iff.mpr ⟨free, kinds, ranges, texts, ?_⟩, rfl⟩
  exact takes_none_none.mpr only

/-- An error among the children is met before anything behind them. -/
theorem ofJson_put_eq_error {s : Json.Shell} {v : Json} {e : TreeError} (front : s.Opens)
    (h : listOfJson v = .error e) : ofJson (s.put v) = .error e := by
  cases s with
  | object before after closed =>
    -- no children were read yet, so that these are no repetition
    obtain ⟨d, read, absent⟩ := exists_addMembers_of_opens front
    rw [Json.Shell.put, ofJson, readsFields.append, read]
    show (addMembers d ((some "children", v) :: after) >>= _) = _
    rw [addMembers, absent, h]
    rfl
  | array k r t rest closed =>
    -- the elements in front are read one by one, and then the children
    obtain _ | ⟨isKind, isSpan⟩ := front
    rw [Json.Shell.put, ofJson, Json.toKind_eq_ok_iff.mpr isKind,
      Span.ofJson_eq_ok_iff.mpr isSpan, h]
    rfl

/-- Behind children that are decoded an error is met. -/
theorem listOfItems_eq_error {older younger : List Json} {x : Json} {e : TreeError}
    (front : ∀ v ∈ older, ∃ t, v.IsNode t) (h : ofJson x = .error e) :
    listOfItems (older ++ x :: younger) = .error e := by
  induction older with
  | nil =>
    rw [List.nil_append, listOfItems, h]
    rfl
  | cons v older ih =>
    obtain ⟨⟨t, is⟩, others⟩ := List.forall_mem_cons.mp front
    -- the first of the older siblings is decoded, so that the error comes from behind it
    rw [List.cons_append, listOfItems, ofJson_eq_ok_iff.mpr is, ih others]
    rfl

/-- One level: an error in the child is one of the parent. -/
theorem ofJson_fill_frame_eq_error {f : Json.Frame} {x : Json} {e : TreeError} (front : f.Opens)
    (h : ofJson x = .error e) : ofJson (f.fill x) = .error e := by
  apply ofJson_put_eq_error front.shell
  rw [listOfJson, listOfItems_eq_error front.older h]
  rfl

/-- An error in the hole is that of the whole value. -/
theorem ofJson_fill_eq_error {c : Json.Context} {x : Json} {e : TreeError} (front : c.Opens)
    (h : ofJson x = .error e) : ofJson (c.fill x) = .error e := by
  induction c with
  | nil => exact h
  | cons f c ih =>
    obtain ⟨frame, inner⟩ := List.forall_mem_cons.mp front
    -- the error goes up level by level
    exact ofJson_fill_frame_eq_error frame (ih inner)

end Node

namespace Json

/-! ## Contexts of trees -/

/-- The values under a key stand in the order of the members. -/
@[simp]
theorem valuesOf_append {key : String} {ms ms' : List (Option String × Json)} :
    valuesOf key (ms ++ ms') = valuesOf key ms ++ valuesOf key ms' := by
  rw [valuesOf, List.filter_append, List.map_append, ← valuesOf, ← valuesOf]

/-- Where there is at most one value, there is at most one in front. -/
theorem AtMostOne.of_append {p : Json → Prop} {vs ws : List Json} (h : AtMostOne p (vs ++ ws)) :
    AtMostOne p vs := by
  obtain none | ⟨v, only, hv⟩ := h
  · exact .inl (List.append_eq_nil_iff.mp none).1
  · cases vs with
    | nil => exact .inl rfl
    | cons w vs =>
      -- the one value is the first in front, and nothing is left for behind
      obtain ⟨rfl, none⟩ := List.cons.inj only
      exact .inr ⟨w, congrArg (w :: ·) (List.append_eq_nil_iff.mp none).1, hv⟩

/-- A kind is given by at most one value. -/
theorem GiveKind.atMostOne {vs : List Json} {k : Kind} (h : GiveKind vs k) :
    AtMostOne (fun v => ∃ k, v.IsKind k) vs := by
  cases h with
  | absent => exact .inl rfl
  | given is => exact .inr ⟨_, rfl, k, is⟩

/-- What stands around the children of a tree is in order, and so is what stands in front of them.
-/
theorem Shell.Describes.opens {s : Shell} {kind : Kind} {span : Span} {text : String}
    (h : s.Describes kind span text) : s.Opens := by
  cases h with
  | object free kinds range isSpan isText only =>
    -- what is given once in front and behind together is given at most once in front
    have kinds := kinds.atMostOne
    have ranges : AtMostOne (fun v => ∃ s, v.IsSpan s) _ := .inr ⟨_, range, span, isSpan⟩
    have texts : AtMostOne (fun v => ∃ s, v = .string (some s)) _ := .inr ⟨_, isText, text, rfl⟩
    rw [valuesOf_append] at kinds ranges texts only
    exact .object (fun m hm => free m (List.mem_append_left _ hm)) kinds.of_append
      ranges.of_append texts.of_append (List.append_eq_nil_iff.mp only).1
  | array isKind isSpan => exact .array isKind isSpan

/-- Values that describe trees one by one describe a tree each. -/
theorem AreNodes.forall_mem {vs : List Json} {ts : List Node} (h : AreNodes vs ts) :
    ∀ v ∈ vs, ∃ t, v.IsNode t := by
  induction vs generalizing ts with
  | nil => exact nofun
  | cons v vs ih =>
    obtain ⟨t, ts', rfl, first, others⟩ := areNodes_cons.mp h
    exact List.forall_mem_cons.mpr ⟨⟨t, first⟩, ih others⟩

/-- Values that describe a tree each describe trees one by one. -/
theorem AreNodes.exists_of_forall_mem {vs : List Json} (h : ∀ v ∈ vs, ∃ t, v.IsNode t) :
    ∃ ts, AreNodes vs ts := by
  induction vs with
  | nil => exact ⟨[], .nil⟩
  | cons v vs ih =>
    obtain ⟨⟨t, first⟩, others⟩ := List.forall_mem_cons.mp h
    obtain ⟨ts, others⟩ := ih others
    exact ⟨t :: ts, .cons first others⟩

/-- In a context of a tree all is in order, also what stands in front of the hole. -/
theorem Context.Describes.opens {c : Context} {d : Node.Context} (h : c.Describes d) :
    c.Opens := by
  induction h with
  | nil => exact nofun
  | cons frame _ ih =>
    exact List.forall_mem_cons.mpr ⟨⟨frame.shell.opens, frame.older.forall_mem⟩, ih⟩

/-! ## Several malformed children -/

/-- The value describes a tree, but for children at any depth that are malformed; their errors are
listed in the order of the text. -/
inductive HasFaults : List TreeError → Json → Prop
  | sound {v : Json} {t : Node} (is : v.IsNode t) : HasFaults [] v
  | fault {v : Json} {e : TreeError} (fails : Node.ofJson v = .error e) : HasFaults [e] v
  | parent {s : Shell} {kind : Kind} {span : Span} {text : String}
      {children : List (List TreeError × Json)} (shell : s.Describes kind span text)
      (faults : ∀ c ∈ children, HasFaults c.1 c.2) :
      HasFaults (children.flatMap (·.1)) (s.put (.array (children.map (·.2)) true))

/-- Without errors the value describes a tree. -/
theorem HasFaults.exists_isNode {es : List TreeError} {v : Json} (h : HasFaults es v)
    (none : es = []) : ∃ t, v.IsNode t := by
  induction h with
  | sound is => exact ⟨_, is⟩
  | fault => exact nomatch none
  | @parent s kind span text children shell _ ih =>
    -- no child has an error of its own, so that each describes a tree
    have sound : ∀ v ∈ children.map (·.2), ∃ t, v.IsNode t := by
      intro v hv
      obtain ⟨c, hc, rfl⟩ := List.mem_map.mp hv
      exact ih c hc (List.flatMap_eq_nil_iff.mp none c hc)
    obtain ⟨ts, are⟩ := AreNodes.exists_of_forall_mem sound
    exact ⟨⟨kind, span, text, ts⟩, isNode_put_iff.mpr ⟨shell, .given are⟩⟩

end Json

namespace Node

/-- Of values of which some are malformed the first such is reported. -/
private theorem listOfItems_faults_eq_error {children : List (List TreeError × Json)}
    {e : TreeError} {es : List TreeError} (faults : ∀ c ∈ children, c.2.HasFaults c.1)
    (reported : ∀ c ∈ children, ∀ e es, c.1 = e :: es → ofJson c.2 = .error e)
    (some : children.flatMap (·.1) = e :: es) :
    listOfItems (children.map (·.2)) = .error e := by
  induction children with
  | nil => exact nomatch some
  | cons c children ih =>
    obtain ⟨faults, othersFaults⟩ := List.forall_mem_cons.mp faults
    obtain ⟨reported, othersReported⟩ := List.forall_mem_cons.mp reported
    rw [List.map_cons, listOfItems]
    -- the first child is in order or reports its first error, and then the others are not looked at
    cases errors : c.1 with
    | nil =>
      obtain ⟨t, is⟩ := faults.exists_isNode errors
      rw [List.flatMap_cons, errors, List.nil_append] at some
      rw [ofJson_eq_ok_iff.mpr is, ih othersFaults othersReported some]
      rfl
    | cons e' es' =>
      rw [List.flatMap_cons, errors, List.cons_append] at some
      rw [← (List.cons.inj some).1, reported e' es' errors]
      rfl

/-- Of malformed children, wherever they are, the first is reported. -/
theorem ofJson_eq_error_of_hasFaults {errors : List TreeError} {v : Json}
    (h : v.HasFaults errors) {e : TreeError} {es : List TreeError} (some : errors = e :: es) :
    ofJson v = .error e := by
  induction h generalizing e es with
  | sound => exact nomatch some
  | fault fails => rw [fails, (List.cons.inj some).1]
  | parent shell faults ih =>
    -- the first error of a value is that of the first child that has one
    apply ofJson_put_eq_error shell.opens
    rw [listOfJson, listOfItems_faults_eq_error faults (fun c hc _ _ => ih c hc) some]
    rfl

/-! ## Trees in their place -/

/-- Behind an error in the shape of the data nothing is looked at, so that the text may go wrong
there. -/
theorem decode_eq_data_error_iff {text : String} {e : DataError} :
    decode text = .error (.data e) ↔ ofJson (Json.read text.toList).1 = .error (.data e) := by
  show (ofJson (Json.read text.toList).1 >>= _) = _ ↔ _
  -- a tree in an unfinished text is an error in the text, not in the data
  cases ofJson (Json.read text.toList).1 with
  | error e' => exact Iff.rfl
  | ok t =>
    show whenClosed (Json.read text.toList).2 t = _ ↔ _
    unfold whenClosed
    split
    · exact ⟨nofun, nofun⟩
    · exact ⟨nofun, nofun⟩

/-- Decoding is compositional, errors included. A child is decoded in its place as it is alone: in a
value that is otherwise that of a tree, a tree lies in its place there, and an error is that of the
whole value, whatever stands behind the child. So the first of several malformed children is the one
that is reported. The same holds of texts, where an error in the shape of the data is reported even
if the text goes wrong behind it. -/
theorem decoding_is_compositional :
    (∀ (c : Json.Context) (d : Context) (x : Json) (t : Node), c.Describes d →
      ofJson x = .ok t → ofJson (c.fill x) = .ok (d.fill t)) ∧
    (∀ (c : Json.Context) (x : Json) (e : TreeError), c.Opens →
      ofJson x = .error e → ofJson (c.fill x) = .error e) ∧
    (∀ (c : Json.Context) (d : Context), c.Describes d → c.Opens) ∧
    (∀ (v : Json) (e : TreeError) (es : List TreeError), v.HasFaults (e :: es) →
      ofJson v = .error e) ∧
    ∀ (c : Json.Context) (inner outer : String),
      (Json.read outer.toList).1 = c.fill (Json.read inner.toList).1 →
        (∀ (d : Context) (t : Node), c.Describes d → (Json.read outer.toList).2 = true →
          decode inner = .ok t → decode outer = .ok (d.fill t)) ∧
        ∀ e : DataError, c.Opens → decode inner = .error (.data e) →
          decode outer = .error (.data e) := by
  have tree {c : Json.Context} {d : Context} {x : Json} {t : Node} (describes : c.Describes d)
      (is : x.IsNode t) : (c.fill x).IsNode (d.fill t) :=
    Json.Context.isNode_fill_iff.mpr ⟨d, t, describes, is, rfl⟩
  refine ⟨?_, fun c x e => ofJson_fill_eq_error, fun c d => Json.Context.Describes.opens,
    fun v e es h => ofJson_eq_error_of_hasFaults h rfl, ?_⟩
  · intro c d x t describes read
    rw [ofJson_eq_ok_iff] at read ⊢
    exact tree describes read
  · intro c inner outer spelled
    constructor
    · intro d t describes atEnd read
      -- the outer text spells the value with the inner one in the hole
      obtain ⟨x, readInner, is⟩ := decode_eq_ok_iff.mp read
      rw [readInner] at spelled
      exact decode_eq_ok_iff.mpr ⟨_, Prod.ext spelled atEnd, tree describes is⟩
    · intro e front fails
      rw [decode_eq_data_error_iff] at fails ⊢
      rw [spelled]
      exact ofJson_fill_eq_error front fails

/-- The value `[start,len]`. -/
private def spanValue (start len : Nat) : Json :=
  .array [.number (.ofNat start), .number (.ofNat len)] true

/-- A child that is in order. -/
private def leafValue : Json :=
  .array [.string (some "TEXT"), spanValue 1 1, .string (some "b")] true

/-- The tree of the child that is in order. -/
private def leaf : Node := ⟨.text, ⟨1, 1⟩, "b", []⟩

/-- A child without a text. -/
private def textless : Json := .object [(some "range", spanValue 1 1)] true

/-- The first child of the document. -/
private def firstChild : Json := .array [.null, spanValue 0 1, .string (some "a")] true

/-- The object around the children of the document, up to what stands behind them. -/
private def documentShell (after : List (Option String × Json)) (closed : Bool) : Json.Shell :=
  .object [(some "text", .string (some "ab"))] after closed

/-- The document with a hole in its second child, an array that is otherwise in order. -/
private def inOrder : Json.Context :=
  [⟨documentShell [(some "range", spanValue 0 2)] true, [firstChild], [], true⟩,
    ⟨.array (.string (some "BLOCK")) (spanValue 1 1) (.string (some "b")) [] true, [], [], true⟩]

/-- The tree around the hole. -/
private def around : Context :=
  [⟨.unknown, ⟨0, 2⟩, "ab", [⟨.unknown, ⟨0, 1⟩, "a", []⟩], []⟩, ⟨.block, ⟨1, 1⟩, "b", [], []⟩]

/-- The document with a hole for its second child. Behind it stand a child, a range and a second
text that are all malformed, and then the text breaks off. -/
private def brokenOff : Json.Context :=
  [⟨documentShell [(some "range", .null), (some "text", .null)] false, [firstChild],
    [.boolean true], true⟩]

/-- The document with two malformed children behind one that is in order. -/
private def twoFaults : Json :=
  (documentShell [(some "range", spanValue 0 2)] true).put
    (.array [firstChild, textless, .boolean true] true)

/-- The spans that are used here are small enough. -/
private theorem isSpan_spanValue {start len : Nat} (hs : start ≤ 2) (hl : len ≤ 2) :
    (spanValue start len).IsSpan ⟨start, len⟩ :=
  .array (Json.isSize_ofNat (Nat.lt_of_le_of_lt hs (by decide)))
    (Json.isSize_ofNat (Nat.lt_of_le_of_lt hl (by decide)))

/-- The first child is that of a tree. -/
private theorem firstChild_isNode : firstChild.IsNode ⟨.unknown, ⟨0, 1⟩, "a", []⟩ :=
  .array .null (isSpan_spanValue (by decide) (by decide)) .absent

/-- What stands around the children is that of a document. -/
private theorem documentShell_describes :
    (documentShell [(some "range", spanValue 0 2)] true).Describes .unknown ⟨0, 2⟩ "ab" :=
  .object (by simp [Json.FreeBesides, fieldNames]) .absent rfl
    (isSpan_spanValue (by decide) (by decide)) rfl rfl

/-- What stands around the second child is that of a tree, at both levels. -/
private theorem inOrder_describes : inOrder.Describes around := by
  have second : (spanValue 1 1).IsSpan ⟨1, 1⟩ := isSpan_spanValue (by decide) (by decide)
  refine .cons ⟨documentShell_describes, ?_, .nil, rfl⟩ (.cons ⟨?_, .nil, .nil, rfl⟩ .nil)
  · exact .cons firstChild_isNode .nil
  · exact .array (.name "BLOCK") second

/-- In front of the hole all is in order, whatever stands behind it. -/
private theorem brokenOff_opens : brokenOff.Opens := by
  refine List.forall_mem_singleton.mpr ⟨?_, List.forall_mem_singleton.mpr ⟨_, firstChild_isNode⟩⟩
  exact .object (by simp [Json.FreeBesides, fieldNames]) (.inl rfl) (.inl rfl)
    (.inr ⟨_, rfl, "ab", rfl⟩) rfl

/-- Two of three children are malformed, each in its own way. -/
private theorem twoFaults_hasFaults : twoFaults.HasFaults
    [.data (.missingField "text"), .data (.wrongType (.boolean true) .node)] := by
  refine @Json.HasFaults.parent _ _ _ _ [([], firstChild),
    ([.data (.missingField "text")], textless),
    ([.data (.wrongType (.boolean true) .node)], .boolean true)] documentShell_describes ?_
  simp only [List.forall_mem_cons]
  exact ⟨.sound firstChild_isNode, .fault rfl, .fault rfl, nofun⟩

/-- The text of the child. -/
private def leafText : String := "[\"TEXT\",[1,1],\"b\"]"

/-- The text of the document with the child in its place. -/
private def inOrderText : String :=
  "\x7b\"text\":\"ab\",\"children\":[[null,[0,1],\"a\"]," ++
    "[\"BLOCK\",[1,1],\"b\",[[\"TEXT\",[1,1],\"b\"]]]],\"range\":[0,2]\x7d"

/-- The text of the child without a text. -/
private def textlessText : String := "\x7b\"range\":[1,1]\x7d"

/-- The text of the document with that child in its place. -/
private def brokenOffText : String :=
  "\x7b\"text\":\"ab\",\"children\":[[null,[0,1],\"a\"]," ++
    "\x7b\"range\":[1,1]\x7d,true],\"range\":null,\"text\":null"

/-- In its place among values that are in order a child is decoded as a tree, and the error in it is
reported in front of all that is wrong behind it. -/
theorem textless_reported :
    (inOrder.Describes around ∧ ofJson leafValue = .ok leaf ∧
      ofJson (inOrder.fill leafValue) = .ok (around.fill leaf)) ∧
    (brokenOff.Opens ∧ ofJson textless = .error (.data (.missingField "text")) ∧
      ofJson (brokenOff.fill textless) = .error (.data (.missingField "text"))) ∧
    inOrder.Opens ∧
    ofJson twoFaults = .error (.data (.missingField "text")) ∧
    decode inOrderText = .ok (around.fill leaf) ∧
    decode brokenOffText = .error (.data (.missingField "text")) := by
  -- the values are evaluated here, and what holds of contexts is applied to them
  have fails : ofJson textless = .error (.data (.missingField "text")) := rfl
  obtain ⟨trees, errors, front, faults, texts⟩ := decoding_is_compositional
  refine ⟨⟨inOrder_describes, rfl, trees _ _ _ _ inOrder_describes rfl⟩,
    ⟨brokenOff_opens, fails, errors _ _ _ brokenOff_opens fails⟩, front _ _ inOrder_describes,
    faults _ _ _ twoFaults_hasFaults, ?_, ?_⟩
  · have leafRead : Json.read leafText.toList = (leafValue, true) := by
      with_unfolding_all rfl
    have read : Json.read inOrderText.toList = (inOrder.fill leafValue, true) := by
      with_unfolding_all rfl
    have decoded : decode leafText = .ok leaf :=
      decode_eq_ok_iff.mpr ⟨leafValue, leafRead, ofJson_eq_ok_iff.mp rfl⟩
    exact (texts inOrder leafText inOrderText (by rw [leafRead, read])).1 around leaf
      inOrder_describes (by rw [read]) decoded
  · have textlessRead : Json.read textlessText.toList = (textless, true) := by
      with_unfolding_all rfl
    have read : Json.read brokenOffText.toList = (brokenOff.fill textless, true) := by
      with_unfolding_all rfl
    have decoded : decode textlessText = .error (.data (.missingField "text")) :=
      decode_eq_data_error_iff.mpr (textlessRead ▸ fails)
    exact (texts brokenOff textlessText brokenOffText (by rw [textlessRead, read])).2 _
      brokenOff_opens decoded

end Node

end Adoc
