import Adoc.DataError
import Adoc.Json.Text
import Adoc.Node

/-! # The JSON form of a tree

A node is written as an object with the fields `kind`, `range`, `text` and, unless it is a leaf,
`children`. Reading also accepts the fields in any order among others, a missing or null kind,
missing children, and the values of the fields in an array. What is wrong is reported where it is
met: a value of the wrong type or a repeated field at once, a missing field at the end of its
node. -/

namespace Adoc

/-- Why a text describes no tree. -/
inductive TreeError where
  /-- The text is not JSON. -/
  | malformed
  /-- The text is JSON of the wrong shape, or goes wrong only behind that. -/
  | data (error : DataError)
deriving DecidableEq

namespace Json

/-- The error that a value is not what was expected. A value that is not spelled to the end of its
token is malformed whatever was expected; an array or an object is judged by its bracket. -/
def mismatch (expected : Expected) (v : Json) : TreeError :=
  match v with
  | .null => .data (.wrongType .null expected)
  | .boolean b => .data (.wrongType (.boolean b) expected)
  | .number n =>
    match n.value? with
    | none => .malformed
    | some (.natural k) => .data (.wrongType (.integer k) expected)
    | some (.negative k) => .data (.wrongType (.integer k) expected)
    | some (.float x) => .data (.wrongType (.float x) expected)
  | .string (some s) => .data (.wrongType (.text s) expected)
  | .string none => .malformed
  | .array .. => .data (.wrongType .sequence expected)
  | .object .. => .data (.wrongType .map expected)
  | .broken => .malformed

/-- A number of bytes: an integer that is not negative. -/
def toSize (v : Json) : Except TreeError Nat :=
  match v with
  | .number n =>
    match n.value? with
    | some (.natural k) => .ok k
    | some (.negative k) => .error (.data (.wrongValue (.integer k) .size))
    | _ => .error (v.mismatch .size)
  | v => .error (v.mismatch .size)

def toText : Json → Except TreeError String
  | .string (some s) => .ok s
  | v => .error (v.mismatch .text)

/-- A kind: its tag, or null for the unknown kind. -/
def toKind : Json → Except TreeError Kind
  | .null => .ok .unknown
  | v => v.toText.map Kind.ofName

end Json

/-- Accept `x` if the brackets around what gave it are closed. -/
def whenClosed (closed : Bool) (x : α) : Except TreeError α :=
  if closed then .ok x else .error .malformed

/-- The value of a field that has to be there. -/
def required (name : String) : Option α → Except TreeError α
  | some x => .ok x
  | none => .error (.data (.missingField name))

/-- Refuse a field that is there already. -/
def refuseRepeated (name : String) (field : Option α) : Except TreeError Unit :=
  if field.isSome then .error (.data (.duplicateField name)) else .ok ()

/-! ## Spans -/

namespace Span

/-- The fields of a span as far as they are known. -/
structure Draft where
  start : Option Nat := none
  len : Option Nat := none

/-- Read one member into the draft. -/
def Draft.addMember (d : Draft) (key : Option String) (v : Json) : Except TreeError Draft :=
  match key with
  | some "start" => do
    refuseRepeated "start" d.start
    return { d with start := some (← v.toSize) }
  | some "len" => do
    refuseRepeated "len" d.len
    return { d with len := some (← v.toSize) }
  | some _ => whenClosed v.isWhole d
  | none => .error .malformed

/-- Read the members of an object in order. -/
def Draft.addMembers (d : Draft) : List (Option String × Json) → Except TreeError Draft
  | [] => .ok d
  | (key, v) :: ms => do (← d.addMember key v).addMembers ms

/-- Take the draft as a span, if it is complete. -/
def Draft.finish (d : Draft) : Except TreeError Span := do
  let start ← required "start" d.start
  let len ← required "len" d.len
  return ⟨start, len⟩

/-- A span from the elements of an array. -/
def ofItems (items : List Json) (closed : Bool) : Except TreeError Span :=
  match items with
  | [] => do
    whenClosed closed ()
    .error (.data (.tooShort 0 .span 2))
  | [a] => do
    let _ ← a.toSize
    whenClosed closed ()
    .error (.data (.tooShort 1 .span 2))
  | a :: b :: rest => do
    let start ← a.toSize
    let len ← b.toSize
    whenClosed (closed && rest.isEmpty) ⟨start, len⟩

/-- The span that a JSON value describes. -/
def ofJson : Json → Except TreeError Span
  | .object members closed => do
    let d ← Draft.addMembers {} members
    whenClosed closed ()
    d.finish
  | .array items closed => ofItems items closed
  | v => .error (v.mismatch .span)

/-- The JSON value that describes a span. -/
def toJson (s : Span) : Json :=
  .object [(some "start", .number (.ofNat s.start)), (some "len", .number (.ofNat s.len))] true

end Span

/-! ## Nodes -/

namespace Node

/-- The fields of a node as far as they are known. -/
structure Draft where
  kind : Option Kind := none
  span : Option Span := none
  text : Option String := none
  children : Option (List Node) := none

/-- Take the draft as a node, if it is complete. -/
def Draft.finish (d : Draft) : Except TreeError Node := do
  let span ← required "range" d.span
  let text ← required "text" d.text
  return ⟨d.kind.getD .unknown, span, text, d.children.getD []⟩

mutual

/-- The tree that a JSON value describes. -/
def ofJson : Json → Except TreeError Node
  | .object members closed => do
    let d ← addMembers {} members
    whenClosed closed ()
    d.finish
  | .array [] closed => do
    -- a missing kind has its default, so that the span is the first element missed
    whenClosed closed ()
    .error (.data (.tooShort 1 .node 4))
  | .array [k] closed => do
    let _ ← k.toKind
    whenClosed closed ()
    .error (.data (.tooShort 1 .node 4))
  | .array [k, r] closed => do
    let _ ← k.toKind
    let _ ← Span.ofJson r
    whenClosed closed ()
    .error (.data (.tooShort 2 .node 4))
  | .array [k, r, t] closed => do
    let kind ← k.toKind
    let span ← Span.ofJson r
    let text ← t.toText
    whenClosed closed ⟨kind, span, text, []⟩
  | .array (k :: r :: t :: c :: rest) closed => do
    let kind ← k.toKind
    let span ← Span.ofJson r
    let text ← t.toText
    let children ← listOfJson c
    whenClosed (closed && rest.isEmpty) ⟨kind, span, text, children⟩
  | v => .error (v.mismatch .node)

/-- Read the members of an object in order. -/
def addMembers (d : Draft) : List (Option String × Json) → Except TreeError Draft
  | [] => .ok d
  | (some "kind", v) :: ms => do
    refuseRepeated "kind" d.kind
    addMembers { d with kind := some (← v.toKind) } ms
  | (some "range", v) :: ms => do
    refuseRepeated "range" d.span
    addMembers { d with span := some (← Span.ofJson v) } ms
  | (some "text", v) :: ms => do
    refuseRepeated "text" d.text
    addMembers { d with text := some (← v.toText) } ms
  | (some "children", v) :: ms => do
    refuseRepeated "children" d.children
    addMembers { d with children := some (← listOfJson v) } ms
  | (some _, v) :: ms => do
    whenClosed v.isWhole ()
    addMembers d ms
  | (none, _) :: _ => .error .malformed

/-- The trees that the items of an array describe. -/
def listOfJson : Json → Except TreeError (List Node)
  | .array items closed => do
    let nodes ← listOfItems items
    whenClosed closed nodes
  | v => .error (v.mismatch .list)

/-- The trees that the values describe. -/
def listOfItems : List Json → Except TreeError (List Node)
  | [] => .ok []
  | v :: vs => do
    let node ← ofJson v
    let nodes ← listOfItems vs
    return node :: nodes

end

mutual

/-- The JSON value that describes a tree. -/
def toJson : Node → Json
  | ⟨kind, span, text, children⟩ =>
    .object ([(some "kind", .string (some kind.name)), (some "range", span.toJson),
      (some "text", .string (some text))] ++ childrenMember children) true

/-- The member that describes the children; leaves have none. -/
def childrenMember : List Node → List (Option String × Json)
  | [] => []
  | c :: cs => [(some "children", .array (c.toJson :: listToJson cs) true)]

/-- The JSON values that describe the trees. -/
def listToJson : List Node → List Json
  | [] => []
  | c :: cs => c.toJson :: listToJson cs

end

/-- Read a tree from its JSON text. -/
def decode (text : String) : Except TreeError Node := do
  let (v, atEnd) := Json.read text.toList
  let node ← ofJson v
  whenClosed atEnd node

/-- Write a tree as JSON text. -/
def encode (n : Node) : String := String.ofList n.toJson.print

end Node

end Adoc
