import Adoc.Binary64

/-! # TOML documents

A document is a table of keys and values in the order of the text, and so is every table in it.
How a table came to be decides what may be added to it later: `Table.define` adds a value under a
dotted key, and the operations of `Draft` follow the headers of a document. They refuse whatever
would define a key or a table twice. -/

namespace Adoc.Toml

/-- How a table came to be. -/
inductive Origin where
  /-- By a header of its own, or as the document itself. -/
  | header
  /-- As part of the path in a header. -/
  | parent
  /-- As part of a dotted key. -/
  | dotted
  /-- As a value between braces; nothing can be added to it. -/
  | inlined
deriving DecidableEq, Repr

/-- The values that a key may have. -/
inductive Value where
  | string (text : String)
  | integer (value : Int)
  | float (value : Binary64)
  | boolean (value : Bool)
  /-- A date, a time of day, or both. -/
  | dateTime
  | array (items : List Value)
  /-- The tables that headers in double brackets define, each with its entries. -/
  | tables (elements : List (List (String × Value)))
  | table (origin : Origin) (entries : List (String × Value))

/-- The keys and values of a table in the order of the text. -/
abbrev Table := List (String × Value)

namespace Table

/-- Put `v` in the place of the value of `key`, or at the end if the key is new. -/
def set (t : Table) (key : String) (v : Value) : Table :=
  match t with
  | [] => [(key, v)]
  | (k, w) :: rest => if k = key then (key, v) :: rest else (k, w) :: Table.set rest key v

/-- The table without `key`. -/
def erase (t : Table) (key : String) : Table := t.filter (·.1 != key)

/-- Change the table that `path` leads to and hand out what the change gives. Tables are created on
the way where there are none, and `enter` says which tables that are there may be entered. At an
array of tables the way goes on in its last element. -/
def modify (created : Origin) (enter : Origin → Bool)
    (change : Origin → Table → Option (α × Table)) :
    Origin → List String → Table → Option (α × Table)
  | origin, [], t => change origin t
  | _, key :: path, t =>
    match t.lookup key with
    | none => do
      let (a, inner) ← modify created enter change created path []
      return (a, t.set key (.table created inner))
    | some (.table origin entries) =>
      if enter origin then do
        let (a, inner) ← modify created enter change origin path entries
        return (a, t.set key (.table origin inner))
      else none
    | some (.tables elements) => do
      -- the last element counts as a table with a header of its own, and is always entered
      let last ← elements.getLast?
      let (a, inner) ← modify created enter change .header path last
      return (a, t.set key (.tables (elements.dropLast ++ [inner])))
    | some _ => none

/-- Add a value under a dotted key, given by the path in front of its last part and that part, to a
table of the given origin. A table on the way must have come to be without a header, and the one
that the path ends in by dotted keys; the key must be new. -/
def define (origin : Origin) (path : List String) (key : String) (v : Value) (t : Table) :
    Option Table := do
  let add (origin : Origin) (t : Table) : Option (Unit × Table) :=
    -- a table made by dotted keys is reached by a dotted key only, and any other only without
    if (origin == .dotted) == path.isEmpty || (t.lookup key).isSome then none
    else some ((), t ++ [(key, v)])
  let (_, t) ← modify .dotted (fun o => o == .parent || o == .dotted) add origin path t
  return t

/-- Change the table that the path in a header leads to. -/
def atParent (path : List String) (change : Table → Option (α × Table)) (t : Table) :
    Option (α × Table) :=
  modify .parent (· != .inlined) (fun _ => change) .header path t

end Table

/-- A header: the path to a table, in front of its last part, and that part. -/
structure Header where
  path : List String
  key : String
  /-- The header is in double brackets, and begins a further element of an array of tables. -/
  isElement : Bool

/-- A document as far as it has been read. The entries under the last header are kept apart from
the tables before it. -/
structure Draft where
  root : Table := []
  header : Option Header := none
  current : Table := []

namespace Draft

/-- Add a key and its value under the last header. -/
def addEntry (d : Draft) (path : List String) (key : String) (v : Value) : Option Draft := do
  return { d with current := ← d.current.define .header path key v }

/-- The document with the entries under the last header put in their place. -/
def close (d : Draft) : Option Table :=
  match d.header with
  | none => some d.current
  | some h => do
    let place (t : Table) : Option (Unit × Table) :=
      match h.isElement, t.lookup h.key with
      | false, none => some ((), t.set h.key (.table .header d.current))
      | true, none => some ((), t.set h.key (.tables [d.current]))
      | true, some (.tables elements) =>
        some ((), t.set h.key (.tables (elements ++ [d.current])))
      | _, _ => none
    let (_, root) ← d.root.atParent h.path place
    return root

/-- What the table under a new header holds at first, and the table around it without it. A table
that came to be as part of the path in another header is taken up again, with what it holds. -/
def takeUp (h : Header) (t : Table) : Option (Table × Table) :=
  match h.isElement, t.lookup h.key with
  | _, none => some ([], t)
  | true, some (.tables _) => some ([], t)
  | false, some (.table .parent entries) => some (entries, t.erase h.key)
  | _, _ => none

/-- Go on under a new header. -/
def begin (d : Draft) (h : Header) : Option Draft := do
  let root ← d.close
  let (current, root) ← root.atParent h.path (takeUp h)
  return ⟨root, some h, current⟩

end Draft

/-- How numbers with a point are written in messages on TOML: always without an exponent. -/
def layout : Layout where
  tie := .up
  positional _ := true

end Adoc.Toml
