import Adoc.Toml
import Adoc.Toml.DateTime
import Adoc.Toml.Number
import Adoc.Toml.Quoted

/-! # Reading TOML

`Toml.read` gives the table that a document describes, or `none` if the text is not a document:
because of its form, or because it defines something twice. -/

namespace Adoc.Toml

def skipSpace (s : List Char) : List Char := s.dropWhile isSpace

/-- What follows a comment, if one stands here: up to the end of the line. -/
def skipComment : List Char → List Char
  | '#' :: s => s.dropWhile isPlain
  | s => s

/-- What follows spaces, comments and line ends. -/
def skipTrivia (s : List Char) : List Char :=
  match skipNewline (skipComment (skipSpace s)) with
  | some rest => if _h : rest.length < s.length then skipTrivia rest else s
  | none => skipSpace s
termination_by s.length

/-- The characters of keys without quotes. -/
def isKeyChar (c : Char) : Bool := c.isAlphanum || c == '_' || c == '-'

/-- One part of a dotted key, and what follows it. -/
def readKeyPart (s : List Char) : Option (String × List Char) :=
  match s with
  | '"' :: _ | '\'' :: _ => (readLine s).map fun (cs, rest) => (String.ofList cs, rest)
  | _ =>
    match s.takeWhile isKeyChar with
    | [] => none
    | key => some (String.ofList key, s.dropWhile isKeyChar)

/-- A dotted key, as the path in front of its last part and that part, with the spaces around it,
and what follows it. -/
def readDotted (s : List Char) : Option (List String × String × List Char) := do
  let (part, r) ← readKeyPart (skipSpace s)
  match skipSpace r with
  | '.' :: r =>
    if _h : r.length < s.length then
      let (path, key, rest) ← readDotted r
      return (part :: path, key, rest)
    else none
  | rest => return ([], part, rest)
termination_by s.length

/-- A key may have at most 79 parts, and values may nest in arrays and tables at most 79 deep. -/
def nestingLimit : Nat := 79

/-- A dotted key that is not too long. -/
def readKey (s : List Char) : Option (List String × String × List Char) := do
  let (path, key, rest) ← readDotted s
  if path.length < nestingLimit then return (path, key, rest) else none

/-- A key, `=` and a value, and what follows them. -/
def readPair (value : List Char → Option (Value × List Char)) (s : List Char) :
    Option (List String × String × Value × List Char) := do
  let (path, key, s) ← readKey s
  match s with
  | '=' :: s =>
    let (v, rest) ← value (skipSpace s)
    return (path, key, v, rest)
  | _ => none

/-- The items of an array behind its opening bracket or a comma, and what follows the array. -/
def readItems (value : List Char → Option (Value × List Char)) (s : List Char) :
    Option (List Value × List Char) :=
  match skipTrivia s with
  | ']' :: rest => some ([], rest)
  | r => do
    let (v, r) ← value r
    match skipTrivia r with
    | ']' :: rest => return ([v], rest)
    | ',' :: r =>
      if _h : r.length < s.length then
        let (vs, rest) ← readItems value r
        return (v :: vs, rest)
      else none
    | _ => none
termination_by s.length

/-- The pairs of a table between braces from a key on, added to its entries so far, and what
follows the table. -/
def readPairs (value : List Char → Option (Value × List Char)) (entries : Table)
    (s : List Char) : Option (Table × List Char) := do
  let (path, key, v, r) ← readPair value s
  let entries ← entries.define .inlined path key v
  match skipSpace r with
  | '\x7d' :: rest => return (entries, rest)
  | ',' :: r => if _h : r.length < s.length then readPairs value entries r else none
  | _ => none
termination_by s.length

/-- A value that is no array and no table, and what follows it. -/
def readScalar (s : List Char) : Option (Value × List Char) :=
  match s with
  | '"' :: _ | '\'' :: _ => (readQuoted s).map fun (cs, rest) => (.string (String.ofList cs), rest)
  | 't' :: 'r' :: 'u' :: 'e' :: rest => some (.boolean true, rest)
  | 'f' :: 'a' :: 'l' :: 's' :: 'e' :: rest => some (.boolean false, rest)
  | s =>
    match skipDateTime s with
    | some rest => some (.dateTime, rest)
    | none => readNumber s

/-- A value with at most `depth` arrays and tables inside one another, and what follows it. -/
def readValue : (depth : Nat) → List Char → Option (Value × List Char)
  | depth + 1, '[' :: s =>
    (readItems (readValue depth) s).map fun (items, rest) => (.array items, rest)
  | depth + 1, '\x7b' :: s =>
    match skipSpace s with
    | '\x7d' :: rest => some (.table .inlined [], rest)
    | s => (readPairs (readValue depth) [] s).map fun (entries, rest) =>
        (.table .inlined entries, rest)
  | 0, '[' :: _ | 0, '\x7b' :: _ => none
  | _, s => readScalar s

/-- A header and what follows it. -/
def readHeader : List Char → Option (Header × List Char)
  | '[' :: '[' :: s => do
    let (path, key, s) ← readKey s
    match s with
    | ']' :: ']' :: rest => return (⟨path, key, true⟩, rest)
    | _ => none
  | '[' :: s => do
    let (path, key, s) ← readKey s
    match s with
    | ']' :: rest => return (⟨path, key, false⟩, rest)
    | _ => none
  | _ => none

/-- What the next line says, if anything, taken into the draft, and what follows it on the line. -/
def readStatement (d : Draft) (s : List Char) : Option (Draft × List Char) :=
  match s with
  | [] | '#' :: _ | '\n' :: _ | '\r' :: _ => some (d, s)
  | '[' :: _ => do
    let (h, rest) ← readHeader s
    return (← d.begin h, rest)
  | _ => do
    let (path, key, v, rest) ← readPair (readValue nestingLimit) s
    return (← d.addEntry path key v, rest)

/-- What follows the end of a line; the end of the text ends a line too. -/
def skipLine (s : List Char) : Option (List Char) :=
  match skipComment (skipSpace s) with
  | [] => some []
  | s => skipNewline s

/-- The rest of a document, line by line. -/
def readLines (d : Draft) (s : List Char) : Option Table :=
  if s.isEmpty then d.close
  else do
    let (d, r) ← readStatement d (skipSpace s)
    let r ← skipLine r
    if _h : r.length < s.length then readLines d r else none
termination_by s.length

/-- The table that a document describes. A byte order mark in front is passed over. -/
def read (s : List Char) : Option Table :=
  match s with
  | '\uFEFF' :: s => readLines {} s
  | s => readLines {} s

end Adoc.Toml
