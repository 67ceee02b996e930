import Adoc.Json.Quoted

/-! # Strings in TOML

Basic strings stand between double quotes and may hold escapes, literal strings stand between
single quotes and hold what they show. Both have a form with tripled quotes that may go over
several lines; a line end is then read as a line feed, however it is spelled. -/

namespace Adoc.Toml

/-- What follows a line end at the front of a text. -/
def skipNewline : List Char → Option (List Char)
  | '\n' :: s => some s
  | '\r' :: '\n' :: s => some s
  | _ => none

/-- May `c` stand for itself, in strings and in comments? Control characters may not, the tab
excepted. -/
def isPlain (c : Char) : Bool := c == '\t' || 0x20 ≤ c.toNat && c.toNat != 0x7F

def isSpace (c : Char) : Bool := c == ' ' || c == '\t'

/-- The character with the code point spelled by hexadecimal digits, if there is one. -/
def charOfHex? (digits : List Char) : Option Char := do
  let values ← digits.mapM Json.hexValue?
  let n := values.foldl (fun n v => 16 * n + v) 0
  if n < 0xD800 ∨ 0xDFFF < n ∧ n < 0x110000 then some (Char.ofNat n) else none

/-- The character spelled behind a backslash, and what follows. -/
def readEscape : List Char → Option (Char × List Char)
  | 'b' :: s => some ('\x08', s)
  | 't' :: s => some ('\t', s)
  | 'n' :: s => some ('\n', s)
  | 'f' :: s => some ('\x0c', s)
  | 'r' :: s => some ('\r', s)
  | '"' :: s => some ('"', s)
  | '\\' :: s => some ('\\', s)
  | 'u' :: s => if 4 ≤ s.length then (charOfHex? (s.take 4)).map (·, s.drop 4) else none
  | 'U' :: s => if 8 ≤ s.length then (charOfHex? (s.take 8)).map (·, s.drop 8) else none
  | _ => none

/-- The rest of a basic string, behind its opening quote, and what follows it. -/
def readBasic : List Char → Option (List Char × List Char)
  | '"' :: rest => some ([], rest)
  | '\\' :: s => do
    let (c, r) ← readEscape s
    if _h : r.length < s.length then
      let (cs, rest) ← readBasic r
      return (c :: cs, rest)
    else none
  | c :: s =>
    if isPlain c then do
      let (cs, rest) ← readBasic s
      return (c :: cs, rest)
    else none
  | [] => none
termination_by s => s.length

/-- The rest of a literal string, behind its opening quote, and what follows it. -/
def readLiteral : List Char → Option (List Char × List Char)
  | '\'' :: rest => some ([], rest)
  | c :: r =>
    if isPlain c then do
      let (cs, rest) ← readLiteral r
      return (c :: cs, rest)
    else none
  | [] => none

/-- The quotes that end a text over several lines, if the text ends here: three, and up to two
before them that belong to the text. Gives those two and what follows. -/
def closeTripled (quote : Char) (s : List Char) : Option (List Char × List Char) :=
  let quotes := (s.takeWhile (· == quote)).length
  if 3 ≤ quotes then
    -- quotes beyond five stay behind the text and make the document malformed
    let inner := min (quotes - 3) 2
    some (List.replicate inner quote, s.drop (inner + 3))
  else none

/-- What follows a backslash at the end of a line: the next character that is neither a space nor
a line end. -/
def skipLineEnd (s : List Char) : Option (List Char) :=
  (skipNewline (s.dropWhile isSpace)).map skipAll
where
  skipAll : List Char → List Char
    | '\n' :: s => skipAll s
    | '\r' :: '\n' :: s => skipAll s
    | c :: s => if isSpace c then skipAll s else c :: s
    | [] => []

/-- The next characters of a basic text over several lines, and what follows. -/
def readTextPiece : List Char → Option (List Char × List Char)
  | '\\' :: s =>
    match skipLineEnd s with
    | some rest => some ([], rest)
    | none => (readEscape s).map fun (c, rest) => ([c], rest)
  | s =>
    match skipNewline s, s with
    | some rest, _ => some (['\n'], rest)
    | none, c :: rest => if isPlain c then some ([c], rest) else none
    | none, [] => none

/-- The next characters of a literal text over several lines, and what follows. -/
def readLiteralPiece (s : List Char) : Option (List Char × List Char) :=
  match skipNewline s, s with
  | some rest, _ => some (['\n'], rest)
  | none, c :: rest => if isPlain c then some ([c], rest) else none
  | none, [] => none

/-- The rest of a text over several lines, read piece by piece, and what follows it. -/
def readTripled (quote : Char) (piece : List Char → Option (List Char × List Char))
    (s : List Char) : Option (List Char × List Char) :=
  match closeTripled quote s with
  | some closed => some closed
  | none => do
    let (cs, r) ← piece s
    if _h : r.length < s.length then
      let (ds, rest) ← readTripled quote piece r
      return (cs ++ ds, rest)
    else none
termination_by s.length

/-- A string on one line and what follows it. -/
def readLine : List Char → Option (List Char × List Char)
  | '"' :: s => readBasic s
  | '\'' :: s => readLiteral s
  | _ => none

/-- A string of any form and what follows it. A line end right behind three opening quotes does
not belong to the text. -/
def readQuoted (s : List Char) : Option (List Char × List Char) :=
  match s with
  | '"' :: '"' :: '"' :: s => readTripled '"' readTextPiece ((skipNewline s).getD s)
  | '\'' :: '\'' :: '\'' :: s => readTripled '\'' readLiteralPiece ((skipNewline s).getD s)
  | s => readLine s

end Adoc.Toml
