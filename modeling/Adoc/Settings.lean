import Adoc.DataError
import Adoc.Toml.Reader

/-! # Settings

What a user may set. Everything has a default. -/

namespace Adoc

/-- Settings for checking grammar and spelling. -/
structure GrammarSettings where
  /-- Checking is on where the user has made no explicit choice. -/
  enabled : Bool := true
  /-- Comments are units of text to check. -/
  checkComments : Bool := true
deriving DecidableEq, Repr

/-- All settings there are. -/
structure Settings where
  grammar : GrammarSettings := {}
deriving DecidableEq, Repr

/-! ## Settings in TOML

The settings stand in the table `grammar` of a document, each under its own name, or as the
elements of an array in the order `enabled`, `check_comments`. What is missing has its default, and
what is there besides has no effect. Of several wrong values the first in the document is
reported. -/

/-- Why a document gives no settings. -/
inductive SettingsError where
  /-- The text is no TOML document. -/
  | malformed
  /-- A setting has a value of the wrong type. -/
  | data (error : DataError)
deriving DecidableEq

namespace Toml

/-- A value as it is described in messages. Dates and times are described as maps. -/
def Value.found : Value → Found
  | .string s => .text s
  | .integer i => .integer i
  | .float x => .float x
  | .boolean b => .boolean b
  | .dateTime => .map
  | .array _ => .sequence
  | .tables _ => .sequence
  | .table _ _ => .map

def Value.toBool : Value → Except DataError Bool
  | .boolean b => .ok b
  | v => .error (.wrongType v.found .boolean)

end Toml

namespace GrammarSettings

/-- The settings with those that the entries of a table give, read in order. -/
def addEntries (g : GrammarSettings) : Toml.Table → Except DataError GrammarSettings
  | [] => .ok g
  | ("enabled", v) :: rest => do addEntries { g with enabled := ← v.toBool } rest
  | ("check_comments", v) :: rest => do addEntries { g with checkComments := ← v.toBool } rest
  | _ :: rest => addEntries g rest

/-- The settings that the first two items of an array give. -/
def ofItems : List Toml.Value → Except DataError GrammarSettings
  | [] => .ok {}
  | [a] => do return { enabled := ← a.toBool }
  | a :: b :: _ => do
    let enabled ← a.toBool
    let checkComments ← b.toBool
    return ⟨enabled, checkComments⟩

/-- The settings that a value gives. A date or time counts as a table without settings. -/
def ofToml : Toml.Value → Except DataError GrammarSettings
  | .table _ entries => addEntries {} entries
  | .dateTime => .ok {}
  | .array items => ofItems items
  | .tables elements => ofItems (elements.map (.table .header))
  | v => .error (.wrongType v.found .grammarSettings)

end GrammarSettings

namespace Settings

/-- The settings that the entries of a document give. -/
def ofToml (t : Toml.Table) : Except DataError Settings :=
  match t.lookup "grammar" with
  | none => .ok {}
  | some v => (GrammarSettings.ofToml v).map fun g => ⟨g⟩

/-- The settings that the text of a document gives. -/
def decode (text : String) : Except SettingsError Settings :=
  match Toml.read text.toList with
  | none => .error .malformed
  | some t => (ofToml t).mapError .data

end Settings

/-! ## Settings files

Settings are kept in a file of a fixed name in the root of a workspace. A folder without that file
has the default settings. -/

/-- What stands under a name in a file system. -/
inductive Entry where
  | missing
  | folder
  | file (content : ByteArray)

/-- Why a file gives no settings. -/
inductive LoadError where
  | notFound
  | isFolder
  /-- The content is no text. -/
  | notUtf8
  | settings (error : SettingsError)

/-- What is said of a file that cannot be read; a malformed document is described elsewhere. -/
def LoadError.message? : LoadError → Option String
  | .notFound => some "IO error: No such file or directory (os error 2)"
  | .isFolder => some "IO error: Is a directory (os error 21)"
  | .notUtf8 => some "IO error: stream did not contain valid UTF-8"
  | .settings _ => none

namespace Settings

/-- The name of the settings file in a workspace. -/
def fileName : String := "asciidoc-lang.toml"

/-- The settings in a file. -/
def load : Entry → Except LoadError Settings
  | .missing => .error .notFound
  | .folder => .error .isFolder
  | .file content =>
    match String.fromUTF8? content with
    | none => .error .notUtf8
    | some text => (decode text).mapError .settings

/-- The settings of a folder, given by what stands in it under each name. -/
def loadFromFolder (folder : String → Entry) : Except LoadError Settings :=
  match folder fileName with
  | .missing => .ok {}
  | entry => load entry

end Settings

end Adoc
