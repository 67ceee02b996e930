import Adoc.Node
import Adoc.Text.Word

/-! # Renaming

Which elements can be renamed, and which names they accept. Names of attributes and tags are
identifiers, possibly empty; the name of a block is what may stand in an anchor. -/

namespace Adoc

open Text

/-- An element that a rename can be about. -/
inductive RenameTarget where
  /-- The name in `tag=name` inside an include macro. -/
  | includeTagInDocument
  /-- The name in `tag::name[]` in an included file. -/
  | tagDeclaration
  /-- The id in `[[id]]` or `[#id]`. -/
  | blockId
  /-- The name in `:name:`. -/
  | attributeDeclarationName
deriving DecidableEq, Repr

namespace RenameTarget

/-- The target that nodes of a kind represent, if any. -/
def ofKind? : Kind → Option RenameTarget
  | .includeTagInDocument => some .includeTagInDocument
  | .tagDeclaration => some .tagDeclaration
  | .blockId => some .blockId
  | .attributeDeclarationName => some .attributeDeclarationName
  | _ => none

/-- The characters of identifiers: letters and digits of any script, `_` and `-`. -/
def isIdentifierChar (c : Char) : Bool :=
  isAlphabetic c || isDecimalDigit c || c == '_' || c == '-'

/-- The characters that a block id may start with. An id may refer to an attribute, hence the
brace. -/
def isBlockIdStart (c : Char) : Bool :=
  isAlphabetic c || c == '_' || c == ':' || c == '\x7b'

/-- The characters that may follow in a block id. -/
def isBlockIdRest (c : Char) : Bool :=
  isAlphabetic c || isDecimalDigit c || isWord c || c == '-' || c == ':' || c == '.' ||
    c == '\x7b' || c == '\x7d'

/-- Is `name` acceptable for the target? -/
def accepts (target : RenameTarget) (name : List Char) : Bool :=
  match target, name with
  | .blockId, [] => false
  | .blockId, c :: rest => isBlockIdStart c && rest.all isBlockIdRest
  | _, name => name.all isIdentifierChar

end RenameTarget

/-- The target that a node represents, if any. -/
def Node.renameTarget? (n : Node) : Option RenameTarget := RenameTarget.ofKind? n.kind

/-- Is `name` acceptable as the new name of the node? Nodes without a target accept no name. -/
def Node.acceptsName (n : Node) (name : List Char) : Bool :=
  n.renameTarget?.any (·.accepts name)

end Adoc
