/-! # Kinds of nodes

Tokens and composite elements share one enumeration. A kind is known to the outside by its tag,
such as `HEADING`; a tag that names no kind stands for `unknown`.

* `ofName_name`  `ofName k.name = k`, so that two kinds with one tag are the same kind
* `mem_all_iff`  the list of the known kinds is complete -/

namespace Adoc

/-- The syntactic category of a node. -/
inductive Kind where
  -- tokens
  | heading  -- one-line heading, `== Title`
  | headingOldstyle  -- two-line heading: the title and its underline
  | titleToken  -- block title, `.Title`
  | lineComment  -- `// comment`
  | blockComment  -- comment block between `////` lines
  | literalBlock  -- content of a literal block
  | blockRefText  -- text of a block reference, `<<id,text>>`
  | text  -- plain text
  | italic
  | bold
  | boldItalic
  | mono
  | monoBold
  | monoItalic
  | monoBoldItalic
  | description  -- term of a description list
  | linkText
  | endOfSentence  -- `.`, `?` or `!`
  | lparen
  | rparen
  | lbracket
  | rbracket
  | bullet  -- list bullet, `*` or `-`
  | whiteSpace
  | whiteSpaceMono  -- white space inside a monospace run
  | hostWhiteSpace  -- white space token of the host itself
  | boldStart
  | boldEnd
  | italicStart
  | italicEnd
  | monoStart
  | monoEnd
  | blockDelimiter  -- `----`, `....`, `====` and the like
  | attributeNameStart
  | attributeNameEnd
  | blockIdStart  -- `[[` or `[#`
  | blockIdEnd  -- `]]` or `]`
  | newline
  | comment  -- comment of which the host knows no more
  -- elements
  | document
  | section
  | block
  | url  -- may hold link text
  | ref  -- inline reference, may hold reference text
  | link  -- may hold link text
  | monoRun  -- monospace run around `mono` tokens
  | italicRun  -- italic run around `italic` tokens
  | blockId  -- `[[id]]` or `[#id]`
  | attributeDeclaration
  | attributeDeclarationName  -- `name` in `:name:`
  | tagDeclaration  -- `tag::name[]` or `end::name[]` in an included file
  | includeTagInDocument  -- `tag=name` inside an include macro
  /-- Any other category, or none. -/
  | unknown
deriving DecidableEq, Repr, Inhabited

namespace Kind

/-- The tag of a kind. -/
def name : Kind → String
  | .heading => "HEADING"
  | .headingOldstyle => "HEADING_OLDSTYLE"
  | .titleToken => "TITLE_TOKEN"
  | .lineComment => "LINE_COMMENT"
  | .blockComment => "BLOCK_COMMENT"
  | .literalBlock => "LITERAL_BLOCK"
  | .blockRefText => "BLOCKREFTEXT"
  | .text => "TEXT"
  | .italic => "ITALIC"
  | .bold => "BOLD"
  | .boldItalic => "BOLDITALIC"
  | .mono => "MONO"
  | .monoBold => "MONOBOLD"
  | .monoItalic => "MONOITALIC"
  | .monoBoldItalic => "MONOBOLDITALIC"
  | .description => "DESCRIPTION"
  | .linkText => "LINKTEXT"
  | .endOfSentence => "END_OF_SENTENCE"
  | .lparen => "LPAREN"
  | .rparen => "RPAREN"
  | .lbracket => "LBRACKET"
  | .rbracket => "RBRACKET"
  | .bullet => "BULLET"
  | .whiteSpace => "WHITE_SPACE"
  | .whiteSpaceMono => "WHITE_SPACE_MONO"
  | .hostWhiteSpace => "HOST_WHITE_SPACE"
  | .boldStart => "BOLD_START"
  | .boldEnd => "BOLD_END"
  | .italicStart => "ITALIC_START"
  | .italicEnd => "ITALIC_END"
  | .monoStart => "MONO_START"
  | .monoEnd => "MONO_END"
  | .blockDelimiter => "BLOCK_DELIMITER"
  | .attributeNameStart => "ATTRIBUTE_NAME_START"
  | .attributeNameEnd => "ATTRIBUTE_NAME_END"
  | .blockIdStart => "BLOCKIDSTART"
  | .blockIdEnd => "BLOCKIDEND"
  | .newline => "NEWLINE"
  | .comment => "COMMENT"
  | .document => "DOCUMENT"
  | .section => "SECTION"
  | .block => "BLOCK"
  | .url => "URL"
  | .ref => "REF"
  | .link => "LINK"
  | .monoRun => "MONO_RUN"
  | .italicRun => "ITALIC_RUN"
  | .blockId => "BLOCKID"
  | .attributeDeclaration => "ATTRIBUTE_DECLARATION"
  | .attributeDeclarationName => "ATTRIBUTE_DECLARATION_NAME"
  | .tagDeclaration => "TAG_DECLARATION"
  | .includeTagInDocument => "INCLUDE_TAG_IN_DOCUMENT"
  | .unknown => "UNKNOWN"

/-- The known kinds in declaration order. -/
def all : List Kind :=
  [.heading, .headingOldstyle, .titleToken, .lineComment, .blockComment, .literalBlock,
   .blockRefText, .text, .italic, .bold, .boldItalic, .mono, .monoBold, .monoItalic,
   .monoBoldItalic, .description, .linkText, .endOfSentence, .lparen, .rparen, .lbracket,
   .rbracket, .bullet, .whiteSpace, .whiteSpaceMono, .hostWhiteSpace, .boldStart, .boldEnd,
   .italicStart, .italicEnd, .monoStart, .monoEnd, .blockDelimiter, .attributeNameStart,
   .attributeNameEnd, .blockIdStart, .blockIdEnd, .newline, .comment, .document, .section,
   .block, .url, .ref, .link, .monoRun, .italicRun, .blockId, .attributeDeclaration,
   .attributeDeclarationName, .tagDeclaration, .includeTagInDocument]

/-- The kind with the given tag. -/
def ofName (name : String) : Kind :=
  (all.find? (·.name == name)).getD .unknown

/-- The position of a kind in `all`; that of `unknown` is one past the end. -/
def index (k : Kind) : Nat := all.idxOf k

/-- Comments may be left out of checking altogether. -/
def isComment : Kind → Bool
  | .lineComment | .blockComment | .comment => true
  | _ => false

/-- A kind is found again by its tag, so no two kinds share one. -/
@[simp]
theorem ofName_name (k : Kind) : ofName k.name = k := by
  cases k <;> decide

/-- The kinds listed are those that are known. -/
theorem mem_all_iff {k : Kind} : k ∈ all ↔ k ≠ .unknown := by
  cases k <;> decide

end Kind

end Adoc
