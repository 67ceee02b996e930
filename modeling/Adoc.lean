import Adoc.Binary64
import Adoc.CheckableText
import Adoc.DataError
import Adoc.Json
import Adoc.Json.Quoted
import Adoc.Json.Text
import Adoc.Kind
import Adoc.KindSet
import Adoc.Node
import Adoc.Node.Format
import Adoc.Proofs.Anchor
import Adoc.Proofs.Anchor.Spelling
import Adoc.Proofs.Basic
import Adoc.Proofs.Builder
import Adoc.Proofs.Built
import Adoc.Proofs.CheckableText
import Adoc.Proofs.Decimal
import Adoc.Proofs.Extraction
import Adoc.Proofs.Glyphs
import Adoc.Proofs.Heading
import Adoc.Proofs.Hiding
import Adoc.Proofs.Json.Numeral
import Adoc.Proofs.Json.Quoted
import Adoc.Proofs.Json.RoundTrip
import Adoc.Proofs.Keys
import Adoc.Proofs.KindSet
import Adoc.Proofs.Leaves
import Adoc.Proofs.Lowercase
import Adoc.Proofs.Names
import Adoc.Proofs.Node.Context
import Adoc.Proofs.Node.Fields
import Adoc.Proofs.Node.Format
import Adoc.Proofs.Node.RoundTrip
import Adoc.Proofs.Preorder
import Adoc.Proofs.Rename
import Adoc.Proofs.Replacement
import Adoc.Proofs.Route
import Adoc.Proofs.SectionId
import Adoc.Proofs.SectionId.Markup
import Adoc.Proofs.SectionId.NormalForm
import Adoc.Proofs.SectionId.Words
import Adoc.Proofs.Settings
import Adoc.Proofs.SourceMap
import Adoc.Proofs.StealthRanges
import Adoc.Proofs.Token
import Adoc.Proofs.Toml.Keys
import Adoc.Proofs.Trim
import Adoc.Proofs.Units
import Adoc.Proofs.Walk
import Adoc.Rename
import Adoc.Section
import Adoc.SectionId
import Adoc.Settings
import Adoc.Site
import Adoc.Span
import Adoc.StealthRanges
import Adoc.Strategy
import Adoc.Text.Basic
import Adoc.Text.Lowercase
import Adoc.Text.Quoted
import Adoc.Text.Word
import Adoc.Toml
import Adoc.Toml.DateTime
import Adoc.Toml.Number
import Adoc.Toml.Quoted
import Adoc.Toml.Reader
