import Adoc.Binary64
import Adoc.Text.Quoted

/-! # Data of the wrong shape

What can be wrong with data that is well-formed in its format and does not describe what it should
describe, and how that is said. -/

namespace Adoc

/-- What was met in the data. -/
inductive Found where
  | null
  | boolean (value : Bool)
  | integer (value : Int)
  | float (value : Binary64)
  | text (value : String)
  | sequence
  | map
deriving DecidableEq

/-- What should have been met instead. -/
inductive Expected where
  | node
  | span
  | size
  | text
  | list
  | boolean
  | grammarSettings
deriving DecidableEq

/-- What is wrong with the data. -/
inductive DataError where
  /-- A field that has to be there is not. -/
  | missingField (name : String)
  /-- A field is there twice. -/
  | duplicateField (name : String)
  /-- A value has the wrong type. -/
  | wrongType (found : Found) (expected : Expected)
  /-- A value has the right type and is out of range. -/
  | wrongValue (found : Found) (expected : Expected)
  /-- A list of fields ends after `length` of `full` elements. -/
  | tooShort (length : Nat) (expected : Expected) (full : Nat)
deriving DecidableEq

/-- A value in a message; numbers with a point are written as `layout` says. -/
def Found.describe (layout : Layout) : Found → String
  | .null => "null"
  | .boolean b => "boolean `" ++ (if b then "true" else "false") ++ "`"
  | .integer i => "integer `" ++ toString i ++ "`"
  | .float x => "floating point `" ++ layout.text x ++ "`"
  | .text s => "string " ++ Text.quote s
  | .sequence => "sequence"
  | .map => "map"

/-- What was expected, in a message. -/
def Expected.describe : Expected → String
  | .node => "struct SyntaxNode"
  | .span => "struct TextRange"
  | .size => "usize"
  | .text => "a string"
  | .list => "a sequence"
  | .boolean => "a boolean"
  | .grammarSettings => "struct GrammarSettings"

/-- The message about the error. -/
def DataError.message (layout : Layout) : DataError → String
  | .missingField name => "missing field `" ++ name ++ "`"
  | .duplicateField name => "duplicate field `" ++ name ++ "`"
  | .wrongType found expected =>
    "invalid type: " ++ found.describe layout ++ ", expected " ++ expected.describe
  | .wrongValue found expected =>
    "invalid value: " ++ found.describe layout ++ ", expected " ++ expected.describe
  | .tooShort length expected full =>
    "invalid length " ++ toString length ++ ", expected " ++ expected.describe ++ " with " ++
      toString full ++ " elements"

end Adoc
