import MeshSidecar.Decimal.Double
import MeshSidecar.Text.Quoted

/-!
# What can be wrong with a document

A document is either *malformed*, no JSON at all where the reader stands, or it holds a
value of the wrong *shape*. Both name the offence and nothing else; `Fault.message` puts it
into words.
-/

namespace MeshSidecar

/-- An offence against the grammar of JSON. -/
inductive Malformed where
  | endInList
  | endInObject
  | endInString
  | endInValue
  | expectedColon
  | expectedCommaInList
  | expectedCommaInObject
  | expectedWord
  | expectedValue
  | invalidEscape
  | invalidNumber
  | numberOutOfRange
  | invalidCodePoint
  | controlCharacter
  | keyNotString
  | loneSurrogate
  | endOfEscape
  | trailingComma
  | trailingCharacters
deriving DecidableEq

/-- The words for an offence against the grammar. -/
def Malformed.message : Malformed → String
  | .endInList => "EOF while parsing a list"
  | .endInObject => "EOF while parsing an object"
  | .endInString => "EOF while parsing a string"
  | .endInValue => "EOF while parsing a value"
  | .expectedColon => "expected `:`"
  | .expectedCommaInList => "expected `,` or `]`"
  | .expectedCommaInObject => "expected `,` or `\x7d`"
  | .expectedWord => "expected ident"
  | .expectedValue => "expected value"
  | .invalidEscape => "invalid escape"
  | .invalidNumber => "invalid number"
  | .numberOutOfRange => "number out of range"
  | .invalidCodePoint => "invalid unicode code point"
  | .controlCharacter => "control character (\\u0000-\\u001F) found while parsing a string"
  | .keyNotString => "key must be a string"
  | .loneSurrogate => "lone leading surrogate in hex escape"
  | .endOfEscape => "unexpected end of hex escape"
  | .trailingComma => "trailing comma"
  | .trailingCharacters => "trailing characters"

/-- The value that was found where another one was expected. -/
inductive Found where
  | null
  | boolean (value : Bool)
  | integer (value : Int)
  | floating (value : Decimal.Double)
  | string (value : String)
  | sequence
  | map
deriving DecidableEq

/-- The words for a value that was found. -/
def Found.describe : Found → String
  | .null => "null"
  | .boolean true => "boolean `true`"
  | .boolean false => "boolean `false`"
  | .integer n => "integer `" ++ toString n ++ "`"
  | .floating x => "floating point `" ++ x.text ++ "`"
  | .string s => "string " ++ Text.quoted s
  | .sequence => "sequence"
  | .map => "map"

/-- A value of the wrong shape. -/
inductive Shape where
  /-- A value of another type. -/
  | type (found : Found) (expected : String)
  /-- A number out of range. -/
  | value (found : Found) (expected : String)
  /-- A sequence that ends before a field that must be written. -/
  | length (found : Nat) (expected : String)
  | missingField (name : String)
  | duplicateField (name : String)
  | unknownField (name : String) (expected : List String)
  | unknownVariant (name : String) (expected : List String)
deriving DecidableEq

namespace Shape

/-- A name between back quotes. -/
def ticked (name : String) : String := "`" ++ name ++ "`"

/-- The names that would have been known. -/
def oneOf (names : List String) : String :=
  "expected one of " ++ String.intercalate ", " (names.map ticked)

/-- The words for a value of the wrong shape. -/
def message : Shape → String
  | .type found expected => "invalid type: " ++ found.describe ++ ", expected " ++ expected
  | .value found expected => "invalid value: " ++ found.describe ++ ", expected " ++ expected
  | .length found expected => "invalid length " ++ toString found ++ ", expected " ++ expected
  | .missingField name => "missing field " ++ ticked name
  | .duplicateField name => "duplicate field " ++ ticked name
  | .unknownField name expected => "unknown field " ++ ticked name ++ ", " ++ oneOf expected
  | .unknownVariant name expected => "unknown variant " ++ ticked name ++ ", " ++ oneOf expected

end Shape

/-- The reason why a document was not read. -/
inductive Fault where
  | malformed (offence : Malformed)
  | shape (detail : Shape)
deriving DecidableEq

/-- The words for the reason. -/
def Fault.message : Fault → String
  | .malformed offence => offence.message
  | .shape detail => detail.message

end MeshSidecar
