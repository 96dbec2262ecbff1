import SensorCatalog.Json.Scalar

/-!
# Failures of reading JSON

What can be wrong with a document, and where. A place in a document is given by the number of bytes
that follow it, which a reader knows without having seen the whole text; the line and the column
are found from the text once reading has failed.

## Main definitions

* `Json.Cause`, `Json.Cause.message`: what is wrong, and how it is said.
* `Json.Failure`: a cause and its place.
* `Json.Location`: a place as a line and a column.
* `Json.Error`, `Json.Error.message`: a cause with its line and column, and how it is said.
-/

namespace SensorCatalog.Json

/-! ### Causes -/

/-- A value found where another kind of value was due. -/
inductive Found where
  /-- A scalar. -/
  | scalar (value : Scalar)
  /-- A list. -/
  | list
  /-- An object. -/
  | object

/-- The record types that a document holds, as messages name them. -/
structure RecordShape where
  /-- The name of the type. -/
  typeName : String
  /-- The number of its fields. -/
  fieldCount : Nat
  deriving DecidableEq

/-- A kind of value that is due. -/
inductive Expected where
  /-- A table. -/
  | map
  /-- A text. -/
  | text
  /-- A record of a type. -/
  | record (shape : RecordShape)
  deriving DecidableEq

/-- What can be wrong with a document. -/
inductive Cause where
  | valueUnfinished
  | textUnfinished
  | listUnfinished
  | objectUnfinished
  | valueDue
  | wordDue
  | colonDue
  | listEndDue
  | objectEndDue
  | keyDue
  | trailingComma
  | trailingCharacters
  | controlCharacter
  | invalidEscape
  | loneSurrogate
  | surrogateUnfinished
  | invalidNumber
  | numberOutOfRange
  | nestedTooDeeply
  | wrongType (found : Found) (expected : Expected)
  | missingField (name : String)
  | duplicateField (name : String)
  | invalidLength (length : Nat) (shape : RecordShape)
  | noVariant (typeName : String)

/-- How a value that was found is named. -/
def Found.message : Found → String
  | .scalar value => value.describe
  | .list => "sequence"
  | .object => "map"

/-- How a value that is due is named. -/
def Expected.message : Expected → String
  | .map => "a map"
  | .text => "a string"
  | .record shape => "struct " ++ shape.typeName

/-- How a cause is said. -/
def Cause.message : Cause → String
  | .valueUnfinished => "EOF while parsing a value"
  | .textUnfinished => "EOF while parsing a string"
  | .listUnfinished => "EOF while parsing a list"
  | .objectUnfinished => "EOF while parsing an object"
  | .valueDue => "expected value"
  | .wordDue => "expected ident"
  | .colonDue => "expected `:`"
  | .listEndDue => "expected `,` or `]`"
  | .objectEndDue => "expected `,` or `\x7d`"
  | .keyDue => "key must be a string"
  | .trailingComma => "trailing comma"
  | .trailingCharacters => "trailing characters"
  | .controlCharacter => "control character (\\u0000-\\u001F) found while parsing a string"
  | .invalidEscape => "invalid escape"
  | .loneSurrogate => "lone leading surrogate in hex escape"
  | .surrogateUnfinished => "unexpected end of hex escape"
  | .invalidNumber => "invalid number"
  | .numberOutOfRange => "number out of range"
  | .nestedTooDeeply => "recursion limit exceeded"
  | .wrongType found expected =>
    "invalid type: " ++ found.message ++ ", expected " ++ expected.message
  | .missingField name => "missing field `" ++ name ++ "`"
  | .duplicateField name => "duplicate field `" ++ name ++ "`"
  | .invalidLength length shape =>
    "invalid length " ++ toString length ++ ", expected struct " ++ shape.typeName ++ " with " ++
      toString shape.fieldCount ++ " elements"
  | .noVariant typeName => "data did not match any variant of untagged enum " ++ typeName

/-! ### Places -/

/-- The number of bytes of a text. -/
def byteCount : List Char → Nat
  | [] => 0
  | c :: rest => c.utf8Size + byteCount rest

/-- A cause and its place. -/
structure Failure where
  /-- What is wrong. -/
  cause : Cause
  /-- The number of bytes of the document after the place. -/
  unread : Nat

/-- A failure at the front of a text that is still to be read. -/
def Failure.before (cause : Cause) (rest : List Char) : Failure :=
  ⟨cause, byteCount rest⟩

/-- A failure `bytes` bytes into a text that is still to be read, or at its end. -/
def Failure.within (cause : Cause) (rest : List Char) (bytes : Nat) : Failure :=
  ⟨cause, byteCount rest - bytes⟩

/-- A place in a text: lines are counted from one, columns from zero and in bytes. -/
structure Location where
  /-- The number of the line. -/
  line : Nat
  /-- The number of bytes before the place in its line. -/
  column : Nat
  deriving DecidableEq

/-- The place `bytes` bytes after a place, in the text that follows it. -/
def Location.advance : Location → List Char → Nat → Location
  | place, [], _ => place
  | place, c :: rest, bytes =>
    if bytes = 0 then place
    else if c = '\n' then advance ⟨place.line + 1, 0⟩ rest (bytes - 1)
    else advance ⟨place.line, place.column + min c.utf8Size bytes⟩ rest (bytes - c.utf8Size)

/-- What is wrong with a document, and the line and the column where it is. -/
structure Error where
  /-- What is wrong. -/
  cause : Cause
  /-- Where it is. -/
  location : Location

/-- A failure with its place in its document. -/
def Failure.locate (failure : Failure) (document : List Char) : Error :=
  ⟨failure.cause, Location.advance ⟨1, 0⟩ document (byteCount document - failure.unread)⟩

/-- An error as it is said. -/
def Error.message (e : Error) : String :=
  e.cause.message ++ " at line " ++ toString e.location.line ++ " column " ++
    toString e.location.column

end SensorCatalog.Json
