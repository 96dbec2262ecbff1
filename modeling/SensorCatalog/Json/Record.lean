import SensorCatalog.Json.Skip
import SensorCatalog.Table

/-!
# Records and tables in JSON

A table is an object whose values are all of one kind; a repeated key counts the last time. A record
has named fields. It is written as an object, whose members may come in any order and among members
of no interest, or as a list of its fields in the order of their declaration, in which fields at the
end that may be absent can be left out. No field may be given twice.

A fault in a record as a whole is placed after the record if its closing bracket comes next.

## Main definitions

* `Json.text`, `Json.optionalText`, `Json.table`: values of one kind.
* `Json.Field`, `Json.RecordType`, `Json.record`: records.
* `Json.document`: a whole document.
-/

namespace SensorCatalog.Json

variable {α σ : Type}

/-! ### Values of one kind -/

/-- Reads a text. -/
def text : Reader String := do
  match ← start with
  | .scalar (.text s) => return s
  | other => other.refuse .text

/-- Reads a text or the null that stands for none. -/
def optionalText : Reader (Option String) := do
  match ← start with
  | .scalar .null => return none
  | .scalar (.text s) => return some s
  | other => other.refuse .text

/-- Reads a table. -/
def table (value : Reader α) : Reader (Table α) := do
  match ← start with
  | .object =>
    let member (t : Table α) (key : String) : Reader (Table α) := do
      colon
      return t.insert key (← value)
    foldMembers quotedText member true ∅
  | other => other.refuse .map

/-! ### Faults in a record -/

/-- The text after a place within brackets: past the closing bracket if that comes next, and in a
list past a comma. -/
def Bracket.leave (b : Bracket) (text : List Char) : List Char :=
  match b, skipBlanks text with
  | .object, '}' :: rest => rest
  | .list, ']' :: rest => rest
  | .list, ',' :: rest => skipBlanks rest
  | _, unread => unread

/-- Fails within brackets. -/
def Reader.failIn (b : Bracket) (cause : Cause) : Reader α := fun text =>
  .error (.before cause (b.leave text))

/-! ### Records -/

/-- A field of a record, of which `σ` holds the fields read so far. -/
structure Field (σ : Type) where
  /-- The name of the field. -/
  name : String
  /-- The field has been read. -/
  isSet : σ → Bool
  /-- Reads the field, given the brackets that the record is written in. -/
  read : Bracket → σ → Reader σ

/-- A type of records. -/
structure RecordType (σ α : Type) where
  /-- The name of the type. -/
  typeName : String
  /-- The fields in the order of their declaration. -/
  fields : List (Field σ)
  /-- No field has been read. -/
  unread : σ
  /-- The record of the fields read, or the name of the first field that is missing. -/
  finish : σ → Except String α

/-- The type as messages name it. -/
def RecordType.shape (r : RecordType σ α) : RecordShape :=
  ⟨r.typeName, r.fields.length⟩

/-- Reads the colon and the value of a member of a record written as an object. -/
def RecordType.member (r : RecordType σ α) (state : σ) (key : String) : Reader σ :=
  match r.fields.find? (fun f => f.name == key) with
  | none => do
    colon
    skipValue
    return state
  | some f =>
    if f.isSet state then Reader.failIn .object (.duplicateField f.name)
    else do
      colon
      f.read .object state

/-- Reads a record written as an object, after its opening bracket. -/
def RecordType.members (r : RecordType σ α) : Reader α := do
  match r.finish (← (foldMembers quotedText r.member true r.unread : Reader σ)) with
  | .ok a => return a
  | .error name => Reader.fail (.missingField name)

/-- Reads the closing bracket of a list that must end. -/
def closeList : Reader Unit := fun text =>
  match h : skipBlanks text with
  | ']' :: rest => .ok ⟨(), rest, Nat.le_of_lt (length_lt_of_skipBlanks h)⟩
  | ',' :: rest =>
    match skipBlanks rest with
    | ']' :: inner => .error (.within .trailingComma (']' :: inner) 1)
    | unread => .error (.within .trailingCharacters unread 1)
  | [] => .error (.before .listUnfinished [])
  | unread => .error (.within .trailingCharacters unread 1)

/-- Reads the fields that are left of a record written as a list, of which `count` have been
read. -/
def RecordType.elements (r : RecordType σ α) (count : Nat) (state : σ) : List (Field σ) → Reader α
  | [] => do
    closeList
    match r.finish state with
    | .ok a => return a
    | .error _ => Reader.fail (.invalidLength count r.shape)
  | f :: fields => fun text =>
    match nextElement (count == 0) text with
    | .error e => .error e
    | .ok (.closed rest lt) =>
      match r.finish state with
      | .ok a => .ok ⟨a, rest, Nat.le_of_lt lt⟩
      | .error _ => .error (.before (.invalidLength count r.shape) rest)
    | .ok (.due rest le) =>
      (do elements r (count + 1) (← f.read .list state) fields : Reader α).after rest
        (Nat.le_trans (Nat.le_add_right _ _) le)

/-- Reads a record. -/
def record (r : RecordType σ α) : Reader α := do
  match ← start with
  | .object => r.members
  | .list => r.elements 0 r.unread r.fields
  | other => other.refuse (.record r.shape)

/-! ### Documents -/

/-- Reads one value and the blanks around it through the end of a text. -/
def whole (value : Reader α) (text : List Char) : Except Failure α :=
  match value text with
  | .error e => .error e
  | .ok s =>
    match skipBlanks s.rest with
    | [] => .ok s.value
    | unread => .error (.within .trailingCharacters unread 1)

/-- Reads a document that holds one value and nothing else. -/
def document (value : Reader α) (text : String) : Except Error α :=
  (whole value text.toList).mapError (·.locate text.toList)

end SensorCatalog.Json
