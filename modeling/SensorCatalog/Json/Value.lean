import SensorCatalog.Json.Numbers
import SensorCatalog.Json.Strings

/-!
# JSON values

A value is a scalar, a list or an object. Its start shows which: a scalar is read at once, of a list
or an object the opening bracket. Values are read whole within a bound on their nesting. Objects
keep their members in the order of the document, repeated keys included.

## Main definitions

* `Json.Start`, `Json.start`: what a value starts with.
* `Json.Value`, `Json.value`: values, and reading one of bounded nesting.
-/

namespace SensorCatalog.Json

/-! ### The start of a value -/

/-- What a value starts with. -/
inductive Start where
  /-- The value is a scalar. -/
  | scalar (value : Scalar)
  /-- The value is a list; its opening bracket has been read. -/
  | list
  /-- The value is an object; its opening bracket has been read. -/
  | object

/-- The characters that a value begins with. -/
def startsValue (c : Char) : Bool :=
  c ∈ ['[', '{', '"', 'n', 't', 'f', '-'] || c.isDigit

/-- Reads a value up to where its start shows what it is, its first character having been read. -/
def startWith (first : Char) : Reader Start :=
  match first with
  | '[' => return .list
  | '{' => return .object
  | '"' => return .scalar (.text (← quotedText))
  | 'n' => word (.scalar .null) ['u', 'l', 'l']
  | 't' => word (.scalar (.boolean true)) ['r', 'u', 'e']
  | 'f' => word (.scalar (.boolean false)) ['a', 'l', 's', 'e']
  | c => return .scalar (.number (← number c))

/-- Reads the start of a value. -/
def start : Reader Start := fun text =>
  match h : skipBlanks text with
  | [] => .error (.before .valueUnfinished [])
  | c :: rest =>
    if startsValue c then (startWith c).after rest (Nat.le_of_lt (length_lt_of_skipBlanks h))
    else .error (.within .valueDue (c :: rest) 1)

/-- Fails on a value that has started, as another kind of value was due. A list or an object is at
fault from its bracket on, a scalar once it has been read. -/
def Start.refuse {α : Type} (expected : Expected) : Start → Reader α
  | .scalar value => Reader.fail (.wrongType (.scalar value) expected)
  | .list => fun text => .error ⟨.wrongType .list expected, byteCount text + 1⟩
  | .object => fun text => .error ⟨.wrongType .object expected, byteCount text + 1⟩

/-! ### Whole values -/

/-- A JSON value. -/
inductive Value where
  /-- A value without parts. -/
  | scalar (value : Scalar)
  /-- A list of values. -/
  | list (elements : List Value)
  /-- An object with its members in order. -/
  | object (members : List (String × Value))

/-- Reads a value that opens at most `room` brackets inside each other. -/
def value : Nat → Reader Value
  | 0 => do
    match ← start with
    | .scalar s => return .scalar s
    | _ => Reader.fail .nestedTooDeeply
  | room + 1 => do
    match ← start with
    | .scalar s => return .scalar s
    | .list =>
      let element (before : List Value) : Reader (List Value) := do
        return (← value room) :: before
      let elements ← (foldElements element true [] : Reader (List Value))
      return .list elements.reverse
    | .object =>
      let member (before : List (String × Value)) (key : String) :
          Reader (List (String × Value)) := do
        colon
        return (key, ← value room) :: before
      let members ← (foldMembers quotedText member true [] : Reader (List (String × Value)))
      return .object members.reverse

end SensorCatalog.Json
