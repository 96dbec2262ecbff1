import SensorCatalog.Json.Failure

/-!
# Readers of JSON text

A reader takes a value off the front of a text and leaves the rest, or fails. Its result says that
the rest is no longer than the text, so that loops over a text end.

Two loops carry all nesting: one over the members of an object and one over the elements of a list.
Each is given what is to be done at a member or an element.

## Main definitions

* `Json.Step`, `Json.Reader`: the result of reading, and readers.
* `Json.skipBlanks`: a text without the blanks at its front.
* `Json.colon`: the mark between a key and its value.
* `Json.NextKey`, `Json.nextKey`: what comes next in an object.
* `Json.foldMembers`, `Json.foldElements`: the loops.
-/

namespace SensorCatalog.Json

variable {α β σ : Type}

/-! ### Readers -/

/-- A value taken off the front of a text, and the rest. -/
structure Step (α : Type) (text : List Char) where
  /-- What was read. -/
  value : α
  /-- What is still to be read. -/
  rest : List Char
  /-- Reading does not lengthen the text. -/
  length_le : rest.length ≤ text.length

/-- The functions that read a value off the front of a text. -/
def Reader (α : Type) : Type :=
  (text : List Char) → Except Failure (Step α text)

/-- A value found without reading anything. -/
def Step.here (a : α) (text : List Char) : Step α text :=
  ⟨a, text, Nat.le_refl _⟩

/-- A value found by reading one character. -/
def Step.next (a : α) (c : Char) (rest : List Char) : Step α (c :: rest) :=
  ⟨a, rest, Nat.le_succ _⟩

/-- A step on the rest of a text is a step on the text. -/
def Step.widen {text rest : List Char} (h : rest.length ≤ text.length) (s : Step α rest) :
    Step α text :=
  ⟨s.value, s.rest, Nat.le_trans s.length_le h⟩

/-- The same step with another value. -/
def Step.map (f : α → β) {text : List Char} (s : Step α text) : Step β text :=
  ⟨f s.value, s.rest, s.length_le⟩

/-- A reader run on the rest of a text. -/
def Reader.after (r : Reader α) {text : List Char} (rest : List Char)
    (h : rest.length ≤ text.length) : Except Failure (Step α text) :=
  (r rest).map (Step.widen h)

/-- A reader run behind the first character of a text. -/
def Reader.behind (r : Reader α) (c : Char) (rest : List Char) :
    Except Failure (Step α (c :: rest)) :=
  r.after rest (Step.next () c rest).length_le

/-- Reads nothing. -/
def Reader.pure (a : α) : Reader α := fun text =>
  .ok (.here a text)

/-- Reads one thing and then, depending on it, another. -/
def Reader.bind (r : Reader α) (f : α → Reader β) : Reader β := fun text =>
  match r text with
  | .error e => .error e
  | .ok step => (f step.value).after step.rest step.length_le

instance : Monad Reader where
  pure := Reader.pure
  bind := Reader.bind

/-- Fails at the front of the text. -/
def Reader.fail (cause : Cause) : Reader α := fun text =>
  .error (.before cause text)

/-! ### Blanks and marks -/

/-- The characters that may stand between the parts of a document. -/
def isBlank (c : Char) : Bool :=
  c == ' ' || c == '\n' || c == '\t' || c == '\r'

/-- A text without the blanks at its front. -/
def skipBlanks (text : List Char) : List Char :=
  text.dropWhile isBlank

theorem length_skipBlanks_le (text : List Char) : (skipBlanks text).length ≤ text.length :=
  (List.dropWhile_suffix _).length_le

/-- A character at the front of a text, after blanks, has a shorter rest. -/
theorem length_lt_of_skipBlanks {text rest : List Char} {c : Char}
    (h : skipBlanks text = c :: rest) : rest.length < text.length := by
  have := length_skipBlanks_le text
  simp only [h, List.length_cons] at this
  omega

/-- Reads the colon between a key and its value. -/
def colon : Reader Unit := fun text =>
  match h : skipBlanks text with
  | ':' :: rest => .ok ⟨(), rest, Nat.le_of_lt (length_lt_of_skipBlanks h)⟩
  | [] => .error (.before .objectUnfinished [])
  | unread => .error (.within .colonDue unread 1)

/-! ### Members of an object -/

/-- What comes next in an object: its end, or a key, whose opening quote has been read. -/
inductive NextKey (text : List Char) where
  /-- The closing bracket has been read. -/
  | closed (rest : List Char) (lt : rest.length < text.length)
  /-- The opening quote of a key has been read. -/
  | opened (rest : List Char) (lt : rest.length < text.length)

/-- Reads up to the next key of an object or past its end. -/
def nextKey (isFirst : Bool) (text : List Char) : Except Failure (NextKey text) :=
  match h : skipBlanks text with
  | '}' :: rest => .ok (.closed rest (length_lt_of_skipBlanks h))
  | [] => .error (.before .objectUnfinished [])
  | c :: rest =>
    if isFirst then
      if c = '"' then .ok (.opened rest (length_lt_of_skipBlanks h))
      else .error (.within .keyDue (c :: rest) 1)
    else if c = ',' then
      match k : skipBlanks rest with
      | '"' :: inner =>
        .ok (.opened inner (Nat.lt_trans (length_lt_of_skipBlanks k) (length_lt_of_skipBlanks h)))
      | [] => .error (.before .valueUnfinished [])
      | '}' :: _ => .error (.within .trailingComma (skipBlanks rest) 1)
      | _ => .error (.within .keyDue (skipBlanks rest) 1)
    else .error (.within .objectEndDue (c :: rest) 1)

/-- Reads the members of an object through its closing bracket, its opening bracket having been
read. A state is carried from member to member; `key` reads a key after its opening quote, and
`member` the colon and the value after the key. -/
def foldMembers (key : Reader String) (member : σ → String → Reader σ) (isFirst : Bool) (state : σ)
    (text : List Char) : Except Failure (Step σ text) :=
  match nextKey isFirst text with
  | .error e => .error e
  | .ok (.closed rest lt) => .ok ⟨state, rest, Nat.le_of_lt lt⟩
  | .ok (.opened rest lt) =>
    match key rest with
    | .error e => .error e
    | .ok name =>
      match member state name.value name.rest with
      | .error e => .error e
      | .ok next =>
        have shorter : next.rest.length < text.length :=
          Nat.lt_of_le_of_lt (Nat.le_trans next.length_le name.length_le) lt
        (foldMembers key member false next.value next.rest).map
          (Step.widen (Nat.le_of_lt shorter))
termination_by text.length

/-! ### Elements of a list -/

/-- What comes next in a list: its end or an element. Before every element but the first, a comma
has been read. -/
inductive NextElement (isFirst : Bool) (text : List Char) where
  /-- The closing bracket has been read. -/
  | closed (rest : List Char) (lt : rest.length < text.length)
  /-- An element comes next. -/
  | due (rest : List Char) (le : rest.length + (!isFirst).toNat ≤ text.length)

/-- Reads up to the next element of a list or past its end. -/
def nextElement (isFirst : Bool) (text : List Char) : Except Failure (NextElement isFirst text) :=
  match h : skipBlanks text with
  | ']' :: rest => .ok (.closed rest (length_lt_of_skipBlanks h))
  | [] => .error (.before .listUnfinished [])
  | c :: rest =>
    have shorter := length_lt_of_skipBlanks h
    match isFirst with
    | true => .ok (.due (c :: rest) shorter)
    | false =>
      if c = ',' then
        match k : skipBlanks rest with
        | ']' :: inner => .error (.within .trailingComma (']' :: inner) 1)
        | [] => .error (.before .valueUnfinished [])
        | d :: inner =>
          .ok (.due (d :: inner)
            (Nat.le_trans (Nat.succ_le_succ (length_lt_of_skipBlanks k)) shorter))
      else .error (.within .listEndDue (c :: rest) 1)

/-- Reads the elements of a list through its closing bracket, its opening bracket having been read.
A state is carried from element to element. -/
def foldElements (element : σ → Reader σ) (isFirst : Bool) (state : σ) (text : List Char) :
    Except Failure (Step σ text) :=
  match nextElement isFirst text with
  | .error e => .error e
  | .ok (.closed rest lt) => .ok ⟨state, rest, Nat.le_of_lt lt⟩
  | .ok (.due rest le) =>
    match element state rest with
    | .error e => .error e
    | .ok next =>
      have shorter : next.rest.length + (!isFirst).toNat ≤ text.length :=
        Nat.le_trans (Nat.add_le_add_right next.length_le _) le
      (foldElements element false next.value next.rest).map
        (Step.widen (Nat.le_trans (Nat.le_add_right _ _) shorter))
termination_by 2 * text.length + isFirst.toNat
decreasing_by
  cases isFirst <;>
    simp only [Bool.not_true, Bool.not_false, Bool.toNat_true, Bool.toNat_false] at * <;> omega

end SensorCatalog.Json
