import SensorCatalog.Json.Value

/-!
# Skipping JSON values

A value that nobody asks for is passed over. Its form is checked, but not its meaning: numbers may
be out of range, surrogates may stand alone, and nesting is not bounded. So the brackets that are
open are kept in a list.

## Main definitions

* `Json.skipText`, `Json.skipScalar`: passing over a text and over any scalar.
* `Json.Bracket`: the kinds of brackets.
* `Json.skipValue`: passing over a value.
-/

namespace SensorCatalog.Json

/-! ### Scalars -/

/-- Passes over the rest of an escape after its backslash. -/
def skipEscape : Reader Unit := fun text =>
  match text with
  | [] => .error (.before .textUnfinished [])
  | 'u' :: rest => (do let _ ← codeUnit; return : Reader Unit).behind 'u' rest
  | c :: rest =>
    if (letterEscape? c).isSome then .ok (.next () c rest)
    else .error (.within .invalidEscape (c :: rest) 1)

/-- Passes over the characters of a text and its closing quote. -/
def skipText (text : List Char) : Except Failure (Step Unit text) :=
  match text with
  | [] => .error (.before .textUnfinished [])
  | '"' :: rest => .ok (.next () '"' rest)
  | '\\' :: rest =>
    match skipEscape rest with
    | .error e => .error e
    | .ok s =>
      have shorter : s.rest.length < rest.length + 1 := Nat.lt_succ_of_le s.length_le
      (skipText s.rest).map (Step.widen (Nat.le_of_lt shorter))
  | c :: rest =>
    if isControl c then .error (.before .controlCharacter (c :: rest))
    else (skipText rest).map (Step.widen (Step.next () c rest).length_le)
termination_by text.length

/-- Passes over a scalar whose first character has been read. -/
def skipScalar (first : Char) : Reader Unit :=
  match first with
  | '"' => skipText
  | 'n' => word () ['u', 'l', 'l']
  | 't' => word () ['r', 'u', 'e']
  | 'f' => word () ['a', 'l', 's', 'e']
  | c => do let _ ← signedNumeral .invalidNumber c; return

/-! ### Lists and objects -/

/-- The kinds of brackets. -/
inductive Bracket where
  /-- Square brackets. -/
  | list
  /-- Braces. -/
  | object
  deriving DecidableEq

/-- The kind of an opening bracket. -/
def Bracket.ofOpening? : Char → Option Bracket
  | '[' => some .list
  | '{' => some .object
  | _ => none

/-- The character that closes a bracket. -/
def Bracket.closing : Bracket → Char
  | .list => ']'
  | .object => '}'

/-- The fault of a text that ends while a bracket is open. -/
def Bracket.unfinished : Bracket → Cause
  | .list => .listUnfinished
  | .object => .objectUnfinished

/-- The fault of a text that goes on after a value within a bracket without a comma. -/
def Bracket.endDue : Bracket → Cause
  | .list => .listEndDue
  | .object => .objectEndDue

/-- Passes over what stands before a value within a bracket: the key and the colon of a member, and
nothing before an element. -/
def Bracket.skipKey : Bracket → Reader Unit
  | .list => return
  | .object => fun text =>
    match h : skipBlanks text with
    | [] => .error (.before .objectUnfinished [])
    | '"' :: rest =>
      (do skipText; colon : Reader Unit).after rest (Nat.le_of_lt (length_lt_of_skipBlanks h))
    | unread => .error (.within .keyDue unread 1)

mutual

/-- Passes over a value and through the closing brackets of those around it. -/
def skipWithin (enclosing : List Bracket) (text : List Char) : Except Failure (Step Unit text) :=
  match h : skipBlanks text with
  | [] => .error (.before .valueUnfinished [])
  | c :: rest =>
    have shorter : rest.length < text.length := length_lt_of_skipBlanks h
    if !startsValue c then .error (.within .valueDue (c :: rest) 1)
    else
      match Bracket.ofOpening? c with
      | none =>
        match skipScalar c rest with
        | .error e => .error e
        | .ok s =>
          have le : s.rest.length < text.length := Nat.lt_of_le_of_lt s.length_le shorter
          (skipAfter enclosing s.rest).map (Step.widen (Nat.le_of_lt le))
      | some b =>
        match k : skipBlanks rest with
        | [] => .error (.before b.unfinished [])
        | d :: inner =>
          have le : inner.length < text.length :=
            Nat.lt_trans (length_lt_of_skipBlanks k) shorter
          if d = b.closing then (skipAfter enclosing inner).map (Step.widen (Nat.le_of_lt le))
          else
            match b.skipKey (d :: inner) with
            | .error e => .error e
            | .ok s =>
              have le : s.rest.length < text.length :=
                Nat.lt_of_le_of_lt (Nat.le_trans s.length_le (length_lt_of_skipBlanks k)) shorter
              (skipWithin (b :: enclosing) s.rest).map (Step.widen (Nat.le_of_lt le))
termination_by text.length

/-- Passes over what follows a value, through the closing brackets of those around it. -/
def skipAfter (enclosing : List Bracket) (text : List Char) : Except Failure (Step Unit text) :=
  match enclosing with
  | [] => .ok (.here () text)
  | b :: outer =>
    match h : skipBlanks text with
    | [] => .error (.before b.unfinished [])
    | c :: rest =>
      have shorter : rest.length < text.length := length_lt_of_skipBlanks h
      if c = b.closing then (skipAfter outer rest).map (Step.widen (Nat.le_of_lt shorter))
      else if c = ',' then
        match b.skipKey rest with
        | .error e => .error e
        | .ok s =>
          have le : s.rest.length < text.length := Nat.lt_of_le_of_lt s.length_le shorter
          (skipWithin (b :: outer) s.rest).map (Step.widen (Nat.le_of_lt le))
      else .error (.within b.endDue (c :: rest) 1)
termination_by text.length

end

/-- Passes over a value. -/
def skipValue : Reader Unit :=
  skipWithin []

end SensorCatalog.Json
