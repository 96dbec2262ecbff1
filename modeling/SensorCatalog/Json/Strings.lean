import SensorCatalog.HexId
import SensorCatalog.Json.Reader

/-!
# Texts and words in JSON

A text in quotes holds characters and escapes; control characters must be escaped. An escape by
number gives one code unit of UTF-16 in four hexadecimal digits. A high surrogate must be followed
by an escaped low one, with which it makes one character; no other surrogate is allowed.

## Main definitions

* `Json.codeUnit`: four hexadecimal digits.
* `Json.escape`: the character that an escape stands for.
* `Json.characters`, `Json.quotedText`: a text through its closing quote.
* `Json.word`: the rest of a fixed word.
-/

namespace SensorCatalog.Json

/-! ### Escapes -/

/-- Reads four hexadecimal digits. -/
def codeUnit : Reader Nat := fun text =>
  let refused : Failure :=
    if byteCount text < 4 then .before .textUnfinished [] else .within .invalidEscape text 4
  match text with
  | a :: b :: c :: d :: rest =>
    match HexId.value? [a, b, c, d] with
    | some n => .ok ⟨n, rest, by simp only [List.length_cons]; omega⟩
    | none => .error refused
  | _ => .error refused

/-- The first of two code units that make one character. -/
def isHighSurrogate (unit : Nat) : Bool :=
  0xD800 ≤ unit && unit ≤ 0xDBFF

/-- The second of two code units that make one character. -/
def isLowSurrogate (unit : Nat) : Bool :=
  0xDC00 ≤ unit && unit ≤ 0xDFFF

/-- The character of a high and a low surrogate. -/
def surrogatePair (high low : Nat) : Char :=
  Char.ofNat (0x10000 + (high - 0xD800) * 0x400 + (low - 0xDC00))

/-- Reads the escaped low surrogate after a high one. -/
def lowSurrogate (high : Nat) : Reader Char := fun text =>
  match text with
  | '\\' :: 'u' :: rest =>
    (do
      let low ← codeUnit
      if isLowSurrogate low then Reader.pure (surrogatePair high low)
      else Reader.fail .loneSurrogate : Reader Char).after rest
        (by simp only [List.length_cons]; omega)
  | [] => .error (.before .textUnfinished [])
  | ['\\'] => .error (.before .textUnfinished [])
  | '\\' :: rest => .error (.within .surrogateUnfinished rest 1)
  | unread => .error (.within .surrogateUnfinished unread 1)

/-- Reads the digits of an escape by number, and the second escape if there must be one. -/
def numberedEscape : Reader Char := do
  let unit ← codeUnit
  if isLowSurrogate unit then Reader.fail .loneSurrogate
  else if isHighSurrogate unit then lowSurrogate unit
  else Reader.pure (Char.ofNat unit)

/-- The character that a letter after a backslash stands for. -/
def letterEscape? : Char → Option Char
  | '"' => some '"'
  | '\\' => some '\\'
  | '/' => some '/'
  | 'b' => some '\x08'
  | 'f' => some '\x0c'
  | 'n' => some '\n'
  | 'r' => some '\r'
  | 't' => some '\t'
  | _ => none

/-- Reads the rest of an escape after its backslash. -/
def escape : Reader Char := fun text =>
  match text with
  | [] => .error (.before .textUnfinished [])
  | 'u' :: rest => numberedEscape.behind 'u' rest
  | c :: rest =>
    match letterEscape? c with
    | some d => .ok (.next d c rest)
    | none => .error (.within .invalidEscape (c :: rest) 1)

/-! ### Texts -/

/-- The characters that may not stand in a text as themselves. -/
def isControl (c : Char) : Bool :=
  c.toNat < 0x20

/-- Reads the characters of a text through its closing quote. -/
def characters (text : List Char) : Except Failure (Step (List Char) text) :=
  match text with
  | [] => .error (.before .textUnfinished [])
  | '"' :: rest => .ok (.next [] '"' rest)
  | '\\' :: rest =>
    match escape rest with
    | .error e => .error e
    | .ok c =>
      have shorter : c.rest.length < rest.length + 1 := Nat.lt_succ_of_le c.length_le
      match characters c.rest with
      | .error e => .error e
      | .ok s => .ok ((Step.map (c.value :: ·) s).widen (Nat.le_of_lt shorter))
  | c :: rest =>
    if isControl c then .error (.within .controlCharacter (c :: rest) 1)
    else
      match characters rest with
      | .error e => .error e
      | .ok s => .ok ((Step.map (c :: ·) s).widen (Step.next () c rest).length_le)
termination_by text.length

/-- Reads a text through its closing quote, its opening quote having been read. -/
def quotedText : Reader String := do
  let cs ← (characters : Reader (List Char))
  Reader.pure (String.ofList cs)

/-! ### Words -/

/-- Reads what is left of a fixed word, which has a meaning. -/
def word {α : Type} (meaning : α) : List Char → Reader α
  | [] => Reader.pure meaning
  | w :: ws => fun text =>
    match text with
    | [] => .error (.before .valueUnfinished [])
    | c :: rest =>
      if c = w then (word meaning ws).behind c rest
      else .error (.within .wordDue (c :: rest) 1)

end SensorCatalog.Json
