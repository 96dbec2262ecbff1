import SensorCatalog.HexId

/-!
# Tables of characters

A table of characters is written as a text of words with blanks between them. A word is a stretch of
characters: the code point of the first one in hexadecimal digits, behind a hyphen that of the last
one if it is another, and behind a slash the step if not all between them belong to the stretch. In
a table of values the word goes on with an equals sign and numbers with dots between them.

## Main definitions

* `Unicode.Stretch`, `Unicode.stretches`: a set of characters.
* `Unicode.Entry`, `Unicode.entries`: characters with values.
-/

namespace SensorCatalog.Unicode

/-- The characters from a first to a last one, in steps. -/
structure Stretch where
  /-- The first code point. -/
  first : Nat
  /-- The last code point. -/
  last : Nat
  /-- How far the next code point is. -/
  step : Nat

/-- The stretch has a character. -/
def Stretch.contains (s : Stretch) (c : Char) : Bool :=
  s.first ≤ c.toNat && c.toNat ≤ s.last && (c.toNat - s.first) % s.step == 0

/-- One of the stretches has a character. -/
def isIn (stretches : List Stretch) (c : Char) : Bool :=
  stretches.any fun s => s.contains c

/-- A stretch with values. -/
structure Entry where
  /-- The characters. -/
  stretch : Stretch
  /-- The values. -/
  values : List Nat

/-- The values of the entry that has a character. -/
def valuesOf? (entries : List Entry) (c : Char) : Option (List Nat) :=
  (entries.find? fun e => e.stretch.contains c).map Entry.values

/-! ### Reading tables -/

/-- The words of a text. -/
def words (text : String) : List (List Char) :=
  (text.toList.splitOnP fun c => c == ' ' || c == '\n').filter fun word => !word.isEmpty

/-- The number of hexadecimal digits. -/
def number (digits : List Char) : Nat :=
  (HexId.value? digits).getD 0

/-- The stretch of a word. -/
def Stretch.ofWord (word : List Char) : Stretch :=
  let range := word.takeWhile (· != '/')
  let step := (word.dropWhile (· != '/')).drop 1
  let first := range.takeWhile (· != '-')
  let last := (range.dropWhile (· != '-')).drop 1
  ⟨number first, number (if last.isEmpty then first else last),
    if step.isEmpty then 1 else number step⟩

/-- The entry of a word. -/
def Entry.ofWord (word : List Char) : Entry :=
  let values := (word.dropWhile (· != '=')).drop 1
  ⟨.ofWord (word.takeWhile (· != '=')), (values.splitOn '.').map number⟩

/-- The stretches of a table. -/
def stretches (text : String) : List Stretch :=
  (words text).map .ofWord

/-- The entries of a table. -/
def entries (text : String) : List Entry :=
  (words text).map .ofWord

end SensorCatalog.Unicode
