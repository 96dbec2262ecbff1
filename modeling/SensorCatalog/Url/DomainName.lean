import SensorCatalog.Text.Blank
import SensorCatalog.Unicode.Composition
import SensorCatalog.Unicode.Direction
import SensorCatalog.Unicode.Joining
import SensorCatalog.Url.DomainCharacters
import SensorCatalog.Url.Punycode

/-!
# Domain names

A domain name is a row of labels with dots between them. A label outside ASCII is written in
Punycode behind a marker, and a label with that marker must be the written form of a proper one.
Small and capital letters are the same.

As soon as a name has a letter from right to left or a digit that goes with such letters, each of
its labels must keep to one direction.

## Main definitions

* `Url.DomainName.isProper`: the labels outside ASCII.
* `Url.DomainName.isDirected`: the labels that keep to one direction.
* `Url.DomainName.toAscii?`: a name in its written form.
-/

namespace SensorCatalog.Url.DomainName

open DomainCharacters Unicode

/-! ### Labels -/

/-- The characters behind a letter or, in reverse, before it go on with one that is joined. -/
def reaches (isJoined : Char → Bool) (cs : List Char) : Bool :=
  (cs.dropWhile fun c => isTransparent c && !isJoined c).head?.any isJoined

/-- The characters without width in a label stand where they have a meaning: behind a virama, or
between letters that would be joined. The first argument is what stands before, in reverse. -/
def widthsAreProper (before : List Char) : List Char → Bool
  | [] => true
  | c :: rest =>
    (if isJoiner c then before.head?.any isVirama
      else if isNonJoiner c then
        before.head?.any isVirama || (reaches joinsAfter before && reaches joinsBefore rest)
      else true) && widthsAreProper (c :: before) rest

/-- The most characters of a label outside ASCII. -/
def longestLabel : Nat := 1000

/-- The most characters of a label in Punycode. -/
def longestPunycode : Nat := 2000

/-- A label outside ASCII: names keep all its characters, it has no mark at its front, and the
characters without width stand where they have a meaning. -/
def isProper (label : List Char) : Bool :=
  label.all isKept && !label.head?.any isCombining && widthsAreProper [] label &&
    label.length ≤ longestLabel

/-- A character of ASCII. -/
def isAscii (c : Char) : Bool :=
  c.toNat < 0x80

/-- What stands before a label in Punycode. -/
def marker : List Char := ['x', 'n', '-', '-']

/-- The label that stands in Punycode in a text: it has characters outside ASCII and is composed. -/
def ofPunycode? (cs : List Char) : Option (List Char) :=
  if cs.length ≤ longestPunycode ∧ cs.all isAscii ∧ cs.getLast? ≠ some '-' then
    (Punycode.decode cs).filter fun label =>
      !label.all isAscii && compose label == label && isProper label
  else none

/-- A label in its own characters. -/
def ofWritten? (label : List Char) : Option (List Char) :=
  if marker.isPrefixOf label then ofPunycode? (label.drop marker.length)
  else if label.all isAscii || isProper label then some label
  else none

/-- A label as it is written. -/
def written (label : List Char) : List Char :=
  if label.all isAscii then label else marker ++ Punycode.encode label

/-! ### Directions -/

/-- The directions within a label from left to right. -/
def withinLeft : List Direction := [.left, .europeanNumber, .neutral, .mark]

/-- The directions within a label from right to left. -/
def withinRight : List Direction := [.right, .arabicNumber, .europeanNumber, .neutral, .mark]

/-- A label that keeps to the direction of its first letter: it ends with a letter or a digit and
the marks on it. From right to left, it has digits of one kind. -/
def isDirected (label : List Char) : Bool :=
  match label.map direction with
  | [] => true
  | first :: rest =>
    let rest := Text.dropTrailing (· == .mark) rest
    match first with
    | .left =>
      rest.all (· ∈ withinLeft) && rest.getLast?.all (· ∈ [.left, .europeanNumber])
    | .right =>
      rest.all (· ∈ withinRight) &&
        rest.getLast?.all (· ∈ [.right, .arabicNumber, .europeanNumber]) &&
        !(rest.contains .arabicNumber && rest.contains .europeanNumber)
    | _ => false

/-- A name with letters from right to left or digits that go with them. -/
def hasRight (labels : List (List Char)) : Bool :=
  labels.any fun label => label.any fun c => direction c ∈ [.right, .arabicNumber]

/-! ### Names -/

/-- A name in its written form. -/
def toAscii? (name : List Char) : Option (List Char) := do
  let labels ← ((compose (name.flatMap fold)).splitOn '.').mapM ofWritten?
  if hasRight labels && !labels.all isDirected then none
  else return ['.'].intercalate (labels.map written)

end SensorCatalog.Url.DomainName
