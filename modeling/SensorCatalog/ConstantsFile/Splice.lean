import SensorCatalog.ConstantsFile.Marker
import SensorCatalog.Text.Blank
import SensorCatalog.Text.Lines

/-!
# Splicing the constants file

A new generated part takes the place of the one in a file, and what was written by hand below it
stays: line by line as it is, but for carriage returns at the ends of lines and blank lines at the
end of the file.

## Main definitions

* `ConstantsFile.handwrittenStart?`: the line at which the part written by hand begins.
* `ConstantsFile.handwritten?`: the part written by hand.
* `ConstantsFile.splice?`: a generated part with the part written by hand in a file.
* `ConstantsFile.text`: lines as the text of a file.
-/

namespace SensorCatalog.ConstantsFile

/-- The index of the first line written by hand, if the end of the generated part is marked. -/
def handwrittenStart? (lines : List String) : Option Nat :=
  (lines.findIdx? hasEndMarker).map (· + handwrittenOffset)

/-- A line without the carriage returns at its end. -/
def dropReturns (line : String) : String :=
  String.ofList (Text.dropTrailing (· == '\r') line.toList)

/-- Lines written by hand as they are kept: without the empty ones at their end, carriage returns at
the ends of lines not counting. -/
def kept (lines : List String) : List String :=
  Text.dropTrailing String.isEmpty (lines.map dropReturns)

/-- The part written by hand in a file, if the end of the generated part is marked. -/
def handwritten? (previous : String) : Option (List String) :=
  let lines := Text.lines previous
  (handwrittenStart? lines).map fun start => kept (lines.drop start)

/-- A generated part with the part written by hand in a file, if the end of the generated part is
marked there. -/
def splice? (generated : List String) (previous : String) : Option (List String) :=
  (handwritten? previous).map (generated ++ ·)

/-- Lines as the text of a file, which ends in a line feed. -/
def text (lines : List String) : String :=
  let joined := Text.joinLines lines
  if joined.toList.getLast? = some '\n' then joined else joined ++ "\n"

end SensorCatalog.ConstantsFile
