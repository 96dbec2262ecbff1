import SensorCatalog.Text.Occurrence

/-!
# Markers of the constants file

The constants file has a generated part and, below it, a part written by hand. Two comments stand
around the generated constants; the second one ends the generated part, and the text in it is how
the end is found again.

## Main definitions

* `ConstantsFile.beginBlock`, `ConstantsFile.endBlock`: the lines of the two comments.
* `ConstantsFile.endMarker`: the text that marks the end of the generated part.
-/

namespace SensorCatalog.ConstantsFile

/-- The comment above the generated constants. -/
def beginBlock : List String := [
  "// ----------------------------------------------------------------------------------- //",
  "// **BEGINNING OF AUTOGENERATED CONTENT** (TO ADD ADDITIONAL MANUAL CONTENT, LOOK FOR  //",
  "// THE \"END OF AUTOGENERATED CONTENT\" COMMENT BLOCK AND ADD YOUR CODE BELOW IT)        //",
  "// ----------------------------------------------------------------------------------- //"]

/-- The text that marks the end of the generated part. -/
def endMarker : String := "**END OF AUTOGENERATED CONTENT**"

/-- The comment at the end of the generated part, and an empty line. -/
def endBlock : List String := [
  "// ----------------------------------------------------------------------------------- //",
  "// **END OF AUTOGENERATED CONTENT** (DO NOT EDIT/REMOVE THIS COMMENT BLOCK AND DO NOT  //",
  "// EDIT ANYTHING ABOVE IT. IF A NEW PRELUDE ITEM IS NEEDED, UPDATE THE PRELUDE IN      //",
  "// src/render/mod.rs OF multilevel-sensor-gen THEN RE-RUN THE GENERATOR. ALL LINES     //",
  "// WRITTEN BELOW THIS BLOCK WILL BE PRESERVED AS LONG AS THIS BLOCK REMAINS)           //",
  "// ----------------------------------------------------------------------------------- //",
  ""]

/-- The number of lines from the one with the end marker to the first one written by hand. -/
def handwrittenOffset : Nat := 6

/-- A line holds the end marker. -/
def hasEndMarker (line : String) : Bool :=
  Text.occursIn endMarker.toList line.toList

/-- The offset leads from the end marker to just below its comment. -/
theorem findIdx_endBlock_add_offset :
    endBlock.findIdx hasEndMarker + handwrittenOffset = endBlock.length := by
  decide +kernel

end SensorCatalog.ConstantsFile
