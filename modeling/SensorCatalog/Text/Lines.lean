/-!
# Lines of a text

A text is cut at its line feeds. Read as a file, a final line feed ends the last line rather than
opening an empty one, and a carriage return before a line feed belongs to the line's end.

## Main definitions

* `Text.lines`: the lines of a file's text.
* `Text.joinLines`: lines put together with line feeds between them.
-/

namespace SensorCatalog.Text

/-- A line without the carriage return at its end, if there is one. -/
def dropReturn (line : List Char) : List Char :=
  if line.getLast? = some '\r' then line.dropLast else line

/-- The lines of a file whose text has been cut at its line feeds: all parts but the last were
ended by a line feed, and the last is a line only if there is something in it. -/
def linesOfParts : List (List Char) → List (List Char)
  | [] => []
  | [last] => if last.isEmpty then [] else [last]
  | ended :: next :: rest => dropReturn ended :: linesOfParts (next :: rest)

/-- The lines of a text, as a file is read. -/
def lines (text : String) : List String :=
  (linesOfParts (text.toList.splitOn '\n')).map String.ofList

/-- Lines put together, with a line feed between each two. -/
def joinLines (ls : List String) : String :=
  String.intercalate "\n" ls

end SensorCatalog.Text
