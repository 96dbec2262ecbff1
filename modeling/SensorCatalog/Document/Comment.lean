import SensorCatalog.Text.Blank
import SensorCatalog.Text.Lines

/-!
# Comments in the source documents

The documents are kept with comments, each on a line of its own. JSON has none, so these lines are
taken out before a document is read.

## Main definitions

* `Document.isComment`: the lines that are comments.
* `Document.withoutComments`: a text without its comments.
-/

namespace SensorCatalog.Document

/-- A line that begins with two slashes, blanks not counting. -/
def isComment (line : List Char) : Bool :=
  ['/', '/'].isPrefixOf (Text.trim line)

/-- A text without its comments. -/
def withoutComments (text : String) : String :=
  String.ofList (['\n'].intercalate ((text.toList.splitOn '\n').filter (fun l => !isComment l)))

end SensorCatalog.Document
