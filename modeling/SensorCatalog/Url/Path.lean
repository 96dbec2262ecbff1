import SensorCatalog.Url.Percent

/-!
# Paths of URLs

The segments of a path are what stands between its slashes. A segment of one dot stands for nothing,
and a segment of two dots takes the segment before it back. A segment that names a drive, a letter
with a colon or a bar behind it, is not taken back; at the front of the path of a file it is written
with a colon.

## Main definitions

* `Url.splitPath`: the path in a text and what follows it.
* `Url.Path.addAll`, `Url.extend`: a path with further segments put at its end.
* `Url.rootPath`: a path after an authority.
* `Url.filePath`, `Url.besidePath`: paths of files.
-/

namespace SensorCatalog.Url

/-! ### Segments -/

/-- The characters that separate the segments of a path. -/
def isSlash (special : Bool) (c : Char) : Bool :=
  c == '/' || (special && c == '\\')

/-- The characters that begin a query or a fragment. -/
def isMark (c : Char) : Bool :=
  c == '?' || c == '#'

/-- The path in a text and what follows it. -/
def splitPath (cs : List Char) : List Char × List Char :=
  (cs.takeWhile (fun c => !isMark c), cs.dropWhile (fun c => !isMark c))

/-- A segment that stands for nothing. -/
def isSingleDot (segment : List Char) : Bool :=
  segment.map Char.toLower ∈ [['.'], ['%', '2', 'e']]

/-- A segment that takes one segment back. -/
def isDoubleDot (segment : List Char) : Bool :=
  let dots := [['.'], ['%', '2', 'e']]
  segment.map Char.toLower ∈ dots.flatMap fun a => dots.map fun b => a ++ b

/-- The characters that break a text into lines or columns. They do not count in a URL. -/
def isBreak (c : Char) : Bool :=
  c == '\t' || c == '\n' || c == '\r'

/-- A text without breaks. -/
def dropBreaks (cs : List Char) : List Char :=
  cs.filter fun c => !isBreak c

/-- A segment as it is written. -/
def encodeSegment (segment : List Char) : String :=
  String.ofList (Percent.encode Percent.inPath (dropBreaks segment))

/-! ### Drives -/

/-- A segment that names a drive. -/
def isDrive : List Char → Bool
  | [letter, mark] => letter.isAlpha && (mark == ':' || mark == '|')
  | _ => false

/-- A segment that names a drive in the form in which drives are written. -/
def isWrittenDrive (segment : String) : Bool :=
  isDrive segment.toList && segment.toList.getLast? == some ':'

/-- A text begins with a segment that names a drive. -/
def beginsWithDrive (cs : List Char) : Bool :=
  isDrive (dropBreaks (cs.takeWhile fun c => !isSlash true c && !isMark c))

/-! ### Paths -/

/-- A path as far as it has been read. -/
structure Path where
  /-- Its segments. -/
  segments : List String
  /-- A drive was put at its front. -/
  hasDrive : Bool

namespace Path

/-- A path that is left open for another segment. -/
def opened (path : Path) : Path :=
  { path with segments := path.segments ++ [""] }

/-- A path with its last segment taken back, unless it begins with a drive. -/
def back (path : Path) : Path :=
  if path.segments.getLast?.any fun last => beginsWithDrive last.toList then path
  else { path with segments := path.segments.dropLast }

/-- A path with one more segment. At the front of the path of a file the mark of a drive is a colon,
and a break behind it ends the segment. -/
def add (isFile : Bool) (path : Path) (segment : List Char) : Path :=
  let front := segment.takeWhile fun c => !isBreak c
  if isFile && path.segments.isEmpty && isDrive (dropBreaks segment) then
    ⟨[String.ofList (segment.take 1 ++ [':'])], true⟩
  else if isFile && path.segments.isEmpty && isWrittenDrive (String.ofList front) then
    { path with segments := [encodeSegment front, encodeSegment (segment.drop front.length)] }
  else { path with segments := path.segments ++ [encodeSegment segment] }

/-- A path with further segments put at its end. A dot segment at the very end leaves the path open
for another segment. -/
def addAll (isFile : Bool) (path : Path) : List (List Char) → Path
  | [] => path
  | segment :: rest =>
    let ended := fun (path : Path) => if rest.isEmpty then path.opened else path
    if isDoubleDot segment then addAll isFile (ended path.back) rest
    else if isSingleDot segment then addAll isFile (ended path) rest
    else addAll isFile (path.add isFile segment) rest

end Path

/-- A path continued by the segments of a text, which ends before its query. -/
def extend (special : Bool) (path : List String) (cs : List Char) : List String :=
  (Path.addAll false ⟨path, false⟩ (cs.splitOnP (isSlash special))).segments

/-- The path after an authority, in which there is always a segment if the web knows the scheme. -/
def rootPath (special : Bool) (cs : List Char) : List String :=
  match cs with
  | [] => if special then [""] else []
  | c :: rest => extend special [] (if isSlash special c then rest else c :: rest)

/-! ### Paths of files -/

/-- The path of a file continued by the segments of a text. -/
def extendFile (path : List String) (cs : List Char) : Path :=
  Path.addAll true ⟨path, false⟩ (cs.splitOnP (isSlash true))

/-- The path of a file does not begin with empty segments. -/
def filePath (path : Path) : List String :=
  match path.segments.dropWhile String.isEmpty with
  | [] => [""]
  | segments => segments

/-- A path with further segments of which the first is written right behind the last segment. -/
def addBehind (path : List String) : List (List Char) → Path
  | [] => ⟨path, false⟩
  | segment :: rest =>
    let whole : Path := ⟨path, false⟩
    if isDoubleDot segment then whole.addAll true rest
    else if isSingleDot segment then
      (if rest.isEmpty then whole.opened else whole).addAll true rest
    else
      let longer := path.getLastD "" ++ encodeSegment segment
      Path.addAll true ⟨path.dropLast ++ [longer], false⟩ rest

/-- The path of a text beside a file: the text takes the place of the last segment. But a drive
stays. One at the front goes on with a slash, another without. -/
def besidePath (path : List String) (cs : List Char) : Path :=
  match path with
  | [drive] => if isWrittenDrive drive then extendFile [drive] cs else extendFile [] cs
  | path =>
    if path.getLast?.any isWrittenDrive then addBehind path (cs.splitOnP (isSlash true))
    else extendFile path.dropLast cs

end SensorCatalog.Url
