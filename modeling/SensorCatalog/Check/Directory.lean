import SensorCatalog.Text.Blank

/-!
# Directories of files

The tools that look at a file are run in its directory. A path is taken as it is written: repeated
slashes and inner dots stay, but what stands behind the last name does not count. A program that is
run in a directory finds itself at the place alone, whatever way the path took.

## Main definitions

* `Check.directoryOf`: the directory of a file.
* `Check.placeOf`: the place that a path to a directory leads to.
-/

namespace SensorCatalog.Check

/-- The parts of a path that name nothing. -/
def isVoid (part : List Char) : Bool :=
  part == [] || part == ['.']

/-- The directory of the file at a path; the current directory if the path has only one part. -/
def directoryOf (path : String) : String :=
  match path.toList.splitOn '/' with
  | [] => "."
  | first :: rest =>
    match Text.dropTrailing isVoid rest with
    | [] => "."
    | named =>
      let above := Text.dropTrailing isVoid named.dropLast
      if first.isEmpty && above.isEmpty then "/"
      else String.ofList (['/'].intercalate (first :: above))

/-- The way to a place with one more part of a path. A step up from the root leads nowhere. -/
def goOn (way : List (List Char)) (part : List Char) : List (List Char) :=
  if isVoid part then way
  else if part = ['.', '.'] then
    match way.getLast? with
    | none => way ++ [part]
    | some last =>
      if last = part then way ++ [part] else if last.isEmpty then way else way.dropLast
  else way ++ [part]

/-- The place that a path to a directory leads to, without parts that name nothing and without
detours. -/
def placeOf (path : String) : String :=
  let parts := path.toList.splitOn '/'
  let start : List (List Char) := if path.toList.head? = some '/' then [[]] else []
  match parts.foldl goOn start with
  | [] => "."
  | [[]] => "/"
  | way => String.ofList (['/'].intercalate way)

end SensorCatalog.Check
