import SensorCatalog.Text.Blank
import SensorCatalog.Url.Basic
import SensorCatalog.Url.Path

/-!
# Reading URLs and references

The text of a URL is read from left to right: scheme, authority, path, query, fragment. A text that
leaves out parts at its front is a reference and takes them from a base. A path that does not begin
with a slash takes the place of the last segment of the base's path.

Files have rules of their own: there is a host only after two slashes, and a drive in a path makes
it needless.

In the schemes that the web knows a backslash counts as a slash. Blanks and controls around the text
and line breaks and tabs within it do not count.

## Main definitions

* `Url.authority`: the authority at the front of a text.
* `Url.file`: the URL of a file.
* `Url.relative`: the URL of a reference without a scheme.
* `Url.parse`: the URL of a text with or without a base.
* `Url.resolve`: the URL that a reference stands for.
-/

namespace SensorCatalog.Url

/-! ### Parts of the text -/

/-- A text without breaks, except that one is kept where there are some right behind a colon: the
path of a file may need it. -/
def keepColonBreaks (isBehindColon : Bool) : List Char → List Char
  | [] => []
  | c :: rest =>
    if isBreak c then
      if isBehindColon then c :: keepColonBreaks false rest else keepColonBreaks false rest
    else c :: keepColonBreaks (c == ':') rest

/-- The text without what does not count in it. -/
def clean (cs : List Char) : List Char :=
  let isOuter := fun (c : Char) => c.toNat ≤ 0x20
  keepColonBreaks false (Text.dropTrailing isOuter (cs.dropWhile isOuter))

/-- The scheme at the front of a text and what follows its colon. -/
def splitScheme (cs : List Char) : Option (String × List Char) :=
  let isPart := fun (c : Char) => c.isAlphanum || c == '+' || c == '-' || c == '.'
  if cs.head?.any Char.isAlpha then
    match cs.dropWhile isPart with
    | ':' :: rest => some (String.ofList ((cs.takeWhile isPart).map Char.toLower), rest)
    | _ => none
  else none

/-- The query and the fragment at the end of a text. -/
def queryAndFragment (special : Bool) (cs : List Char) : Option String × Option String :=
  let fragment : List Char → Option String
    | '#' :: rest => some (String.ofList (Percent.encode Percent.inFragment rest))
    | _ => none
  match dropBreaks cs with
  | '?' :: rest =>
    (some (String.ofList (Percent.encode (Percent.inQuery special) (rest.takeWhile (· != '#')))),
      fragment (rest.dropWhile (· != '#')))
  | cs => (none, fragment cs)

/-- The URL of a scheme and a place with the query and the fragment at the end of its text. -/
def finish (scheme : String) (place : Place) (rest : List Char) : Url :=
  let (query, fragment) := queryAndFragment (isSpecial scheme) rest
  ⟨scheme, place, query, fragment⟩

/-! ### Authorities -/

/-- The port at the front of a text and what follows it. -/
def port (scheme : String) (cs : List Char) : Except Fault (Option Nat × List Char) :=
  let digits := cs.takeWhile Char.isDigit
  let rest := cs.dropWhile Char.isDigit
  let n := digits.foldl (fun n c => n * 10 + (c.toNat - '0'.toNat)) 0
  if 65535 < n then .error .invalidPort
  else if rest.head?.any (fun c => !isSlash true c && !isMark c) then .error .invalidPort
  else .ok (if digits.isEmpty ∨ defaultPort? scheme = some n then none else some n, rest)

/-- The length of the host at the front of a text. Within square brackets a colon does not end
it. -/
def hostLength (special inBrackets : Bool) : List Char → Nat
  | [] => 0
  | c :: rest =>
    if (c == ':' && !inBrackets) || isSlash special c || isMark c then 0
    else
      let inBrackets := if c = '[' then true else if c = ']' then false else inBrackets
      hostLength special inBrackets rest + 1

/-- The host and the port at the front of a text and what follows them. -/
def hostAndPort (scheme : String) (cs : List Char) :
    Except Fault (Host × Option Nat × List Char) := do
  let special := isSpecial scheme
  let length := hostLength special false cs
  let written := cs.take length
  let rest := cs.drop length
  if written.isEmpty && (special || rest.head? == some ':') then .error .emptyHost
  else
    let host ← Host.parse special written
    match rest with
    | ':' :: rest =>
      let (port, rest) ← port scheme rest
      return (host, port, rest)
    | rest => return (host, none, rest)

/-- The part of a text before the last sign that ends credentials, if there is one, and the part
after it. -/
def splitCredentials (cs : List Char) : Option (List Char) × List Char :=
  if '@' ∈ cs then
    let after := (cs.reverse.takeWhile (· != '@')).reverse
    (some (cs.take (cs.length - after.length - 1)), after)
  else (none, cs)

/-- The authority at the front of a text and what follows it. -/
def authority (scheme : String) (cs : List Char) : Except Fault (Authority × List Char) := do
  let ends := fun c => isSlash (isSpecial scheme) c || isMark c
  let rest := cs.dropWhile (fun c => !ends c)
  let (credentials, hostText) := splitCredentials (cs.takeWhile (fun c => !ends c))
  match credentials with
  | none =>
    let (host, port, rest) ← hostAndPort scheme (hostText ++ rest)
    return (⟨"", none, host, port⟩, rest)
  | some written =>
    if written.isEmpty && hostText.isEmpty && !rest.isEmpty then .error .emptyHost
    else
      let encode := fun cs => String.ofList (Percent.encode Percent.inUserinfo cs)
      let username := encode (written.takeWhile (· != ':'))
      let password := (written.dropWhile (· != ':')).drop 1
      let password := if password.isEmpty then none else some (encode password)
      let (host, port, rest) ← hostAndPort scheme (hostText ++ rest)
      if host = .name "" ∧ (username ≠ "" ∨ password.isSome) then .error .emptyHost
      else return (⟨username, password, host, port⟩, rest)

/-- The URL of a scheme and the text after the two slashes that announce an authority. -/
def afterSlashes (scheme : String) (cs : List Char) : Except Fault Url := do
  let (authority, rest) ← authority scheme cs
  let (path, rest) := splitPath rest
  return finish scheme (.hierarchy (some authority) (rootPath (isSpecial scheme) path)) rest

/-- The URL of a text without a path beside a base: the path of the base, and its query unless the
text has one. -/
def onPath (base : Url) (cs : List Char) : Url :=
  let (query, fragment) := queryAndFragment (isSpecial base.scheme) cs
  { base with query := if cs.head? = some '?' then query else base.query, fragment }

/-! ### Files -/

/-- The URL of a file with a path. -/
def ofFile (host : Host) (path : Path) (rest : List Char) : Url :=
  finish "file" (.hierarchy (some (.ofHost host)) (filePath path)) rest

/-- The host and the path of a URL. -/
def hostAndPath (u : Url) : Host × List String :=
  match u.place with
  | .hierarchy (some authority) path => (authority.host, path)
  | .hierarchy none path => (.name "", path)
  | .rootless _ => (.name "", [])

/-- The URL of a file with the text after the two slashes that announce a host. A host that is the
machine itself is left out, and so is every host of a drive. Without a host, the slash behind it
leaves an empty segment at the front, so that what follows is not the front of the path. -/
def fileAfterSlashes (cs : List Char) : Except Fault Url := do
  let (written, rest) := splitPath cs
  let before := written.takeWhile fun c => !isSlash true c
  let below := written.drop before.length
  let hostText := dropBreaks before
  if isDrive hostText then return ofFile (.name "") (extendFile [] written) rest
  else if hostText.isEmpty then return ofFile (.name "") (extendFile [] below) rest
  else
    let host ← Host.parse true hostText
    if host = .name "localhost" then return ofFile (.name "") (extendFile [] below) rest
    else
      let path := extendFile [] (below.drop 1)
      return ofFile (if path.hasDrive then .name "" else host) path rest

/-- The URL of a file with the text after the one slash at its front. Unless the text begins with a
drive, it keeps the drive of the base or else its host. -/
def fileFromRoot (base : Option Url) (cs : List Char) : Url :=
  let (written, rest) := splitPath cs
  match base.map hostAndPath with
  | none => ofFile (.name "") (extendFile [] written) rest
  | some (host, path) =>
    if beginsWithDrive cs then ofFile (.name "") (extendFile [] written) rest
    else
      match path.head?.filter isWrittenDrive with
      | some drive => ofFile (.name "") (extendFile [drive] written) rest
      | none => ofFile host (extendFile [] written) rest

/-- The URL of a file with a text without a slash at its front. -/
def fileBeside (base : Option Url) (cs : List Char) : Url :=
  let (written, rest) := splitPath cs
  match base with
  | none => ofFile (.name "") (extendFile [] written) rest
  | some base =>
    if written.isEmpty then onPath base cs
    else if beginsWithDrive cs then ofFile (.name "") (extendFile [] written) rest
    else
      let (host, path) := hostAndPath base
      ofFile host (besidePath path written) rest

/-- The URL of a file with the text after its scheme, relative to a base that is a file. -/
def file (base : Option Url) (cs : List Char) : Except Fault Url :=
  match (cs.takeWhile (isSlash true)).length with
  | 0 => .ok (fileBeside base cs)
  | 1 => .ok (fileFromRoot base (cs.drop 1))
  | _ => fileAfterSlashes (cs.drop 2)

/-! ### References -/

/-- The URL of a text without a scheme, relative to a base with a hierarchy. At the front of the
text a backslash counts as a slash in every scheme. -/
def relative (base : Url) (origin : Option Authority) (path : List String) (cs : List Char) :
    Except Fault Url :=
  let special := isSpecial base.scheme
  let (written, rest) := splitPath cs
  match (cs.takeWhile (isSlash true)).length with
  | 0 =>
    if written.isEmpty then .ok (onPath base cs)
    else .ok (finish base.scheme (.hierarchy origin (extend special path.dropLast written)) rest)
  | 1 => .ok (finish base.scheme (.hierarchy origin (extend special [] (written.drop 1))) rest)
  | _ =>
    -- Two plain slashes are taken off alone, others with all that follow.
    if cs.take 2 = ['/', '/'] then afterSlashes base.scheme (cs.drop 2)
    else afterSlashes base.scheme (cs.dropWhile (isSlash true))

/-- The URL of a text without a scheme, relative to a base. -/
def withoutScheme (base : Url) (cs : List Char) : Except Fault Url :=
  if cs.head? = some '#' then .ok (onPath base cs)
  else
    match base.place with
    | .rootless _ => .error .rootlessBase
    | .hierarchy origin path =>
      if base.scheme = "file" then file (some base) cs
      else relative base origin path (dropBreaks cs)

/-- The URL of a scheme and the text after its colon. -/
def withScheme (base : Option Url) (scheme : String) (cs : List Char) : Except Fault Url :=
  let kin := base.filter fun b => b.scheme = scheme
  if scheme = "file" then file kin (cs.dropWhile isBreak)
  else if isSpecial scheme then
    let cs := dropBreaks cs
    match kin with
    | some b =>
      if (cs.takeWhile (isSlash true)).length < 2 then withoutScheme b cs
      else afterSlashes scheme (cs.dropWhile (isSlash true))
    | none => afterSlashes scheme (cs.dropWhile (isSlash true))
  else
    match dropBreaks cs with
    | '/' :: '/' :: rest => afterSlashes scheme rest
    | '/' :: rest =>
      let (path, rest) := splitPath rest
      .ok (finish scheme (.hierarchy none (extend false [] path)) rest)
    | cs =>
      let (path, rest) := splitPath cs
      .ok (finish scheme (.rootless (String.ofList (Percent.encode Percent.isControl path))) rest)

/-- The URL of a text, relative to a base if there is one. -/
def parseWith (base : Option Url) (s : String) : Except Fault Url :=
  let cs := clean s.toList
  match splitScheme cs with
  | some (scheme, rest) => withScheme base scheme rest
  | none =>
    match base with
    | none => .error .relativeWithoutBase
    | some b => withoutScheme b cs

/-- The URL of a text. -/
def parse (s : String) : Except Fault Url :=
  parseWith none s

/-- The URL that a reference stands for, relative to a base. -/
def resolve (base : Url) (reference : String) : Except Fault Url :=
  parseWith (some base) reference

end SensorCatalog.Url
