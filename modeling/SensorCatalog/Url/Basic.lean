import SensorCatalog.Url.Host

/-!
# URLs

A URL has a scheme, then a place, a query and a fragment. Most places are hierarchies: segments of a
path below an authority. A place without a root is a text that nothing can be relative to.

## Main definitions

* `Url`, `Url.Authority`, `Url.Place`: URLs and their parts.
* `Url.isSpecial`, `Url.defaultPort?`: what is known about schemes.
* `Url.text`, `Url.target`: how a URL is written, and what is asked of its host.
-/

namespace SensorCatalog

namespace Url

/-- Who answers for a URL. -/
structure Authority where
  /-- The user name, empty if there is none. -/
  username : String
  /-- The password, if there is one. -/
  password : Option String
  /-- The host. -/
  host : Host
  /-- The port, unless it is the one that the scheme implies. -/
  port : Option Nat
  deriving DecidableEq

/-- The authority of a host alone. -/
def Authority.ofHost (host : Host) : Authority :=
  ⟨"", none, host, none⟩

/-- What a URL points to within its scheme. -/
inductive Place where
  /-- A path from a root. -/
  | hierarchy (authority : Option Authority) (segments : List String)
  /-- A text without a root. -/
  | rootless (text : String)
  deriving DecidableEq

end Url

/-- A URL. -/
structure Url where
  /-- The scheme in lower case. -/
  scheme : String
  /-- What it points to. -/
  place : Url.Place
  /-- The query, in its written form. -/
  query : Option String
  /-- The fragment, in its written form. -/
  fragment : Option String
  deriving DecidableEq

namespace Url

/-! ### Schemes -/

/-- The schemes that the web knows; they all have a host and a path. -/
def isSpecial (scheme : String) : Bool :=
  scheme ∈ ["http", "https", "ws", "wss", "ftp", "file"]

/-- The port that a scheme implies. -/
def defaultPort? : String → Option Nat
  | "http" => some 80
  | "ws" => some 80
  | "https" => some 443
  | "wss" => some 443
  | "ftp" => some 21
  | _ => none

/-! ### The written form -/

/-- The credentials of an authority with the sign that ends them. -/
def Authority.credentials (a : Authority) : List Char :=
  match a.password with
  | some password => a.username.toList ++ ':' :: password.toList ++ ['@']
  | none => if a.username.isEmpty then [] else a.username.toList ++ ['@']

/-- An authority as it is written. -/
def Authority.text (a : Authority) : List Char :=
  a.credentials ++ a.host.text ++
    match a.port with
    | some port => ':' :: Nat.toDigits 10 port
    | none => []

/-- The segments of a path as they are written. -/
def pathText (segments : List String) : List Char :=
  segments.flatMap fun s => '/' :: s.toList

/-- A place as it is written. Without an authority, a path that begins with an empty segment is
marked so that it does not look like one. -/
def Place.text : Place → List Char
  | .hierarchy (some authority) segments => '/' :: '/' :: authority.text ++ pathText segments
  | .hierarchy none ("" :: s :: rest) => '/' :: '.' :: pathText ("" :: s :: rest)
  | .hierarchy none segments => pathText segments
  | .rootless s => s.toList

/-- A part of a URL behind its mark, if the URL has it. -/
def marked (mark : Char) : Option String → List Char
  | some s => mark :: s.toList
  | none => []

/-- A URL as it is written. -/
def text (u : Url) : String :=
  String.ofList (u.scheme.toList ++ ':' :: u.place.text ++ marked '?' u.query ++
    marked '#' u.fragment)

/-- What is asked of the host of a URL: its path and its query. -/
def target (u : Url) : String :=
  let path :=
    match u.place with
    | .hierarchy _ segments => pathText segments
    | .rootless s => s.toList
  String.ofList (path ++ marked '?' u.query)

end Url

end SensorCatalog
