import SensorCatalog.Url.Basic

/-!
# URLs that nothing can be asked of

A request goes to a host by one of a few schemes. So the URL needs an authority, and one that is
written in the characters that URLs share: the rules for hosts of unknown schemes allow more.

## Main definitions

* `Url.Objection`, `Url.Objection.message`: why a URL cannot be asked for, and how that is said.
* `Url.authorityObjection?`: what is wrong with the text of an authority.
* `Url.objection?`: what keeps a URL from being asked for.
-/

namespace SensorCatalog.Url

/-- Why a URL cannot be asked for. -/
inductive Objection where
  /-- The URL is too long. -/
  | tooLong
  /-- The name of the scheme is too long. -/
  | longScheme
  /-- The authority has a character that URLs do not share. -/
  | invalidCharacter
  /-- The authority has signs where they have no meaning. -/
  | invalidAuthority
  /-- There is no authority. -/
  | noAuthority
  /-- The scheme is not one for requests. -/
  | unknownScheme (scheme : String)
  deriving DecidableEq

/-- How an objection is said. -/
def Objection.message : Objection → String
  | .tooLong => "http: uri too long"
  | .longScheme => "http: scheme too long"
  | .invalidCharacter => "http: invalid uri character"
  | .invalidAuthority => "http: invalid authority"
  | .noAuthority => "http: invalid format"
  | .unknownScheme scheme => "bad uri: unknown scheme: " ++ scheme

/-! ### Authorities -/

/-- The characters that URLs share. -/
def isShared (c : Char) : Bool :=
  c.isAlphanum || "-._~:/?#[]@!$&'()*+,;=".toList.contains c

/-- What has been seen of the text of an authority. -/
structure AuthoritySigns where
  /-- The colons behind the credentials and the address in brackets. -/
  colons : Nat := 0
  /-- The brackets of an address were opened. -/
  isOpened : Bool := false
  /-- The brackets of an address were closed. -/
  isClosed : Bool := false
  /-- There is a percent sign behind the credentials. -/
  hasPercent : Bool := false
  /-- The last character ends the credentials. -/
  isBehindCredentials : Bool := false

/-- The most colons in a row of groups. -/
def mostColons : Nat := 8

/-- What has been seen after one more character. -/
def AuthoritySigns.next (signs : AuthoritySigns) (c : Char) : Except Objection AuthoritySigns :=
  let signs := { signs with isBehindCredentials := c == '@' }
  if c == ':' then
    if mostColons ≤ signs.colons then .error .invalidAuthority
    else .ok { signs with colons := signs.colons + 1 }
  else if c == '[' then
    if signs.hasPercent || signs.isOpened then .error .invalidAuthority
    else .ok { signs with isOpened := true }
  else if c == ']' then
    if !signs.isOpened || signs.isClosed then .error .invalidAuthority
    else .ok { signs with isClosed := true, colons := 0, hasPercent := false }
  else if c == '@' then .ok { signs with colons := 0, hasPercent := false }
  else if c == '%' then .ok { signs with hasPercent := true }
  else if isShared c then .ok signs
  else .error .invalidCharacter

/-- What is wrong with the text of an authority: behind the credentials there may be one address in
brackets and one colon, no percent sign, and there must be something. -/
def authorityObjection? (cs : List Char) : Option Objection :=
  match cs.foldlM AuthoritySigns.next {} with
  | .error objection => some objection
  | .ok signs =>
    if signs.isOpened != signs.isClosed || 1 < signs.colons || signs.isBehindCredentials ||
        signs.hasPercent then
      some .invalidAuthority
    else none

/-! ### URLs -/

/-- The schemes for requests, to a host or to one that passes them on. -/
def isAskable (scheme : String) : Bool :=
  scheme ∈ ["http", "https", "socks", "socks4", "socks4a", "socks5"]

/-- The most characters of a URL. -/
def mostCharacters : Nat := 65534

/-- The most characters of the name of a scheme. -/
def longestScheme : Nat := 64

/-- What keeps a URL from being asked for. Without an authority, what stands before the path is
looked at as if it were one. -/
def objection? (u : Url) : Option Objection :=
  let text := u.text.toList
  if mostCharacters < text.length then some .tooLong
  else
    match u.place with
    | .hierarchy (some authority) _ =>
      if longestScheme < u.scheme.length then some .longScheme
      else
        (authorityObjection? authority.text).or
          (if authority.text.isEmpty then some .noAuthority
          else if isAskable u.scheme then none
          else some (.unknownScheme u.scheme))
    | _ =>
      (authorityObjection? (text.takeWhile fun c => c != '/' && c != '?' && c != '#')).or
        (some .noAuthority)

end SensorCatalog.Url
