import SensorCatalog.HexId

/-!
# Percent encoding

A byte can be written as a percent sign and two hexadecimal digits. Each part of a URL writes the
bytes of some characters so; characters outside ASCII and controls always are.

## Main definitions

* `Url.Percent.encode`: a text with the characters of a class written byte by byte.
* `Url.Percent.decode`: a text with such bytes put back.
* `Url.Percent.inFragment`, `Url.Percent.inQuery`, `Url.Percent.inPath`, `Url.Percent.inUserinfo`:
  the classes of the parts of a URL.
-/

namespace SensorCatalog.Url.Percent

/-- A hexadecimal digit in upper case. -/
def digit (n : Nat) : Char :=
  (Nat.digitChar n).toUpper

/-- A byte in its written form. -/
def encodeByte (b : UInt8) : List Char :=
  ['%', digit (b.toNat / 16), digit (b.toNat % 16)]

/-- A text whose characters of a class are written byte by byte. -/
def encode (isEncoded : Char → Bool) (cs : List Char) : List Char :=
  cs.flatMap fun c =>
    if isEncoded c then (String.utf8EncodeChar c).flatMap encodeByte else [c]

/-- The bytes of a text, those in written form put back. -/
def decode : List Char → List UInt8
  | '%' :: a :: b :: rest =>
    match HexId.digitValue? a, HexId.digitValue? b with
    | some m, some n => UInt8.ofNat (m * 16 + n) :: decode rest
    | _, _ => String.utf8EncodeChar '%' ++ decode (a :: b :: rest)
  | c :: rest => String.utf8EncodeChar c ++ decode rest
  | [] => []

/-! ### Classes of characters -/

/-- Controls and characters outside ASCII, which are always encoded. -/
def isControl (c : Char) : Bool :=
  c.toNat < 0x20 || 0x7F ≤ c.toNat

/-- The characters encoded in a fragment. -/
def inFragment (c : Char) : Bool :=
  isControl c || c ∈ [' ', '"', '<', '>', '\x60']

/-- The characters encoded in a query. -/
def inQuery (isSpecial : Bool) (c : Char) : Bool :=
  isControl c || c ∈ [' ', '"', '#', '<', '>'] || (isSpecial && c == '\'')

/-- The characters encoded in a path. -/
def inPath (c : Char) : Bool :=
  inFragment c || c ∈ ['#', '?', '\x7b', '\x7d']

/-- The characters encoded in a user name or a password. -/
def inUserinfo (c : Char) : Bool :=
  inPath c || c ∈ ['/', ':', ';', '=', '@', '[', '\\', ']', '^', '|']

end SensorCatalog.Url.Percent
