import SensorCatalog.Text.Utf8
import SensorCatalog.Url.DomainName
import SensorCatalog.Url.Fault
import SensorCatalog.Url.Percent

/-!
# Hosts of URLs

A host is a name or an address. In the schemes that the web knows, a name whose last label is a
number must be an IPv4 address, written as one to four numbers, each decimal, octal or hexadecimal;
the last number fills the bytes that are left. An IPv6 address stands in square brackets: eight
groups of up to four hexadecimal digits, of which a run of zeros may be left out, and of which the
last two may be written as an IPv4 address. Names are written in ASCII.

## Main definitions

* `Url.Host`, `Url.Host.text`: hosts, and how they are written.
* `Url.Ipv4.parse`, `Url.Ipv6.parse`: addresses.
* `Url.Host.parse`: the host of a text.
-/

namespace SensorCatalog.Url

/-! ### IPv4 addresses -/

namespace Ipv4

/-- The number that digits of a base stand for. -/
def digitsValue? (base : Nat) (digits : List Char) : Option Nat :=
  digits.foldlM (fun n c => (HexId.digitValue? c).bind fun d =>
    if d < base then some (n * base + d) else none) 0

/-- A number of an address, whose start shows its base. -/
def number? : List Char → Option Nat
  | [] => none
  | '0' :: 'x' :: digits => digitsValue? 16 digits
  | '0' :: 'X' :: digits => digitsValue? 16 digits
  | '0' :: digits => digitsValue? 8 digits
  | digits => digitsValue? 10 digits

/-- The parts of a name between its dots, less an empty one at its end. -/
def labels (name : List Char) : List (List Char) :=
  let parts := name.splitOn '.'
  if 1 < parts.length ∧ parts.getLast? = some [] then parts.dropLast else parts

/-- The last label of a name is a number, so the name must be an address. -/
def isDue (name : List Char) : Bool :=
  (labels name).getLast?.any fun last =>
    (!last.isEmpty && last.all Char.isDigit) || (number? last).isSome

/-- The address of numbers of which the last fills the bytes that the others leave, out of `room`
bytes. -/
def ofNumbers? : List Nat → Nat → Option Nat
  | [], _ => none
  | _, 0 => none
  | [last], room + 1 => if last < Nat.pow 256 (room + 1) then some last else none
  | n :: rest, room + 1 =>
    if n < 256 then (ofNumbers? rest room).map fun low => n * Nat.pow 256 room + low else none

/-- The address that a name is written as. -/
def parse (name : List Char) : Except Fault Nat :=
  match (labels name).mapM number? with
  | none => .error .invalidIpv4
  | some numbers =>
    match ofNumbers? numbers 4 with
    | some address => .ok address
    | none => .error .invalidIpv4

/-- An address in four decimal numbers. -/
def text (address : Nat) : List Char :=
  let byte := fun n => Nat.toDigits 10 (address / Nat.pow 256 n % 256)
  ['.'].intercalate [byte 3, byte 2, byte 1, byte 0]

end Ipv4

/-! ### IPv6 addresses -/

namespace Ipv6

/-- The value of a group of one to four hexadecimal digits. -/
def group? (digits : List Char) : Option Nat :=
  if digits.length ≤ 4 then HexId.value? digits else none

/-- A decimal byte without needless zeros. -/
def byte? (digits : List Char) : Option Nat :=
  match digits with
  | [] => none
  | ['0'] => some 0
  | '0' :: _ => none
  | digits =>
    (Ipv4.digitsValue? 10 digits).bind fun n => if n < 256 then some n else none

/-- The two groups of an address of four decimal bytes. -/
def embedded? (cs : List Char) : Option (List Nat) :=
  match (cs.splitOn '.').mapM byte? with
  | some [a, b, c, d] => some [a * 256 + b, c * 256 + d]
  | _ => none

/-- The groups written between colons; at the end of an address the last may be in decimal bytes. -/
def groups? (isLast : Bool) : List (List Char) → Option (List Nat)
  | [] => some []
  | [last] => if isLast && '.' ∈ last then embedded? last else (group? last).map fun g => [g]
  | g :: rest => do return (← group? g) :: (← groups? isLast rest)

/-- The groups of a side of an address, which may be empty. -/
def side? (isLast : Bool) (cs : List Char) : Option (List Nat) :=
  if cs.isEmpty then some [] else groups? isLast (cs.splitOn ':')

/-- The text before and after the first double colon. -/
def cut? : List Char → Option (List Char × List Char)
  | ':' :: ':' :: rest => some ([], rest)
  | c :: rest => (cut? rest).map fun (before, after) => (c :: before, after)
  | [] => none

/-- The eight groups of an address. -/
def groupsOf? (cs : List Char) : Option (List Nat) :=
  match cut? cs with
  | none => (side? true cs).bind fun gs => if gs.length = 8 then some gs else none
  | some (before, after) => do
    let front ← side? false before
    let back ← side? true after
    if front.length + back.length < 8 then
      return front ++ List.replicate (8 - front.length - back.length) 0 ++ back
    else none

/-- The address in a text. -/
def parse (cs : List Char) : Except Fault (List Nat) :=
  match groupsOf? cs with
  | some gs => .ok gs
  | none => .error .invalidIpv6

/-- The first of the longest runs of two or more zeros: where it starts, and its length. -/
def longestZeros (gs : List Nat) : Option (Nat × Nat) :=
  [8, 7, 6, 5, 4, 3, 2].findSome? fun n =>
    ((List.range (9 - n)).find? fun i => ((gs.drop i).take n).all (· == 0)).map fun i => (i, n)

/-- An address with its longest run of zeros left out. -/
def text (gs : List Nat) : List Char :=
  let written := fun (gs : List Nat) => [':'].intercalate (gs.map (Nat.toDigits 16))
  match longestZeros gs with
  | none => written gs
  | some (i, n) => written (gs.take i) ++ ':' :: ':' :: written (gs.drop (i + n))

end Ipv6

/-! ### Hosts -/

/-- The host of a URL. -/
inductive Host where
  /-- A name; the empty name stands for no host. -/
  | name (text : String)
  /-- An address as one number. -/
  | ipv4 (address : Nat)
  /-- An address as eight groups. -/
  | ipv6 (groups : List Nat)
  deriving DecidableEq

namespace Host

/-- A host as it is written. -/
def text : Host → List Char
  | .name s => s.toList
  | .ipv4 address => Ipv4.text address
  | .ipv6 gs => '[' :: Ipv6.text gs ++ [']']

/-- The characters that no name has in the schemes that the web knows. -/
def isForbidden (c : Char) : Bool :=
  c.toNat ≤ 0x20 || c.toNat == 0x7F ||
    c ∈ ['#', '%', '/', ':', '<', '>', '?', '@', '[', '\\', ']', '^', '|']

/-- The characters that no name has in other schemes. -/
def isForbiddenElsewhere (c : Char) : Bool :=
  c ∈ ['\x00', '\t', '\n', '\r', ' ', '#', '/', ':', '<', '>', '?', '@', '[', '\\', ']', '^', '|']

/-- The address in square brackets. -/
def ofBrackets (cs : List Char) : Except Fault Host :=
  if cs.getLast? = some ']' then Host.ipv6 <$> Ipv6.parse (cs.drop 1).dropLast
  else .error .invalidIpv6

/-- The host of a name in a scheme that the web knows. -/
def ofName (cs : List Char) : Except Fault Host :=
  let written := Utf8.decodeLossy Utf8.replacement ⟨(Percent.decode cs).toArray⟩
  match DomainName.toAscii? written.toList with
  | none => .error .invalidDomainName
  | some ascii =>
    if ascii.any isForbidden then .error .invalidDomainName
    else if ascii.isEmpty then .error .emptyHost
    else if Ipv4.isDue ascii then Host.ipv4 <$> Ipv4.parse ascii
    else .ok (.name (String.ofList ascii))

/-- The host of a name in another scheme. -/
def ofOtherName (cs : List Char) : Except Fault Host :=
  if cs.any isForbiddenElsewhere then .error .invalidDomainCharacter
  else .ok (.name (String.ofList (Percent.encode Percent.isControl cs)))

/-- The host of a text. -/
def parse (isSpecial : Bool) (cs : List Char) : Except Fault Host :=
  if cs.head? = some '[' then ofBrackets cs
  else if isSpecial then ofName cs
  else ofOtherName cs

end Host

end SensorCatalog.Url
