import SensorCatalog.Json.Reader

/-!
# Numbers in JSON

A numeral is read as written; its value is found from its digits afterwards. A numeral without a
fraction and an exponent is an integer if it fits a word of 64 bits, signed for negative numbers;
any other is a double, and so is negative zero.

The digits of a double are gathered in an unsigned word as long as they fit. Digits of the whole
part that do not fit count as powers of ten, and digits of the fraction that do not fit are left
out. The word is then multiplied or divided by a power of ten, in steps if the power is large.

## Main definitions

* `Json.Numeral`, `Json.numeral`: a numeral as written.
* `Json.Numeral.value`: what it stands for, unless it is out of range.
* `Json.number`: a number with its sign.
-/

namespace SensorCatalog.Json

/-! ### Numerals -/

/-- The value of a decimal digit. -/
def digitOf (c : Char) : Nat :=
  c.toNat - '0'.toNat

/-- The exponent of a numeral. -/
structure Exponent where
  /-- The exponent has a minus sign. -/
  negative : Bool
  /-- Its digits, of which there is at least one. -/
  digits : List Char

/-- A numeral as written, without its sign. -/
structure Numeral where
  /-- The digits of the whole part, of which there is at least one. -/
  whole : List Char
  /-- The digits of the fraction. -/
  fraction : List Char
  /-- The exponent, if there is one. -/
  exponent : Option Exponent

/-- Reads the digits at the front of a text, however many there are. -/
def digits : Reader (List Char) := fun text =>
  .ok ⟨text.takeWhile Char.isDigit, text.dropWhile Char.isDigit,
    (List.dropWhile_suffix _).length_le⟩

/-- Reads the whole part of a numeral after its first character, which is all of it if it is a
zero. -/
def wholePart (first : Char) : Reader (List Char) := fun text =>
  if first = '0' then
    if text.head?.any Char.isDigit then .error (.within .invalidNumber text 1)
    else .ok (.here ['0'] text)
  else if first.isDigit then (return first :: (← digits) : Reader (List Char)) text
  else .error (.within .invalidNumber (first :: text) 1)

/-- Reads digits of which there must be one at least. The fault of a text that ends before them is
given. -/
def someDigits (atEnd : Cause) : Reader (List Char) := fun text =>
  match text with
  | [] => .error (.before atEnd [])
  | c :: rest =>
    if c.isDigit then digits (c :: rest) else .error (.within .invalidNumber (c :: rest) 1)

/-- Reads the point and the digits of a fraction, if a point comes next. -/
def fractionPart (atEnd : Cause) : Reader (List Char) := fun text =>
  match text with
  | '.' :: rest => (someDigits atEnd).behind '.' rest
  | unread => .ok (.here [] unread)

/-- Reads the sign of an exponent, if there is one. -/
def exponentSign : Reader Bool := fun text =>
  match text with
  | '-' :: rest => .ok (.next true '-' rest)
  | '+' :: rest => .ok (.next false '+' rest)
  | unread => .ok (.here false unread)

/-- Reads an exponent, if the letter of one comes next. -/
def exponentPart (atEnd : Cause) : Reader (Option Exponent) := fun text =>
  match text with
  | [] => .ok (.here none [])
  | c :: rest =>
    if c = 'e' ∨ c = 'E' then
      (do
        let negative ← exponentSign
        return some ⟨negative, ← someDigits atEnd⟩ : Reader (Option Exponent)).behind c rest
    else .ok (.here none (c :: rest))

/-- Reads a numeral without its sign, its first character having been read. The fault of a text
that ends where a digit is due is given. -/
def numeral (atEnd : Cause) (first : Char) : Reader Numeral := do
  let whole ← wholePart first
  let fraction ← fractionPart atEnd
  return ⟨whole, fraction, ← exponentPart atEnd⟩

/-- Reads the rest of a numeral whose first character is a digit or a minus sign. -/
def signedNumeral (atEnd : Cause) (first : Char) : Reader Numeral :=
  if first = '-' then fun text =>
    match text with
    | [] => .error (.before atEnd [])
    | c :: rest => (numeral atEnd c).behind c rest
  else numeral atEnd first

/-! ### Values -/

/-- Takes digits into a number while it fits a bound, and gives the digits that were not taken. -/
def gather (bound : Nat) : Nat → List Char → Nat × List Char
  | n, [] => (n, [])
  | n, c :: rest =>
    let next := n * 10 + digitOf c
    if next ≤ bound then gather bound next rest else (n, c :: rest)

/-- The greatest number that a word of 64 bits holds. -/
def wordBound : Nat := 18446744073709551615

/-- The greatest magnitude of a negative number that a signed word of 64 bits holds. -/
def signedBound : Nat := 9223372036854775808

/-- The greatest exponent that is told from a greater one. -/
def exponentBound : Nat := 2147483647

/-- The double that a power of ten is rounded to. -/
def powerOfTen (n : Nat) : Float :=
  Float.ofScientific 1 false n

/-- A double times a power of ten, unless that is out of range. Powers past `10 ^ 308` are no
doubles, and such a division is done in steps. -/
def scaled (x : Float) (power : Int) : Option Float :=
  if power.natAbs ≤ 308 then
    if 0 ≤ power then
      let y := x * powerOfTen power.toNat
      if y.isInf then none else some y
    else some (x / powerOfTen power.natAbs)
  else if x == 0 then some x
  else if 0 ≤ power then none
  else scaled (x / powerOfTen 308) (power + 308)
termination_by power.natAbs
decreasing_by omega

/-- A magnitude with its sign. -/
def signed (negative : Bool) (x : Float) : Float :=
  if negative then -x else x

/-- The value of a numeral with its sign. A numeral out of range gives the number of its digits
that follow the one at which this shows. -/
def Numeral.value (n : Numeral) (negative : Bool) : Except Nat Number :=
  let whole := gather wordBound 0 n.whole
  if n.fraction.isEmpty ∧ n.exponent.isNone ∧ whole.2.isEmpty then
    if negative then
      if 0 < whole.1 ∧ whole.1 ≤ signedBound then .ok (.integer (-whole.1))
      else .ok (.float (-Float.ofNat whole.1))
    else .ok (.integer whole.1)
  else
    let all := gather wordBound whole.1 n.fraction
    let power : Int := (whole.2.length : Int) - (n.fraction.length - all.2.length : Nat)
    let value := fun (power : Int) =>
      match scaled (Float.ofNat all.1) power with
      | some x => .ok (.float (signed negative x))
      | none => .error 0
    match n.exponent with
    | none => value power
    | some e =>
      match gather exponentBound 0 e.digits with
      | (exponent, []) => value (if e.negative then power - exponent else power + exponent)
      | (_, _ :: left) =>
        if all.1 ≠ 0 ∧ !e.negative then .error left.length
        else .ok (.float (signed negative 0))

/-- Reads a number that begins with a digit or a minus sign, which has been read. -/
def number (first : Char) : Reader Number := fun text =>
  match signedNumeral .valueUnfinished first text with
  | .error e => .error e
  | .ok n =>
    match n.value.value (first == '-') with
    | .ok x => .ok ⟨x, n.rest, n.length_le⟩
    | .error left => .error ⟨.numberOutOfRange, byteCount n.rest + left⟩

end SensorCatalog.Json
