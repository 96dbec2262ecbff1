/-!
# Hexadecimal ids

Sensor types and scales are numbered by one byte, written in hexadecimal: an optional `0x` or `0X`,
an optional plus sign, and one or more digits in either case whose value is at most 255. Leading
zeros do not count.

## Main definitions

* `HexId.digitValue?`, `HexId.value?`: the value of a digit and of a numeral.
* `HexId.parse?`: the byte that a text names.
-/

namespace SensorCatalog.HexId

/-- The value of a hexadecimal digit. -/
def digitValue? (c : Char) : Option Nat :=
  if '0' ≤ c ∧ c ≤ '9' then some (c.toNat - '0'.toNat)
  else if 'a' ≤ c ∧ c ≤ 'f' then some (c.toNat - 'a'.toNat + 10)
  else if 'A' ≤ c ∧ c ≤ 'F' then some (c.toNat - 'A'.toNat + 10)
  else none

/-- The value of a list of hexadecimal digits, read after a numeral with value `acc`. -/
def valueFrom? (acc : Nat) : List Char → Option Nat
  | [] => some acc
  | c :: rest => (digitValue? c).bind fun d => valueFrom? (acc * 16 + d) rest

/-- The value of a non-empty list of hexadecimal digits. -/
def value? : List Char → Option Nat
  | [] => none
  | digits => valueFrom? 0 digits

/-- A text without the mark of a hexadecimal numeral, taken off once. -/
def dropMark : List Char → List Char
  | '0' :: 'x' :: rest => rest
  | '0' :: 'X' :: rest => rest
  | cs => cs

/-- A text without one plus sign at its start. -/
def dropPlus : List Char → List Char
  | '+' :: rest => rest
  | cs => cs

/-- The byte that a text names. -/
def parse? (text : String) : Option UInt8 :=
  match value? (dropPlus (dropMark text.toList)) with
  | some n => if n < 256 then some (UInt8.ofNat n) else none
  | none => none

end SensorCatalog.HexId
