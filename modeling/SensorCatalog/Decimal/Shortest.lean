/-!
# Shortest decimals

The decimal text of a double: of all decimals that read back as the number, those with the fewest
digits are considered, and of these the one nearest to the number is written, the even one of two
that are equally near. A decimal whose leading digit stands for `10 ^ e` with `-5 ≤ e < 16` is
written in positions, with at least one digit after the point; any other is written with an
exponent.

The numbers that read back as a given double form an interval around it, bounded by the midpoints
to its two neighbours. The decimals with `n` digits around the double form a grid, and if a point
of the grid lies in the interval, so does one of the two points next to the double. So it is enough
to test these two on the grids of one digit, two digits and so on, in exact arithmetic.

## Main definitions

* `Decimal.Binary`: a finite double as a multiple of a power of two.
* `Decimal.Digits`: a decimal as its digits and the power of ten of the first one.
* `Decimal.shortest`: the shortest decimal that reads back.
* `Decimal.floatText`: the text of a double.
-/

namespace SensorCatalog.Decimal

/-- The magnitude of a finite double, `mantissa * 2 ^ exponent`. -/
structure Binary where
  /-- The mantissa, with the leading bit that is not stored. -/
  mantissa : Nat
  /-- The power of two of the mantissa's last bit. -/
  exponent : Int
  /-- The double below is half as far as the one above. -/
  narrowBelow : Bool

/-- The magnitude of a finite double. -/
def Binary.ofFloat (x : Float) : Binary :=
  let bits : Nat := x.toBits.toNat % Nat.pow 2 63
  let stored := bits % Nat.pow 2 52
  let power : Nat := bits / Nat.pow 2 52
  if power = 0 then ⟨stored, -1074, false⟩
  else ⟨stored + Nat.pow 2 52, (power : Int) - 1075, stored = 0 && 1 < power⟩

/-- A positive decimal: its digits as one number, and the power of ten of the first digit. -/
structure Digits where
  /-- The digits read as one number. -/
  number : Nat
  /-- The power of ten that the first digit stands for. -/
  lead : Int

/-- The number of digits of a number, none for zero. -/
def digitCount (n : Nat) : Nat :=
  if n = 0 then 0 else (Nat.toDigits 10 n).length

/-- The power of ten of the first digit of a positive fraction. -/
def leadingPower (num den : Nat) : Int :=
  if den ≤ num then (digitCount (num / den) : Int) - 1
  else -(digitCount ((den - 1) / num) : Int)

/-- The point nearest to a double on its grid of decimals with `count` digits, if it reads back.
The interval of the numbers that read back runs from `4 * mantissa - below` to `4 * mantissa + 2`
quarters of the last bit, its ends included for an even mantissa. -/
def onGrid (b : Binary) (count : Nat) : Option Digits :=
  let quarter := b.exponent - 2
  let below := if b.narrowBelow then 1 else 2
  let up := Nat.pow 2 quarter.toNat
  let down := Nat.pow 2 (-quarter).toNat
  let lead := leadingPower (4 * b.mantissa * up) down
  let unit := lead - count + 1
  -- Both sides are scaled so that a grid point `n` is compared as `n * scale`.
  let stretch := up * Nat.pow 10 (-unit).toNat
  let scale := down * Nat.pow 10 unit.toNat
  let value := 4 * b.mantissa * stretch
  let low := (4 * b.mantissa - below) * stretch
  let high := (4 * b.mantissa + 2) * stretch
  let closed := b.mantissa % 2 = 0
  let inside := fun (n : Nat) =>
    if closed then low ≤ n * scale ∧ n * scale ≤ high else low < n * scale ∧ n * scale < high
  let floor := value / scale
  let ceiling := floor + 1
  let point := fun (n : Nat) =>
    some (Digits.mk n (if count < digitCount n then lead + 1 else lead))
  if inside floor ∧ inside ceiling then
    let toFloor := value - floor * scale
    let toCeiling := ceiling * scale - value
    if toFloor < toCeiling ∨ (toFloor = toCeiling ∧ floor % 2 = 0) then point floor
    else point ceiling
  else if inside floor then point floor
  else if inside ceiling then point ceiling
  else none

/-- The shortest decimal that reads back as a positive double; seventeen digits always do. -/
def shortest (b : Binary) : Digits :=
  ((List.range 17).findSome? fun n => onGrid b (n + 1)).getD ⟨0, 0⟩

/-- A number's digits without the zeros at their end. -/
def significantDigits (n : Nat) : List Char :=
  match ((Nat.toDigits 10 n).reverse.dropWhile (· == '0')).reverse with
  | [] => ['0']
  | ds => ds

/-- The text of a positive decimal. -/
def Digits.text (d : Digits) : List Char :=
  let ds := significantDigits d.number
  if 0 ≤ d.lead ∧ d.lead < 16 then
    let places := d.lead.toNat + 1
    let whole := ds.take places
    let fraction := ds.drop places
    whole ++ List.replicate (places - whole.length) '0' ++ '.' ::
      (if fraction.isEmpty then ['0'] else fraction)
  else if -5 ≤ d.lead ∧ d.lead < 0 then
    '0' :: '.' :: List.replicate (d.lead.natAbs - 1) '0' ++ ds
  else
    let fraction := ds.drop 1
    let power := Nat.toDigits 10 d.lead.natAbs
    ds.take 1 ++ (if fraction.isEmpty then [] else '.' :: fraction) ++
      'e' :: (if d.lead < 0 then '-' else '+') :: power

/-- The text of a finite double. -/
def floatText (x : Float) : String :=
  let b := Binary.ofFloat x
  let magnitude := if b.mantissa = 0 then ['0', '.', '0'] else (shortest b).text
  String.ofList (if Nat.pow 2 63 ≤ x.toBits.toNat then '-' :: magnitude else magnitude)

end SensorCatalog.Decimal
