import SensorCatalog.Decimal.Shortest
import SensorCatalog.Text.Quoted

/-!
# Scalars of JSON

The values without parts. A number is an integer if it was written as one and is not too large, and
a double otherwise.

## Main definitions

* `Json.Number`, `Json.Scalar`: numbers, and values without parts.
* `Json.Scalar.describe`: a scalar as messages show it.
-/

namespace SensorCatalog.Json

/-- The value of a numeral. -/
inductive Number where
  /-- An integer that fits a word. -/
  | integer (value : Int)
  /-- A double. -/
  | float (value : Float)

/-- A value without parts. -/
inductive Scalar where
  | null
  | boolean (value : Bool)
  | number (value : Number)
  | text (value : String)

/-- A scalar as messages show it. -/
def Scalar.describe : Scalar → String
  | .null => "null"
  | .boolean true => "boolean `true`"
  | .boolean false => "boolean `false`"
  | .number (.integer value) => "integer `" ++ toString value ++ "`"
  | .number (.float value) => "floating point `" ++ Decimal.floatText value ++ "`"
  | .text value => "string " ++ Quoted.quote value

end SensorCatalog.Json
