import SensorCatalog.Label.Words

/-!
# Naming sensor types

The parenthesized part of a sensor type's label usually repeats its unit and is left out of its
token. Some sensor types are told apart by that part alone; they are listed by id and keep it.

## Main definitions

* `NameRules`: the ids of the sensor types whose labels count in full.
* `NameRules.token`: the token of a sensor type.
-/

namespace SensorCatalog

/-- Which sensor types are named by their whole label. -/
structure NameRules where
  /-- The ids of the sensor types whose parenthesized parts count. -/
  keepingIds : List UInt8
  deriving DecidableEq

namespace NameRules

/-- How the parenthesized parts of the label of a sensor type are treated. -/
def parentheses (rules : NameRules) (id : UInt8) : Label.Parentheses :=
  if id ∈ rules.keepingIds then .kept else .dropped

/-- The token of the sensor type with an id and a label. -/
def token (rules : NameRules) (id : UInt8) (label : String) : String :=
  Label.token (rules.parentheses id) label

end NameRules

end SensorCatalog
