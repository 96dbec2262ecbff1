import SensorCatalog.Label.Words
import SensorCatalog.Table

/-!
# The catalogue

The catalogue holds what is known about sensors under the names that source code can use. Scales
stand in groups; every sensor type names the group of its scales. All tables are in the order of
their keys, so nothing in the catalogue depends on the order of the documents it was made from.

## Main definitions

* `Scale`, `ScaleGroup`, `SensorType`: the entries.
* `Catalog`: the scale groups by name and the sensor types by token.
-/

namespace SensorCatalog

/-- A scale. -/
structure Scale where
  /-- The number of the scale in its group. -/
  id : UInt8
  /-- What the documents call it. -/
  label : String
  deriving DecidableEq

/-- A group of scales. -/
structure ScaleGroup where
  /-- The readable name of the group. -/
  name : String
  /-- The key of the shared group, or the label of the sensor type, that the group comes from. -/
  origin : String
  /-- The scales by token. -/
  scales : Table Scale
  deriving DecidableEq

/-- The name of the class that a group's scales make up in source code. -/
def ScaleGroup.className (group : ScaleGroup) : String :=
  Label.className group.name

/-- A type of sensors. -/
structure SensorType where
  /-- The number of the sensor type. -/
  id : UInt8
  /-- What the documents call it. -/
  label : String
  /-- The name of the group of its scales. -/
  group : String
  deriving DecidableEq

/-- What is known about sensors. -/
structure Catalog where
  /-- The groups of scales by name. -/
  groups : Table ScaleGroup := ∅
  /-- The sensor types by token. -/
  sensors : Table SensorType := ∅
  deriving DecidableEq

end SensorCatalog
