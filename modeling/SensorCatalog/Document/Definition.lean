import SensorCatalog.Table

/-!
# The source documents

Two documents describe the sensors. One lists the scales that sensor types share, in named groups;
the other lists the sensor types, each with its own scales or with a reference to a shared group.
Everything is listed under a key, which for scales and sensor types is their id in hexadecimal.

## Main definitions

* `ScaleDefinition`, `ScaleSource`, `SensorDefinition`: the entries.
* `ScaleDocument`, `SensorDocument`: the documents.
-/

namespace SensorCatalog

/-- A scale as a document describes it. -/
structure ScaleDefinition where
  /-- What the scale is called. -/
  label : String
  /-- The unit of its values. -/
  unit : Option String
  /-- A remark on it. -/
  description : Option String
  deriving DecidableEq

/-- The scales of one group, by their ids. -/
abbrev ScaleDefinitions := Table ScaleDefinition

/-- Where the scales of a sensor type are defined. -/
inductive ScaleSource where
  /-- In a group that the reference names. -/
  | shared (reference : String)
  /-- Here, as a group of the sensor type's own. -/
  | own (scales : ScaleDefinitions)
  deriving DecidableEq

/-- A sensor type as a document describes it. -/
structure SensorDefinition where
  /-- What the sensor type is called. -/
  label : String
  /-- The scales that its values can be in. -/
  scales : ScaleSource
  deriving DecidableEq

/-- The shared groups of scales, by their keys. -/
abbrev ScaleDocument := Table ScaleDefinitions

/-- The sensor types, by their ids. -/
abbrev SensorDocument := Table SensorDefinition

end SensorCatalog
