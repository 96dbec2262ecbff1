import SensorCatalog.Text.Quoted

/-!
# Refusals

Why no catalogue can be made of the documents. A refusal shows the part of the documents at fault.

## Main definitions

* `Scope`: the names that must differ from each other.
* `Refusal`, `Refusal.message`: the reasons, and how they are said.
-/

namespace SensorCatalog

/-- A set of names that must be valid and differ from each other. -/
inductive Scope where
  /-- The sensor types. -/
  | sensorTypes
  /-- The groups of scales, and the classes of their scales. -/
  | scaleGroups
  /-- The scales of the group with a name. -/
  | scalesOf (group : String)
  deriving DecidableEq

/-- How a scope is named. -/
def Scope.message : Scope → String
  | .sensorTypes => "sensor types"
  | .scaleGroups => "scale groups"
  | .scalesOf group => "scale group " ++ group

/-- Why no catalogue can be made. -/
inductive Refusal where
  /-- A key is not an id in hexadecimal. -/
  | invalidId (raw : String)
  /-- Two entries of a scope, told by their labels or origins, have the same name. -/
  | collision (scope : Scope) (name first second : String)
  /-- The token of a label cannot stand in source code. -/
  | invalidName (scope : Scope) (label token : String)
  /-- A sensor type refers to a group that does not exist. -/
  | unknownGroup (sensor reference : String)
  deriving DecidableEq

/-- How a refusal is said. -/
def Refusal.message : Refusal → String
  | .invalidId raw => "invalid hex id " ++ Quoted.quote raw
  | .collision scope name first second =>
    scope.message ++ ": " ++ Quoted.quote first ++ " and " ++ Quoted.quote second ++
      " both normalize to " ++ name
  | .invalidName scope label token =>
    scope.message ++ ": " ++ Quoted.quote label ++ " normalizes to " ++ Quoted.quote token ++
      ", which is not a valid identifier"
  | .unknownGroup sensor reference =>
    "sensor type " ++ sensor ++ " refers to unknown scale group " ++ Quoted.quote reference

end SensorCatalog
