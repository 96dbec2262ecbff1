import SensorCatalog.Catalog.UnitIndex
import SensorCatalog.ConstantsFile.Marker
import SensorCatalog.Source
import SensorCatalog.Text.Quoted

/-!
# Rendering the constants file

The generated part of the constants file is Rust source. It declares the labels of the sensor types,
a type of constants for the sensor types and one for each group of scales, the types that join the
groups, the map from sensor types to groups, and the lists of scales by unit. Different constants of
a type may have the same number, which is why the types are not enumerations.

## Main definitions

* `ConstantsFile.constantType`: a type with a constant for each member.
* `ConstantsFile.scaleTypes`: the types that join the scale classes.
* `ConstantsFile.scaleMap`: the map from sensor types to scale classes.
* `ConstantsFile.unitLists`: the lists of scales by unit.
* `ConstantsFile.render`: the generated part.
-/

namespace SensorCatalog.ConstantsFile

/-! ### Names in the file -/

/-- The type of the sensor types. -/
def sensorTypeName : String := "MultilevelSensorType"

/-- The type of all scales. -/
def scaleTypeName : String := "MultilevelSensorScaleType"

/-- The type of the scale classes. -/
def scaleKindName : String := "MultilevelSensorScaleKind"

/-- The map from sensor types to scale classes. -/
def scaleMapName : String := "MULTILEVEL_SENSOR_TYPE_TO_SCALE_MAP"

/-- One step of indentation. -/
def indent : String := "    "

/-- The line above each type. -/
def derives : String := "#[derive(Clone, Copy, Debug, PartialEq, Eq, Hash)]"

/-! ### Sections -/

/-- The lines above the constants. -/
def header : List String :=
  ["//! Constants for the Multilevel Sensor CC.", ""] ++ beginBlock ++
    ["", "pub const CC_SPECIFIC_SCALE: &str = \"scale\";",
      "pub const CC_SPECIFIC_SENSOR_TYPE: &str = \"sensorType\";", ""]

/-- The constant with the label of the sensor type with a token. -/
def property (token : String) (sensor : SensorType) : String :=
  "pub const " ++ token ++ "_PROPERTY: &str = " ++ Quoted.quote sensor.label ++ ";"

/-- A text with every two spaces, taken from the left, made one. -/
def squeeze : List Char → List Char
  | ' ' :: ' ' :: rest => ' ' :: squeeze rest
  | c :: rest => c :: squeeze rest
  | [] => []

/-- A type over a byte with a constant for each member, below a remark on what it enumerates and
where that comes from. -/
def constantType (name : String) (members : List (String × UInt8)) (reference : Option String)
    (subject : String) : List String :=
  [String.ofList (squeeze
    ("/// Enum for known " ++ subject ++ " multilevel sensor types.").toList)] ++
  (reference.map ("// " ++ ·)).toList ++
  [derives, "pub struct " ++ name ++ "(pub u8);", "", "impl " ++ name ++ " \x7b"] ++
  members.map (fun m =>
    indent ++ "pub const " ++ m.1 ++ ": Self = Self(" ++ toString m.2.toNat ++ ");") ++
  ["\x7d", ""]

/-- The types that join the scale classes: the type of all scales and the type of the classes, the
class of a scale, and every scale as one of all scales. -/
def scaleTypes (classes : List String) : List String :=
  ["/// Common base type for multilevel sensor scale enums.", derives,
    "pub enum " ++ scaleTypeName ++ " \x7b"] ++
  classes.map (fun c => indent ++ c ++ "(" ++ c ++ "),") ++
  ["\x7d", "",
    "/// Identifies one of the multilevel sensor scale enums.", derives,
    "pub enum " ++ scaleKindName ++ " \x7b"] ++
  classes.map (fun c => indent ++ c ++ ",") ++
  ["\x7d", "",
    "impl " ++ scaleTypeName ++ " \x7b",
    indent ++ "pub const fn kind(self) -> " ++ scaleKindName ++ " \x7b",
    indent ++ indent ++ "match self \x7b"] ++
  classes.map (fun c =>
    indent ++ indent ++ indent ++ "Self::" ++ c ++ "(_) => " ++ scaleKindName ++ "::" ++ c ++
      ",") ++
  [indent ++ indent ++ "\x7d", indent ++ "\x7d", "\x7d", ""] ++
  classes.flatMap (fun c =>
    ["impl From<" ++ c ++ "> for " ++ scaleTypeName ++ " \x7b",
      indent ++ "fn from(scale: " ++ c ++ ") -> Self \x7b",
      indent ++ indent ++ "Self::" ++ c ++ "(scale)",
      indent ++ "\x7d", "\x7d", ""])

/-- A sensor type names a group that a catalogue does not have. -/
structure MissingGroup where
  /-- The token of the sensor type. -/
  sensor : String
  /-- The name of the group. -/
  group : String
  deriving DecidableEq

/-- How a missing group is said. -/
def MissingGroup.message (m : MissingGroup) : String :=
  "sensor type " ++ m.sensor ++ " names the missing scale group " ++ Quoted.quote m.group

/-- The row of the sensor type with a token in the map from sensor types to scale classes. -/
def scaleMapRow (groups : Table ScaleGroup) (token : String) (sensor : SensorType) :
    Except MissingGroup String :=
  match groups.find? sensor.group with
  | some group =>
    .ok (indent ++ "(" ++ sensorTypeName ++ "::" ++ token ++ ", " ++ scaleKindName ++ "::" ++
      group.className ++ "),")
  | none => .error ⟨token, sensor.group⟩

/-- The map from sensor types to scale classes. -/
def scaleMap (catalog : Catalog) : Except MissingGroup (List String) := do
  let rows ← catalog.sensors.entries.mapM fun e => scaleMapRow catalog.groups e.1 e.2
  return ["pub const " ++ scaleMapName ++ ": &[(" ++ sensorTypeName ++ ", " ++ scaleKindName ++
    ")] = &["] ++ rows ++ ["];", ""]

/-- The list of the scales with a token. -/
def unitList (token : String) (members : List ClassMember) : List String :=
  ["pub const UNIT_" ++ token ++ ": &[" ++ scaleTypeName ++ "] = &["] ++
  members.map (fun m =>
    indent ++ scaleTypeName ++ "::" ++ m.className ++ "(" ++ m.className ++ "::" ++ m.token ++
      "),") ++
  ["];"]

/-- The lists of scales by unit. -/
def unitLists (units : UnitIndex) : List String :=
  units.entries.flatMap fun e => unitList e.1 e.2

/-! ### The generated part -/

/-- The members of the type of the sensor types. -/
def sensorMembers (catalog : Catalog) : List (String × UInt8) :=
  catalog.sensors.entries.map fun e => (e.1, e.2.id)

/-- The members of the type of a group's scales. -/
def scaleMembers (group : ScaleGroup) : List (String × UInt8) :=
  group.scales.entries.map fun e => (e.1, e.2.id)

/-- The type of the scales of a group. -/
def scaleClass (reference : String) (group : ScaleGroup) : List String :=
  constantType group.className (scaleMembers group) (some reference) ("scales for " ++ group.name)

/-- The generated part of the constants file, down to the comment that ends it. -/
def render (catalog : Catalog) (units : UnitIndex) (source : Source) :
    Except MissingGroup (List String) := do
  let reference := source.blobUrl source.sensorTypesPath
  let groups := catalog.groups.values
  let map ← scaleMap catalog
  return header ++
    catalog.sensors.entries.map (fun e => property e.1 e.2) ++ [""] ++
    constantType sensorTypeName (sensorMembers catalog) (some reference) "" ++
    scaleTypes (groups.map ScaleGroup.className) ++
    groups.flatMap (scaleClass reference) ++
    map ++ unitLists units ++ [""] ++ endBlock

end SensorCatalog.ConstantsFile
