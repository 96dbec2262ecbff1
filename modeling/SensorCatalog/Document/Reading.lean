import SensorCatalog.Document.Definition
import SensorCatalog.Json.Record

/-!
# Reading the source documents

The documents are written in JSON: tables of records. The scales of a sensor type are of no fixed
kind: a text refers to a shared group, and a table of scales is a group of its own. They are read as
a value of any kind first and understood afterwards.

## Main definitions

* `ScaleDefinition.reader`, `SensorDefinition.reader`: reading an entry.
* `ScaleDefinition.ofValue?`, `ScaleSource.ofValue?`: understanding a value.
* `ScaleDocument.parse`, `SensorDocument.parse`: reading a document.
-/

namespace SensorCatalog

open Json (Bracket Field Reader RecordType Scalar Value)

/-! ### Scales -/

namespace ScaleDefinition

/-- The fields of a scale that have been given. -/
structure Given where
  label : Option String := none
  unit : Option (Option String) := none
  description : Option (Option String) := none

/-- The scale whose fields have been given. Only its label must be among them. -/
def Given.finish (given : Given) : Except String ScaleDefinition :=
  match given.label with
  | none => .error "label"
  | some label => .ok ⟨label, given.unit.join, given.description.join⟩

/-- The type of scales. -/
def recordType : RecordType Given ScaleDefinition where
  typeName := "RawScaleDefinition"
  fields := [
    ⟨"label", fun given => given.label.isSome,
      fun _ given => return { given with label := some (← Json.text) }⟩,
    ⟨"unit", fun given => given.unit.isSome,
      fun _ given => return { given with unit := some (← Json.optionalText) }⟩,
    ⟨"description", fun given => given.description.isSome,
      fun _ given => return { given with description := some (← Json.optionalText) }⟩]
  unread := {}
  finish := Given.finish

/-- Reads a scale. -/
def reader : Reader ScaleDefinition :=
  Json.record recordType

/-- The text or the absence of one that a value stands for. -/
def optionalText? : Value → Option (Option String)
  | .scalar .null => some none
  | .scalar (.text s) => some (some s)
  | _ => none

/-- Takes a member of an object as a field of a scale, unless it is given again or of the wrong
kind. -/
def Given.member? (given : Given) (key : String) (value : Value) : Option Given :=
  match key with
  | "label" =>
    match given.label, value with
    | none, .scalar (.text s) => some { given with label := some s }
    | _, _ => none
  | "unit" =>
    if given.unit.isSome then none
    else (optionalText? value).map fun unit => { given with unit := some unit }
  | "description" =>
    if given.description.isSome then none
    else (optionalText? value).map fun description => { given with description := some description }
  | _ => some given

/-- The scale that a value describes, if it describes one. -/
def ofValue? : Value → Option ScaleDefinition
  | .object members =>
    (members.foldlM (fun given m => Given.member? given m.1 m.2) {}).bind fun given =>
      given.finish.toOption
  | .list [.scalar (.text label)] => some ⟨label, none, none⟩
  | .list [.scalar (.text label), unit] =>
    (optionalText? unit).map fun unit => ⟨label, unit, none⟩
  | .list [.scalar (.text label), unit, description] =>
    match optionalText? unit, optionalText? description with
    | some unit, some description => some ⟨label, unit, description⟩
    | _, _ => none
  | _ => none

end ScaleDefinition

/-- Reads a group of scales. -/
def ScaleDefinitions.reader : Reader ScaleDefinitions :=
  Json.table ScaleDefinition.reader

/-- Reads a document that is one group of scales. -/
def ScaleDefinitions.parse (text : String) : Except Json.Error ScaleDefinitions :=
  Json.document ScaleDefinitions.reader text

/-- Reads the document of the shared groups. -/
def ScaleDocument.parse (text : String) : Except Json.Error ScaleDocument :=
  Json.document (Json.table ScaleDefinitions.reader) text

/-! ### Sensor types -/

/-- The source of scales that a value stands for, if it stands for one. -/
def ScaleSource.ofValue? : Value → Option ScaleSource
  | .scalar (.text reference) => some (.shared reference)
  | .object members =>
    (members.foldlM
      (fun (scales : ScaleDefinitions) m =>
        (ScaleDefinition.ofValue? m.2).map (scales.insert m.1)) ∅).map .own
  | _ => none

/-- The number of brackets that may be open inside each other in a document. -/
def nestingBound : Nat := 127

/-- Reads a source of scales in a sensor type, which is within two brackets already. -/
def ScaleSource.reader (b : Bracket) : Reader ScaleSource := do
  match ScaleSource.ofValue? (← Json.value (nestingBound - 2)) with
  | some source => return source
  | none => Reader.failIn b (.noVariant "ScaleReference")

namespace SensorDefinition

/-- The fields of a sensor type that have been given. -/
structure Given where
  label : Option String := none
  scales : Option ScaleSource := none

/-- The sensor type whose fields have been given, which must be all. -/
def Given.finish (given : Given) : Except String SensorDefinition :=
  match given.label, given.scales with
  | none, _ => .error "label"
  | some _, none => .error "scales"
  | some label, some scales => .ok ⟨label, scales⟩

/-- The type of sensor types. -/
def recordType : RecordType Given SensorDefinition where
  typeName := "RawSensorDefinition"
  fields := [
    ⟨"label", fun given => given.label.isSome,
      fun _ given => return { given with label := some (← Json.text) }⟩,
    ⟨"scales", fun given => given.scales.isSome,
      fun b given => return { given with scales := some (← ScaleSource.reader b) }⟩]
  unread := {}
  finish := Given.finish

/-- Reads a sensor type. -/
def reader : Reader SensorDefinition :=
  Json.record recordType

end SensorDefinition

/-- Reads the document of the sensor types. -/
def SensorDocument.parse (text : String) : Except Json.Error SensorDocument :=
  Json.document (Json.table SensorDefinition.reader) text

end SensorCatalog
