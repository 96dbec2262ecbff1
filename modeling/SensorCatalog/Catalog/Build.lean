import SensorCatalog.Catalog.Basic
import SensorCatalog.Catalog.Refusal
import SensorCatalog.Document.Definition
import SensorCatalog.HexId
import SensorCatalog.Label.NameRules

/-!
# Making a catalogue

The documents are taken entry by entry in the order of their keys: the shared groups first, then the
sensor types, each with its own group if it has one. Every entry is checked against those before it.
What a check needs all groups for comes last: references, since a sensor type may refer to the own
group of a later one, and the names of classes.

## Main definitions

* `ScaleGroup.ofDefinitions`: a group of the scales of a document.
* `Draft`: a catalogue in the making, with the references that are still to be checked.
* `Draft.unknownReference?`, `Catalog.classCollision?`: the checks at the end.
* `Catalog.build`: the catalogue of two documents.
-/

namespace SensorCatalog

/-- The id that a key stands for. -/
def readId (raw : String) : Except Refusal UInt8 :=
  match HexId.parse? raw with
  | some id => .ok id
  | none => .error (.invalidId raw)

/-- Checks that a token can stand in source code. -/
def checkName (scope : Scope) (label token : String) : Except Refusal Unit :=
  if Label.isIdentifier token then .ok () else .error (.invalidName scope label token)

/-- Adds an entry to a table under a name that must be new; `tell` is how the entries of the table
are told apart in a refusal. -/
def insertNew {α : Type} (scope : Scope) (tell : α → String) (t : Table α) (name : String)
    (entry : α) : Except Refusal (Table α) :=
  match t.find? name with
  | some first => .error (.collision scope name (tell first) (tell entry))
  | none => .ok (t.insert name entry)

/-! ### Groups of scales -/

/-- Adds a scale of a document to the scales of the group with a name. -/
def addScale (groupName : String) (scales : Table Scale) (raw : String)
    (definition : ScaleDefinition) : Except Refusal (Table Scale) := do
  let id ← readId raw
  let token := Label.token .dropped definition.label
  checkName (.scalesOf groupName) definition.label token
  insertNew (.scalesOf groupName) Scale.label scales token ⟨id, definition.label⟩

/-- The group with a name and an origin that holds the scales of a document. -/
def ScaleGroup.ofDefinitions (name origin : String) (definitions : ScaleDefinitions) :
    Except Refusal ScaleGroup := do
  let scales ← definitions.entries.foldlM (fun scales e => addScale name scales e.1 e.2) ∅
  return ⟨name, origin, scales⟩

/-- Adds a group under its name. -/
def addGroup (groups : Table ScaleGroup) (group : ScaleGroup) :
    Except Refusal (Table ScaleGroup) :=
  insertNew .scaleGroups ScaleGroup.origin groups group.name group

/-- Adds the shared group with a key. -/
def addShared (groups : Table ScaleGroup) (key : String) (definitions : ScaleDefinitions) :
    Except Refusal (Table ScaleGroup) := do
  addGroup groups (← ScaleGroup.ofDefinitions (Label.displayName key) key definitions)

/-! ### Sensor types -/

/-- The mark that references to shared groups begin with. -/
def referenceMark : String := "$SCALES:"

/-- A reference without its mark, taken off once. -/
def dropMark (reference : String) : String :=
  if referenceMark.toList.isPrefixOf reference.toList then
    String.ofList (reference.toList.drop referenceMark.toList.length)
  else reference

/-- A mark is taken off, but no second one behind it. -/
theorem dropMark_append (name : String) : dropMark (referenceMark ++ name) = name := by
  rw [dropMark, String.toList_append, if_pos, List.drop_left, String.ofList_toList]
  exact List.isPrefixOf_iff_prefix.2 (List.prefix_append _ _)

/-- A reference that does not begin with the mark is left as it is. -/
theorem dropMark_of_not_prefix {reference : String}
    (h : ¬ referenceMark.toList <+: reference.toList) : dropMark reference = reference :=
  if_neg (mt List.isPrefixOf_iff_prefix.1 h)

/-- The name of the group that a reference means. -/
def referencedGroup (reference : String) : String :=
  Label.displayName (dropMark reference)

/-- A reference to a group by the sensor type with a token. -/
structure Reference where
  /-- The token of the sensor type. -/
  sensor : String
  /-- The reference as the document has it. -/
  text : String
  deriving DecidableEq

/-- A catalogue in the making. -/
structure Draft where
  /-- The groups so far. -/
  groups : Table ScaleGroup
  /-- The sensor types so far. -/
  sensors : Table SensorType := ∅
  /-- The references so far, the last one first. -/
  references : List Reference := []

/-- Settles where the scales of the sensor type with a token and a label are: the draft with its own
group added or its reference noted, and the name of the group. -/
def Draft.settle (draft : Draft) (token label : String) :
    ScaleSource → Except Refusal (Draft × String)
  | .shared reference =>
    .ok ({ draft with references := ⟨token, reference⟩ :: draft.references },
      referencedGroup reference)
  | .own definitions => do
    let group ← ScaleGroup.ofDefinitions (Label.displayName token) label definitions
    return ({ draft with groups := ← addGroup draft.groups group }, group.name)

/-- Adds a sensor type of a document. -/
def Draft.addSensor (rules : NameRules) (draft : Draft) (raw : String)
    (definition : SensorDefinition) : Except Refusal Draft := do
  let id ← readId raw
  let token := rules.token id definition.label
  checkName .sensorTypes definition.label token
  let (draft, group) ← draft.settle token definition.label definition.scales
  let sensors ← insertNew .sensorTypes SensorType.label draft.sensors token
    ⟨id, definition.label, group⟩
  return { draft with sensors }

/-! ### The whole catalogue -/

/-- The first reference that means no group. -/
def Draft.unknownReference? (draft : Draft) : Option Reference :=
  draft.references.reverse.find? fun r => !draft.groups.contains (referencedGroup r.text)

/-- The first group whose class has the name of an earlier group's class, after that earlier group;
`seen` holds the groups already looked at. -/
def classCollisionAfter? (seen : List ScaleGroup) :
    List ScaleGroup → Option (ScaleGroup × ScaleGroup)
  | [] => none
  | group :: rest =>
    match seen.find? (fun first => first.className == group.className) with
    | some first => some (first, group)
    | none => classCollisionAfter? (group :: seen) rest

/-- Two groups whose classes have the same name. -/
def classCollision? (groups : Table ScaleGroup) : Option (ScaleGroup × ScaleGroup) :=
  classCollisionAfter? [] groups.values

/-- The catalogue of the shared groups and the sensor types of two documents. -/
def Catalog.build (scales : ScaleDocument) (sensors : SensorDocument) (rules : NameRules) :
    Except Refusal Catalog := do
  let groups ← scales.entries.foldlM (fun groups e => addShared groups e.1 e.2) ∅
  let draft ← sensors.entries.foldlM (fun draft e => Draft.addSensor rules draft e.1 e.2)
    { groups : Draft }
  match draft.unknownReference? with
  | some r => .error (.unknownGroup r.sensor r.text)
  | none =>
    match classCollision? draft.groups with
    | some (first, second) =>
      .error (.collision .scaleGroups second.className first.origin second.origin)
    | none => .ok ⟨draft.groups, draft.sensors⟩

end SensorCatalog
