import SensorCatalog.Proofs.ConstantsFile.Reading
import SensorCatalog.Proofs.ConstantsFile.Remark
import SensorCatalog.Proofs.ConstantsFile.Sections
import SensorCatalog.Proofs.Text.Quoted

/-!
# What the generated part declares

The generated part of a catalogue is read back as what it was written from: every section has its
items, one for each entry of the catalogue that it was made for, and nothing else.

## Main definitions

* `ConstantsFile.outline`: the items of a catalogue.

## Main results

* `ConstantsFile.exists_render_readLines_eq`: the generated part is read back as the outline.
-/

namespace SensorCatalog.ConstantsFile

open Text (Shape IsNameText isNameText_append)

/-! ### Lines -/

section

variable {name value c token rest : String}

theorem step_comment (rest : String) : Block.module.step ("//" ++ rest) = some (.module, []) :=
  Block.step_append_eq (r := .comment) (by simp [Block.rules]) [] rfl (List.forall_mem_nil _)
    rest rfl (by simp [Rule.comment, Shape.fill, Shape.fillEnds])

/-- Comments that are spelled out. -/
theorem step_comment_ofList (cs : List Char) :
    Block.module.step (String.ofList ('/' :: '/' :: cs)) = some (.module, []) := by
  have hcomment : String.ofList ('/' :: '/' :: cs) = "//" ++ String.ofList cs := by
    rw [← String.toList_inj, String.toList_append]
    simp
  exact hcomment ▸ step_comment _

theorem step_text (hname : IsNameText name) (hrest : '\n' ∉ rest.toList) :
    Block.module.step ("pub const " ++ name ++ ": &str = " ++ rest) =
      some (.module, [.text name]) :=
  Block.step_append_eq (r := .text) (by simp [Block.rules]) [name] rfl (by simpa using hname)
    rest (by simpa [Rule.text, Text.Tail.allows] using hrest)
    (by simp [Rule.text, Shape.fill, Shape.fillEnds, String.append_assoc])

theorem step_list (hname : IsNameText name) (hrest : '\n' ∉ rest.toList) :
    Block.module.step ("pub const " ++ name ++ ": &[" ++ rest) =
      some (.list name, [.list name]) :=
  Block.step_append_eq (r := .list) (by simp [Block.rules]) [name] rfl (by simpa using hname)
    rest (by simpa [Rule.list, Text.Tail.allows] using hrest)
    (by simp [Rule.list, Shape.fill, Shape.fillEnds, String.append_assoc])

theorem step_struct (hname : IsNameText name) :
    Block.module.step ("pub struct " ++ name ++ "(pub u8);") =
      some (.module, [.struct name]) :=
  Block.step_eq (r := .struct) (by simp [Block.rules]) [name] rfl (by simpa using hname)
    (by simp [Rule.struct, Shape.fill, Shape.fillEnds, String.append_assoc])

theorem step_enumeration (hname : IsNameText name) :
    Block.module.step ("pub enum " ++ name ++ " \x7b") =
      some (.enumeration name, [.enumeration name]) :=
  Block.step_eq (r := .enumeration) (by simp [Block.rules]) [name] rfl (by simpa using hname)
    (by simp [Rule.enumeration, Shape.fill, Shape.fillEnds, String.append_assoc])

theorem step_implementation (hname : IsNameText name) :
    Block.module.step ("impl " ++ name ++ " \x7b") = some (.implementation name, []) :=
  Block.step_eq (r := .implementation) (by simp [Block.rules]) [name] rfl
    (by simpa using hname)
    (by simp [Rule.implementation, Shape.fill, Shape.fillEnds, String.append_assoc])

theorem step_traitOf (hc : IsNameText c) :
    Block.module.step ("impl From<" ++ c ++ "> for " ++ scaleTypeName ++ " \x7b") =
      some (.traitOf c, [.traitOf scaleTypeName "From" c]) := by
  have hnames : IsNameText "From" ∧ IsNameText scaleTypeName :=
    ⟨isNameText_ofList rfl, isNameText_ofList rfl⟩
  have hfrom : "impl From<" = "impl " ++ "From" ++ "<" := by simp
  rw [hfrom]
  exact Block.step_eq (r := .traitOf) (by simp [Block.rules]) ["From", c, scaleTypeName] rfl
    (by simpa [hc] using hnames)
    (by simp only [Rule.traitOf, Shape.fill, Shape.fillEnds, String.append_assoc,
      String.append_empty])

theorem step_parameter (hc : IsNameText c) :
    (Block.traitOf c).step (indent ++ "fn from(scale: " ++ c ++ ") -> Self \x7b") =
      some (.traitOf c, []) := by
  have hstep := Block.step_eq (b := .traitOf c)
    (r := .ofArgument (indent ++ "fn from(scale: ") ") -> Self \x7b" c) (by simp [Block.rules])
    [c] rfl (by simpa using hc) rfl
  simpa [Rule.ofArgument, Shape.fill, Shape.fillEnds, String.append_assoc] using hstep

theorem step_conversion (hc : IsNameText c) :
    (Block.traitOf c).step (indent ++ indent ++ "Self::" ++ c ++ "(scale)") =
      some (.traitOf c, []) := by
  have hstep := Block.step_eq (b := .traitOf c)
    (r := .ofArgument (indent ++ indent ++ "Self::") "(scale)" c) (by simp [Block.rules])
    [c] rfl (by simpa using hc) rfl
  simpa [Rule.ofArgument, Shape.fill, Shape.fillEnds, String.append_assoc] using hstep

theorem step_variant (hc : IsNameText c) (name : String) :
    (Block.enumeration name).step (indent ++ c ++ ",") =
      some (.enumeration name, [.variant name c none]) :=
  Block.step_eq (r := .variant name) (by simp [Block.rules]) [c] rfl (by simpa using hc)
    (by simp [Rule.variant, Shape.fill, Shape.fillEnds, String.append_assoc])

theorem step_variantOf (hc : IsNameText c) (name : String) :
    (Block.enumeration name).step (indent ++ c ++ "(" ++ c ++ "),") =
      some (.enumeration name, [.variant name c (some c)]) :=
  Block.step_eq (r := .variantOf name) (by simp [Block.rules]) [c, c] rfl (by simpa using hc)
    (by simp [Rule.variantOf, Shape.fill, Shape.fillEnds, String.append_assoc])

theorem step_constant (hname : IsNameText name) (hvalue : IsNameText value) (type : String) :
    (Block.implementation type).step
        (indent ++ "pub const " ++ name ++ ": Self = Self(" ++ value ++ ");") =
      some (.implementation type, [.constant type name value]) :=
  Block.step_eq (r := .constant type) (by simp [Block.rules]) [name, value] rfl
    (by simpa using ⟨hname, hvalue⟩)
    (by simp [Rule.constant, Shape.fill, Shape.fillEnds, String.append_assoc])

theorem step_arm (hc : IsNameText c) (type name : String) :
    (Block.function type name).step
        (indent ++ indent ++ indent ++ "Self::" ++ c ++ "(_) => " ++ scaleKindName ++ "::" ++ c ++
          ",") =
      some (.function type name, [.arm type name c c]) :=
  Block.step_eq (r := .arm type name) (by simp [Block.rules]) [c, c] rfl (by simpa using hc)
    (by simp [Rule.arm, Shape.fill, Shape.fillEnds, String.append_assoc])

theorem step_row (htoken : IsNameText token) (hc : IsNameText c) (name : String) :
    (Block.list name).step
        (indent ++ "(" ++ sensorTypeName ++ "::" ++ token ++ ", " ++ scaleKindName ++ "::" ++ c ++
          "),") =
      some (.list name, [.row name token c]) :=
  Block.step_eq (r := .row name) (by simp [Block.rules]) [token, c] rfl
    (by simpa using ⟨htoken, hc⟩)
    (by simp [Rule.row, Shape.fill, Shape.fillEnds, String.append_assoc])

theorem step_member (hc : IsNameText c) (htoken : IsNameText token) (name : String) :
    (Block.list name).step
        (indent ++ scaleTypeName ++ "::" ++ c ++ "(" ++ c ++ "::" ++ token ++ "),") =
      some (.list name, [.member name c c token]) :=
  Block.step_eq (r := .member name) (by simp [Block.rules]) [c, c, token] rfl
    (by simpa using ⟨hc, htoken⟩)
    (by simp [Rule.member, Shape.fill, Shape.fillEnds, String.append_assoc])

theorem step_derives : Block.module.step derives = some (.module, []) :=
  Block.module.step_fixed (by simp [Block.rules])

end

/-! ### Sections -/

/-- The items of a type of constants. -/
def constantTypeItems (name : String) (members : List (String × UInt8)) : List Item :=
  .struct name :: members.map fun m => .constant name m.1 (toString m.2.toNat)

/-- The items of the types that join the scale classes. -/
def scaleTypesItems (classes : List String) : List Item :=
  .enumeration scaleTypeName :: classes.map (fun c => .variant scaleTypeName c (some c)) ++
    .enumeration scaleKindName :: classes.map (fun c => .variant scaleKindName c none) ++
    classes.map (fun c => .arm scaleTypeName "kind" c c) ++
    classes.map (fun c => .traitOf scaleTypeName "From" c)

/-- The items of the list of the scales with a token. -/
def unitListItems (token : String) (members : List ClassMember) : List Item :=
  .list ("UNIT_" ++ token) ::
    members.map fun m => .member ("UNIT_" ++ token) m.className m.className m.token

/-! ### What is taken from the items of a section -/

section

variable {α : Type} (f : Item → Option α)

@[simp] theorem filterMap_constantTypeItems (name : String) (members : List (String × UInt8)) :
    (constantTypeItems name members).filterMap f = (f (.struct name)).toList ++
      members.filterMap fun m => f (.constant name m.1 (toString m.2.toNat)) := by
  rw [constantTypeItems, ← List.singleton_append, List.filterMap_append, List.filterMap_map]
  rfl

@[simp] theorem filterMap_scaleTypesItems (classes : List String) :
    (scaleTypesItems classes).filterMap f = (f (.enumeration scaleTypeName)).toList ++
      classes.filterMap (fun c => f (.variant scaleTypeName c (some c))) ++
      (f (.enumeration scaleKindName)).toList ++
      classes.filterMap (fun c => f (.variant scaleKindName c none)) ++
      classes.filterMap (fun c => f (.arm scaleTypeName "kind" c c)) ++
      classes.filterMap (fun c => f (.traitOf scaleTypeName "From" c)) := by
  simp only [scaleTypesItems, ← List.singleton_append (l := List.map _ _),
    List.filterMap_append, List.filterMap_map, List.append_assoc]
  rfl

@[simp] theorem flatMap_nil_fun {β γ : Type} (l : List β) :
    l.flatMap (fun _ => ([] : List γ)) = [] :=
  List.flatMap_eq_nil_iff.2 fun _ _ => rfl

@[simp] theorem filterMap_unitListItems (token : String) (members : List ClassMember) :
    (unitListItems token members).filterMap f = (f (.list ("UNIT_" ++ token))).toList ++
      members.filterMap fun m =>
        f (.member ("UNIT_" ++ token) m.className m.className m.token) := by
  rw [unitListItems, ← List.singleton_append, List.filterMap_append, List.filterMap_map]
  rfl

end

theorem step_property {token : String} (htoken : IsNameText token) (sensor : SensorType) :
    Block.module.step (property token sensor) = some (.module, [.text (token ++ "_PROPERTY")]) := by
  have hproperty : "_PROPERTY: &str = " = "_PROPERTY" ++ ": &str = " := by simp
  have hname : IsNameText (token ++ "_PROPERTY") :=
    isNameText_append htoken (isNameText_ofList rfl)
  have hrest : '\n' ∉ (Quoted.quote sensor.label ++ ";").toList := by
    simpa using Quoted.lineFeed_not_mem_quote sensor.label
  have hstep := step_text hname hrest
  rw [property, hproperty]
  simpa only [String.append_assoc] using hstep

theorem step_remark (subject : String) :
    Block.module.step (String.ofList
      (squeeze ("/// Enum for known " ++ subject ++ " multilevel sensor types.").toList)) =
        some (.module, []) := by
  have hslashes : "/// Enum for known " = "//" ++ "/ Enum for known " := by simp
  rw [hslashes, String.append_assoc, String.append_assoc, ofList_squeeze_comment]
  exact step_comment _

theorem step_reference (reference : String) :
    Block.module.step ("// " ++ reference) = some (.module, []) := by
  have hslashes : "// " = "//" ++ " " := by simp
  rw [hslashes, String.append_assoc]
  exact step_comment _

theorem readLines_constantType {name : String} {members : List (String × UInt8)}
    (hname : IsNameText name) (hmembers : ∀ m ∈ members, IsNameText m.1)
    (reference : Option String) (subject : String) :
    readLines .module (constantType name members reference subject) =
      some (.module, constantTypeItems name members) := by
  have hreference : readLines .module (reference.map ("// " ++ ·)).toList = some (.module, []) := by
    cases reference with
    | none => exact readLines_nil
    | some reference => exact readLines_cons (step_reference reference) readLines_nil
  have hend : readLines (.implementation name) ["\x7d", ""] = some (.module, []) :=
    readLines_cons (Block.step_fixed _ (by simp [Block.rules]))
      (readLines_cons (Block.step_empty _) readLines_nil)
  have hconstants := readLines_map fun m hm =>
    step_constant (hmembers m hm) (isNameText_toString m.2.toNat) name
  have hall := readLines_append (readLines_append (readLines_append (readLines_append
    (readLines_cons (step_remark subject) readLines_nil) hreference)
    (readLines_cons step_derives (readLines_cons (step_struct hname)
      (readLines_cons (Block.step_empty _)
        (readLines_cons (step_implementation hname) readLines_nil))))) hconstants) hend
  rw [constantType]
  simpa [constantTypeItems] using hall

theorem readLines_conversion {c : String} (hc : IsNameText c) :
    readLines .module ["impl From<" ++ c ++ "> for " ++ scaleTypeName ++ " \x7b",
      indent ++ "fn from(scale: " ++ c ++ ") -> Self \x7b",
      indent ++ indent ++ "Self::" ++ c ++ "(scale)",
      indent ++ "\x7d", "\x7d", ""] = some (.module, [.traitOf scaleTypeName "From" c]) := by
  have hclose : (Block.traitOf c).step (indent ++ "\x7d") = some (.traitOf c, []) :=
    Block.step_fixed _ (by simp [Block.rules])
  have hend : (Block.traitOf c).step "\x7d" = some (.module, []) :=
    Block.step_fixed _ (by simp [Block.rules])
  exact readLines_cons (step_traitOf hc) (readLines_cons (step_parameter hc)
    (readLines_cons (step_conversion hc) (readLines_cons hclose
      (readLines_cons hend (readLines_cons (Block.step_empty _) readLines_nil)))))

/-- The head of the function that tells the kind of a scale, below the enumeration of the kinds. -/
theorem readLines_kindHead :
    readLines (.enumeration scaleKindName) ["\x7d", "", "impl " ++ scaleTypeName ++ " \x7b",
      indent ++ "pub const fn kind(self) -> " ++ scaleKindName ++ " \x7b",
      indent ++ indent ++ "match self \x7b"] = some (.function scaleTypeName "kind", []) := by
  have hfunction : (Block.implementation scaleTypeName).step
      (indent ++ "pub const fn kind(self) -> " ++ scaleKindName ++ " \x7b") =
      some (.function scaleTypeName "kind", []) := by
    decide +kernel
  exact readLines_cons (Block.step_fixed _ (by simp [Block.rules]))
    (readLines_cons (Block.step_empty _)
      (readLines_cons (step_implementation (isNameText_ofList rfl)) (readLines_cons hfunction
        (readLines_cons (Block.step_fixed _ (by simp [Block.rules])) readLines_nil))))

/-- The end of that function. -/
theorem readLines_kindEnd :
    readLines (.function scaleTypeName "kind")
      [indent ++ indent ++ "\x7d", indent ++ "\x7d", "\x7d", ""] = some (.module, []) := by
  have hcases : (Block.function scaleTypeName "kind").step (indent ++ indent ++ "\x7d") =
      some (.function scaleTypeName "kind", []) :=
    Block.step_fixed _ (by simp [Block.rules])
  have hbody : (Block.function scaleTypeName "kind").step (indent ++ "\x7d") =
      some (.implementation scaleTypeName, []) :=
    Block.step_fixed _ (by simp [Block.rules])
  have hclose : (Block.implementation scaleTypeName).step "\x7d" = some (.module, []) :=
    Block.step_fixed _ (by simp [Block.rules])
  exact readLines_cons hcases (readLines_cons hbody (readLines_cons hclose
    (readLines_cons (Block.step_empty _) readLines_nil)))

theorem readLines_scaleTypes {classes : List String} (h : ∀ c ∈ classes, IsNameText c) :
    readLines .module (scaleTypes classes) = some (.module, scaleTypesItems classes) := by
  have hnames : IsNameText scaleTypeName ∧ IsNameText scaleKindName :=
    ⟨isNameText_ofList rfl, isNameText_ofList rfl⟩
  have htypes : readLines .module ["/// Common base type for multilevel sensor scale enums.",
      derives, "pub enum " ++ scaleTypeName ++ " \x7b"] =
      some (.enumeration scaleTypeName, [.enumeration scaleTypeName]) :=
    readLines_cons (step_comment_ofList _) (readLines_cons step_derives
      (readLines_cons (step_enumeration hnames.1) readLines_nil))
  have hkinds : readLines (.enumeration scaleTypeName) ["\x7d", "",
      "/// Identifies one of the multilevel sensor scale enums.", derives,
      "pub enum " ++ scaleKindName ++ " \x7b"] =
      some (.enumeration scaleKindName, [.enumeration scaleKindName]) :=
    readLines_cons (Block.step_fixed _ (by simp [Block.rules])) (readLines_cons (Block.step_empty _)
      (readLines_cons (step_comment_ofList _) (readLines_cons step_derives
        (readLines_cons (step_enumeration hnames.2) readLines_nil))))
  have hall := readLines_append (readLines_append (readLines_append (readLines_append
    (readLines_append (readLines_append (readLines_append htypes
    (readLines_map fun c hc => step_variantOf (h c hc) scaleTypeName)) hkinds)
    (readLines_map fun c hc => step_variant (h c hc) scaleKindName)) readLines_kindHead)
    (readLines_map fun c hc => step_arm (h c hc) scaleTypeName "kind")) readLines_kindEnd)
    (readLines_flatMap fun c hc => readLines_conversion (h c hc))
  rw [scaleTypes]
  simpa [scaleTypesItems, ← List.map_eq_flatMap] using hall

theorem readLines_unitList {token : String} {members : List ClassMember}
    (htoken : IsNameText token)
    (hmembers : ∀ m ∈ members, IsNameText m.className ∧ IsNameText m.token) :
    readLines .module (unitList token members) = some (.module, unitListItems token members) := by
  have hname : IsNameText ("UNIT_" ++ token) :=
    isNameText_append (isNameText_ofList rfl) htoken
  have hfront : "pub const " ++ "UNIT_" = "pub const UNIT_" := by simp
  have hlist := step_list hname
    (by simp [scaleTypeName] : '\n' ∉ (scaleTypeName ++ "] = &[").toList)
  simp only [← String.append_assoc, hfront] at hlist
  have hend := Block.step_fixed _ (by simp [Block.rules] :
    Rule.fixed "];" .module ∈ (Block.list ("UNIT_" ++ token)).rules)
  have hall := readLines_append (readLines_append (readLines_cons hlist readLines_nil)
    (readLines_map fun m hm => step_member (hmembers m hm).1 (hmembers m hm).2 ("UNIT_" ++ token)))
    (readLines_cons hend readLines_nil)
  rw [unitList]
  simpa [unitListItems] using hall

/-! ### The map from sensor types to scale classes -/

section

variable {scales : ScaleDocument} {sensors : SensorDocument} {rules : NameRules}
  {catalog : Catalog}

theorem readLines_scaleMap (h : Catalog.build scales sensors rules = .ok catalog) :
    readLines .module (scaleMapLines catalog.sensors) =
      some (.module, .list scaleMapName :: catalog.sensors.entries.map fun e =>
        .row scaleMapName e.1 (Label.className e.2.group)) := by
  have hlist : Block.module.step ("pub const " ++ scaleMapName ++ ": &[(" ++ sensorTypeName ++
      ", " ++ scaleKindName ++ ")] = &[") = some (.list scaleMapName, [.list scaleMapName]) := by
    have hname : IsNameText scaleMapName := isNameText_ofList rfl
    have hstep := step_list hname (by simp [sensorTypeName, scaleKindName] :
      '\n' ∉ ("(" ++ sensorTypeName ++ ", " ++ scaleKindName ++ ")] = &[").toList)
    have hopening : ": &[(" = ": &[" ++ "(" := by simp
    rw [hopening]
    simpa only [String.append_assoc] using hstep
  have hend : readLines (.list scaleMapName) ["];", ""] = some (.module, []) :=
    readLines_cons (Block.step_fixed _ (by simp [Block.rules]))
      (readLines_cons (Block.step_empty _) readLines_nil)
  have hall := readLines_append (readLines_append (readLines_cons hlist readLines_nil)
    (readLines_map fun e (he : e ∈ catalog.sensors.entries) =>
      step_row (isNameText_sensorToken h he) (isNameText_className e.2.group) scaleMapName)) hend
  simpa [scaleMapLines] using hall

theorem readLines_unitLists (h : Catalog.build scales sensors rules = .ok catalog) :
    readLines .module (unitLists (UnitIndex.ofGroups catalog.groups.values)) =
      some (.module, (UnitIndex.ofGroups catalog.groups.values).entries.flatMap
        fun e => unitListItems e.1 e.2) := by
  refine readLines_flatMap fun e he => ?_
  obtain ⟨htoken, hmembers⟩ := isNameText_of_mem_units h e he
  exact readLines_unitList htoken hmembers

/-! ### The generated part -/

/-- The items of a catalogue. -/
def outline (catalog : Catalog) : List Item :=
  [.text "CC_SPECIFIC_SCALE", .text "CC_SPECIFIC_SENSOR_TYPE"] ++
    catalog.sensors.entries.map (fun e => .text (e.1 ++ "_PROPERTY")) ++
    constantTypeItems sensorTypeName (sensorMembers catalog) ++
    scaleTypesItems (catalog.groups.values.map ScaleGroup.className) ++
    catalog.groups.values.flatMap (fun group =>
      constantTypeItems group.className (scaleMembers group)) ++
    .list scaleMapName ::
      catalog.sensors.entries.map (fun e => .row scaleMapName e.1 (Label.className e.2.group)) ++
    (UnitIndex.ofGroups catalog.groups.values).entries.flatMap fun e => unitListItems e.1 e.2

theorem readLines_header :
    readLines .module header =
      some (.module, [.text "CC_SPECIFIC_SCALE", .text "CC_SPECIFIC_SENSOR_TYPE"]) := by
  have hcomments :
      readLines .module (["//! Constants for the Multilevel Sensor CC.", ""] ++ beginBlock) =
        some (.module, []) :=
    readLines_cons (step_comment_ofList _) (readLines_cons (Block.step_empty _)
      (readLines_cons (step_comment_ofList _) (readLines_cons (step_comment_ofList _)
        (readLines_cons (step_comment_ofList _) (readLines_cons (step_comment_ofList _)
          readLines_nil)))))
  refine readLines_append hcomments ?_
  decide +kernel

theorem readLines_endBlock : readLines .module endBlock = some (.module, []) :=
  readLines_cons (step_comment_ofList _) (readLines_cons (step_comment_ofList _)
    (readLines_cons (step_comment_ofList _) (readLines_cons (step_comment_ofList _)
      (readLines_cons (step_comment_ofList _) (readLines_cons (step_comment_ofList _)
        (readLines_cons (Block.step_empty _) readLines_nil))))))

theorem readLines_generatedLines (h : Catalog.build scales sensors rules = .ok catalog)
    (reference : String) :
    readLines .module (generatedLines catalog reference) = some (.module, outline catalog) := by
  have hproperties := readLines_map fun e he =>
    step_property (isNameText_sensorToken h he) e.2
  have hsensors : readLines .module (constantType sensorTypeName (sensorMembers catalog)
      (some reference) "") =
      some (.module, constantTypeItems sensorTypeName (sensorMembers catalog)) :=
    readLines_constantType (isNameText_ofList rfl)
      (List.forall_mem_map.2 fun e he => isNameText_sensorToken h he) _ _
  have htypes : readLines .module (scaleTypes (catalog.groups.values.map ScaleGroup.className)) =
      some (.module, scaleTypesItems (catalog.groups.values.map ScaleGroup.className)) :=
    readLines_scaleTypes (List.forall_mem_map.2 fun group _ => isNameText_className group.name)
  have hclasses : readLines .module (catalog.groups.values.flatMap (scaleClass reference)) =
      some (.module, catalog.groups.values.flatMap fun group =>
        constantTypeItems group.className (scaleMembers group)) :=
    readLines_flatMap fun group hgroup =>
      readLines_constantType (isNameText_className group.name)
        (List.forall_mem_map.2 fun e he => isNameText_scaleToken h hgroup he) _ _
  have hblank : readLines .module [""] = some (.module, []) :=
    readLines_cons (Block.step_empty _) readLines_nil
  have hall := readLines_append (readLines_append (readLines_append (readLines_append
    (readLines_append (readLines_append (readLines_append (readLines_append (readLines_append
    readLines_header hproperties) hblank) hsensors) htypes) hclasses) (readLines_scaleMap h))
    (readLines_unitLists h)) hblank) readLines_endBlock
  simpa only [generatedLines, outline, List.append_nil] using hall

/-- **The generated part is read back** as the outline of the catalogue. -/
theorem exists_render_readLines_eq (h : Catalog.build scales sensors rules = .ok catalog)
    (source : Source) :
    ∃ lines, render catalog (UnitIndex.ofGroups catalog.groups.values) source = .ok lines ∧
      readLines .module lines = some (.module, outline catalog) :=
  ⟨_, render_eq h source, readLines_generatedLines h _⟩

end

end SensorCatalog.ConstantsFile
