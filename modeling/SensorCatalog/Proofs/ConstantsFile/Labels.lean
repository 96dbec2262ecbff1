import SensorCatalog.Proofs.ConstantsFile.Sections
import SensorCatalog.Proofs.ConstantsFile.Written
import SensorCatalog.Proofs.Text.Unquoted

/-!
# The labels in the constants file

Below its header, the generated part has a line for each sensor type, with the label as a literal.
The label is the only text of the documents that is written there, and its literal denotes it and
does not hold the end of a line. So these lines are read back from the file as they are, whatever
the labels are and whatever stands below them.

## Main definitions

* `ConstantsFile.labelLines`, `ConstantsFile.belowLabels`: the lines with the labels, and the part
  below them.

## Main results

* `ConstantsFile.isLine_property`: the line with a label is one line.
* `ConstantsFile.lines_text_labels`: the lines with the labels in the file.
* `ConstantsFile.exists_render_labelLines`: the labels in the file of a catalogue.
-/

namespace SensorCatalog.ConstantsFile

open Text (IsLine IsNameText joinLines)

/-- The lines with the labels of the sensor types. -/
def labelLines (catalog : Catalog) : List String :=
  catalog.sensors.entries.map fun e =>
    "pub const " ++ e.1 ++ "_PROPERTY: &str = " ++ Quoted.quote e.2.label ++ ";"

/-- The generated part below the labels. -/
def belowLabels (catalog : Catalog) (reference : String) : List String :=
  "" :: constantType sensorTypeName (sensorMembers catalog) (some reference) "" ++
    scaleTypes (catalog.groups.values.map ScaleGroup.className) ++
    catalog.groups.values.flatMap (scaleClass reference) ++
    scaleMapLines catalog.sensors ++
    unitLists (UnitIndex.ofGroups catalog.groups.values) ++ [""] ++ endBlock

theorem generatedLines_eq (catalog : Catalog) (reference : String) :
    generatedLines catalog reference =
      header ++ labelLines catalog ++ belowLabels catalog reference := by
  simp [generatedLines, labelLines, belowLabels, property]

/-! ### One line for each label -/

theorem isLine_of_mem_header {line : String} (h : line ∈ header) : IsLine line := by
  simp only [header, beginBlock, List.cons_append, List.nil_append, List.mem_cons,
    List.not_mem_nil, or_false] at h
  rcases h with rfl | rfl | rfl | rfl | rfl | rfl | rfl | rfl | rfl | rfl
  all_goals exact Text.isLine_ofList (by decide) (by decide)

/-- **The line with a label is one line.** -/
theorem isLine_property {token : String} (htoken : IsNameText token) (sensor : SensorType) :
    IsLine (property token sensor) := by
  have hname : '\n' ∉ token.toList := fun hmem => absurd (htoken _ hmem) (by decide)
  have hliteral := Quoted.lineFeed_not_mem_quote sensor.label
  constructor
  · simp [property, hname, hliteral]
  · rw [property, String.toList_append, List.getLast?_append_of_ne_nil _ (by simp)]
    simp

variable {scales : ScaleDocument} {sensors : SensorDocument} {rules : NameRules}
  {catalog : Catalog}

theorem isLine_of_mem_labelLines (h : Catalog.build scales sensors rules = .ok catalog)
    {line : String} (hline : line ∈ labelLines catalog) : IsLine line := by
  obtain ⟨e, he, rfl⟩ := List.mem_map.1 hline
  exact isLine_property (isNameText_sensorToken h he) e.2

theorem joinLines_belowLabels_append_ne (catalog : Catalog) (reference : String)
    (region : List String) : joinLines (belowLabels catalog reference ++ region) ≠ "" := by
  rw [belowLabels, constantType]
  simp only [List.cons_append]
  rw [Text.joinLines_cons_of_ne_nil _ (by simp)]
  simp

/-- **The lines with the labels in the file** are the lines that were written, whatever is below
them. -/
theorem lines_text_labels (h : Catalog.build scales sensors rules = .ok catalog)
    (reference : String) (region : List String) :
    Text.lines (text (header ++ labelLines catalog ++ belowLabels catalog reference ++ region)) =
      header ++ labelLines catalog ++
        Text.lines (text (belowLabels catalog reference ++ region)) := by
  have hne : header ++ labelLines catalog ≠ [] := by simp [header]
  have hlines : ∀ line ∈ header ++ labelLines catalog, IsLine line :=
    List.forall_mem_append.2
      ⟨fun _ hline => isLine_of_mem_header hline, fun _ hline => isLine_of_mem_labelLines h hline⟩
  rw [List.append_assoc (header ++ labelLines catalog),
    lines_text_append hne (joinLines_belowLabels_append_ne catalog reference region),
    Text.lines_joinLines_lineFeed hne hlines]

/-- **The labels in the file of a catalogue.** A quoted text is a literal on one line, and it
denotes the text that was quoted and no other one; so different texts are quoted differently. The
generated part of a catalogue has a line with the quoted label of each sensor type, and each of
these lines is a line of every file that begins with the generated part. -/
theorem exists_render_labelLines :
    (∀ s, Quoted.IsOneLineLiteral (Quoted.quote s) ∧
        ∀ s', Quoted.Denotes (Quoted.quote s) s' ↔ s' = s) ∧
      Function.Injective Quoted.quote ∧
      ∀ scales sensors rules catalog, Catalog.build scales sensors rules = .ok catalog →
        ∀ source, ∃ below, render catalog (UnitIndex.ofGroups catalog.groups.values) source =
            .ok (header ++ labelLines catalog ++ below) ∧
          ∀ region, Text.lines (text (header ++ labelLines catalog ++ below ++ region)) =
            header ++ labelLines catalog ++ Text.lines (text (below ++ region)) := by
  refine ⟨fun s => ⟨(Quoted.denotes_quote s).isOneLineLiteral, fun _ => Quoted.denotes_quote_iff⟩,
    Quoted.quote_injective, fun scales sensors rules catalog h source => ?_⟩
  refine ⟨belowLabels catalog (source.blobUrl source.sensorTypesPath), ?_,
    lines_text_labels h _⟩
  rw [render_eq h, generatedLines_eq]

/-- A document with one sensor type. Its label has quotes, text that looks like an escape, and a
character without a visible form before digits. -/
def escapedSensors : SensorDocument :=
  .ofList [("0x01", ⟨"Air \"\\u\x7b41\x7d\\\" \x0741\r\n", .own ∅⟩)]

/-- The line with that label. -/
def escapedLine : String :=
  "pub const AIR_U_41_41_PROPERTY: &str = \"Air \\\"\\\\u\x7b41\x7d\\\\\\\" \\u\x7b7\x7d41\\r\\n\";"

/-- It is a line of a file. -/
theorem exists_render_labelLines_escaped :
    ∃ catalog lines, Catalog.build ∅ escapedSensors ⟨[]⟩ = .ok catalog ∧
      render catalog (UnitIndex.ofGroups catalog.groups.values) { } = .ok lines ∧
      escapedLine ∈ Text.lines (text (lines ++ ["// by hand"])) := by
  obtain ⟨-, -, hlabels⟩ := exists_render_labelLines
  obtain ⟨catalog, h, hline⟩ := Fallible.exists_eq_ok_of_any
    (x := Catalog.build ∅ escapedSensors ⟨[]⟩)
    (p := fun catalog => escapedLine ∈ labelLines catalog) (by decide +kernel)
  obtain ⟨below, hrender, hlines⟩ := hlabels _ _ _ _ h { }
  refine ⟨catalog, _, h, hrender, ?_⟩
  rw [hlines]
  exact List.mem_append_left _ (List.mem_append_right _ (of_decide_eq_true hline))

end SensorCatalog.ConstantsFile
