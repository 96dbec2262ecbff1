import SensorCatalog.Catalog.Build
import SensorCatalog.ConstantsFile.Splice
import SensorCatalog.Document.Reading
import SensorCatalog.Regeneration.Failure
import SensorCatalog.Regeneration.Settings

/-!
# The regenerated file

From the texts of the two documents and the text of the constants file comes the new text of the
constants file. Nothing else is looked at.

## Main definitions

* `Regeneration.Documents`: the texts of the documents.
* `Regeneration.catalog`: the catalogue of the documents.
* `Regeneration.renderFile`: the new text of the file.
-/

namespace SensorCatalog.Regeneration

/-- The texts of the two documents, without comments. -/
structure Documents where
  /-- The text of the document of the sensor types. -/
  sensorTypes : String
  /-- The text of the document of the shared groups of scales. -/
  scales : String
  deriving DecidableEq

/-- The catalogue of two documents. -/
def catalog (documents : Documents) (settings : Settings) : Except Failure Catalog := do
  let sensors ← (SensorDocument.parse documents.sensorTypes).mapError (.parse .sensorTypes)
  let scales ← (ScaleDocument.parse documents.scales).mapError (.parse .scales)
  (Catalog.build scales sensors ⟨settings.keepingIds⟩).mapError .build

/-- The generated part of the file for a catalogue. -/
def generatedPart (catalog : Catalog) (settings : Settings) : Except Failure (List String) :=
  (ConstantsFile.render catalog (UnitIndex.ofGroups catalog.groups.values)
    settings.source).mapError .render

/-- The new text of the constants file. -/
def renderFile (documents : Documents) (previous : String) (settings : Settings) :
    Except Failure String := do
  let catalog ← catalog documents settings
  let generated ← generatedPart catalog settings
  match ConstantsFile.splice? generated previous with
  | some lines => return ConstantsFile.text lines
  | none => .error .missingMarker

end SensorCatalog.Regeneration
