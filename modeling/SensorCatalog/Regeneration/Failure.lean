import SensorCatalog.Catalog.Refusal
import SensorCatalog.ConstantsFile.Render
import SensorCatalog.Json.Failure
import SensorCatalog.Url.Fault

/-!
# Failures of a regeneration

## Main definitions

* `Regeneration.DocumentKind`: the two documents.
* `Regeneration.Failure`, `Regeneration.Failure.message`: why a file is not regenerated, and how
  that is said.
-/

namespace SensorCatalog.Regeneration

/-- The documents that a file is generated from. -/
inductive DocumentKind where
  /-- The document of the sensor types. -/
  | sensorTypes
  /-- The document of the shared groups of scales. -/
  | scales
  deriving DecidableEq

/-- How a document is named. -/
def DocumentKind.name : DocumentKind → String
  | .sensorTypes => "sensor types"
  | .scales => "scales"

/-- How it is said that a document with a name cannot be read. -/
def unreadable (document : String) (e : Json.Error) : String :=
  "could not parse " ++ document ++ " document: " ++ e.message

/-- Why a file is not regenerated. -/
inductive Failure where
  /-- A document has no URL. -/
  | url (fault : Url.Fault)
  /-- A document cannot be fetched. -/
  | request (address reason : String)
  /-- A document cannot be read. -/
  | parse (document : DocumentKind) (e : Json.Error)
  /-- The documents make no catalogue. -/
  | build (refusal : Refusal)
  /-- The catalogue is not complete. -/
  | render (missing : ConstantsFile.MissingGroup)
  /-- The end of the generated part is not marked in the file. -/
  | missingMarker
  /-- The file cannot be read. -/
  | readPrevious (path reason : String)
  /-- The file cannot be written, or not all of it. -/
  | write (path reason : String)

/-- How a failure is said. -/
def Failure.message : Failure → String
  | .url fault => "could not build document URL: " ++ fault.message
  | .request address reason => "request for " ++ address ++ " failed: " ++ reason
  | .parse document e => unreadable document.name e
  | .build refusal => refusal.message
  | .render missing => missing.message
  | .missingMarker =>
    "previous file has no end of autogenerated content marker; refusing to overwrite it"
  | .readPrevious path reason => "could not read previous file " ++ path ++ ": " ++ reason
  | .write path reason => "could not write " ++ path ++ ": " ++ reason

end SensorCatalog.Regeneration
