import SensorCatalog.Url.Reference

/-!
# Where the documents live

The documents are files of a project that is kept in branches. They are fetched from a place that
serves raw files, and readers of the generated code are sent to a place that shows them. The raw URL
of a document is a reference relative to the first place; the other URL is only text.

## Main definitions

* `Source`: the two places, the project and the paths of the documents.
* `Source.rawUrl`, `Source.blobUrl`: the URLs of a document.
-/

namespace SensorCatalog

/-- Where the documents live. -/
structure Source where
  /-- The URL of the place that serves raw files. -/
  rawBase : String := "https://raw.githubusercontent.com"
  /-- The URL of the place that shows files. -/
  blobBase : String := "https://github.com"
  /-- The project. -/
  project : String := "zwave-js/node-zwave-js"
  /-- The branch. -/
  branch : String := "master"
  /-- The path of the document of the sensor types. -/
  sensorTypesPath : String := "packages/config/config/sensorTypes.json"
  /-- The path of the document of the shared groups of scales. -/
  scalesPath : String := "packages/config/config/scales.json"
  deriving DecidableEq

namespace Source

/-- The URL to fetch the document at a path from. -/
def rawUrl (source : Source) (path : String) : Except Url.Fault Url := do
  Url.resolve (← Url.parse source.rawBase) (source.project ++ "/" ++ source.branch ++ "/" ++ path)

/-- The URL of the page that shows the document at a path. Slashes at the end of the place do not
count. -/
def blobUrl (source : Source) (path : String) : String :=
  String.ofList (Text.dropTrailing (· == '/') source.blobBase.toList) ++ "/" ++ source.project ++
    "/blob/" ++ source.branch ++ "/" ++ path

/-- The URL to fetch the document of the sensor types from. -/
def sensorTypesUrl (source : Source) : Except Url.Fault Url :=
  source.rawUrl source.sensorTypesPath

/-- The URL to fetch the document of the shared groups from. -/
def scalesUrl (source : Source) : Except Url.Fault Url :=
  source.rawUrl source.scalesPath

end Source

end SensorCatalog
