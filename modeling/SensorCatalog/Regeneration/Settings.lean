import SensorCatalog.Source

/-!
# Settings of a regeneration

## Main definitions

* `Settings`: where everything is and what is to be done.
-/

namespace SensorCatalog

/-- Where everything is and what is to be done. -/
structure Settings where
  /-- Where the documents live. -/
  source : Source := {}
  /-- The path of the constants file. The usual one is given from the root of the project; a program
  that runs elsewhere has to put the path of that root before it. -/
  destination : String := "generated/multilevel_sensor.rs"
  /-- How long fetching a document may take, in seconds. -/
  fetchTimeout : Nat := 10
  /-- The ids of the sensor types that are told apart by the parenthesized parts of their labels. -/
  keepingIds : List UInt8 := [0x57, 0x58]
  /-- The file is to be formatted. -/
  runFormatter : Bool := true
  /-- The version control is to be asked whether the file has changed. -/
  runRepositoryCheck : Bool := true
  deriving DecidableEq

end SensorCatalog
