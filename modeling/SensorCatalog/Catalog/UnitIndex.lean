import SensorCatalog.Catalog.Basic

/-!
# Scales by unit

Scales of several groups can have the same token, as they stand for the same unit. The index lists
under each token the members of scale classes that have it.

## Main definitions

* `ClassMember`: a member of a scale class.
* `UnitIndex.ofGroups`: the index of a list of groups.
-/

namespace SensorCatalog

/-- A member of a scale class. -/
structure ClassMember where
  /-- The name of the class. -/
  className : String
  /-- The token of the scale. -/
  token : String
  deriving DecidableEq

namespace ClassMember

/-- The name of a member in full. -/
def qualifiedName (m : ClassMember) : String :=
  m.className ++ "." ++ m.token

/-- Members are ordered by class and then by token. -/
def before (a b : ClassMember) : Bool :=
  a.className < b.className || (a.className == b.className && a.token < b.token)

/-- Puts a member in its place among members in order; a member is listed once. -/
def insertInto (m : ClassMember) : List ClassMember → List ClassMember
  | [] => [m]
  | first :: rest =>
    if m.before first then m :: first :: rest
    else if first.before m then first :: m.insertInto rest
    else first :: rest

end ClassMember

/-- The members of scale classes by token, the members of each token in order. -/
abbrev UnitIndex := Table (List ClassMember)

namespace UnitIndex

/-- Lists a member under its token. -/
def add (index : UnitIndex) (m : ClassMember) : UnitIndex :=
  index.insert m.token (m.insertInto ((index.find? m.token).getD []))

/-- The members of a group's class. -/
def membersOf (group : ScaleGroup) : List ClassMember :=
  group.scales.keys.map fun token => ⟨group.className, token⟩

/-- The index of a list of groups. -/
def ofGroups (groups : List ScaleGroup) : UnitIndex :=
  (groups.flatMap membersOf).foldl add ∅

end UnitIndex

end SensorCatalog
