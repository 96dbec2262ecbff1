import SensorCatalog.Proofs.Catalog.Entries
import SensorCatalog.Proofs.Catalog.UnitIndex
import Mathlib.Algebra.Ring.Nat
import Mathlib.Data.List.Dedup

/-!
# The index of units, exactly

What the index of some groups lists can be said without making it: it has the tokens of the groups,
and under a token, in order, the pairs of a class and the token for the groups that have the token.
There is one table like that. So the index does not depend on the order of the groups, nor on how
often a group is given; and groups whose classes have one name share their members. The classes of a
catalogue have different names, so its index lists every scale.

## Main definitions

* `UnitIndex.IsExact`: what the index of some groups lists.

## Main results

* `UnitIndex.isExact_iff`: the index is the only table that lists it.
* `UnitIndex.ofGroups_congr`: it does not depend on the order of the groups.
* `UnitIndex.flatten_values_perm_dedup`: the members of all tokens together.
* `UnitIndex.isExact_iff_and_sum_length`: all of this, and what it says of a catalogue.
-/

namespace SensorCatalog.UnitIndex

/-- A table lists under each token of some groups, in order, the members of their classes that have
the token. -/
structure IsExact (groups : List ScaleGroup) (index : UnitIndex) : Prop where
  /-- The tokens are those of the scales of the groups. -/
  mem_keys : ∀ token, token ∈ index.keys ↔ ∃ group ∈ groups, token ∈ group.scales.keys
  /-- The tokens are in order. -/
  keys_increase : index.keys.Pairwise (· < ·)
  /-- Each group that has a token gives one member. -/
  mem_iff : ∀ e ∈ index.entries, ∀ m,
    m ∈ e.2 ↔ ∃ group ∈ groups, e.1 ∈ group.scales.keys ∧ m = ⟨group.className, e.1⟩
  /-- The members of a token are in order. -/
  members_increase : ∀ e ∈ index.entries, e.2.Pairwise fun a b => a.before b

variable {groups groups' : List ScaleGroup} {index index' : UnitIndex}

theorem isExact_ofGroups (groups : List ScaleGroup) : IsExact groups (ofGroups groups) where
  mem_keys _ := mem_keys_ofGroups
  keys_increase := (ofGroups groups).pairwise_keys
  mem_iff e he m := by
    rw [(isIndexOf_ofGroups groups).mem_iff e he, List.mem_flatMap]
    constructor
    · rintro ⟨⟨group, hgroup, hm⟩, htoken⟩
      obtain ⟨hclass, hkey⟩ := mem_membersOf.1 hm
      exact ⟨group, hgroup, htoken ▸ hkey, by rw [← hclass, ← htoken]⟩
    · rintro ⟨group, hgroup, hkey, rfl⟩
      exact ⟨⟨group, hgroup, mem_membersOf.2 ⟨rfl, hkey⟩⟩, rfl⟩
  members_increase := isOrdered_ofGroups groups

/-- Which groups there are is all that counts. -/
theorem IsExact.congr (h : IsExact groups index)
    (hmem : ∀ group, group ∈ groups ↔ group ∈ groups') : IsExact groups' index where
  mem_keys token := by simpa only [hmem] using h.mem_keys token
  keys_increase := h.keys_increase
  mem_iff e he m := by simpa only [hmem] using h.mem_iff e he m
  members_increase := h.members_increase

theorem IsExact.entries_subset (h : IsExact groups index) (h' : IsExact groups index') :
    index.entries ⊆ index'.entries := by
  intro e he
  have hkey : e.1 ∈ index'.keys :=
    (h'.mem_keys e.1).2 ((h.mem_keys e.1).1 (List.mem_map.2 ⟨e, he, rfl⟩))
  obtain ⟨e', he', hkey⟩ := List.mem_map.1 hkey
  have hmembers : e'.2 = e.2 := by
    refine (h'.members_increase e' he').eq_of_mem_iff (h.members_increase e he) fun m => ?_
    rw [h'.mem_iff e' he', h.mem_iff e he, hkey]
  exact Prod.ext hkey hmembers ▸ he'

/-- **The index is the only exact one.** -/
theorem isExact_iff : IsExact groups index ↔ index = ofGroups groups := by
  constructor
  · intro h
    have hexact := isExact_ofGroups groups
    exact Table.ext ((Table.entries_sublist_of_subset (h.entries_subset hexact)).antisymm
      (Table.entries_sublist_of_subset (hexact.entries_subset h)))
  · rintro rfl
    exact isExact_ofGroups groups

/-- The index does not depend on the order of the groups. -/
theorem ofGroups_congr (hmem : ∀ group, group ∈ groups ↔ group ∈ groups') :
    ofGroups groups = ofGroups groups' :=
  isExact_iff.1 ((isExact_ofGroups groups).congr hmem)

/-! ### All members -/

theorem mem_flatten_values {m : ClassMember} :
    m ∈ (ofGroups groups).values.flatten ↔ m ∈ groups.flatMap membersOf := by
  have hindex := isIndexOf_ofGroups groups
  rw [List.mem_flatten]
  constructor
  · rintro ⟨ms, hms, hm⟩
    obtain ⟨token, he⟩ := Table.mem_values.1 hms
    exact ((hindex.mem_iff _ he m).1 hm).1
  · intro hm
    obtain ⟨ms, he⟩ := Table.contains_iff.1 (hindex.contains m hm)
    exact ⟨ms, Table.mem_values.2 ⟨_, he⟩, (hindex.mem_iff _ he m).2 ⟨hm, rfl⟩⟩

/-- No member is listed twice, as its token says where it is. -/
theorem nodup_flatten_values (groups : List ScaleGroup) :
    (ofGroups groups).values.flatten.Nodup := by
  have hindex := isIndexOf_ofGroups groups
  refine List.nodup_flatten.2 ⟨fun ms hms => ?_, ?_⟩
  · obtain ⟨token, he⟩ := Table.mem_values.1 hms
    exact nodup_of_mem_ofGroups he
  · refine List.pairwise_map.2 ((ofGroups groups).sorted.imp_of_mem fun he he' hlt m hm hm' => ?_)
    have htoken := ((hindex.mem_iff _ he m).1 hm).2
    have htoken' := ((hindex.mem_iff _ he' m).1 hm').2
    exact String.ne_of_lt hlt (htoken.symm.trans htoken')

/-- **The members of all tokens together** are the members of the groups' classes, each of them
once. -/
theorem flatten_values_perm_dedup (groups : List ScaleGroup) :
    (ofGroups groups).values.flatten.Perm (groups.flatMap membersOf).dedup := by
  rw [List.perm_ext_iff_of_nodup (nodup_flatten_values groups) (List.nodup_dedup _)]
  intro m
  rw [mem_flatten_values, List.mem_dedup]

/-- Classes with different names have no member in common. -/
theorem nodup_flatMap_membersOf (h : (groups.map ScaleGroup.className).Nodup) :
    (groups.flatMap membersOf).Nodup := by
  refine List.nodup_flatMap.2 ⟨fun group _ => ?_, ?_⟩
  · exact group.scales.nodup_keys.map fun _ _ heq => congrArg ClassMember.token heq
  · refine (List.pairwise_map.1 h).imp fun hne m hm hm' => ?_
    exact hne ((mem_membersOf.1 hm).1.symm.trans (mem_membersOf.1 hm').1)

theorem length_membersOf (group : ScaleGroup) :
    (membersOf group).length = group.scales.entries.length := by
  rw [membersOf, List.length_map, Table.keys, List.length_map]

/-- If the classes have different names, there is a member for each scale. -/
theorem sum_length_values (h : (groups.map ScaleGroup.className).Nodup) :
    ((ofGroups groups).values.map List.length).sum =
      (groups.map fun group => group.scales.entries.length).sum := by
  have hperm := flatten_values_perm_dedup groups
  rw [(nodup_flatMap_membersOf h).dedup] at hperm
  calc ((ofGroups groups).values.map List.length).sum
      = (ofGroups groups).values.flatten.length := List.length_flatten.symm
    _ = (groups.flatMap membersOf).length := hperm.length_eq
    _ = (groups.map fun group => group.scales.entries.length).sum := by
      simp only [List.length_flatMap, length_membersOf]

/-! ### The index -/

/-- **The index of units.** Of any groups, also of groups with one name or with one name of their
classes, it is the table that lists what it should, and it is the same in whatever order the groups
come. Of the groups of a catalogue it lists as many members as they have scales. -/
theorem isExact_iff_and_sum_length :
    (∀ groups index, IsExact groups index ↔ index = ofGroups groups) ∧
      (∀ groups groups' : List ScaleGroup,
        groups.Perm groups' → ofGroups groups = ofGroups groups') ∧
      ∀ scales sensors rules catalog, Catalog.build scales sensors rules = .ok catalog →
        ((ofGroups catalog.groups.values).values.map List.length).sum =
          (catalog.groups.values.map fun group => group.scales.entries.length).sum :=
  ⟨fun _ _ => isExact_iff, fun _ _ hperm => ofGroups_congr fun _ => hperm.mem_iff,
    fun _ _ _ _ h => sum_length_values (Catalog.nodup_classNames h)⟩

/-- Groups of which the first and the last have classes with one name. -/
def airGroups : List ScaleGroup :=
  [⟨"Air flow", "flow", .ofList [("LITRE", ⟨0, "Litre"⟩), ("PERCENT", ⟨1, "Percent"⟩)]⟩,
    ⟨"Air", "air", .ofList [("PERCENT", ⟨0, "Percent"⟩)]⟩,
    ⟨"Air (inner) Flow", "inner", .ofList [("PERCENT", ⟨7, "percent"⟩), ("ABS", ⟨8, "abs"⟩)]⟩]

/-- A document with a group of two scales. -/
def flowScales : ScaleDocument :=
  .ofList [("flow", .ofList [("0x00", ⟨"Litre", none, none⟩), ("0x01", ⟨"Percent", none, none⟩)])]

/-- A document with a sensor type that has a scale of its own. -/
def flowSensors : SensorDocument :=
  .ofList [("0x01", ⟨"Air flow", .own (.ofList [("0x00", ⟨"Percent", none, none⟩)])⟩)]

/-- Two classes with one name share a member, but no catalogue has such classes. -/
theorem isExact_air_and_flow :
    IsExact airGroups.reverse (ofGroups airGroups) ∧
      (ofGroups airGroups).entries = [("ABS", [⟨"AirFlowScale", "ABS"⟩]),
        ("LITRE", [⟨"AirFlowScale", "LITRE"⟩]),
        ("PERCENT", [⟨"AirFlowScale", "PERCENT"⟩, ⟨"AirScale", "PERCENT"⟩])] ∧
      ∃ catalog, Catalog.build flowScales flowSensors ⟨[]⟩ = .ok catalog ∧
        ((ofGroups catalog.groups.values).values.map List.length).sum =
          (catalog.groups.values.map fun group => group.scales.entries.length).sum := by
  obtain ⟨hexact, hperm, hsum⟩ := isExact_iff_and_sum_length
  obtain ⟨catalog, h⟩ := Fallible.exists_eq_ok_of_isOk
    (x := Catalog.build flowScales flowSensors ⟨[]⟩) (by decide +kernel)
  exact ⟨(hexact _ _).2 (hperm _ _ (List.reverse_perm _).symm), by decide +kernel,
    catalog, h, hsum _ _ _ _ h⟩

end SensorCatalog.UnitIndex
