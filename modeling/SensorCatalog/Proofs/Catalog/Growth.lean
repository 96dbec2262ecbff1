import SensorCatalog.Proofs.Catalog.Entries

/-!
# Documents that grow

What an entry of a document describes depends on that entry alone. So when entries are added to the
documents, the catalogue keeps every group and every sensor type that it had, as they were and in
the same order.

## Main definitions

* `Catalog.IsPartOf`: a catalogue has all that another one has, in the same order.

## Main results

* `Catalog.isPartOf_of_subset`: the catalogues of documents of which one has all entries of the
  other.
-/

namespace SensorCatalog

/-! ### What an entry describes -/

theorem IsScaleOf.unique {d : String × ScaleDefinition} {e e' : String × Scale}
    (h : IsScaleOf d e) (h' : IsScaleOf d e') : e = e' := by
  obtain ⟨token, id, label⟩ := e
  obtain ⟨token', id', label'⟩ := e'
  obtain rfl : token = token' := h.token.trans h'.token.symm
  obtain rfl : id = id' := Option.some.inj (h.id.symm.trans h'.id)
  obtain rfl : label = label' := h.label.trans h'.label.symm
  rfl

theorem IsGroupOf.unique {g : GroupDefinition} {e e' : String × ScaleGroup}
    (h : IsGroupOf g e) (h' : IsGroupOf g e') : e = e' := by
  obtain ⟨key, name, origin, scales⟩ := e
  obtain ⟨key', name', origin', scales'⟩ := e'
  obtain rfl : key = key' := h.key.trans h'.key.symm
  obtain rfl : name = name' := h.name.trans h'.name.symm
  obtain rfl : origin = origin' := h.origin.trans h'.origin.symm
  obtain rfl : scales = scales' :=
    Table.eq_of_entries_perm (h.scales.perm_right_of_unique h'.scales IsScaleOf.unique)
  rfl

theorem IsSensorOf.unique {rules : NameRules} {d : String × SensorDefinition}
    {e e' : String × SensorType} (h : IsSensorOf rules d e) (h' : IsSensorOf rules d e') :
    e = e' := by
  obtain ⟨id, hid, -, rfl⟩ := isSensorOf_iff.1 h
  obtain ⟨id', hid', -, rfl⟩ := isSensorOf_iff.1 h'
  obtain rfl : id = id' := Option.some.inj (hid.symm.trans hid')
  rfl

/-! ### Whole catalogues -/

section

variable {scales scales' : ScaleDocument} {sensors sensors' : SensorDocument} {rules : NameRules}
  {catalog catalog' : Catalog}

/-- Documents with more entries describe more groups. -/
theorem groupDefinitions_subset (hscales : scales.entries ⊆ scales'.entries)
    (hsensors : sensors.entries ⊆ sensors'.entries) (rules : NameRules) :
    groupDefinitions scales sensors rules ⊆ groupDefinitions scales' sensors' rules := by
  intro g hg
  rcases List.mem_append.1 hg with hg | hg
  · exact List.mem_append_left _ (List.map_subset _ hscales hg)
  · exact List.mem_append_right _ (List.filterMap_subset _ hsensors hg)

namespace Catalog

/-- A catalogue has all groups and sensor types that another one has, in the same order. -/
structure IsPartOf (catalog catalog' : Catalog) : Prop where
  groups : catalog.groups.entries.Sublist catalog'.groups.entries
  sensors : catalog.sensors.entries.Sublist catalog'.sensors.entries

theorem IsPartOf.values (h : catalog.IsPartOf catalog') :
    catalog.groups.values.Sublist catalog'.groups.values :=
  h.groups.map _

/-- **Documents that grow** keep what their catalogue has. -/
theorem isPartOf_of_subset (hscales : scales.entries ⊆ scales'.entries)
    (hsensors : sensors.entries ⊆ sensors'.entries)
    (h : build scales sensors rules = .ok catalog)
    (h' : build scales' sensors' rules = .ok catalog') : catalog.IsPartOf catalog' := by
  obtain ⟨hrepresents, -⟩ := build_eq_ok_iff_represents.1 h'
  constructor
  · refine Table.entries_sublist_of_subset fun e he => ?_
    obtain ⟨g, hg, hgroup⟩ := exists_isGroupOf h he
    obtain ⟨e', he', hgroup'⟩ := hrepresents.groups.exists_right_of_mem
      (groupDefinitions_subset hscales hsensors rules hg)
    exact hgroup.unique hgroup' ▸ he'
  · refine Table.entries_sublist_of_subset fun e he => ?_
    obtain ⟨d, hd, hsensor⟩ := exists_isSensorOf h he
    obtain ⟨e', he', hsensor'⟩ := hrepresents.sensors.exists_right_of_mem (hsensors hd)
    exact hsensor.unique hsensor' ▸ he'

end Catalog

end

end SensorCatalog
