import SensorCatalog.ConstantsFile.Render
import SensorCatalog.Proofs.Catalog.Entries
import SensorCatalog.Proofs.Catalog.UnitIndex
import SensorCatalog.Proofs.Label.Alphabet
import SensorCatalog.Proofs.Text.Shape

/-!
# Names in the generated part

Whatever the documents hold, what a catalogue gives to the generated part to name its items with are
tokens, names of classes and numbers. All of these are letters, digits and underscores.

## Main results

* `ConstantsFile.isNameText_token`, `ConstantsFile.isNameText_className`: tokens and classes.
* `ConstantsFile.isNameText_of_mem_units`: the names in the lists of scales by unit.
-/

namespace SensorCatalog.ConstantsFile

open Text (IsNameText)

/-- Fixed names. -/
theorem isNameText_ofList {cs : List Char} (h : cs.all Text.isNameChar = true) :
    IsNameText (String.ofList cs) := by
  intro c hc
  rw [String.toList_ofList] at hc
  exact List.all_eq_true.1 h c hc

theorem isNameText_token (parentheses : Label.Parentheses) (label : String) :
    IsNameText (Label.token parentheses label) := by
  intro c hc
  rw [Text.isNameChar, Bool.or_eq_true, beq_iff_eq, Label.isAlphanum_iff]
  rcases Label.mem_token hc with h | h | h
  · exact .inl (.inl (.inl h))
  · exact .inl (.inr h)
  · exact .inr h

theorem isNameText_className (name : String) : IsNameText (Label.className name) :=
  fun _ hc => Bool.or_eq_true_iff.2 (.inl (Label.mem_className hc))

theorem isNameText_toString (n : Nat) : IsNameText (toString n) := by
  intro c hc
  have hdigit : c ∈ Nat.toDigits 10 n := by simpa using hc
  exact Bool.or_eq_true_iff.2 (.inl (Label.isAlphanum_iff.2
    (.inr (Nat.isDigit_of_mem_toDigits (by decide) (by decide) hdigit))))

section

variable {scales : ScaleDocument} {sensors : SensorDocument} {rules : NameRules}
  {catalog : Catalog}

theorem isNameText_sensorToken (h : Catalog.build scales sensors rules = .ok catalog)
    {e : String × SensorType} (he : e ∈ catalog.sensors.entries) : IsNameText e.1 := by
  obtain ⟨parentheses, label, htoken⟩ := Catalog.exists_token_eq h he
  exact htoken ▸ isNameText_token parentheses label

theorem isNameText_scaleToken (h : Catalog.build scales sensors rules = .ok catalog)
    {group : ScaleGroup} (hgroup : group ∈ catalog.groups.values) {e : String × Scale}
    (he : e ∈ group.scales.entries) : IsNameText e.1 := by
  obtain ⟨label, htoken⟩ := Catalog.exists_scaleToken_eq h hgroup he
  exact htoken ▸ isNameText_token .dropped label

/-- **The names in the lists of scales.** A list has a token, and its members have a class and a
token. -/
theorem isNameText_of_mem_units (h : Catalog.build scales sensors rules = .ok catalog) :
    ∀ e ∈ (UnitIndex.ofGroups catalog.groups.values).entries,
      IsNameText e.1 ∧ ∀ m ∈ e.2, IsNameText m.className ∧ IsNameText m.token := by
  intro e he
  have hindex := UnitIndex.isIndexOf_ofGroups catalog.groups.values
  have hmember : ∀ m ∈ e.2, IsNameText m.className ∧ IsNameText m.token := by
    intro m hm
    obtain ⟨hm, -⟩ := (hindex.mem_iff e he m).1 hm
    obtain ⟨group, hgroup, hm⟩ := List.mem_flatMap.1 hm
    obtain ⟨_, htoken, rfl⟩ := List.mem_map.1 hm
    obtain ⟨e', he', rfl⟩ := List.mem_map.1 htoken
    exact ⟨isNameText_className group.name, isNameText_scaleToken h hgroup he'⟩
  refine ⟨?_, hmember⟩
  obtain ⟨m, hm⟩ := List.exists_mem_of_ne_nil _ (hindex.ne_nil e he)
  rw [← ((hindex.mem_iff e he m).1 hm).2]
  exact (hmember m hm).2

end

end SensorCatalog.ConstantsFile
