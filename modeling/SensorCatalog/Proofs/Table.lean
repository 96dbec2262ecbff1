import SensorCatalog.Table
import Mathlib.Data.List.Induction
import Mathlib.Data.List.Nodup
import Mathlib.Data.List.Perm.Basic
import Mathlib.Data.List.Sort

/-!
# What a table binds

A key has at most one value, so looking a key up is asking for a binding, and binding a key replaces
the binding of that key only.

## Main results

* `Table.find?_eq_some_iff`, `Table.find?_eq_none_iff`: looking a key up.
* `Table.entries_sublist_of_subset`: a table that is part of another one is so in order.
* `Table.mem_entries_insert_iff`: the bindings after a key has been bound.
* `Table.exists_entries_perm_iff`: the bindings that make up a table.
* `Table.entries_ofList_perm`: the table of a list of bindings has them all if no key is repeated.
-/

namespace SensorCatalog.Table

variable {α : Type} {t t' : Table α} {key : String} {value : α} {e : String × α}

/-! ### Looking a key up -/

theorem nodup_keys (t : Table α) : t.keys.Nodup :=
  t.pairwise_keys.imp String.ne_of_lt

theorem nodup_entries (t : Table α) : t.entries.Nodup :=
  .of_map _ t.nodup_keys

/-- A key has one value. -/
theorem eq_of_mem_entries {e' : String × α} (h : e ∈ t.entries) (h' : e' ∈ t.entries)
    (hkey : e.1 = e'.1) : e = e' :=
  List.inj_on_of_nodup_map t.nodup_keys h h' hkey

theorem find?_eq_some_iff : t.find? key = some value ↔ (key, value) ∈ t.entries := by
  rw [find?, Option.map_eq_some_iff]
  constructor
  · rintro ⟨e, he, rfl⟩
    obtain rfl : e.1 = key := by simpa using List.find?_some he
    exact List.mem_of_find?_eq_some he
  · intro h
    obtain ⟨e, he⟩ : ∃ e, t.entries.find? (fun e => e.1 == key) = some e := by
      rw [← Option.isSome_iff_exists, List.find?_isSome]
      exact ⟨(key, value), h, beq_self_eq_true key⟩
    have hkey : e.1 = key := by simpa using List.find?_some he
    exact ⟨e, he, by rw [eq_of_mem_entries (List.mem_of_find?_eq_some he) h hkey]⟩

theorem find?_eq_none_iff : t.find? key = none ↔ ∀ e ∈ t.entries, e.1 ≠ key := by
  simp [find?]

theorem contains_iff : t.contains key ↔ ∃ value, (key, value) ∈ t.entries := by
  simp [contains]

theorem mem_values {value : α} : value ∈ t.values ↔ ∃ key, (key, value) ∈ t.entries := by
  simp [values]

/-- A table is listed by looking its keys up. -/
theorem entries_eq_map_keys (t : Table α) (default : α) :
    t.entries = t.keys.map fun key => (key, (t.find? key).getD default) := by
  rw [keys, List.map_map]
  refine ((List.map_congr_left fun e he => ?_).trans (List.map_id t.entries)).symm
  rw [Function.comp_apply, find?_eq_some_iff.2 he]
  rfl

/-! ### Tables that are part of others -/

/-- Keys that are among those of another table come in the same order there. -/
theorem keys_sublist_of_subset {β : Type} {t' : Table β} (h : t.keys ⊆ t'.keys) :
    t.keys.Sublist t'.keys := by
  have hantisymm : Std.Antisymm fun key key' : String => key < key' :=
    ⟨fun _ _ hlt hgt => absurd (String.lt_trans hlt hgt) (String.lt_irrefl _)⟩
  exact List.sublist_of_subperm_of_pairwise (List.subperm_of_subset t.nodup_keys h)
    t.pairwise_keys t'.pairwise_keys

/-- So do bindings. -/
theorem entries_sublist_of_subset (h : t.entries ⊆ t'.entries) :
    t.entries.Sublist t'.entries := by
  have hantisymm : Std.Antisymm fun e e' : String × α => e.1 < e'.1 :=
    ⟨fun _ _ hlt hgt => absurd (String.lt_trans hlt hgt) (String.lt_irrefl _)⟩
  exact List.sublist_of_subperm_of_pairwise (List.subperm_of_subset t.nodup_entries h) t.sorted
    t'.sorted

/-! ### Binding a key -/

theorem mem_insertEntry_iff {l : List (String × α)} (h : l.Pairwise fun a b => a.1 < b.1) :
    e ∈ insertEntry key value l ↔ e = (key, value) ∨ e ∈ l ∧ e.1 ≠ key := by
  induction l with
  | nil => simp [insertEntry]
  | cons entry rest ih =>
    obtain ⟨hfirst, hrest⟩ := List.pairwise_cons.1 h
    rw [insertEntry]
    split
    · next hlt =>
      have hne : ∀ e ∈ entry :: rest, e.1 ≠ key := by
        refine List.forall_mem_cons.2 ⟨(String.ne_of_lt hlt).symm, fun e he => ?_⟩
        exact (String.ne_of_lt (String.lt_trans hlt (hfirst e he))).symm
      rw [List.mem_cons]
      exact or_congr_right (iff_self_and.2 (hne e))
    · next hnlt =>
      split
      · next hgt =>
        rw [List.mem_cons, ih hrest, List.mem_cons, or_and_right, or_left_comm]
        refine or_congr_right (or_congr_left (iff_self_and.2 ?_))
        rintro rfl
        exact String.ne_of_lt hgt
      · next hngt =>
        obtain rfl : key = entry.1 :=
          String.le_antisymm (String.not_lt.1 hngt) (String.not_lt.1 hnlt)
        have hne : ∀ e ∈ rest, e.1 ≠ entry.1 :=
          fun e he => (String.ne_of_lt (hfirst e he)).symm
        rw [List.mem_cons, List.mem_cons, or_and_right]
        refine or_congr_right ?_
        constructor
        · exact fun he => .inr ⟨he, hne e he⟩
        · rintro (⟨rfl, hself⟩ | ⟨he, -⟩)
          · exact absurd rfl hself
          · exact he

/-- After a key has been bound, it has the new binding and all other keys have theirs. -/
theorem mem_entries_insert_iff :
    e ∈ (t.insert key value).entries ↔ e = (key, value) ∨ e ∈ t.entries ∧ e.1 ≠ key :=
  mem_insertEntry_iff t.sorted

theorem mem_entries_insert_of_find?_eq_none (h : t.find? key = none) :
    e ∈ (t.insert key value).entries ↔ e = (key, value) ∨ e ∈ t.entries := by
  rw [mem_entries_insert_iff, and_iff_left_of_imp fun he => find?_eq_none_iff.1 h e he]

theorem contains_insert_iff {key' : String} :
    (t.insert key value).contains key' ↔ key' = key ∨ t.contains key' := by
  simp only [contains_iff, mem_entries_insert_iff, Prod.mk.injEq]
  by_cases hkey : key' = key <;> simp [hkey]

/-! ### Bindings in any order -/

/-- A table is determined by its bindings. -/
theorem eq_of_entries_perm (h : t.entries.Perm t'.entries) : t = t' := by
  refine Table.ext (h.eq_of_pairwise (fun e e' _ _ hlt hgt => ?_) t.sorted t'.sorted)
  exact absurd (String.lt_trans hlt hgt) (String.lt_irrefl _)

theorem entries_insert_perm (h : t.find? key = none) :
    (t.insert key value).entries.Perm ((key, value) :: t.entries) := by
  have hnew : (key, value) ∉ t.entries := fun hmem => find?_eq_none_iff.1 h _ hmem rfl
  rw [List.perm_ext_iff_of_nodup (nodup_entries _) (List.nodup_cons.2 ⟨hnew, nodup_entries t⟩)]
  intro e
  rw [mem_entries_insert_of_find?_eq_none h, List.mem_cons]

/-- Bindings make up a table exactly if they have different keys. -/
theorem exists_entries_perm_iff {l : List (String × α)} :
    (∃ t : Table α, t.entries.Perm l) ↔ (l.map Prod.fst).Nodup := by
  constructor
  · rintro ⟨t, hperm⟩
    exact (hperm.map Prod.fst).nodup_iff.1 t.nodup_keys
  · intro hnodup
    induction l with
    | nil => exact ⟨∅, .refl _⟩
    | cons e l ih =>
      rw [List.map_cons, List.nodup_cons] at hnodup
      obtain ⟨t, ht⟩ := ih hnodup.2
      have hnew : t.find? e.1 = none := find?_eq_none_iff.2 fun e' he' hkey =>
        hnodup.1 (List.mem_map.2 ⟨e', ht.mem_iff.1 he', hkey⟩)
      exact ⟨t.insert e.1 e.2, (entries_insert_perm hnew).trans (ht.cons e)⟩

theorem ofList_concat (l : List (String × α)) (e : String × α) :
    ofList (l ++ [e]) = (ofList l).insert e.1 e.2 := by
  rw [ofList, List.foldl_append]
  rfl

/-- **The table of a list of bindings** has them all if no key is repeated. -/
theorem entries_ofList_perm {l : List (String × α)} (h : (l.map Prod.fst).Nodup) :
    (ofList l).entries.Perm l := by
  induction l using List.reverseRecOn with
  | nil => exact .refl _
  | append_singleton l e ih =>
    rw [List.map_append, List.nodup_append] at h
    obtain ⟨hl, -, hapart⟩ := h
    have hperm := ih hl
    have hnew : (ofList l).find? e.1 = none := find?_eq_none_iff.2 fun e' he' hkey =>
      hapart e'.1 (List.mem_map_of_mem (hperm.mem_iff.1 he')) e.1 (by simp) hkey
    rw [ofList_concat]
    exact ((entries_insert_perm hnew).trans (hperm.cons e)).trans
      (List.perm_append_singleton e l).symm

/-- A table is made again from its bindings in any order. -/
theorem ofList_eq_of_entries_perm {l : List (String × α)} (h : t.entries.Perm l) :
    ofList l = t := by
  have hnodup : (l.map Prod.fst).Nodup := exists_entries_perm_iff.1 ⟨t, h⟩
  exact eq_of_entries_perm ((entries_ofList_perm hnodup).trans h.symm)

end SensorCatalog.Table
