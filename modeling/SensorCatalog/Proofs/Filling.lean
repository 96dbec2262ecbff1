import SensorCatalog.Proofs.Fallible
import SensorCatalog.Proofs.OneToOne
import SensorCatalog.Proofs.Table

/-!
# Filling a table

A table is filled from a list by binding a new key for each element. That works out exactly if the
elements have different keys, and then the new bindings correspond to the elements one to one.

## Main definitions

* `Table.Adds`: a table with a new binding for each element of a list.

## Main results

* `Table.foldlM_eq_ok_iff_adds`: filling a table step by step.
* `Table.exists_oneToOne_iff`: when the elements of a list make up a table.
-/

namespace SensorCatalog.Table

variable {α β : Type} {R : α → String × β → Prop} {as as' : List α} {t t' : Table β}

/-- A table has the bindings of another one and, beside them, a binding for each element of a
list. -/
def Adds (R : α → String × β → Prop) (as : List α) (t t' : Table β) : Prop :=
  ∃ added, OneToOne R as added ∧ t'.entries.Perm (added ++ t.entries)

theorem adds_nil_iff : Adds R [] t t' ↔ t' = t := by
  simp only [Adds, OneToOne.nil_left_iff, exists_eq_left, List.nil_append]
  exact ⟨eq_of_entries_perm, fun h => h ▸ .refl _⟩

theorem adds_cons_iff {a : α} :
    Adds R (a :: as) t t' ↔
      ∃ e, R a e ∧ t.find? e.1 = none ∧ Adds R as (t.insert e.1 e.2) t' := by
  constructor
  · rintro ⟨added, hadded, hperm⟩
    obtain ⟨e, es, hae, hes, hcons⟩ := OneToOne.cons_left_iff.1 hadded
    have hall : t'.entries.Perm (es ++ e :: t.entries) :=
      (hperm.trans (hcons.append_right _)).trans List.perm_middle.symm
    have hnew : t.find? e.1 = none := by
      have hnodup := (hall.map Prod.fst).nodup_iff.1 t'.nodup_keys
      rw [List.map_append, List.map_cons, List.nodup_append, List.nodup_cons] at hnodup
      exact find?_eq_none_iff.2 fun e' he' hkey =>
        hnodup.2.1.1 (List.mem_map.2 ⟨e', he', hkey⟩)
    exact ⟨e, hae, hnew, es, hes, hall.trans ((entries_insert_perm hnew).symm.append_left es)⟩
  · rintro ⟨e, hae, hnew, es, hes, hperm⟩
    refine ⟨e :: es, OneToOne.cons_left_iff.2 ⟨e, es, hae, hes, .refl _⟩, ?_⟩
    exact (hperm.trans ((entries_insert_perm hnew).append_left es)).trans List.perm_middle

theorem adds_append_iff :
    Adds R (as ++ as') t t' ↔ ∃ mid, Adds R as t mid ∧ Adds R as' mid t' := by
  induction as generalizing t with
  | nil => simp [adds_nil_iff]
  | cons a as ih =>
    rw [List.cons_append, adds_cons_iff]
    simp only [ih, adds_cons_iff]
    constructor
    · rintro ⟨e, hae, hnew, mid, hmid, hrest⟩
      exact ⟨mid, ⟨e, hae, hnew, hmid⟩, hrest⟩
    · rintro ⟨mid, ⟨e, hae, hnew, hmid⟩, hrest⟩
      exact ⟨e, hae, hnew, mid, hmid, hrest⟩

theorem adds_map_left_iff {γ : Type} {f : γ → α} {cs : List γ} :
    Adds R (cs.map f) t t' ↔ Adds (fun c => R (f c)) cs t t' := by
  simp only [Adds, OneToOne.map_left_iff]

theorem adds_empty_iff : Adds R as ∅ t' ↔ OneToOne R as t'.entries := by
  constructor
  · rintro ⟨added, hadded, hperm⟩
    exact hadded.perm_right (by simpa using hperm)
  · exact fun h => ⟨t'.entries, h, by simp⟩

/-- **Filling a table.** Steps that each add a new binding for an element of a list succeed with a
table exactly if its new bindings correspond to the elements one to one. -/
theorem foldlM_eq_ok_iff_adds {ε : Type} {f : Table β → α → Except ε (Table β)}
    (hf : ∀ {t a t'}, f t a = .ok t' ↔
      ∃ e, R a e ∧ t.find? e.1 = none ∧ t' = t.insert e.1 e.2) :
    as.foldlM f t = .ok t' ↔ Adds R as t t' := by
  induction as generalizing t with
  | nil =>
    rw [List.foldlM_nil, adds_nil_iff]
    exact ⟨fun h => (Except.ok.inj h).symm, fun h => h ▸ rfl⟩
  | cons a as ih =>
    rw [List.foldlM_cons, Fallible.bind_eq_ok_iff, adds_cons_iff]
    simp only [hf, ih]
    constructor
    · rintro ⟨_, ⟨e, hae, hnew, rfl⟩, hrest⟩
      exact ⟨e, hae, hnew, hrest⟩
    · rintro ⟨e, hae, hnew, hrest⟩
      exact ⟨_, ⟨e, hae, hnew, rfl⟩, hrest⟩

/-- Bindings that correspond one to one make up tables that do, if no key is repeated. -/
theorem oneToOne_ofList {R : String × α → String × β → Prop} {l : List (String × α)}
    {l' : List (String × β)} (h : (l.map Prod.fst).Nodup) (h' : (l'.map Prod.fst).Nodup)
    (hR : OneToOne R l l') : OneToOne R (ofList l).entries (ofList l').entries :=
  (hR.perm_left (entries_ofList_perm h)).perm_right (entries_ofList_perm h')

/-- Elements with keys of their own make up a table exactly if each has a binding and no two have
the same key. -/
theorem exists_oneToOne_iff {key? : α → Option String}
    (hkey : ∀ a e, R a e → key? a = some e.1) :
    (∃ t : Table β, OneToOne R as t.entries) ↔
      (∀ a ∈ as, ∃ e, R a e) ∧ (as.filterMap key?).Nodup := by
  have hkeys : ∀ {es}, OneToOne R as es → (es.map Prod.fst).Perm (as.filterMap key?) := by
    intro es hes
    have hsome := hes.map_perm (g := fun e => some e.1) fun h => (hkey _ _ h).symm
    simpa [List.filterMap_map, Function.comp_def] using hsome.filterMap id
  constructor
  · rintro ⟨t, ht⟩
    refine ⟨fun a ha => ?_, (hkeys ht).nodup_iff.1 t.nodup_keys⟩
    obtain ⟨e, -, hae⟩ := ht.exists_right_of_mem ha
    exact ⟨e, hae⟩
  · rintro ⟨hall, hnodup⟩
    obtain ⟨es, hes⟩ := OneToOne.exists_of_forall hall
    obtain ⟨t, ht⟩ := exists_entries_perm_iff.2 ((hkeys hes).nodup_iff.2 hnodup)
    exact ⟨t, hes.perm_right ht⟩

end SensorCatalog.Table
