import SensorCatalog.Catalog.UnitIndex
import SensorCatalog.Proofs.Table
import Mathlib.Data.List.Flatten
import Mathlib.Data.List.Induction

/-!
# What the index of units lists

Under each token the index lists the members of scale classes that have the token, all of them and
no others, and it has no token without a member.

## Main results

* `ClassMember.mem_insertInto`: putting a member in its place adds that member only.
* `UnitIndex.isIndexOf_ofGroups`: what the index lists.
* `UnitIndex.nodup_of_mem_ofGroups`: it lists no member twice.
* `UnitIndex.flatMap_entries_sublist`: more groups only add to what is written of the index.
-/

namespace SensorCatalog

namespace ClassMember

theorem before_iff {a b : ClassMember} : a.before b ↔
    a.className < b.className ∨ a.className = b.className ∧ a.token < b.token := by
  simp [before]

/-- Members of which neither comes before the other are the same. -/
theorem eq_of_not_before {a b : ClassMember} (h : ¬ a.before b) (h' : ¬ b.before a) : a = b := by
  rw [before_iff, not_or, not_and] at h h'
  have hclass : a.className = b.className :=
    String.le_antisymm (String.not_lt.1 h'.1) (String.not_lt.1 h.1)
  have htoken : a.token = b.token :=
    String.le_antisymm (String.not_lt.1 (h'.2 hclass.symm)) (String.not_lt.1 (h.2 hclass))
  cases a
  cases b
  exact congrArg₂ mk hclass htoken

theorem mem_insertInto {m m' : ClassMember} {ms : List ClassMember} :
    m' ∈ m.insertInto ms ↔ m' = m ∨ m' ∈ ms := by
  induction ms with
  | nil => simp [insertInto]
  | cons first rest ih =>
    rw [insertInto]
    split
    · exact List.mem_cons
    · next hbefore =>
      split
      · rw [List.mem_cons, ih, List.mem_cons, or_left_comm]
      · next hafter =>
        rw [eq_of_not_before hbefore hafter, List.mem_cons, or_self_left]

theorem before_trans {a b c : ClassMember} (hab : a.before b) (hbc : b.before c) :
    a.before c := by
  rw [before_iff] at hab hbc ⊢
  rcases hab with hab | ⟨hab, hab'⟩
  · rcases hbc with hbc | ⟨hbc, -⟩
    · exact .inl (String.lt_trans hab hbc)
    · exact .inl (hbc ▸ hab)
  · rcases hbc with hbc | ⟨hbc, hbc'⟩
    · exact .inl (hab ▸ hbc)
    · exact .inr ⟨hab.trans hbc, String.lt_trans hab' hbc'⟩

theorem not_before_self (a : ClassMember) : ¬ a.before a := by
  simp [before_iff]

instance : Std.Irrefl fun a b : ClassMember => a.before b :=
  ⟨not_before_self⟩

instance : Std.Antisymm fun a b : ClassMember => a.before b :=
  ⟨fun a _ hab hba => absurd (before_trans hab hba) (not_before_self a)⟩

theorem pairwise_insertInto {m : ClassMember} {ms : List ClassMember}
    (h : ms.Pairwise fun a b => a.before b) : (m.insertInto ms).Pairwise fun a b => a.before b := by
  induction ms with
  | nil => exact List.pairwise_singleton _ _
  | cons first rest ih =>
    obtain ⟨hfirst, hrest⟩ := List.pairwise_cons.1 h
    rw [insertInto]
    split
    · next hbefore =>
      refine List.pairwise_cons.2 ⟨fun m' hm' => ?_, h⟩
      rcases List.mem_cons.1 hm' with rfl | hm'
      · exact hbefore
      · exact before_trans hbefore (hfirst m' hm')
    · split
      · next hafter =>
        refine List.pairwise_cons.2 ⟨fun m' hm' => ?_, ih hrest⟩
        rcases mem_insertInto.1 hm' with rfl | hm'
        · exact hafter
        · exact hfirst m' hm'
      · exact h

end ClassMember

namespace UnitIndex

/-- An index lists members, all of them and each under its token. -/
structure IsIndexOf (members : List ClassMember) (index : UnitIndex) : Prop where
  /-- No token is without a member. -/
  ne_nil : ∀ e ∈ index.entries, e.2 ≠ []
  /-- A token has the members that have it. -/
  mem_iff : ∀ e ∈ index.entries, ∀ m, m ∈ e.2 ↔ m ∈ members ∧ m.token = e.1
  /-- Every member is under its token. -/
  contains : ∀ m ∈ members, index.contains m.token

/-- What is listed under a token so far. -/
theorem IsIndexOf.mem_getD_find? {members : List ClassMember} {index : UnitIndex}
    (h : IsIndexOf members index) {token : String} {m : ClassMember} :
    m ∈ (index.find? token).getD [] ↔ m ∈ members ∧ m.token = token := by
  cases hfound : index.find? token with
  | some listed => exact h.mem_iff (token, listed) (Table.find?_eq_some_iff.1 hfound) m
  | none =>
    refine iff_of_false List.not_mem_nil ?_
    rintro ⟨hm, rfl⟩
    obtain ⟨listed, hlisted⟩ := Table.contains_iff.1 (h.contains m hm)
    exact Table.find?_eq_none_iff.1 hfound _ hlisted rfl

theorem IsIndexOf.add {members : List ClassMember} {index : UnitIndex}
    (h : IsIndexOf members index) (m : ClassMember) :
    IsIndexOf (members ++ [m]) (index.add m) where
  ne_nil e he := by
    rcases Table.mem_entries_insert_iff.1 he with rfl | ⟨he, -⟩
    · exact List.ne_nil_of_mem (ClassMember.mem_insertInto.2 (.inl rfl))
    · exact h.ne_nil e he
  mem_iff e he m' := by
    rw [List.mem_append, List.mem_singleton]
    rcases Table.mem_entries_insert_iff.1 he with rfl | ⟨he, hne⟩
    · rw [ClassMember.mem_insertInto, h.mem_getD_find?, or_and_right, or_comm]
      refine or_congr_right (iff_self_and.2 ?_)
      rintro rfl
      rfl
    · rw [h.mem_iff e he m', or_and_right]
      refine (or_iff_left ?_).symm
      rintro ⟨rfl, htoken⟩
      exact hne htoken.symm
  contains m' hm' := by
    refine Table.contains_insert_iff.2 ?_
    rcases List.mem_append.1 hm' with hm' | hm'
    · exact .inr (h.contains m' hm')
    · exact .inl (List.mem_singleton.1 hm' ▸ rfl)

/-- **What the index lists.** It lists the members of the classes of its groups. -/
theorem isIndexOf_ofGroups (groups : List ScaleGroup) :
    IsIndexOf (groups.flatMap membersOf) (ofGroups groups) := by
  rw [ofGroups]
  induction groups.flatMap membersOf using List.reverseRecOn with
  | nil => constructor <;> simp
  | append_singleton members m ih =>
    rw [List.foldl_append]
    exact ih.add m

theorem mem_membersOf {group : ScaleGroup} {m : ClassMember} :
    m ∈ membersOf group ↔ m.className = group.className ∧ m.token ∈ group.scales.keys := by
  rw [membersOf, List.mem_map]
  constructor
  · rintro ⟨token, htoken, rfl⟩
    exact ⟨rfl, htoken⟩
  · rintro ⟨hclass, htoken⟩
    exact ⟨m.token, htoken, by rw [← hclass]⟩

/-- The index has the tokens of the scales of its groups. -/
theorem mem_keys_ofGroups {groups : List ScaleGroup} {token : String} :
    token ∈ (ofGroups groups).keys ↔ ∃ group ∈ groups, token ∈ group.scales.keys := by
  have hindex := isIndexOf_ofGroups groups
  constructor
  · intro htoken
    obtain ⟨e, he, rfl⟩ := List.mem_map.1 htoken
    obtain ⟨m, hm⟩ := List.exists_mem_of_ne_nil _ (hindex.ne_nil e he)
    obtain ⟨hm, hkey⟩ := (hindex.mem_iff e he m).1 hm
    obtain ⟨group, hgroup, hm⟩ := List.mem_flatMap.1 hm
    exact ⟨group, hgroup, hkey ▸ (mem_membersOf.1 hm).2⟩
  · rintro ⟨group, hgroup, htoken⟩
    obtain ⟨listed, hlisted⟩ := Table.contains_iff.1 (hindex.contains ⟨group.className, token⟩
      (List.mem_flatMap.2 ⟨group, hgroup, mem_membersOf.2 ⟨rfl, htoken⟩⟩))
    exact List.mem_map.2 ⟨_, hlisted, rfl⟩

/-- The members of each token are in order. -/
def IsOrdered (index : UnitIndex) : Prop :=
  ∀ e ∈ index.entries, e.2.Pairwise fun a b => a.before b

/-- What is listed under a token is in order. -/
theorem IsOrdered.pairwise_getD_find? {index : UnitIndex} (h : IsOrdered index) (token : String) :
    ((index.find? token).getD []).Pairwise fun a b => a.before b := by
  cases hfound : index.find? token with
  | none => exact List.Pairwise.nil
  | some listed => exact h _ (Table.find?_eq_some_iff.1 hfound)

theorem IsOrdered.add {index : UnitIndex} (h : IsOrdered index) (m : ClassMember) :
    IsOrdered (index.add m) := by
  intro e he
  rcases Table.mem_entries_insert_iff.1 he with rfl | ⟨he, -⟩
  · exact ClassMember.pairwise_insertInto (h.pairwise_getD_find? m.token)
  · exact h e he

theorem isOrdered_ofGroups (groups : List ScaleGroup) : IsOrdered (ofGroups groups) := by
  rw [ofGroups]
  induction groups.flatMap membersOf using List.reverseRecOn with
  | nil => exact fun e he => absurd he List.not_mem_nil
  | append_singleton members m ih =>
    rw [List.foldl_append]
    exact ih.add m

/-- **No member is listed twice** under its token. -/
theorem nodup_of_mem_ofGroups {groups : List ScaleGroup} {e : String × List ClassMember}
    (he : e ∈ (ofGroups groups).entries) : e.2.Nodup :=
  (isOrdered_ofGroups groups e he).nodup

/-! ### Indices of some of the groups -/

section

variable {groups groups' : List ScaleGroup}

theorem keys_ofGroups_sublist (h : groups ⊆ groups') :
    (ofGroups groups).keys.Sublist (ofGroups groups').keys := by
  refine Table.keys_sublist_of_subset fun token htoken => ?_
  obtain ⟨group, hgroup, htoken⟩ := mem_keys_ofGroups.1 htoken
  exact mem_keys_ofGroups.2 ⟨group, h hgroup, htoken⟩

/-- What the index of some groups lists under a token, the index of more groups lists there in the
same order. -/
theorem getD_find?_ofGroups_sublist (h : groups ⊆ groups') (token : String) :
    (((ofGroups groups).find? token).getD []).Sublist
      (((ofGroups groups').find? token).getD []) := by
  have hordered := (isOrdered_ofGroups groups).pairwise_getD_find? token
  have hordered' := (isOrdered_ofGroups groups').pairwise_getD_find? token
  have hsubset : ((ofGroups groups).find? token).getD [] ⊆
      ((ofGroups groups').find? token).getD [] := by
    intro m hm
    rw [(isIndexOf_ofGroups groups).mem_getD_find?] at hm
    obtain ⟨group, hgroup, hmember⟩ := List.mem_flatMap.1 hm.1
    exact (isIndexOf_ofGroups groups').mem_getD_find?.2
      ⟨List.mem_flatMap.2 ⟨group, h hgroup, hmember⟩, hm.2⟩
  exact List.sublist_of_subperm_of_pairwise (List.subperm_of_subset hordered.nodup hsubset)
    hordered hordered'

/-- What is written for each token and its members grows with the groups, if it grows with the
members. -/
theorem flatMap_entries_sublist {α : Type} {f : String × List ClassMember → List α}
    (hf : ∀ token ms ms', ms.Sublist ms' → (f (token, ms)).Sublist (f (token, ms')))
    (h : groups ⊆ groups') :
    ((ofGroups groups).entries.flatMap f).Sublist ((ofGroups groups').entries.flatMap f) := by
  rw [(ofGroups groups).entries_eq_map_keys [], (ofGroups groups').entries_eq_map_keys [],
    List.flatMap_map, List.flatMap_map]
  have hmembers := List.Sublist.flatMap_right (ofGroups groups).keys fun token _ =>
    hf token _ _ (getD_find?_ofGroups_sublist h token)
  exact hmembers.trans ((keys_ofGroups_sublist h).flatMap _)

end

end UnitIndex

end SensorCatalog
