import SensorCatalog.Proofs.Catalog.UnitIndex
import SensorCatalog.Proofs.Label.Alphabet
import Mathlib.Data.String.Basic

/-!
# Members by their names in full

Members are in order by class and then by token. A name in full joins the two with a dot, and joined
texts need not be in the order of their parts: where one name of a class is the beginning of
another, the dot is compared with the next character of the longer one. But names of classes have
letters and digits only, whatever the names of the groups hold, and these all come after the dot. So
members are in order by their names in full.

## Main results

* `Text.append_cons_lt_iff`: texts joined by a character that comes before all others.
* `ClassMember.before_iff_qualifiedName_lt`: both orders of members agree.
* `UnitIndex.pairwise_qualifiedName`: the lists of the index are in order by names in full.
-/

namespace SensorCatalog

/-- Texts before a character that comes before all of theirs are compared first, what follows it
after them. -/
theorem Text.append_cons_lt_iff {separator : Char} {cs cs' rest rest' : List Char}
    (h : ∀ c ∈ cs, separator < c) (h' : ∀ c ∈ cs', separator < c) :
    cs ++ separator :: rest < cs' ++ separator :: rest' ↔ cs < cs' ∨ cs = cs' ∧ rest < rest' := by
  induction cs generalizing cs' with
  | nil =>
    cases cs' with
    | nil => simp
    | cons c' cs' =>
      have hlt := h' c' List.mem_cons_self
      simp [List.cons_lt_cons_iff, hlt]
  | cons c cs ih =>
    obtain ⟨hc, hcs⟩ := List.forall_mem_cons.1 h
    cases cs' with
    | nil =>
      -- the first text is longer, so its next character is compared with the separator
      have hnlt : ¬ c < separator := lt_asymm hc
      simp [List.cons_lt_cons_iff, hnlt, hc.ne']
    | cons c' cs' =>
      obtain ⟨-, hcs'⟩ := List.forall_mem_cons.1 h'
      rw [List.cons_append, List.cons_append, List.cons_lt_cons_iff, ih hcs hcs',
        List.cons_lt_cons_iff, List.cons.injEq, and_or_left, or_assoc, and_assoc]

/-- Letters and digits come after the dot. -/
theorem Label.dot_lt_of_isAlphanum {c : Char} (h : c.isAlphanum) : '.' < c := by
  rw [isAlphanum_iff, isUpper_iff, isLower_iff, isDigit_iff] at h
  rw [Char.lt_def, UInt32.lt_iff_toNat_lt]
  change 46 < c.toNat
  omega

namespace ClassMember

variable {a b : ClassMember}

theorem toList_qualifiedName (m : ClassMember) :
    m.qualifiedName.toList = m.className.toList ++ '.' :: m.token.toList := by
  simp [qualifiedName]

/-- **Both orders of members agree** if all characters of the names of classes come after the
dot. -/
theorem before_iff_qualifiedName_lt (ha : ∀ c ∈ a.className.toList, '.' < c)
    (hb : ∀ c ∈ b.className.toList, '.' < c) :
    a.before b ↔ a.qualifiedName < b.qualifiedName := by
  have hnames : a.qualifiedName < b.qualifiedName ↔
      a.qualifiedName.toList < b.qualifiedName.toList := String.lt_iff_toList_lt
  rw [before_iff, hnames, toList_qualifiedName, toList_qualifiedName,
    Text.append_cons_lt_iff ha hb, String.toList_inj, ← String.lt_iff_toList_lt,
    ← String.lt_iff_toList_lt]

/-- The dot of a name in full comes after a space, so a class with a space in its name would be out
of order. -/
example : (⟨"Air", "X"⟩ : ClassMember).before ⟨"Air flow", "X"⟩ ∧
    (⟨"Air flow", "X"⟩ : ClassMember).qualifiedName <
      (⟨"Air", "X"⟩ : ClassMember).qualifiedName := by
  decide +kernel

/-- So they agree on the members of classes of groups. -/
theorem before_iff_qualifiedName_lt_of_className {name name' : String}
    (ha : a.className = Label.className name) (hb : b.className = Label.className name') :
    a.before b ↔ a.qualifiedName < b.qualifiedName := by
  refine before_iff_qualifiedName_lt (fun c hc => ?_) fun c hc => ?_
  · exact Label.dot_lt_of_isAlphanum (Label.mem_className (ha ▸ hc))
  · exact Label.dot_lt_of_isAlphanum (Label.mem_className (hb ▸ hc))

end ClassMember

namespace UnitIndex

theorem exists_className_eq {groups : List ScaleGroup} {ms : List ClassMember}
    (hms : ms ∈ (ofGroups groups).values) {m : ClassMember} (hm : m ∈ ms) :
    ∃ group ∈ groups, m.className = group.className := by
  obtain ⟨token, he⟩ := Table.mem_values.1 hms
  obtain ⟨group, hgroup, hm⟩ :=
    List.mem_flatMap.1 (((isIndexOf_ofGroups groups).mem_iff _ he m).1 hm).1
  exact ⟨group, hgroup, (mem_membersOf.1 hm).1⟩

/-- **The lists of the index are in order by names in full**, whatever the names of the groups are:
on the members of classes of groups that order is the one by class and token. -/
theorem pairwise_qualifiedName (groups : List ScaleGroup) :
    (∀ ms ∈ (ofGroups groups).values, (ms.map ClassMember.qualifiedName).Pairwise (· < ·)) ∧
      ∀ (group group' : ScaleGroup) (token token' : String),
        (⟨group.className, token⟩ : ClassMember).before ⟨group'.className, token'⟩ ↔
          (⟨group.className, token⟩ : ClassMember).qualifiedName <
            (⟨group'.className, token'⟩ : ClassMember).qualifiedName := by
  refine ⟨fun ms hms => List.pairwise_map.2 ?_, fun group group' token token' =>
    ClassMember.before_iff_qualifiedName_lt_of_className rfl rfl⟩
  obtain ⟨token, he⟩ := Table.mem_values.1 hms
  refine (isOrdered_ofGroups groups _ he).imp_of_mem fun hm hm' hbefore => ?_
  obtain ⟨group, -, hclass⟩ := exists_className_eq hms hm
  obtain ⟨group', -, hclass'⟩ := exists_className_eq hms hm'
  exact (ClassMember.before_iff_qualifiedName_lt_of_className hclass hclass').1 hbefore

/-- Groups of which one has a class whose name is the beginning of another one's. -/
def airScaleGroups : List ScaleGroup :=
  [⟨"Air scale", "air scale", .ofList [("X", ⟨0, "x"⟩)]⟩,
    ⟨"Airflow", "flow", .ofList [("X", ⟨0, "x"⟩)]⟩, ⟨"Air", "air", .ofList [("X", ⟨0, "x"⟩)]⟩]

/-- The shorter name comes first. -/
theorem pairwise_qualifiedName_air_scale :
    ∃ ms ∈ (ofGroups airScaleGroups).values,
      ms.map ClassMember.qualifiedName = ["AirScale.X", "AirScaleScale.X", "AirflowScale.X"] ∧
        (ms.map ClassMember.qualifiedName).Pairwise (· < ·) := by
  have hmem : [⟨"AirScale", "X"⟩, ⟨"AirScaleScale", "X"⟩, ⟨"AirflowScale", "X"⟩] ∈
      (ofGroups airScaleGroups).values := by decide +kernel
  exact ⟨_, hmem, by decide +kernel, (pairwise_qualifiedName airScaleGroups).1 _ hmem⟩

end UnitIndex

end SensorCatalog
