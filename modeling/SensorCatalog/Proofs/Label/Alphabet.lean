import SensorCatalog.Label.NameRules
import SensorCatalog.Proofs.Text.Occurrence

/-!
# The characters of names

A label is free text, but the names made of it are not: words are made of lower-case letters and
digits, and names are made of words. So whatever a label holds, its names hold letters, digits and
their separators only.

## Main definitions

* `Label.IsWord`: the words that labels can have.

## Main results

* `Label.isWord_of_mem_wordsOf`: a text has no other words.
* `Label.mem_token`, `Label.mem_displayName`, `Label.mem_className`: the characters of names.
-/

namespace SensorCatalog.Label

/-- A word that labels can have. -/
structure IsWord (word : List Char) : Prop where
  /-- A word has a character. -/
  ne_nil : word ≠ []
  /-- A word has lower-case letters and digits only. -/
  isWordChar : ∀ c ∈ word, isWordChar c

theorem isWord_of_mem_runs {cs word : List Char} (h : word ∈ runs cs) : IsWord word := by
  obtain ⟨hpart, hne⟩ := List.mem_filter.1 h
  exact ⟨by simpa using hne, fun c hc => by simpa using Text.not_of_mem_splitOnP hpart c hc⟩

theorem isWord_of_mem_wordsOf {text : String} {word : List Char} (h : word ∈ wordsOf text) :
    IsWord word :=
  isWord_of_mem_runs h

/-! ### Characters of words in other cases -/

theorem isLower_iff {c : Char} : c.isLower ↔ 97 ≤ c.toNat ∧ c.toNat ≤ 122 := by
  rw [← decide_eq_true_iff (p := 97 ≤ c.toNat), ← decide_eq_true_iff (p := c.toNat ≤ 122),
    ← Bool.and_eq_true]
  exact Iff.rfl

theorem isUpper_iff {c : Char} : c.isUpper ↔ 65 ≤ c.toNat ∧ c.toNat ≤ 90 :=
  decide_eq_true_iff

theorem isDigit_iff {c : Char} : c.isDigit ↔ 48 ≤ c.toNat ∧ c.toNat ≤ 57 := by
  rw [← decide_eq_true_iff (p := 48 ≤ c.toNat), ← decide_eq_true_iff (p := c.toNat ≤ 57),
    ← Bool.and_eq_true]
  exact Iff.rfl

theorem isAlphanum_iff {c : Char} : c.isAlphanum ↔ (c.isUpper ∨ c.isLower) ∨ c.isDigit := by
  rw [← Bool.or_eq_true, ← Bool.or_eq_true]
  exact Iff.rfl

theorem isWordChar_iff {c : Char} : isWordChar c ↔ c.isLower ∨ c.isDigit :=
  Bool.or_eq_true_iff

theorem not_isLower_of_isDigit {c : Char} (h : c.isDigit) : ¬ c.isLower := by
  have := isDigit_iff.1 h
  rw [isLower_iff]
  omega

theorem not_isUpper_of_isWordChar {c : Char} (h : isWordChar c) : ¬ c.isUpper := by
  rw [isUpper_iff]
  rcases isWordChar_iff.1 h with h | h
  · have := isLower_iff.1 h
    omega
  · have := isDigit_iff.1 h
    omega

theorem not_isDigit_of_isUpper {c : Char} (h : c.isUpper) : ¬ c.isDigit := by
  have := isUpper_iff.1 h
  rw [isDigit_iff]
  omega

theorem toUpper_of_not_isLower {c : Char} (h : ¬ c.isLower) : c.toUpper = c := by
  rw [isLower_iff] at h
  exact dif_neg h

theorem isUpper_toUpper {c : Char} (h : c.isLower) : c.toUpper.isUpper := by
  rw [isLower_iff] at h
  have hupper : c.toUpper = _ := dif_pos h
  have hval : c.toUpper.toNat = (c.toNat + ('A'.val - 'a'.val).toNat) % 2 ^ 32 :=
    (congrArg Char.toNat hupper).trans (UInt32.toNat_add _ _)
  -- letters are moved down by 32, the other way round
  have hshift : ('A'.val - 'a'.val).toNat = 2 ^ 32 - 32 := by decide
  rw [isUpper_iff, hval, hshift]
  omega

theorem isUpper_or_isDigit_toUpper {c : Char} (h : isWordChar c) :
    c.toUpper.isUpper ∨ c.toUpper.isDigit := by
  by_cases hlower : c.isLower
  · exact .inl (isUpper_toUpper hlower)
  · rw [toUpper_of_not_isLower hlower]
    exact .inr ((isWordChar_iff.1 h).resolve_left hlower)

theorem toUpper_toUpper {c : Char} (h : isWordChar c) : c.toUpper.toUpper = c.toUpper := by
  refine toUpper_of_not_isLower fun hlower => ?_
  have := isLower_iff.1 hlower
  rcases isUpper_or_isDigit_toUpper h with h | h
  · have := isUpper_iff.1 h
    omega
  · have := isDigit_iff.1 h
    omega

theorem isAlphanum_of_isWordChar {c : Char} (h : isWordChar c) : c.isAlphanum :=
  isAlphanum_iff.2 ((isWordChar_iff.1 h).imp_left .inr)

theorem isAlphanum_toUpper {c : Char} (h : isWordChar c) : c.toUpper.isAlphanum :=
  isAlphanum_iff.2 ((isUpper_or_isDigit_toUpper h).imp_left .inl)

theorem isAlphanum_of_mem_capitalize {word : List Char} (h : IsWord word) {c : Char}
    (hc : c ∈ capitalize word) : c.isAlphanum := by
  cases word with
  | nil => exact absurd rfl h.ne_nil
  | cons first rest =>
    rcases List.mem_cons.1 hc with rfl | hc
    · exact isAlphanum_toUpper (h.isWordChar first List.mem_cons_self)
    · exact isAlphanum_of_isWordChar (h.isWordChar c (List.mem_cons_of_mem _ hc))

/-! ### Characters of names -/

theorem mem_token {parentheses : Parentheses} {label : String} {c : Char}
    (h : c ∈ (token parentheses label).toList) : c.isUpper ∨ c.isDigit ∨ c = '_' := by
  rw [token, String.toList_ofList] at h
  obtain ⟨b, hb, rfl⟩ := List.mem_map.1 h
  rcases Text.mem_intercalate hb with hb | ⟨word, hword, hb⟩
  · rw [List.mem_singleton.1 hb]
    exact .inr (.inr rfl)
  · exact (isUpper_or_isDigit_toUpper ((isWord_of_mem_wordsOf hword).isWordChar b hb)).imp_right
      .inl

theorem mem_displayName {label : String} {c : Char} (h : c ∈ (displayName label).toList) :
    c.isAlphanum ∨ c = ' ' := by
  rw [displayName, String.toList_ofList] at h
  rcases Text.mem_intercalate h with h | ⟨capitalized, hmem, h⟩
  · exact .inr (List.mem_singleton.1 h)
  · obtain ⟨word, hword, rfl⟩ := List.mem_map.1 hmem
    exact .inl (isAlphanum_of_mem_capitalize (isWord_of_mem_wordsOf hword) h)

theorem mem_className {groupName : String} {c : Char} (h : c ∈ (className groupName).toList) :
    c.isAlphanum := by
  rw [className, String.toList_ofList] at h
  rcases List.mem_append.1 h with h | h
  · obtain ⟨capitalized, hmem, h⟩ := List.mem_flatten.1 h
    obtain ⟨word, hword, rfl⟩ := List.mem_map.1 hmem
    exact isAlphanum_of_mem_capitalize (isWord_of_mem_wordsOf hword) h
  · exact List.all_eq_true.1 (show classEnding.all Char.isAlphanum from by decide) c h

end SensorCatalog.Label
