import SensorCatalog.Proofs.Label.Runs
import SensorCatalog.Proofs.Label.SourceName

/-!
# The normal form of tokens

A token is made in passes: a label loses its parenthesized parts if they do not count, is put into
ASCII and into lower case, loses the commas between the digits of one number, and has every gap
between its words marked by an underscore; marks at the ends are taken off, and what is left is put
into upper case. Whatever the label, the passes together leave its words joined by single
underscores. That form is all that the check of a token relies on when it looks at the first
character only, and a name in that form is its own token.

## Main definitions

* `Label.plainText`: a label as its words are looked for.
* `Label.isGroupComma`, `Label.withoutGroupCommas`: the commas between two digits, by their places.
* `Label.JoinsWords`, `Label.IsNormalForm`: the form of tokens, by words and by characters.
* `Label.IsItemName`: the names that an item of source code can be given.

## Main results

* `Label.dropGroupCommas_eq`: the commas that are left out are those between two digits.
* `Label.token_isNormalForm`: the words of a token, its form, and what follows from it.
-/

namespace SensorCatalog.Label

/-! ### Text in ASCII -/

section

open Transliteration

theorem all_isAscii_of_mem_table : ∀ e ∈ table, e.2.toList.all isAscii := by decide +kernel

theorem isAscii_of_mem_spelling? {c : Char} {s : List Char} (h : spelling? c = some s) :
    ∀ b ∈ s, isAscii b := by
  rw [spelling?] at h
  split at h
  · cases h
    simp
  split at h
  · next hc =>
    cases h
    exact List.forall_mem_singleton.2 hc
  · obtain ⟨spelled, hspelled, rfl⟩ := Option.map_eq_some_iff.1 h
    obtain ⟨_, _, htable, -⟩ := List.lookup_eq_some_iff.1 hspelled
    exact List.all_eq_true.1 <|
      all_isAscii_of_mem_table _ (htable ▸ List.mem_append_right _ List.mem_cons_self)

theorem dropSpace_subset (s : List Char) : dropSpace s ⊆ s := by
  rw [dropSpace]
  split
  · exact List.dropLast_subset s
  · exact List.Subset.refl s

theorem isAscii_of_mem_spellEach {cs : List Char} : ∀ b ∈ spellEach cs, isAscii b := by
  induction cs with
  | nil => simp [spellEach]
  | cons c rest ih =>
    rw [spellEach]
    split
    · next s hs =>
      refine List.forall_mem_append.2 ⟨fun b hb => isAscii_of_mem_spelling? hs b ?_, ih⟩
      split at hb
      · exact dropSpace_subset s hb
      · exact hb
    · exact List.forall_mem_append.2 ⟨List.all_eq_true.1 (by decide), ih⟩

theorem isAscii_of_mem_spell {cs : List Char} : ∀ b ∈ spell cs, isAscii b :=
  List.forall_mem_append.2 ⟨fun _ hb => List.mem_takeWhile_imp hb, isAscii_of_mem_spellEach⟩

end

/-- A label as its words are looked for: in ASCII and in lower case, and without its parenthesized
parts if they do not count. -/
def plainText (parentheses : Parentheses) (label : String) : List Char :=
  (Transliteration.spell (parentheses.apply label).toList).map Char.toLower

/-- The characters of ASCII in lower case. -/
def isLowerAscii (c : Char) : Bool :=
  Transliteration.isAscii c && !c.isUpper

theorem isLowerAscii_toLower {c : Char} (h : Transliteration.isAscii c) :
    isLowerAscii c.toLower := by
  have hlt : c.toNat < 0x7F := of_decide_eq_true h
  revert h
  refine forall_of_forall_lt
    (P := fun c => Transliteration.isAscii c → isLowerAscii c.toLower) ?_ (by omega)
  decide

theorem isLowerAscii_of_mem_plainText {parentheses : Parentheses} {label : String} :
    ∀ c ∈ plainText parentheses label, isLowerAscii c :=
  List.forall_mem_map.2 fun _ hb => isLowerAscii_toLower (isAscii_of_mem_spell _ hb)

/-- In lower case, word characters are all letters and digits. -/
theorem isWordChar_eq_isAlphanum {c : Char} (h : isLowerAscii c) : isWordChar c = c.isAlphanum := by
  have hupper : c.isUpper = false := by simpa using (Bool.and_eq_true_iff.1 h).2
  rw [Bool.eq_iff_iff, isAlphanum_iff, isWordChar_iff, hupper]
  simp

/-! ### Commas between digits -/

/-- The character at a place of a text is a comma that stands between two digits. -/
def isGroupComma (cs : List Char) (i : Nat) : Bool :=
  cs[i]? == some ',' && (0 < i && cs[i - 1]?.any Char.isDigit) && cs[i + 1]?.any Char.isDigit

/-- A text without the commas that stand between two of its digits. -/
def withoutGroupCommas (cs : List Char) : List Char :=
  (cs.zipIdx.filter fun e => !isGroupComma cs e.2).map Prod.fst

theorem isGroupComma_append_cons (before : List Char) (c : Char) (rest : List Char) :
    isGroupComma (before ++ c :: rest) before.length =
      (c == ',' && before.getLast?.any Char.isDigit && rest.head?.any Char.isDigit) := by
  have hnext : (before ++ c :: rest)[before.length + 1]? = rest.head? := by
    rw [List.getElem?_append_right (Nat.le_succ _), List.head?_eq_getElem?]
    simp
  have hprevious : (decide (0 < before.length) &&
      (before ++ c :: rest)[before.length - 1]?.any Char.isDigit) =
        before.getLast?.any Char.isDigit := by
    rcases before.eq_nil_or_concat with rfl | ⟨front, b, rfl⟩
    · rfl
    · simp
  rw [isGroupComma, hnext, hprevious]
  simp

/-- The commas are left out one by one; what stands before a place is known by its last
character. -/
theorem dropGroupCommas_append (before cs : List Char) :
    dropGroupCommas (before.getLast?.any Char.isDigit) cs =
      ((cs.zipIdx before.length).filter fun e => !isGroupComma (before ++ cs) e.2).map
        Prod.fst := by
  induction cs generalizing before with
  | nil => rfl
  | cons c rest ih =>
    have hrest := ih (before ++ [c])
    rw [List.getLast?_concat, Option.any_some, List.length_append, List.append_assoc] at hrest
    rw [dropGroupCommas, List.zipIdx_cons, List.filter_cons, isGroupComma_append_cons]
    by_cases hcomma : c = ',' ∧ before.getLast?.any Char.isDigit ∧ rest.head?.any Char.isDigit
    · obtain ⟨rfl, hbefore, hafter⟩ := hcomma
      rw [if_pos ⟨rfl, hbefore, hafter⟩, hbefore, hafter]
      exact hrest
    · have hkept : (c == ',' && before.getLast?.any Char.isDigit &&
          rest.head?.any Char.isDigit) = false := by
        rw [Bool.eq_false_iff, ne_eq, Bool.and_eq_true, Bool.and_eq_true, beq_iff_eq, and_assoc]
        exact hcomma
      rw [if_neg hcomma, hkept]
      exact congrArg (c :: ·) hrest

/-- **The commas that are left out** are those between two digits. -/
theorem dropGroupCommas_eq (cs : List Char) : dropGroupCommas false cs = withoutGroupCommas cs :=
  dropGroupCommas_append [] cs

theorem withoutGroupCommas_subset (cs : List Char) : withoutGroupCommas cs ⊆ cs := by
  intro c hc
  obtain ⟨e, he, rfl⟩ := List.mem_map.1 hc
  exact List.fst_mem_of_mem_zipIdx (List.mem_filter.1 he).1

/-! ### The form of tokens -/

/-- A name is made of words of capitals and digits, joined by single underscores. -/
structure JoinsWords (words : List (List Char)) (name : String) : Prop where
  /-- No word is empty. -/
  ne_nil : ∀ w ∈ words, w ≠ []
  /-- Words have capitals and digits only. -/
  isUpper_or_isDigit : ∀ w ∈ words, ∀ c ∈ w, c.isUpper ∨ c.isDigit
  /-- Between each two words stands one underscore. -/
  toList_eq : name.toList = ['_'].intercalate words

/-- The form of tokens, without their words. -/
structure IsNormalForm (name : String) : Prop where
  /-- There are capitals, digits and underscores only. -/
  isUpper_or_isDigit_or_eq : ∀ c ∈ name.toList, c.isUpper ∨ c.isDigit ∨ c = '_'
  /-- No underscore is at the start. -/
  head?_ne : name.toList.head? ≠ some '_'
  /-- No underscore is at the end. -/
  getLast?_ne : name.toList.getLast? ≠ some '_'
  /-- No underscore is doubled. -/
  not_infix : ¬ ['_', '_'] <:+: name.toList

theorem underscore_not_mem {w : List Char} (h : ∀ c ∈ w, c.isUpper ∨ c.isDigit) : '_' ∉ w :=
  fun hmem => absurd (h _ hmem) (by decide)

theorem JoinsWords.areApart {words : List (List Char)} {name : String}
    (h : JoinsWords words name) : AreApart '_' words :=
  fun w hw => ⟨h.ne_nil w hw, underscore_not_mem (h.isUpper_or_isDigit w hw)⟩

theorem JoinsWords.isNormalForm {words : List (List Char)} {name : String}
    (h : JoinsWords words name) : IsNormalForm name := by
  have hapart := h.areApart
  refine ⟨fun c hc => ?_, ?_, ?_, ?_⟩
  · rw [h.toList_eq] at hc
    rcases Text.mem_intercalate hc with hc | ⟨w, hw, hc⟩
    · exact .inr (.inr (List.mem_singleton.1 hc))
    · exact (h.isUpper_or_isDigit w hw c hc).imp_right .inl
  · exact h.toList_eq ▸ head?_intercalate_ne hapart
  · exact h.toList_eq ▸ getLast?_intercalate_ne hapart
  · exact h.toList_eq ▸ not_infix_intercalate hapart

theorem isUpper_or_isDigit_of_mem_map_toUpper {w : List Char} (hw : IsWord w) :
    ∀ c ∈ w.map Char.toUpper, c.isUpper ∨ c.isDigit :=
  List.forall_mem_map.2 fun c hc => isUpper_or_isDigit_toUpper (hw.isWordChar c hc)

theorem joinsWords_token (parentheses : Parentheses) (label : String) :
    JoinsWords ((wordsOf (parentheses.apply label)).map (List.map Char.toUpper))
      (token parentheses label) := by
  refine ⟨List.forall_mem_map.2 fun w hw => ?_, List.forall_mem_map.2 fun w hw => ?_, ?_⟩
  · simpa using (isWord_of_mem_wordsOf hw).ne_nil
  · exact isUpper_or_isDigit_of_mem_map_toUpper (isWord_of_mem_wordsOf hw)
  · rw [token, String.toList_ofList, slugOf, map_intercalate]
    rfl

/-- The words of a label are the maximal runs of letters and digits of its plain text without
commas between digits. -/
theorem wordsOf_eq_iff {parentheses : Parentheses} {label : String} {ws : List (List Char)} :
    wordsOf (parentheses.apply label) = ws ↔
      HasRuns Char.isAlphanum (withoutGroupCommas (plainText parentheses label)) ws := by
  have hclass : ∀ c ∈ withoutGroupCommas (plainText parentheses label),
      isWordChar c = c.isAlphanum := fun c hc =>
    isWordChar_eq_isAlphanum (isLowerAscii_of_mem_plainText c (withoutGroupCommas_subset _ hc))
  rw [wordsOf, dropGroupCommas_eq, ← plainText, runs_eq_iff]
  exact ⟨fun h => h.congr hclass, fun h => h.congr fun c hc => (hclass c hc).symm⟩

/-! ### Names of items -/

/-- The words that source code keeps for its own use. -/
def reservedWords : List String :=
  ["abstract", "as", "async", "await", "become", "box", "break", "const", "continue", "crate",
    "do", "dyn", "else", "enum", "extern", "false", "final", "fn", "for", "gen", "if", "impl",
    "in", "let", "loop", "macro", "match", "mod", "move", "mut", "override", "priv", "pub", "ref",
    "return", "self", "Self", "static", "struct", "super", "trait", "true", "try", "type", "typeof",
    "unsafe", "unsized", "use", "virtual", "where", "while", "yield"]

/-- A name that an item of source code can be given. -/
structure IsItemName (name : String) : Prop where
  /-- The characters are those of a name. -/
  isSourceName : IsSourceName name
  /-- An underscore alone is no name. -/
  ne_underscore : name ≠ "_"
  /-- The name is not used by the language itself. -/
  not_reserved : name ∉ reservedWords

theorem any_isLower_of_mem_reservedWords :
    ∀ word ∈ reservedWords, word.toList.any Char.isLower := by
  decide +kernel

/-- Names in normal form are neither a lone underscore nor reserved, since reserved words have
small letters. -/
theorem IsNormalForm.isItemName_iff {name : String} (h : IsNormalForm name) :
    IsItemName name ↔ IsSourceName name := by
  refine ⟨IsItemName.isSourceName, fun hname => ⟨hname, ?_, fun hreserved => ?_⟩⟩
  · rintro rfl
    exact h.head?_ne (by decide)
  · obtain ⟨c, hc, hlower⟩ := List.any_eq_true.1 (any_isLower_of_mem_reservedWords name hreserved)
    have hbounds := isLower_iff.1 hlower
    rcases h.isUpper_or_isDigit_or_eq c hc with hupper | hdigit | rfl
    · have := isUpper_iff.1 hupper
      omega
    · have := isDigit_iff.1 hdigit
      omega
    · exact absurd hlower (by decide)

/-- **The normal form of tokens.** The words of a token are the maximal runs of letters and digits
of the plain text of its label, put into upper case and joined by single underscores. That is also
what marking the gaps of the text leaves, so the check of the first character tells whether a token
can name an item, and a token is its own token. -/
theorem token_isNormalForm (parentheses : Parentheses) (label : String) :
    (∀ c ∈ plainText parentheses label, isLowerAscii c) ∧
      (∃ words : List (List Char),
        (∀ ws, HasRuns Char.isAlphanum (withoutGroupCommas (plainText parentheses label)) ws ↔
          words = ws) ∧
          JoinsWords (words.map (List.map Char.toUpper)) (token parentheses label)) ∧
      IsNormalForm (token parentheses label) ∧
      (token parentheses label).toList =
        (trimMarks (markGaps false (withoutGroupCommas (plainText parentheses label)))).map
          Char.toUpper ∧
      (isIdentifier (token parentheses label) ↔ IsItemName (token parentheses label)) ∧
      ∀ parentheses', token parentheses' (token parentheses label) = token parentheses label := by
  have hjoins := joinsWords_token parentheses label
  refine ⟨isLowerAscii_of_mem_plainText, ⟨_, fun ws => wordsOf_eq_iff.symm, hjoins⟩,
    hjoins.isNormalForm, ?_, ?_, fun parentheses' => token_token parentheses parentheses' label⟩
  · rw [trimMarks_markGaps, token, String.toList_ofList, wordsOf, dropGroupCommas_eq, plainText]
  · rw [hjoins.isNormalForm.isItemName_iff, isSourceName_token_iff]

/-- A comma between digits is left out, a point is a gap. -/
example : token .dropped " 1,000 µg/m³ PM2.5, 10 (dust) " = "1000_UG_M3_PM2_5_10" := by
  decide +kernel

end SensorCatalog.Label
