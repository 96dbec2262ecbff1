import SensorCatalog.Proofs.Label.NormalForm

/-!
# Names as tokens in another letter case

The readable name of a label and the name of its class are its token written in another case: the
words of the token get one capital each and are joined by spaces, or by nothing. With spaces nothing
is lost, so readable names are equal exactly if tokens are. Run together, the words still show where
a word begins that starts with a letter, since its capital stands behind small letters and digits; a
word that starts with a digit cannot be told from the end of the word before it. So names of classes
are equal exactly if the tokens are, up to underscores before digits.

## Main definitions

* `Label.recased`, `Label.titleCase`, `Label.pascalCase`: a token in another case.
* `Label.closeUp`, `Label.DifferBeforeDigits`: a token without its underscores before digits.

## Main results

* `Label.displayName_eq_titleCase`, `Label.className_eq_pascalCase`: names as tokens in other cases.
* `Label.token_displayName`, `Label.displayName_eq_iff`: nothing is lost in a readable name.
* `Label.pascalCase_eq_iff`: what is lost in a name of a class.
-/

namespace SensorCatalog.Label

/-! ### Cases of tokens -/

/-- A word with its first character in upper case and the others in lower case. -/
def recase : List Char → List Char
  | [] => []
  | c :: rest => c.toUpper :: rest.map Char.toLower

/-- The words that underscores keep apart in a text, with one capital each and joined by another
text. -/
def recased (joint text : List Char) : List Char :=
  joint.intercalate ((text.splitOn '_').map recase)

/-- A token in title case. -/
def titleCase (token : String) : String :=
  String.ofList (recased [' '] token.toList)

/-- A token in Pascal case. -/
def pascalCase (token : String) : String :=
  String.ofList (recased [] token.toList)

theorem recase_map_toUpper {w : List Char} (h : IsWord w) :
    recase (w.map Char.toUpper) = capitalize w := by
  cases w with
  | nil => rfl
  | cons c rest =>
    obtain ⟨hc, hrest⟩ := List.forall_mem_cons.1 h.isWordChar
    have hlower : (rest.map Char.toUpper).map Char.toLower = rest := by
      rw [List.map_map]
      exact (List.map_congr_left fun b hb => toLower_toUpper (hrest b hb)).trans (List.map_id rest)
    rw [List.map_cons, recase, hlower, toUpper_toUpper hc, capitalize]

theorem intercalate_nil_eq_flatten (ws : List (List Char)) : [].intercalate ws = ws.flatten := by
  induction ws with
  | nil => rfl
  | cons w ws ih =>
    cases ws with
    | nil => simp
    | cons w' ws =>
      rw [List.intercalate_cons_cons, ih, List.append_nil]
      rfl

/-- **A token in another case** has the words of its label, capitalized. -/
theorem recased_token (joint : List Char) (parentheses : Parentheses) (label : String) :
    recased joint (token parentheses label).toList =
      joint.intercalate ((wordsOf (parentheses.apply label)).map capitalize) := by
  have hjoins := joinsWords_token parentheses label
  rw [recased, hjoins.toList_eq]
  cases hwords : wordsOf (parentheses.apply label) with
  | nil => rfl
  | cons w ws =>
    rw [← hwords, List.splitOn_intercalate, List.map_map]
    · refine congrArg _ (List.map_congr_left fun w hw => ?_)
      exact recase_map_toUpper (isWord_of_mem_wordsOf hw)
    · exact fun w hw => (hjoins.areApart w hw).2
    · simp [hwords]

theorem displayName_eq_titleCase (label : String) :
    displayName label = titleCase (token .dropped label) := by
  rw [titleCase, recased_token, displayName]
  rfl

theorem className_eq_pascalCase (groupName : String) :
    className groupName = pascalCase (token .dropped groupName) ++ String.ofList classEnding := by
  rw [pascalCase, recased_token, className, String.ofList_append, intercalate_nil_eq_flatten]
  rfl

/-! ### Readable names -/

theorem apply_displayName (parentheses : Parentheses) (label : String) :
    parentheses.apply (displayName label) = displayName label :=
  parentheses.apply_eq_self (withoutParentheses_displayName label)

/-- **The token of a readable name** is the one of its label. -/
theorem token_displayName (parentheses : Parentheses) (label : String) :
    token parentheses (displayName label) = token .dropped label := by
  rw [token, apply_displayName, wordsOf_displayName, token, Parentheses.apply_dropped]

theorem displayName_displayName (label : String) :
    displayName (displayName label) = displayName label := by
  rw [displayName_eq_titleCase, token_displayName, ← displayName_eq_titleCase]

/-- **Readable names lose nothing** of tokens. -/
theorem displayName_eq_iff {a b : String} :
    displayName a = displayName b ↔ token .dropped a = token .dropped b := by
  constructor
  · intro h
    rw [← token_displayName .dropped a, h, token_displayName]
  · intro h
    rw [displayName_eq_titleCase, h, ← displayName_eq_titleCase]

/-! ### Names of classes -/

/-- A text without the underscores that a digit comes right after. -/
def closeUp : List Char → List Char
  | [] => []
  | c :: rest =>
    if c = '_' ∧ rest.head?.any Char.isDigit then closeUp rest else c :: closeUp rest

/-- Tokens that differ, but in underscores before digits only. -/
def DifferBeforeDigits (token token' : String) : Prop :=
  token ≠ token' ∧ closeUp token.toList = closeUp token'.toList

theorem closeUp_append {part : List Char} (h : '_' ∉ part) (rest : List Char) :
    closeUp (part ++ rest) = part ++ closeUp rest := by
  induction part with
  | nil => rfl
  | cons c part ih =>
    have hc : c ≠ '_' := fun e => h (e ▸ List.mem_cons_self)
    rw [List.cons_append, closeUp, if_neg fun hmark => hc hmark.1,
      ih fun hmem => h (List.mem_cons_of_mem c hmem)]
    rfl

theorem closeUp_of_not_mem {part : List Char} (h : '_' ∉ part) : closeUp part = part := by
  simpa [closeUp] using closeUp_append h []

theorem closeUp_cons_append {w : List Char} (hne : w ≠ []) (h : '_' ∉ w) (rest : List Char) :
    closeUp ('_' :: (w ++ rest)) = closeUp ('_' :: w) ++ closeUp rest := by
  obtain ⟨c, w', rfl⟩ := List.exists_cons_of_ne_nil hne
  rw [closeUp, closeUp, closeUp_append h, closeUp_of_not_mem h, List.cons_append, List.head?_cons,
    List.head?_cons]
  split <;> rfl

/-! ### Pascal case without these underscores -/

/-- Pascal case character by character; `atStart` says that the text follows an underscore. -/
def capitals (atStart : Bool) : List Char → List Char
  | [] => []
  | c :: rest =>
    if c = '_' then capitals true rest
    else (if atStart then c.toUpper else c.toLower) :: capitals false rest

theorem capitals_eq {text first : List Char} {others : List (List Char)}
    (h : text.splitOn '_' = first :: others) (atStart : Bool) :
    capitals atStart text =
      (if atStart then recase first else first.map Char.toLower) ++
        (others.map recase).flatten := by
  induction text generalizing first others atStart with
  | nil =>
    obtain ⟨rfl, rfl⟩ := List.cons.inj h
    cases atStart <;> rfl
  | cons c rest ih =>
    obtain ⟨first', others', hrest⟩ := List.exists_cons_of_ne_nil (List.splitOn_ne_nil '_' rest)
    rw [List.splitOn_cons_eq_if_modifyHead, hrest] at h
    by_cases hc : c = '_'
    · rw [if_pos (beq_iff_eq.2 hc)] at h
      obtain ⟨rfl, rfl⟩ := List.cons.inj h
      rw [capitals, if_pos hc, ih hrest]
      cases atStart <;> rfl
    · rw [if_neg (mt beq_iff_eq.1 hc)] at h
      obtain ⟨rfl, rfl⟩ := List.cons.inj h
      rw [capitals, if_neg hc, ih hrest]
      cases atStart <;> rfl

theorem recased_nil_eq_capitals (text : List Char) : recased [] text = capitals true text := by
  obtain ⟨first, others, hsplit⟩ := List.exists_cons_of_ne_nil (List.splitOn_ne_nil '_' text)
  rw [recased, intercalate_nil_eq_flatten, capitals_eq hsplit true, hsplit]
  rfl

/-- A digit is the same in both cases. -/
theorem capitals_of_isDigit {text : List Char} (h : text.head?.any Char.isDigit)
    (atStart atStart' : Bool) : capitals atStart text = capitals atStart' text := by
  cases text with
  | nil => rfl
  | cons c rest =>
    have hc : c.isDigit := h
    have hword : isWordChar c := isWordChar_iff.2 (.inr hc)
    have hcase : c.toUpper = c.toLower := by
      rw [toLower_of_isWordChar hword, toUpper_of_not_isLower (not_isLower_of_isDigit hc)]
    have hmark : c ≠ '_' := fun e => absurd hc (by rw [e]; decide)
    rw [capitals, capitals, if_neg hmark, if_neg hmark, hcase, ite_self, ite_self]

theorem capitals_closeUp (atStart : Bool) (text : List Char) :
    capitals atStart (closeUp text) = capitals atStart text := by
  induction text generalizing atStart with
  | nil => rfl
  | cons c rest ih =>
    rw [closeUp]
    by_cases hmark : c = '_' ∧ rest.head?.any Char.isDigit
    · obtain ⟨rfl, hdigit⟩ := hmark
      rw [if_pos ⟨rfl, hdigit⟩, ih, capitals, if_pos rfl, capitals_of_isDigit hdigit atStart true]
    · rw [if_neg hmark, capitals, capitals, ih, ih]

/-! ### The other underscores found again -/

theorem underscore_not_mem_map_toUpper {w : List Char} (hw : IsWord w) :
    '_' ∉ w.map Char.toUpper :=
  underscore_not_mem (isUpper_or_isDigit_of_mem_map_toUpper hw)

/-- A text in upper case, with an underscore before each capital; `atStart` says that none is put
before the first character. -/
def underscored (atStart : Bool) : List Char → List Char
  | [] => []
  | c :: rest =>
    if c.isUpper ∧ ¬ atStart then '_' :: c :: underscored false rest
    else c.toUpper :: underscored false rest

theorem underscored_append {w : List Char} (hw : ∀ c ∈ w, isWordChar c) (rest : List Char) :
    underscored false (w ++ rest) = w.map Char.toUpper ++ underscored false rest := by
  induction w with
  | nil => rfl
  | cons c w ih =>
    obtain ⟨hc, hw⟩ := List.forall_mem_cons.1 hw
    have hcapital : ¬ c.isUpper := not_isUpper_of_isWordChar hc
    rw [List.cons_append, underscored, if_neg fun h => hcapital h.1, ih hw]
    rfl

/-- No underscore is put before the first word. -/
theorem underscored_first {w : List Char} (hw : IsWord w) (rest : List Char) :
    underscored true (capitalize w ++ rest) = w.map Char.toUpper ++ underscored false rest := by
  obtain ⟨c, w, rfl⟩ := List.exists_cons_of_ne_nil hw.ne_nil
  obtain ⟨hc, hword⟩ := List.forall_mem_cons.1 hw.isWordChar
  rw [capitalize, List.cons_append, underscored, if_neg fun hcapital => hcapital.2 rfl,
    underscored_append hword, toUpper_toUpper hc]
  rfl

/-- Behind another word, the start of a word shows if it is a letter. -/
theorem underscored_capitalize {w : List Char} (hw : IsWord w) (rest : List Char) :
    underscored false (capitalize w ++ rest) =
      closeUp ('_' :: w.map Char.toUpper) ++ underscored false rest := by
  have hapart : '_' ∉ w.map Char.toUpper := underscore_not_mem_map_toUpper hw
  obtain ⟨c, w, rfl⟩ := List.exists_cons_of_ne_nil hw.ne_nil
  obtain ⟨hc, hword⟩ := List.forall_mem_cons.1 hw.isWordChar
  rw [List.map_cons] at hapart ⊢
  rw [capitalize, List.cons_append, underscored, underscored_append hword, closeUp,
    closeUp_of_not_mem hapart, List.head?_cons, Option.any_some]
  by_cases hlower : c.isLower
  · have hcapital : c.toUpper.isUpper := isUpper_toUpper hlower
    rw [if_pos ⟨hcapital, Bool.false_ne_true⟩,
      if_neg fun hdigit => not_isDigit_of_isUpper hcapital hdigit.2]
    rfl
  · have hdigit : c.isDigit := (isWordChar_iff.1 hc).resolve_left hlower
    rw [toUpper_of_not_isLower hlower,
      if_neg fun hcapital => not_isUpper_of_isWordChar hc hcapital.1, if_pos ⟨rfl, hdigit⟩,
      toUpper_of_not_isLower hlower]
    rfl

theorem underscored_flatten_capitalize {ws : List (List Char)} (hws : ∀ w ∈ ws, IsWord w) :
    underscored false (ws.map capitalize).flatten =
      closeUp (ws.flatMap fun w => '_' :: w.map Char.toUpper) := by
  induction ws with
  | nil => rfl
  | cons w ws ih =>
    obtain ⟨hw, hws⟩ := List.forall_mem_cons.1 hws
    have hne : w.map Char.toUpper ≠ [] := by simpa using hw.ne_nil
    rw [List.map_cons, List.flatten_cons, underscored_capitalize hw, ih hws, List.flatMap_cons,
      List.cons_append, closeUp_cons_append hne (underscore_not_mem_map_toUpper hw)]

theorem intercalate_cons_eq_append_flatMap (w : List Char) (ws : List (List Char)) :
    ['_'].intercalate (w :: ws) = w ++ ws.flatMap ('_' :: ·) := by
  induction ws generalizing w with
  | nil => simp
  | cons w' ws ih => rw [List.intercalate_cons_cons, ih, List.flatMap_cons]; simp

/-- **What Pascal case shows of a token** is all but its underscores before digits. -/
theorem underscored_recased_token (parentheses : Parentheses) (label : String) :
    underscored true (recased [] (token parentheses label).toList) =
      closeUp (token parentheses label).toList := by
  rw [recased_token, intercalate_nil_eq_flatten, (joinsWords_token parentheses label).toList_eq]
  have hws : ∀ w ∈ wordsOf (parentheses.apply label), IsWord w := fun _ => isWord_of_mem_wordsOf
  cases hwords : wordsOf (parentheses.apply label) with
  | nil => rfl
  | cons w ws =>
    rw [hwords] at hws
    obtain ⟨hw, hws⟩ := List.forall_mem_cons.1 hws
    rw [List.map_cons, List.flatten_cons, underscored_first hw, underscored_flatten_capitalize hws,
      List.map_cons, intercalate_cons_eq_append_flatMap,
      closeUp_append (underscore_not_mem_map_toUpper hw), List.flatMap_map]

/-- **Tokens in Pascal case** are equal exactly if the tokens are, up to underscores before
digits. -/
theorem recased_token_eq_iff {parentheses parentheses' : Parentheses} {a b : String} :
    recased [] (token parentheses a).toList = recased [] (token parentheses' b).toList ↔
      closeUp (token parentheses a).toList = closeUp (token parentheses' b).toList := by
  constructor
  · intro h
    rw [← underscored_recased_token, h, underscored_recased_token]
  · intro h
    rw [recased_nil_eq_capitals, ← capitals_closeUp, h, capitals_closeUp,
      ← recased_nil_eq_capitals]

/-- **Names of classes** are equal exactly if the tokens of the groups' names are, up to underscores
before digits. -/
theorem className_eq_className_iff {a b : String} :
    className a = className b ↔
      closeUp (token .dropped a).toList = closeUp (token .dropped b).toList := by
  rw [className_eq_pascalCase, className_eq_pascalCase, String.append_left_inj, pascalCase,
    pascalCase, String.ofList_inj, recased_token_eq_iff]

end SensorCatalog.Label
