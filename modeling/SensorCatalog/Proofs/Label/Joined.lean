import SensorCatalog.Proofs.Label.Alphabet
import Mathlib.Data.List.TakeWhile

/-!
# The words of a name

A name is made of words, and it has these words itself: nothing in a token or a readable name is
lost or read in another way when the name is taken for a label. So a name made of a name is the one
made of the label.

## Main results

* `Label.wordsOf_ofList_intercalate`: the words of words that are joined.
* `Label.wordsOf_token`, `Label.wordsOf_displayName`: the words of names.
* `Label.token_token`, `Label.className_displayName`: names made of names.
-/

namespace SensorCatalog.Label

/-! ### Characters -/

/-- What holds of the first 128 characters holds of every character of ASCII. -/
theorem forall_of_forall_lt {P : Char → Prop} (h : ∀ n < 128, P (Char.ofNat n)) {c : Char}
    (hc : c.toNat < 128) : P c := by
  rw [← Char.ofNat_toNat c]
  exact h c.toNat hc

/-- Only capital letters of ASCII have another form in lower case. -/
theorem toLower_eq_self {c : Char} (h : c.toNat < 65 ∨ 90 < c.toNat) : c.toLower = c := by
  refine dif_neg fun hupper => ?_
  have hle : 65 ≤ c.toNat := hupper.1
  have hge : c.toNat ≤ 90 := hupper.2
  omega

theorem toNat_lt_of_isAlphanum {c : Char} (h : c.isAlphanum) : c.toNat < 123 := by
  rcases isAlphanum_iff.1 h with (h | h) | h
  · have := isUpper_iff.1 h
    omega
  · have := isLower_iff.1 h
    omega
  · have := isDigit_iff.1 h
    omega

theorem toLower_toUpper {c : Char} (h : isWordChar c) : c.toUpper.toLower = c := by
  have hc := toNat_lt_of_isAlphanum (isAlphanum_of_isWordChar h)
  revert h
  refine forall_of_forall_lt (P := fun c => isWordChar c → c.toUpper.toLower = c) ?_ (by omega)
  decide

theorem toLower_of_isWordChar {c : Char} (h : isWordChar c) : c.toLower = c := by
  have hc := toNat_lt_of_isAlphanum (isAlphanum_of_isWordChar h)
  revert h
  refine forall_of_forall_lt (P := fun c => isWordChar c → c.toLower = c) ?_ (by omega)
  decide

/-! ### Words that are joined -/

theorem spell_of_isAscii {cs : List Char} (h : ∀ c ∈ cs, Transliteration.isAscii c) :
    Transliteration.spell cs = cs := by
  rw [Transliteration.spell, List.takeWhile_eq_self_iff.2 h, List.dropWhile_eq_nil_iff.2 h]
  exact List.append_nil cs

theorem dropGroupCommas_of_not_mem {cs : List Char} (h : ',' ∉ cs) (afterDigit : Bool) :
    dropGroupCommas afterDigit cs = cs := by
  induction cs generalizing afterDigit with
  | nil => rfl
  | cons c cs ih =>
    have hc : c ≠ ',' := fun e => h (e ▸ List.mem_cons_self)
    simp [dropGroupCommas, hc, ih fun hmem => h (List.mem_cons_of_mem _ hmem)]

/-- Words that are joined by a separator are what stands between the separators. -/
theorem filter_splitOnP_intercalate {p : Char → Bool} {sep : Char} (hsep : p sep)
    {ws : List (List Char)} (h : ∀ w ∈ ws, w ≠ [] ∧ ∀ c ∈ w, p c = false) :
    (([sep].intercalate ws).splitOnP p).filter (fun w => !w.isEmpty) = ws := by
  induction ws with
  | nil => rfl
  | cons w ws ih =>
    obtain ⟨⟨hne, hchars⟩, hws⟩ := List.forall_mem_cons.1 h
    cases ws with
    | nil => simp [List.splitOnP_eq_singleton hchars, hne]
    | cons w' ws =>
      rw [List.intercalate_cons_cons, List.append_assoc, List.singleton_append,
        List.splitOnP_append_cons_of_forall_mem hchars sep hsep,
        List.filter_cons_of_pos (by simpa using hne), ih hws]

theorem runs_intercalate {sep : Char} (hsep : ¬ isWordChar sep) {ws : List (List Char)}
    (h : ∀ w ∈ ws, IsWord w) : runs ([sep].intercalate ws) = ws :=
  filter_splitOnP_intercalate (by simpa using hsep) fun w hw =>
    ⟨(h w hw).ne_nil, fun c hc => by simp [(h w hw).isWordChar c hc]⟩

theorem map_intercalate {sep : Char} (f : Char → Char) (ws : List (List Char)) :
    ([sep].intercalate ws).map f = [f sep].intercalate (ws.map (List.map f)) := by
  induction ws with
  | nil => rfl
  | cons w ws ih =>
    cases ws with
    | nil => simp
    | cons w' ws =>
      simpa [List.intercalate_cons_cons] using ih

/-- The separators that names are joined with. -/
def IsSeparator (c : Char) : Prop :=
  c = '_' ∨ c = ' '

/-- Words that are joined are found again, also if they are written in another case. -/
theorem wordsOf_ofList_intercalate {sep : Char} {ws : List (List Char)}
    {f : List Char → List Char} (hsep : IsSeparator sep) (hws : ∀ w ∈ ws, IsWord w)
    (hlower : ∀ w ∈ ws, (f w).map Char.toLower = w) (hf : ∀ w ∈ ws, ∀ c ∈ f w, c.isAlphanum) :
    wordsOf (String.ofList ([sep].intercalate (ws.map f))) = ws := by
  obtain ⟨hnot, hascii, hlow, hcomma⟩ : ¬ isWordChar sep ∧ Transliteration.isAscii sep ∧
      sep.toLower = sep ∧ sep ≠ ',' := by
    rcases hsep with rfl | rfl <;> decide
  have hspell : ∀ c ∈ [sep].intercalate (ws.map f), Transliteration.isAscii c := by
    intro c hc
    rcases Text.mem_intercalate hc with hc | ⟨_, hmem, hc⟩
    · exact List.mem_singleton.1 hc ▸ hascii
    · obtain ⟨w, hw, rfl⟩ := List.mem_map.1 hmem
      have := toNat_lt_of_isAlphanum (hf w hw c hc)
      exact decide_eq_true (by omega)
  have hjoined : ([sep].intercalate (ws.map f)).map Char.toLower = [sep].intercalate ws := by
    rw [map_intercalate, List.map_map, hlow]
    exact congrArg _ ((List.map_congr_left hlower).trans (List.map_id ws))
  have hcommas : ',' ∉ [sep].intercalate ws := by
    intro hmem
    rcases Text.mem_intercalate hmem with hmem | ⟨w, hw, hmem⟩
    · exact hcomma (List.mem_singleton.1 hmem).symm
    · exact absurd ((hws w hw).isWordChar _ hmem) (by decide)
  rw [wordsOf, String.toList_ofList, spell_of_isAscii hspell, hjoined,
    dropGroupCommas_of_not_mem hcommas, runs_intercalate hnot hws]

/-! ### Names -/

theorem withoutParentheses_of_not_mem {s : String} (h : '(' ∉ s.toList) :
    withoutParentheses s = s := by
  rw [withoutParentheses, dropParts_of_not_mem h, String.ofList_toList]

theorem map_toLower_map_toUpper {w : List Char} (h : IsWord w) :
    (w.map Char.toUpper).map Char.toLower = w := by
  rw [List.map_map]
  exact (List.map_congr_left fun c hc => toLower_toUpper (h.isWordChar c hc)).trans (List.map_id w)

theorem map_toLower_capitalize {w : List Char} (h : IsWord w) :
    (capitalize w).map Char.toLower = w := by
  cases w with
  | nil => rfl
  | cons c w =>
    rw [capitalize, List.map_cons, toLower_toUpper (h.isWordChar c List.mem_cons_self)]
    refine congrArg (c :: ·) ((List.map_congr_left fun b hb => ?_).trans (List.map_id w))
    exact toLower_of_isWordChar (h.isWordChar b (List.mem_cons_of_mem _ hb))

/-- **The words of a token** are those of its label. -/
theorem wordsOf_token (parentheses : Parentheses) (label : String) :
    wordsOf (token parentheses label) = wordsOf (parentheses.apply label) := by
  rw [token, slugOf, map_intercalate]
  have hupper : ∀ w ∈ wordsOf (parentheses.apply label), ∀ c ∈ w.map Char.toUpper,
      c.isAlphanum := by
    intro w hw c hc
    obtain ⟨b, hb, rfl⟩ := List.mem_map.1 hc
    exact isAlphanum_toUpper ((isWord_of_mem_wordsOf hw).isWordChar b hb)
  exact wordsOf_ofList_intercalate (.inl rfl) (fun _ => isWord_of_mem_wordsOf)
    (fun _ hw => map_toLower_map_toUpper (isWord_of_mem_wordsOf hw)) hupper

/-- **The words of a readable name** are those of its label. -/
theorem wordsOf_displayName (label : String) :
    wordsOf (displayName label) = wordsOf (withoutParentheses label) :=
  wordsOf_ofList_intercalate (.inr rfl) (fun _ => isWord_of_mem_wordsOf)
    (fun _ hw => map_toLower_capitalize (isWord_of_mem_wordsOf hw))
    fun _ hw _ hc => isAlphanum_of_mem_capitalize (isWord_of_mem_wordsOf hw) hc

theorem withoutParentheses_token (parentheses : Parentheses) (label : String) :
    withoutParentheses (token parentheses label) = token parentheses label :=
  withoutParentheses_of_not_mem fun h => by
    rcases mem_token h with h | h | h <;> exact absurd h (by decide)

theorem withoutParentheses_displayName (label : String) :
    withoutParentheses (displayName label) = displayName label :=
  withoutParentheses_of_not_mem fun h => by
    rcases mem_displayName h with h | h <;> exact absurd h (by decide)

/-- A token is its own token. -/
theorem token_token (parentheses parentheses' : Parentheses) (label : String) :
    token parentheses' (token parentheses label) = token parentheses label := by
  have happly := parentheses'.apply_eq_self (withoutParentheses_token parentheses label)
  rw [token, happly, wordsOf_token, ← token]

/-- The class of a group can be named by any label that gives the group its name. -/
theorem className_displayName (label : String) :
    className (displayName label) = className label := by
  rw [className, withoutParentheses_displayName, wordsOf_displayName, ← className]

end SensorCatalog.Label
