import SensorCatalog.Proofs.Label.Joined

/-!
# Names that source code can use

A name in source code begins with a letter or an underscore and goes on with letters, digits and
underscores. Tokens and the names of classes have no other characters, so all that can go wrong is
the first one: the first character of a token is checked, and the name of a class begins as the
token of the same label does.

## Main definitions

* `Label.IsSourceName`: the names that source code can use.
* `Label.beginsWithDigit`: the texts that only their first character keeps from being names.

## Main results

* `Label.isSourceName_token_iff`: the tokens that are names.
* `Label.isSourceName_className_iff`: the groups whose class has a name.
-/

namespace SensorCatalog.Label

/-- A name in source code. -/
def IsSourceName (name : String) : Prop :=
  ∃ first rest, name.toList = first :: rest ∧ (first.isAlpha ∨ first = '_') ∧
    ∀ c ∈ rest, c.isAlphanum ∨ c = '_'

/-- A text begins with a digit. -/
def beginsWithDigit (text : String) : Bool :=
  text.toList.head?.any Char.isDigit

theorem isAlphanum_iff_isAlpha_or {c : Char} : c.isAlphanum ↔ c.isAlpha ∨ c.isDigit :=
  Bool.or_eq_true_iff

theorem not_isDigit_of_isAlpha {c : Char} (h : c.isAlpha) : ¬ c.isDigit := by
  rw [isDigit_iff]
  rcases Bool.or_eq_true_iff.1 h with h | h
  · have := isUpper_iff.1 h
    omega
  · have := isLower_iff.1 h
    omega

theorem isSourceName_iff {name : String} (h : ∀ c ∈ name.toList, c.isAlphanum ∨ c = '_') :
    IsSourceName name ↔ isIdentifier name := by
  rw [IsSourceName, isIdentifier]
  cases hname : name.toList with
  | nil => simp
  | cons first rest =>
    rw [hname, List.forall_mem_cons] at h
    constructor
    · rintro ⟨_, _, ⟨⟩, hfirst, -⟩
      simpa using hfirst
    · exact fun hfirst => ⟨first, rest, rfl, by simpa using hfirst, h.2⟩

/-- **The tokens that are names** are those whose first character is as it must be. -/
theorem isSourceName_token_iff {parentheses : Parentheses} {label : String} :
    IsSourceName (token parentheses label) ↔ isIdentifier (token parentheses label) :=
  isSourceName_iff fun c hc => by
    rcases mem_token hc with h | h | h
    · exact .inl (isAlphanum_iff.2 (.inl (.inl h)))
    · exact .inl (isAlphanum_iff.2 (.inr h))
    · exact .inr h

theorem not_beginsWithDigit_of_isIdentifier {name : String} (h : isIdentifier name) :
    ¬ beginsWithDigit name := by
  rw [isIdentifier] at h
  rw [beginsWithDigit]
  cases hname : name.toList.head? with
  | none => simp
  | some first =>
    rw [hname, Option.any_some, Bool.or_eq_true, beq_iff_eq] at h
    rw [Option.any_some]
    rcases h with h | rfl
    · exact not_isDigit_of_isAlpha h
    · decide

/-- The name of a class begins as the token of the label does. -/
theorem head?_className (label : String) :
    (className label).toList.head? = some ((token .dropped label).toList.head?.getD 'S') := by
  rw [className, token, Parentheses.apply_dropped, slugOf, String.toList_ofList,
    String.toList_ofList]
  cases hwords : wordsOf (withoutParentheses label) with
  | nil => rfl
  | cons w ws =>
    have hw : IsWord w := isWord_of_mem_wordsOf (hwords ▸ List.mem_cons_self)
    obtain ⟨c, w, rfl⟩ := List.exists_cons_of_ne_nil hw.ne_nil
    cases ws <;> rfl

/-- **The groups whose class has a name** that source code can use are those with a label whose
token does not begin with a digit. -/
theorem isSourceName_className_iff {label : String} :
    IsSourceName (className label) ↔ ¬ beginsWithDigit (token .dropped label) := by
  have hhead := head?_className label
  rw [isSourceName_iff fun c hc => .inl (mem_className hc), isIdentifier, beginsWithDigit, hhead]
  cases hfirst : (token .dropped label).toList.head? with
  | none => decide
  | some c =>
    rw [hfirst] at hhead
    have hc : c.isAlphanum := mem_className (List.mem_of_mem_head? hhead)
    have hunderscore : c ≠ '_' := fun e => absurd hc (by rw [e]; decide)
    have hexclusive : c.isAlpha ↔ ¬ c.isDigit :=
      ⟨not_isDigit_of_isAlpha, (isAlphanum_iff_isAlpha_or.1 hc).resolve_right⟩
    simpa [hunderscore] using hexclusive

end SensorCatalog.Label
