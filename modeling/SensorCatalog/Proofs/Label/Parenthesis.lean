import SensorCatalog.Label.Parenthesis

/-!
# What is left of a label without its parenthesized parts

A label is scanned from its start. An opening parenthesis with a closing one after it begins a part,
which goes through the first closing one and is left out whole; every other character is kept. Parts
do not nest, so an unmatched closing parenthesis may be left, but never one behind an opening one:
nothing that is left forms a part, not even of characters that had a part between them.

## Main definitions

* `Label.LosesParts`: the scan, as a relation between a text and what is left of it.
* `Label.HasPart`: a closing parenthesis stands somewhere after an opening one.

## Main results

* `Label.losesParts_iff`: the scan leaves one text.
* `Label.LosesParts.not_hasPart`, `Label.dropParts_eq_self_iff`: what is left has no part, and only
  texts with a part change.
* `Label.withoutParentheses_eq_iff`: labels without their parenthesized parts.
-/

namespace SensorCatalog.Label

/-- A text that is scanned from its start, and what is left of it. -/
inductive LosesParts : List Char → List Char → Prop
  /-- The text is at its end. -/
  | nil : LosesParts [] []
  /-- An opening parenthesis is left out together with everything through the first closing one
  after it. -/
  | part {inner rest kept : List Char} (hinner : ')' ∉ inner) (hrest : LosesParts rest kept) :
      LosesParts ('(' :: (inner ++ ')' :: rest)) kept
  /-- Every other character is kept. -/
  | keep {c : Char} {rest kept : List Char} (hc : c = '(' → ')' ∉ rest)
      (hrest : LosesParts rest kept) : LosesParts (c :: rest) (c :: kept)

/-- A closing parenthesis stands somewhere after an opening one. -/
def HasPart (text : List Char) : Prop :=
  ['(', ')'].Sublist text

theorem hasPart_cons_iff {c : Char} {rest : List Char} :
    HasPart (c :: rest) ↔ HasPart rest ∨ c = '(' ∧ ')' ∈ rest := by
  rw [HasPart, List.sublist_cons_iff]
  refine or_congr_right ⟨?_, ?_⟩
  · rintro ⟨_, ⟨⟩, hclosing⟩
    exact ⟨rfl, List.singleton_sublist.1 hclosing⟩
  · rintro ⟨rfl, hclosing⟩
    exact ⟨_, rfl, List.singleton_sublist.2 hclosing⟩

/-! ### The scan -/

/-- From inside a part, the text goes on behind the first closing parenthesis. -/
theorem dropParts_append_closing {inner : List Char} (h : ')' ∉ inner) (rest : List Char) :
    dropParts true (inner ++ ')' :: rest) = dropParts false rest := by
  induction inner with
  | nil => rfl
  | cons c inner ih =>
    have hc : c ≠ ')' := fun e => h (e ▸ List.mem_cons_self)
    have hinside : (c != ')') = true := bne_iff_ne.2 hc
    rw [List.cons_append, dropParts, if_pos rfl, hinside]
    exact ih fun hmem => h (List.mem_cons_of_mem c hmem)

theorem dropParts_part {inner : List Char} (h : ')' ∉ inner) (rest : List Char) :
    dropParts false ('(' :: (inner ++ ')' :: rest)) = dropParts false rest := by
  have hclosing : ')' ∈ inner ++ ')' :: rest := List.mem_append_right _ List.mem_cons_self
  rw [dropParts, if_neg Bool.false_ne_true, if_pos ⟨rfl, hclosing⟩, dropParts_append_closing h]

theorem dropParts_keep {c : Char} {rest : List Char} (h : c = '(' → ')' ∉ rest) :
    dropParts false (c :: rest) = c :: dropParts false rest := by
  rw [dropParts, if_neg Bool.false_ne_true, if_neg fun hpart => h hpart.1 hpart.2]

theorem losesParts_dropParts (text : List Char) : LosesParts text (dropParts false text) := by
  -- a part is left out in one step, so the induction is on the length
  induction hn : text.length using Nat.strongRecOn generalizing text with
  | ind n ih =>
    cases text with
    | nil => exact .nil
    | cons c rest =>
      rw [List.length_cons] at hn
      by_cases hpart : c = '(' ∧ ')' ∈ rest
      · obtain ⟨rfl, hclosing⟩ := hpart
        obtain ⟨inner, behind, rfl, hinner⟩ := List.eq_append_cons_of_mem hclosing
        rw [dropParts_part hinner]
        refine .part hinner (ih behind.length ?_ behind rfl)
        rw [List.length_append, List.length_cons] at hn
        omega
      · have hc : c = '(' → ')' ∉ rest := fun hopening hclosing => hpart ⟨hopening, hclosing⟩
        rw [dropParts_keep hc]
        exact .keep hc (ih rest.length (by omega) rest rfl)

/-- **The scan leaves one text.** -/
theorem losesParts_iff {text kept : List Char} :
    LosesParts text kept ↔ dropParts false text = kept := by
  constructor
  · intro h
    induction h with
    | nil => rfl
    | part hinner _ ih => rw [dropParts_part hinner, ih]
    | keep hc _ ih => rw [dropParts_keep hc, ih]
  · rintro rfl
    exact losesParts_dropParts text

/-! ### What is left -/

/-- The characters that are left stand in their order. -/
theorem LosesParts.sublist {text kept : List Char} (h : LosesParts text kept) :
    kept.Sublist text := by
  induction h with
  | nil => exact List.Sublist.refl []
  | part _ _ ih => exact ((ih.cons ')').trans (List.sublist_append_right ..)).cons '('
  | keep _ _ ih => exact ih.cons_cons _

/-- Nothing that is left forms a part: an opening parenthesis is kept only if no closing one comes
after it, and what is left of the rest has no character that the rest has not. -/
theorem LosesParts.not_hasPart {text kept : List Char} (h : LosesParts text kept) :
    ¬ HasPart kept := by
  induction h with
  | nil => exact fun hpart => nomatch hpart
  | part _ _ ih => exact ih
  | keep hc hrest ih =>
    rw [hasPart_cons_iff]
    rintro (hpart | ⟨hopening, hclosing⟩)
    · exact ih hpart
    · exact hc hopening (hrest.sublist.subset hclosing)

/-- Only texts with a part change. -/
theorem dropParts_eq_self_iff {text : List Char} :
    dropParts false text = text ↔ ¬ HasPart text := by
  constructor
  · intro h
    exact (losesParts_iff.2 h).not_hasPart
  · intro h
    induction text with
    | nil => rfl
    | cons c rest ih =>
      rw [hasPart_cons_iff, not_or] at h
      rw [dropParts_keep fun hopening hclosing => h.2 ⟨hopening, hclosing⟩, ih h.1]

/-- **A label without its parenthesized parts** is what the scan leaves of it. Nothing that is left
forms a part, so a second scan changes nothing; a label is changed exactly if it has a part. -/
theorem withoutParentheses_eq_iff (label : String) :
    (∀ kept : String,
        withoutParentheses label = kept ↔ LosesParts label.toList kept.toList) ∧
      ¬ HasPart (withoutParentheses label).toList ∧
      (withoutParentheses label = label ↔ ¬ HasPart label.toList) ∧
      withoutParentheses (withoutParentheses label) = withoutParentheses label := by
  have htoList : (withoutParentheses label).toList = dropParts false label.toList :=
    String.toList_ofList
  have hleft : ¬ HasPart (withoutParentheses label).toList :=
    htoList ▸ (losesParts_dropParts label.toList).not_hasPart
  have hself : ∀ text : String, withoutParentheses text = text ↔ ¬ HasPart text.toList := by
    intro text
    rw [← dropParts_eq_self_iff, ← String.toList_inj, withoutParentheses, String.toList_ofList]
  refine ⟨fun kept => ?_, hleft, hself label, (hself _).2 hleft⟩
  rw [losesParts_iff, ← htoList, String.toList_inj]

/-- A part goes through the first closing parenthesis, also if another one opens within it. -/
example : withoutParentheses "a (b (c) d) e (f" = "a  d) e (f" := by decide +kernel

end SensorCatalog.Label
