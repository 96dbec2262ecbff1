import SensorCatalog.Text.Blank

/-!
# Leading and trailing elements of a class

`Text.dropTrailing` cuts a list in two: a front that does not end in the class, and trailing
elements that are all in it. There is only one such cut, so this describes the front completely. The
leading elements are cut off by `List.takeWhile` and `List.dropWhile` in the same way.

## Main results

* `Text.takeWhile_append_of_head?`, `Text.dropWhile_append_of_head?`: the cut behind the leading
  elements.
* `Text.dropTrailing_eq_iff`: the front of the cut.
* `Text.prefix_dropTrailing_iff`: what a list begins with is in the front.
* `Text.dropTrailing_map`: elements may be replaced before or after the cut.
-/

namespace SensorCatalog.Text

variable {α β : Type} {p : α → Bool}

/-! ### Leading elements -/

section

variable {leading rest : List α}

theorem takeWhile_append_of_head? (hleading : ∀ a ∈ leading, p a)
    (hrest : ∀ a ∈ rest.head?, ¬ p a) : (leading ++ rest).takeWhile p = leading := by
  rw [List.takeWhile_append_of_pos hleading]
  cases rest with
  | nil => simp
  | cons a rest => simp [hrest a rfl]

theorem dropWhile_append_of_head? (hleading : ∀ a ∈ leading, p a)
    (hrest : ∀ a ∈ rest.head?, ¬ p a) : (leading ++ rest).dropWhile p = rest := by
  rw [List.dropWhile_append_of_pos hleading]
  cases rest with
  | nil => rfl
  | cons a rest => simp [hrest a rfl]

theorem not_of_mem_head?_dropWhile {l : List α} {a : α} (h : a ∈ (l.dropWhile p).head?) :
    ¬ p a := by
  have hhead := List.head?_dropWhile_not p l
  rw [Option.mem_def.1 h] at hhead
  simpa using hhead

end

/-! ### Trailing elements -/

theorem dropTrailing_append {front trailing : List α} (h : ∀ a ∈ trailing, p a) :
    dropTrailing p (front ++ trailing) = dropTrailing p front := by
  induction front with
  | nil => exact dropTrailing_eq_nil_iff.2 h
  | cons a front ih => rw [List.cons_append, dropTrailing, ih, dropTrailing]

theorem dropTrailing_of_getLast? {l : List α} (h : ∀ a ∈ l.getLast?, ¬ p a) :
    dropTrailing p l = l := by
  induction l with
  | nil => rfl
  | cons a l ih =>
    cases l with
    | nil =>
      have ha : ¬ p a := h a (by simp)
      simp [dropTrailing, ha]
    | cons b l =>
      have hl : dropTrailing p (b :: l) = b :: l := ih (by simpa using h)
      rw [dropTrailing_cons_of_ne_nil (by simp [hl]), hl]

theorem exists_eq_dropTrailing_append (l : List α) :
    ∃ trailing, l = dropTrailing p l ++ trailing ∧ ∀ a ∈ trailing, p a := by
  induction l with
  | nil => exact ⟨[], by simp⟩
  | cons a l ih =>
    obtain ⟨trailing, hl, ht⟩ := ih
    rw [dropTrailing]
    split
    · next hnil =>
      rw [hnil, List.nil_append] at hl
      by_cases ha : p a
      · exact ⟨a :: trailing, by simp [ha, hl], by simpa [ha] using ht⟩
      · exact ⟨trailing, by simp [ha, hl], ht⟩
    · exact ⟨trailing, by rw [List.cons_append, ← hl], ht⟩

theorem not_of_mem_getLast?_dropTrailing (l : List α) :
    ∀ a ∈ (dropTrailing p l).getLast?, ¬ p a := by
  induction l with
  | nil => simp
  | cons a l ih =>
    rw [dropTrailing]
    split
    · by_cases ha : p a <;> simp [ha]
    · next hne =>
      cases h : dropTrailing p l with
      | nil => exact absurd h hne
      | cons b front => simpa [h] using ih

/-- **The cut before the trailing elements.** What is left of a list is the one front that does not
end in the class and is followed by elements of the class only. -/
theorem dropTrailing_eq_iff {l front : List α} :
    dropTrailing p l = front ↔
      (∃ trailing, l = front ++ trailing ∧ ∀ a ∈ trailing, p a) ∧ ∀ a ∈ front.getLast?, ¬ p a := by
  constructor
  · rintro rfl
    exact ⟨exists_eq_dropTrailing_append l, not_of_mem_getLast?_dropTrailing l⟩
  · rintro ⟨⟨trailing, rfl, ht⟩, hlast⟩
    rw [dropTrailing_append ht, dropTrailing_of_getLast? hlast]

theorem dropTrailing_cons_of_not {a : α} (h : ¬ p a) (l : List α) :
    dropTrailing p (a :: l) = a :: dropTrailing p l := by
  rw [dropTrailing]
  split
  · next hnil => rw [if_neg h, hnil]
  · rfl

/-- What holds no element of the class begins a list with or without its trailing elements. -/
theorem prefix_dropTrailing_iff {part l : List α} (h : ∀ a ∈ part, ¬ p a) :
    part <+: dropTrailing p l ↔ part <+: l := by
  induction part generalizing l with
  | nil => simp
  | cons a part ih =>
    obtain ⟨ha, hpart⟩ := List.forall_mem_cons.1 h
    obtain ⟨trailing, hl, -⟩ := exists_eq_dropTrailing_append (p := p) l
    refine ⟨fun hprefix => hl ▸ hprefix.trans (List.prefix_append _ _), fun hprefix => ?_⟩
    cases l with
    | nil => exact hprefix
    | cons b l =>
      obtain ⟨rfl, hrest⟩ := List.cons_prefix_cons.1 hprefix
      rw [dropTrailing_cons_of_not ha]
      exact List.cons_prefix_cons.2 ⟨rfl, (ih hpart).2 hrest⟩

theorem dropTrailing_map (p : β → Bool) (f : α → β) (l : List α) :
    dropTrailing p (l.map f) = (dropTrailing (p ∘ f) l).map f := by
  induction l with
  | nil => rfl
  | cons a l ih =>
    rw [List.map_cons, dropTrailing, ih, dropTrailing]
    cases dropTrailing (p ∘ f) l with
    | nil => by_cases ha : p (f a) <;> simp [ha]
    | cons b front => simp

end SensorCatalog.Text
