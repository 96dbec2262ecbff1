import SensorCatalog.Text.Occurrence

/-!
# Where a text can occur

A text occurs in a longer one in one place. What stands around that place matters only where the
occurrence could reach into it: not across a character that it does not have, and not into a text
without its first or its last character.

## Main results

* `Text.infix_append_cons_iff`, `Text.infix_intercalate_iff`: no occurrence reaches across a
  separator.
* `Text.not_of_mem_splitOnP`, `Text.mem_intercalate`: what the parts of a text hold.
* `Text.cons_infix_append_iff`, `Text.concat_infix_append_iff`: no occurrence begins or ends where
  its first or last character is missing.
* `Text.infix_flatMap_iff`: replacing characters by texts foreign to `part` neither adds nor hides
  an occurrence of `part`.
-/

namespace SensorCatalog.Text

variable {α : Type}

/-! ### Separators -/

theorem infix_append_cons_iff {part before after : List α} {a : α} (ha : a ∉ part) :
    part <:+: before ++ a :: after ↔ part <:+: before ∨ part <:+: after := by
  rw [List.infix_append_iff]
  constructor
  · rintro (h | h | ⟨l₁, l₂, rfl, h₁, h₂⟩)
    · exact .inl h
    · rw [List.infix_cons_iff] at h
      rcases h with h | h
      · cases part with
        | nil => exact .inl List.nil_infix
        | cons b part =>
          obtain ⟨rfl, -⟩ := List.cons_prefix_cons.1 h
          exact absurd List.mem_cons_self ha
      · exact .inr h
    · -- the second half would begin with the separator
      cases l₂ with
      | nil => exact .inl (by simpa using h₁.isInfix)
      | cons b l₂ =>
        obtain ⟨rfl, -⟩ := List.cons_prefix_cons.1 h₂
        exact absurd (List.mem_append_right _ List.mem_cons_self) ha
  · rintro (h | h)
    · exact .inl h
    · exact .inr (.inl (List.infix_cons h))

theorem infix_intercalate_iff {part : List α} {a : α} {parts : List (List α)} (ha : a ∉ part)
    (hne : parts ≠ []) : part <:+: [a].intercalate parts ↔ ∃ l ∈ parts, part <:+: l := by
  induction parts with
  | nil => exact absurd rfl hne
  | cons l parts ih =>
    cases parts with
    | nil => simp
    | cons l' parts =>
      rw [List.intercalate_cons_cons, List.append_assoc, List.singleton_append,
        infix_append_cons_iff ha, ih (List.cons_ne_nil _ _)]
      simp

/-! ### Parts -/

/-- The parts of a list that is cut at the elements of a class hold no element of the class. -/
theorem not_of_mem_splitOnP {p : α → Bool} {l part : List α} (h : part ∈ l.splitOnP p) :
    ∀ a ∈ part, ¬ p a := by
  induction l generalizing part with
  | nil =>
    rw [List.splitOnP_nil, List.mem_singleton] at h
    simp [h]
  | cons b l ih =>
    rw [List.splitOnP_cons_eq_if_modifyHead] at h
    split at h
    · rcases List.mem_cons.1 h with rfl | h
      · simp
      · exact ih h
    · next hb =>
      obtain ⟨first, rest, hsplit⟩ := List.exists_cons_of_ne_nil (List.splitOnP_ne_nil p l)
      rw [hsplit, List.modifyHead_cons] at h
      rcases List.mem_cons.1 h with rfl | h
      · exact List.forall_mem_cons.2 ⟨hb, ih (hsplit ▸ List.mem_cons_self)⟩
      · exact ih (hsplit ▸ List.mem_cons_of_mem _ h)

theorem splitOnP_congr {p q : α → Bool} {l : List α} (h : ∀ a ∈ l, p a = q a) :
    l.splitOnP p = l.splitOnP q := by
  induction l with
  | nil => rfl
  | cons a l ih =>
    have h := List.forall_mem_cons.1 h
    rw [List.splitOnP_cons_eq_if_modifyHead, List.splitOnP_cons_eq_if_modifyHead, h.1, ih h.2]

theorem not_mem_of_mem_splitOn [BEq α] [LawfulBEq α] {a : α} {l part : List α}
    (h : part ∈ l.splitOn a) : a ∉ part :=
  fun hmem => not_of_mem_splitOnP h a hmem (beq_self_eq_true a)

theorem mem_intercalate {a : α} {sep : List α} {parts : List (List α)}
    (h : a ∈ sep.intercalate parts) : a ∈ sep ∨ ∃ l ∈ parts, a ∈ l := by
  induction parts with
  | nil => simp at h
  | cons l parts ih =>
    cases parts with
    | nil => exact .inr ⟨l, List.mem_cons_self, by simpa using h⟩
    | cons l' parts =>
      rw [List.intercalate_cons_cons, List.append_assoc, List.mem_append, List.mem_append] at h
      rcases h with h | h | h
      · exact .inr ⟨l, List.mem_cons_self, h⟩
      · exact .inl h
      · exact (ih h).imp_right fun ⟨m, hm, ha⟩ => ⟨m, List.mem_cons_of_mem _ hm, ha⟩

/-! ### Surroundings without the first or the last character -/

theorem cons_infix_append_iff {a : α} {part before after : List α} (ha : a ∉ before) :
    a :: part <:+: before ++ after ↔ a :: part <:+: after := by
  refine ⟨fun h => ?_, List.infix_append_of_infix_right⟩
  rcases List.infix_append_iff.1 h with h | h | ⟨l₁, l₂, hl, h₁, h₂⟩
  · exact absurd (h.subset List.mem_cons_self) ha
  · exact h
  · cases l₁ with
    | nil => exact hl ▸ h₂.isInfix
    | cons b l₁ =>
      obtain ⟨rfl, -⟩ := List.cons.inj hl
      exact absurd (h₁.subset List.mem_cons_self) ha

theorem concat_infix_append_iff {a : α} {part before after : List α} (ha : a ∉ after) :
    part ++ [a] <:+: before ++ after ↔ part ++ [a] <:+: before := by
  rw [← List.reverse_infix, List.reverse_append, List.reverse_append, List.reverse_singleton,
    List.singleton_append, cons_infix_append_iff (by simpa using ha), ← List.reverse_infix]
  simp

/-! ### Characters replaced by texts -/

section FlatMap

variable {f : α → List α}

/-- What `infix_flatMap_iff` asks of a character: it stays, or it is replaced by a text that shares
no character with `part` and is not in `part` itself. -/
def Foreign (part : List α) (f : α → List α) (c : α) : Prop :=
  f c = [c] ∨ (c ∉ part ∧ f c ≠ [] ∧ ∀ b ∈ f c, b ∉ part)

theorem Foreign.of_cons {a c : α} {part : List α} (h : Foreign (a :: part) f c) :
    Foreign part f c := by
  rcases h with h | ⟨hc, hne, hf⟩
  · exact .inl h
  · exact .inr ⟨fun hm => hc (List.mem_cons_of_mem _ hm), hne,
      fun b hb hm => hf b hb (List.mem_cons_of_mem _ hm)⟩

theorem prefix_flatMap_iff {part cs : List α} (h : ∀ c ∈ cs, Foreign part f c) :
    part <+: cs.flatMap f ↔ part <+: cs := by
  induction cs generalizing part with
  | nil => simp
  | cons c cs ih =>
    cases part with
    | nil => simp
    | cons a part =>
      rw [List.flatMap_cons]
      rcases h c List.mem_cons_self with hc | ⟨hc, hne, hf⟩
      · rw [hc, List.singleton_append, List.cons_prefix_cons, List.cons_prefix_cons,
          ih fun c' hc' => (h c' (List.mem_cons_of_mem _ hc')).of_cons]
      · obtain ⟨b, bs, hb⟩ := List.exists_cons_of_ne_nil hne
        have hab : a ≠ b := fun e => hf b (hb ▸ List.mem_cons_self) (e ▸ List.mem_cons_self)
        have hac : a ≠ c := fun e => hc (e ▸ List.mem_cons_self)
        simp [hb, List.cons_prefix_cons, hab, hac]

theorem infix_flatMap_iff {part cs : List α} (hne : part ≠ []) (h : ∀ c ∈ cs, Foreign part f c) :
    part <:+: cs.flatMap f ↔ part <:+: cs := by
  induction cs with
  | nil => simp
  | cons c cs ih =>
    have htail := ih fun c' hc' => h c' (List.mem_cons_of_mem _ hc')
    rw [List.infix_cons_iff, ← prefix_flatMap_iff h, ← htail, List.flatMap_cons]
    rcases h c List.mem_cons_self with hc | ⟨hc, -, hf⟩
    · rw [hc, List.singleton_append, List.infix_cons_iff]
    · -- no occurrence begins in the text that replaces `c`
      obtain ⟨a, part, rfl⟩ := List.exists_cons_of_ne_nil hne
      have ha : a ∉ f c := fun hm => hf a hm List.mem_cons_self
      rw [cons_infix_append_iff ha]
      refine ⟨.inr, ?_⟩
      rintro (h | h)
      · exact (cons_infix_append_iff ha).1 h.isInfix
      · exact h

end FlatMap

end SensorCatalog.Text
