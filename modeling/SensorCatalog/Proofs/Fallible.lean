import Mathlib.Data.List.Forall2

/-!
# Steps that may fail

A computation in steps succeeds if each of its steps does, and fails as the first one does that
fails. What is known of the steps is then known of the whole: for two steps one after the other, and
for one step for each element of a list.

## Main results

* `Fallible.bind_eq_ok_iff`, `Fallible.bind_eq_error_iff`: two steps.
* `Fallible.mapM_eq_ok_iff`, `Fallible.foldlM_eq_error_iff`: a step for each element.
-/

namespace SensorCatalog.Fallible

variable {ε ε' α β γ : Type}

theorem bind_eq_ok_iff {x : Except ε α} {f : α → Except ε β} {b : β} :
    x >>= f = .ok b ↔ ∃ a, x = .ok a ∧ f a = .ok b := by
  cases x with
  | error e => simp [bind, Except.bind]
  | ok a => simp [bind, Except.bind]

/-- Two steps fail if the first one does, or the second one after it. -/
theorem bind_eq_error_iff {x : Except ε α} {f : α → Except ε β} {e : ε} :
    x >>= f = .error e ↔ x = .error e ∨ ∃ a, x = .ok a ∧ f a = .error e := by
  cases x with
  | error e' => simp [bind, Except.bind]
  | ok a => simp [bind, Except.bind]

theorem mapError_eq_ok_iff {f : ε → ε'} {x : Except ε α} {a : α} :
    x.mapError f = .ok a ↔ x = .ok a := by
  cases x with
  | error e => simp [Except.mapError]
  | ok a => simp [Except.mapError]

theorem exists_eq_ok_of_isOk {x : Except ε α} (h : x.isOk) : ∃ a, x = .ok a := by
  cases x with
  | error e => cases h
  | ok a => exact ⟨a, rfl⟩

/-- A computation succeeds with what has a property. -/
theorem exists_eq_ok_of_any {x : Except ε α} {p : α → Bool} (h : x.toOption.any p) :
    ∃ a, x = .ok a ∧ p a := by
  cases x with
  | error e => cases h
  | ok a => exact ⟨a, rfl, h⟩

theorem mapM_eq_ok_iff {f : α → Except ε β} {l : List α} {l' : List β} :
    l.mapM f = .ok l' ↔ List.Forall₂ (fun a b => f a = .ok b) l l' := by
  induction l generalizing l' with
  | nil =>
    rw [List.mapM_nil, List.forall₂_nil_left_iff]
    exact ⟨fun h => (Except.ok.inj h).symm, fun h => h ▸ rfl⟩
  | cons a l ih =>
    rw [List.mapM_cons, bind_eq_ok_iff]
    constructor
    · rintro ⟨b, hb, h⟩
      obtain ⟨bs, hbs, h⟩ := bind_eq_ok_iff.1 h
      obtain rfl : b :: bs = l' := Except.ok.inj h
      exact .cons hb (ih.1 hbs)
    · rintro (_ | ⟨hb, hbs⟩)
      exact ⟨_, hb, bind_eq_ok_iff.2 ⟨_, ih.2 hbs, rfl⟩⟩

/-- A step for each element fails at the first element whose step fails. -/
theorem foldlM_eq_error_iff {f : β → α → Except ε β} {l : List α} {b : β} {e : ε} :
    l.foldlM f b = .error e ↔
      ∃ done a rest mid, l = done ++ a :: rest ∧ done.foldlM f b = .ok mid ∧
        f mid a = .error e := by
  constructor
  · intro h
    induction l generalizing b with
    | nil => cases h
    | cons a l ih =>
      rw [List.foldlM_cons, bind_eq_error_iff] at h
      rcases h with h | ⟨b', hstep, h⟩
      · exact ⟨[], a, l, b, rfl, rfl, h⟩
      · obtain ⟨done, a', rest, mid, rfl, hdone, hfails⟩ := ih h
        refine ⟨a :: done, a', rest, mid, rfl, ?_, hfails⟩
        rw [List.foldlM_cons, hstep]
        exact hdone
  · rintro ⟨done, a, rest, mid, rfl, hdone, hfails⟩
    rw [List.foldlM_append, hdone]
    exact bind_eq_error_iff.2 (.inr ⟨mid, rfl, by rw [List.foldlM_cons, hfails]; rfl⟩)

end SensorCatalog.Fallible
