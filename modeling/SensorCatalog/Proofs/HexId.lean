import SensorCatalog.HexId

/-!
# Hexadecimal numerals

A numeral has a value exactly by its digits: each of them has one, and the digits of a number in
hexadecimal have the number as their value.

## Main results

* `HexId.isSome_of_value?`: only digits have a value.
* `HexId.valueFrom?_toDigits`: a numeral has the value that it was written for.
-/

namespace SensorCatalog.HexId

theorem valueFrom?_append (acc : Nat) (cs ds : List Char) :
    valueFrom? acc (cs ++ ds) = (valueFrom? acc cs).bind fun n => valueFrom? n ds := by
  induction cs generalizing acc with
  | nil => rfl
  | cons c cs ih =>
    rw [List.cons_append, valueFrom?, valueFrom?, Option.bind_assoc]
    exact Option.bind_congr fun d _ => ih _

theorem digitValue?_digitChar {d : Nat} (h : d < 16) : digitValue? d.digitChar = some d := by
  have hall : ∀ d < 16, digitValue? (Nat.digitChar d) = some d := by decide
  exact hall d h

theorem value?_eq_of_ne_nil {cs : List Char} (h : cs ≠ []) : value? cs = valueFrom? 0 cs := by
  cases cs with
  | nil => exact absurd rfl h
  | cons c cs => rfl

/-- A numeral has the value that it was written for. -/
theorem valueFrom?_toDigits (n : Nat) : valueFrom? 0 (Nat.toDigits 16 n) = some n := by
  induction n using Nat.strongRecOn with
  | ind n ih =>
    rw [Nat.toDigits_eq_if (by decide)]
    split
    · next hlt => simp [valueFrom?, digitValue?_digitChar hlt]
    · next hge =>
      rw [valueFrom?_append, ih _ (Nat.div_lt_self (by omega) (by decide)), Option.bind_some,
        valueFrom?, digitValue?_digitChar (Nat.mod_lt n (by decide)), Option.bind_some, valueFrom?,
        Nat.div_add_mod']

theorem isSome_of_valueFrom? {acc n : Nat} {cs : List Char} (h : valueFrom? acc cs = some n) :
    ∀ c ∈ cs, (digitValue? c).isSome := by
  induction cs generalizing acc with
  | nil => exact List.forall_mem_nil _
  | cons c cs ih =>
    obtain ⟨d, hd, hcs⟩ := Option.bind_eq_some_iff.1 h
    exact List.forall_mem_cons.2 ⟨Option.isSome_of_eq_some hd, ih hcs⟩

/-- Only digits have a value. -/
theorem isSome_of_value? {cs : List Char} {n : Nat} (h : value? cs = some n) :
    ∀ c ∈ cs, (digitValue? c).isSome := by
  cases cs with
  | nil => exact List.forall_mem_nil _
  | cons c cs => exact isSome_of_valueFrom? h

end SensorCatalog.HexId
