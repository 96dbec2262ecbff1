import SensorCatalog.Proofs.Text.Occurrence
import SensorCatalog.Text.Quoted

/-!
# What occurs in a quoted text

The written form of a character is either that character or made of a few characters that serve to
write others. So a text without the latter, all of whose characters are written as they are, occurs
in a quoted text exactly if it occurs in the text.

## Main definitions

* `Quoted.IsEscapeChar`: the characters that other characters are written with.

## Main results

* `Quoted.escape_eq_singleton_or`: the two kinds of written forms.
* `Quoted.lineFeed_not_mem_quote`: a quoted text is on one line.
* `Quoted.infix_encode_iff`: what occurs in a quoted text.
-/

namespace SensorCatalog.Quoted

/-- The characters that other characters are written with. -/
def IsEscapeChar (c : Char) : Prop :=
  c ∈ ['\\', '"', '\x7b', '\x7d'] ∨ c.isDigit ∨ c.isLower

instance : DecidablePred IsEscapeChar := fun c =>
  inferInstanceAs (Decidable (c ∈ ['\\', '"', '\x7b', '\x7d'] ∨ c.isDigit ∨ c.isLower))

theorem exists_digitChar_of_mem_toDigits {base : Nat} (hbase : 1 < base) (n : Nat) {c : Char}
    (h : c ∈ Nat.toDigits base n) : ∃ d < base, c = d.digitChar := by
  induction n using Nat.strongRecOn with
  | ind n ih =>
    rw [Nat.toDigits_eq_if hbase] at h
    split at h
    · next hlt => exact ⟨n, hlt, List.mem_singleton.1 h⟩
    · next hge =>
      rcases List.mem_append.1 h with h | h
      · exact ih _ (Nat.div_lt_self (by omega) hbase) h
      · exact ⟨_, Nat.mod_lt n (by omega), List.mem_singleton.1 h⟩

/-- A digit of a numeral in hexadecimal serves to write other characters. -/
theorem isEscapeChar_of_mem_toDigits {n : Nat} {c : Char} (h : c ∈ Nat.toDigits 16 n) :
    IsEscapeChar c := by
  obtain ⟨d, hd, rfl⟩ := exists_digitChar_of_mem_toDigits (by decide) n h
  have hall : ∀ d < 16, IsEscapeChar (Nat.digitChar d) := by decide
  exact hall d hd

/-- A character is written as it is, or with characters that serve for that. -/
theorem escape_eq_singleton_or (c : Char) :
    escape c = [c] ∨ escape c ≠ [] ∧ ∀ b ∈ escape c, IsEscapeChar b := by
  fun_cases escape c with
  | case7 c _ _ _ _ _ _ _ =>
    refine .inr ⟨by simp, ?_⟩
    simp only [List.forall_mem_append]
    exact ⟨⟨by simp [IsEscapeChar], fun b => isEscapeChar_of_mem_toDigits⟩, by simp [IsEscapeChar]⟩
  | case8 c => exact .inl rfl
  | _ => exact .inr ⟨List.cons_ne_nil _ _, by simp [IsEscapeChar]⟩

/-- **A quoted text is on one line.** -/
theorem lineFeed_not_mem_quote (s : String) : '\n' ∉ (quote s).toList := by
  have hescape : ∀ c, '\n' ∉ escape c := by
    intro c hmem
    rcases escape_eq_singleton_or c with hc | ⟨-, hc⟩
    · obtain rfl : '\n' = c := List.mem_singleton.1 (hc ▸ hmem)
      exact absurd hc (by decide)
    · exact absurd (hc _ hmem) (by decide)
  rw [quote, String.toList_ofList]
  simp [encode, hescape]

/-- **What occurs in a quoted text.** -/
theorem infix_encode_iff {part cs : List Char} (hne : part ≠ [])
    (hself : ∀ c ∈ part, escape c = [c]) (hescape : ∀ c ∈ part, ¬ IsEscapeChar c) :
    part <:+: encode cs ↔ part <:+: cs := by
  refine Text.infix_flatMap_iff hne fun c _ => ?_
  rcases escape_eq_singleton_or c with hc | ⟨hwritten, hc⟩
  · exact .inl hc
  · by_cases hmem : c ∈ part
    · exact .inl (hself c hmem)
    · exact .inr ⟨hmem, hwritten, fun b hb hpart => hescape b hpart (hc b hb)⟩

end SensorCatalog.Quoted
