/-!
# Occurrences in a text

## Main definitions

* `Text.occursIn`: a text is part of another.

## Main results

* `Text.occursIn_iff`: the parts of a text are its contiguous sublists.
-/

namespace SensorCatalog.Text

/-- The text `part` stands somewhere in another. -/
def occursIn (part : List Char) : List Char → Bool
  | [] => part.isEmpty
  | c :: rest => part.isPrefixOf (c :: rest) || occursIn part rest

theorem occursIn_iff {part cs : List Char} : occursIn part cs ↔ part <:+: cs := by
  induction cs with
  | nil => simp [occursIn]
  | cons c rest ih => simp [occursIn, ih, List.infix_cons_iff]

end SensorCatalog.Text
