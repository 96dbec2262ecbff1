/-!
# Blank characters

The characters with the Unicode property White_Space, and the trimming of texts by them. The class
is wider than `Char.isWhitespace`: it also holds the vertical tab, the form feed, the next-line
character, the no-break space and the spaces of other scripts. Zero-width characters are not blank.

## Main definitions

* `Text.isBlank`: the class.
* `Text.trimStart`, `Text.trimEnd`, `Text.trim`: a text less its outer blanks.
* `Text.dropTrailing`: a list less the elements of a class at its end.
-/

namespace SensorCatalog.Text

/-- The Unicode property White_Space. -/
def isBlank (c : Char) : Bool :=
  let n := c.toNat
  (0x09 ≤ n && n ≤ 0x0D) || n == 0x20 || n == 0x85 || n == 0xA0 || n == 0x1680 ||
    (0x2000 ≤ n && n ≤ 0x200A) || n == 0x2028 || n == 0x2029 || n == 0x202F || n == 0x205F ||
    n == 0x3000

/-- Every character that is white space to the core library is blank. -/
theorem isBlank_of_isWhitespace {c : Char} (h : c.isWhitespace) : isBlank c := by
  simp only [Char.isWhitespace, Bool.or_eq_true, decide_eq_true_eq] at h
  rcases h with ((rfl | rfl) | rfl) | rfl <;> decide

/-- A list without the elements of a class at its end. -/
def dropTrailing {α : Type} (p : α → Bool) : List α → List α
  | [] => []
  | a :: rest =>
    match dropTrailing p rest with
    | [] => if p a then [] else [a]
    | kept => a :: kept

/-- A text without the blanks at its start. -/
def trimStart (cs : List Char) : List Char :=
  cs.dropWhile isBlank

/-- A text without the blanks at its end. -/
def trimEnd (cs : List Char) : List Char :=
  dropTrailing isBlank cs

/-- A text without the blanks at both ends. -/
def trim (cs : List Char) : List Char :=
  trimEnd (trimStart cs)

/-! ### Trailing elements -/

section

variable {α : Type} {p : α → Bool}

@[simp] theorem dropTrailing_nil : dropTrailing p [] = [] := rfl

theorem dropTrailing_cons_of_ne_nil {a : α} {l : List α} (h : dropTrailing p l ≠ []) :
    dropTrailing p (a :: l) = a :: dropTrailing p l := by
  rw [dropTrailing]
  split
  · contradiction
  · rfl

theorem dropTrailing_eq_nil_iff {l : List α} : dropTrailing p l = [] ↔ ∀ a ∈ l, p a := by
  induction l with
  | nil => simp
  | cons a l ih =>
    rw [List.forall_mem_cons, ← ih, dropTrailing]
    split
    · next h => simp [h]
    · next h => exact ⟨fun hc => by simp at hc, fun hc => absurd hc.2 h⟩

end

end SensorCatalog.Text
