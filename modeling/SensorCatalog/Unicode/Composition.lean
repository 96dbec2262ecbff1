import SensorCatalog.Unicode.Decomposition

/-!
# Composed texts

Texts that look the same can be written in several ways. The composed form is the same for all of
them: each character is taken apart, marks are put in the order of their classes, and then each mark
is joined with what it stands on if there is a character for both.

## Main definitions

* `Unicode.sortMarks`: a text with its marks in order.
* `Unicode.pair?`: the character that two others make.
* `Unicode.compose`: the composed form of a text.
-/

namespace SensorCatalog.Unicode

/-! ### The order of marks -/

/-- A character at the end of a text in reverse: it goes before the marks of higher classes. -/
def addMark (c : Char) : List Char → List Char
  | [] => [c]
  | d :: rest =>
    if 0 < combiningClass c ∧ combiningClass c < combiningClass d then d :: addMark c rest
    else c :: d :: rest

/-- A text with its marks in the order of their classes. -/
def sortMarks (cs : List Char) : List Char :=
  (cs.foldl (fun sorted c => addMark c sorted) []).reverse

/-! ### Putting together -/

/-- The syllable that two characters make. -/
def syllableOf? (a b : Char) : Option Char :=
  match syllable? a with
  | some n =>
    if n % trailing.2 = 0 ∧ trailing.1 < b.toNat ∧ b.toNat < trailing.1 + trailing.2 then
      some (Char.ofNat (a.toNat + (b.toNat - trailing.1)))
    else none
  | none =>
    if leading.1 ≤ a.toNat ∧ a.toNat < leading.1 + leading.2 ∧
        vowel.1 ≤ b.toNat ∧ b.toNat < vowel.1 + vowel.2 then
      some (Char.ofNat (firstSyllable +
        ((a.toNat - leading.1) * vowel.2 + (b.toNat - vowel.1)) * trailing.2))
    else none

/-- The character that two others make: it is made of what they are made of. -/
def pair? (a b : Char) : Option Char :=
  if b.toNat < firstMark then none
  else
    match syllableOf? a b with
    | some c => some c
    | none =>
      let parts := (decompose a ++ [b]).map Char.toNat
      let whole? := composites.find? fun e =>
        e.values == parts && !isIn apart (Char.ofNat e.stretch.first)
      whole?.map fun e => Char.ofNat e.stretch.first

/-- A text that begins with a base and the marks, in reverse, that were not joined with it. A mark
is not joined over another one of its class. -/
def joinFrom (base : Char) (marks : List Char) : List Char → List Char
  | [] => base :: marks.reverse
  | c :: rest =>
    let isBlocked := marks.head?.any fun d => combiningClass c ≤ combiningClass d
    match if isBlocked then none else pair? base c with
    | some joined => joinFrom joined marks rest
    | none =>
      if combiningClass c = 0 then base :: marks.reverse ++ joinFrom c [] rest
      else joinFrom base (c :: marks) rest

/-- The composed form of a text. -/
def compose (cs : List Char) : List Char :=
  match sortMarks (cs.flatMap decompose) with
  | [] => []
  | base :: rest => joinFrom base [] rest

end SensorCatalog.Unicode
