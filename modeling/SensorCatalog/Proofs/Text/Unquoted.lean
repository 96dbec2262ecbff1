import SensorCatalog.Proofs.HexId
import SensorCatalog.Proofs.Text.Quoted
import Mathlib.Data.List.Forall2
import Mathlib.Data.List.TakeDrop

/-!
# Reading quoted text

A quoted text is a string literal of Rust on one line. Such a literal spells each character of a
text in one of several ways, between quotes: as itself, with a letter, or with its number in one of
two forms, of which quoting uses one. A spelling tells where it ends and which character it stands
for, whatever comes after it. So a literal denotes one text, and a quoted text denotes the text that
was quoted. No spelling holds a quote that a backslash does not escape, so a literal ends where it
should, and none holds the end of a line.

## Main definitions

* `Quoted.readChar?`: the character that is written at the start of a text.
* `Quoted.Spells`, `Quoted.Denotes`: the spellings of a character, and the literals of a text.
* `Quoted.afterQuote?`: what is left of a text behind the end of a literal.
* `Quoted.IsOneLineLiteral`: a text with the ends of a literal on one line.

## Main results

* `Quoted.readChar?_append_of_spells`: a character is read as it was spelled.
* `Quoted.denotes_quote_iff`: the text that a quoted text denotes.
* `Quoted.Denotes.isOneLineLiteral`: where a literal ends.
* `Quoted.quote_injective`: a quoted text comes from one text only.
-/

namespace SensorCatalog.Quoted

/-! ### Characters -/

/-- The character that stands behind a backslash for another one. -/
def letter? : Char → Option Char
  | '"' => some '"'
  | '\x27' => some '\x27'
  | '\\' => some '\\'
  | 'n' => some '\n'
  | 'r' => some '\r'
  | 't' => some '\t'
  | '0' => some '\x00'
  | _ => none

/-- The digits of a numeral, in which there can be underscores. -/
def bareDigits (numeral : List Char) : List Char :=
  numeral.filter (· != '_')

/-- The character whose number is written up to a closing brace, and what is left of the text. -/
def readNumbered? (cs : List Char) : Option (Char × List Char) :=
  match cs.span (· != '\x7d') with
  | (numeral, '\x7d' :: rest) =>
    (HexId.value? (bareDigits numeral)).map fun n => (Char.ofNat n, rest)
  | _ => none

/-- The character that is written at the start of a text, and what is left of the text. -/
def readChar? : List Char → Option (Char × List Char)
  | '\\' :: 'u' :: '\x7b' :: rest => readNumbered? rest
  | '\\' :: 'x' :: a :: b :: rest => (HexId.value? [a, b]).map fun n => (Char.ofNat n, rest)
  | '\\' :: c :: rest => (letter? c).map (·, rest)
  | '"' :: _ => none
  | c :: rest => some (c, rest)
  | [] => none

/-- The characters that cannot stand for themselves. -/
def reserved : List Char :=
  ['"', '\\', '\n', '\r']

/-- A way to write a character between the quotes of a literal that is on one line. -/
inductive Spells (c : Char) : List Char → Prop
  /-- The character stands for itself. -/
  | plain (h : c ∉ reserved) : Spells c [c]
  /-- A letter behind a backslash stands for it. -/
  | letter {l : Char} (h : letter? l = some c) : Spells c ['\\', l]
  /-- A character of ASCII has its number, with two digits in hexadecimal. -/
  | byte {a b : Char} (hlt : c.toNat < 0x80) (h : HexId.value? [a, b] = some c.toNat) :
    Spells c ['\\', 'x', a, b]
  /-- Its number stands in braces, with one to six digits in hexadecimal and underscores behind
  them. -/
  | numbered {numeral : List Char} (hfirst : numeral.head? ≠ some '_')
      (hlength : (bareDigits numeral).length ≤ 6)
      (h : HexId.value? (bareDigits numeral) = some c.toNat) :
    Spells c (['\\', 'u', '\x7b'] ++ numeral ++ ['\x7d'])

/-- Digits are neither reserved nor closing braces. -/
theorem not_mem_of_value? {digits : List Char} {n : Nat} (h : HexId.value? digits = some n)
    {b : Char} (hb : b ∈ digits) : b ∉ '\x7d' :: reserved := by
  have hnone : ('\x7d' :: reserved).all fun b => (HexId.digitValue? b).isNone := by decide
  intro hmem
  have hsome := HexId.isSome_of_value? h b hb
  rw [Option.isNone_iff_eq_none.1 (List.all_eq_true.1 hnone b hmem)] at hsome
  cases hsome

/-- Nor are the characters of a numeral. -/
theorem not_mem_of_value?_bareDigits {numeral : List Char} {n : Nat}
    (h : HexId.value? (bareDigits numeral) = some n) {b : Char} (hb : b ∈ numeral) :
    b ∉ '\x7d' :: reserved := by
  by_cases hunderscore : b = '_'
  · subst hunderscore
    decide
  · exact not_mem_of_value? h (List.mem_filter.2 ⟨hb, bne_iff_ne.2 hunderscore⟩)

theorem readNumbered?_append {numeral : List Char} {c : Char}
    (h : HexId.value? (bareDigits numeral) = some c.toNat) (rest : List Char) :
    readNumbered? (numeral ++ '\x7d' :: rest) = some (c, rest) := by
  have hnumeral : ∀ b ∈ numeral, (b != '\x7d') = true := fun b hb =>
    bne_iff_ne.2 (List.ne_of_not_mem_cons (not_mem_of_value?_bareDigits h hb))
  have hspan : (numeral ++ '\x7d' :: rest).span (· != '\x7d') = (numeral, '\x7d' :: rest) := by
    rw [List.span_eq_takeWhile_dropWhile, List.takeWhile_append_of_pos hnumeral,
      List.dropWhile_append_of_pos hnumeral, List.takeWhile_cons_of_neg (by decide),
      List.dropWhile_cons_of_neg (by decide), List.append_nil]
  rw [readNumbered?, hspan]
  simp only [h, Option.map_some, Char.ofNat_toNat]

/-- **A character is read as it was spelled**, whatever follows. -/
theorem readChar?_append_of_spells {c : Char} {cs : List Char} (h : Spells c cs)
    (rest : List Char) : readChar? (cs ++ rest) = some (c, rest) := by
  cases h with
  | plain h =>
    simp only [reserved, List.mem_cons, List.not_mem_nil, or_false, not_or] at h
    rw [List.singleton_append]
    unfold readChar?
    split
    · next heq => exact absurd (List.cons.inj heq).1 h.2.1
    · next heq => exact absurd (List.cons.inj heq).1 h.2.1
    · next heq => exact absurd (List.cons.inj heq).1 h.2.1
    · next heq => exact absurd (List.cons.inj heq).1 h.1
    · next heq =>
      obtain ⟨rfl, rfl⟩ := List.cons.inj heq
      rfl
    · next heq => cases heq
  | letter h =>
    unfold letter? at h
    -- no letter is called `u` or `x`, so none is taken for a number
    split at h <;> cases h <;> rfl
  | byte _ h =>
    simp only [List.cons_append, List.nil_append, readChar?, h, Option.map_some,
      Char.ofNat_toNat]
  | numbered _ _ h =>
    rw [List.append_assoc, List.append_assoc, List.singleton_append]
    exact readNumbered?_append h rest

theorem Spells.ne_nil {c : Char} {cs : List Char} (h : Spells c cs) : cs ≠ [] := by
  cases h <;> simp

theorem toNat_lt (c : Char) : c.toNat < 0x110000 := by
  have hvalid : c.toNat < 0xD800 ∨ 0xDFFF < c.toNat ∧ c.toNat < 0x110000 := c.valid
  omega

theorem ne_underscore_of_mem_toDigits {n : Nat} {b : Char} (h : b ∈ Nat.toDigits 16 n) :
    b ≠ '_' := by
  obtain ⟨d, hd, rfl⟩ := exists_digitChar_of_mem_toDigits (by decide) n h
  have hall : ∀ d < 16, Nat.digitChar d ≠ '_' := by decide
  exact hall d hd

theorem bareDigits_toDigits (n : Nat) : bareDigits (Nat.toDigits 16 n) = Nat.toDigits 16 n :=
  List.filter_eq_self.2 fun _ hb => bne_iff_ne.2 (ne_underscore_of_mem_toDigits hb)

/-- A character is written as one of its spellings. -/
theorem spells_escape (c : Char) : Spells c (escape c) := by
  fun_cases escape c with
  | case7 c _ _ _ _ _ _ _ =>
    refine .numbered (fun hfirst => ?_) ?_ ?_
    · exact ne_underscore_of_mem_toDigits (List.mem_of_mem_head? hfirst) rfl
    · rw [bareDigits_toDigits, Nat.length_toDigits_le_iff (by decide) (by decide)]
      exact Nat.lt_trans (toNat_lt c) (by decide)
    · rw [bareDigits_toDigits, HexId.value?_eq_of_ne_nil Nat.toDigits_ne_nil,
        HexId.valueFrom?_toDigits]
  | case8 c hquote hbackslash hlineFeed hreturn =>
    exact .plain (by simpa [reserved] using ⟨hquote, hbackslash, hlineFeed, hreturn⟩)
  | _ => exact .letter rfl

/-! ### Texts -/

/-- A literal denotes the text whose characters it spells between its quotes. -/
def Denotes (literal s : String) : Prop :=
  ∃ parts, List.Forall₂ Spells s.toList parts ∧ literal.toList = '"' :: parts.flatten ++ ['"']

theorem denotes_quote (s : String) : Denotes (quote s) s := by
  refine ⟨s.toList.map escape, ?_, ?_⟩
  · rw [List.forall₂_map_right_iff, List.forall₂_same]
    exact fun c _ => spells_escape c
  · rw [quote, String.toList_ofList, encode, List.flatMap_def]

/-- Spellings that are put together in the same way are those of one text. -/
theorem eq_of_flatten_eq {cs ds : List Char} {parts parts' : List (List Char)}
    (h : List.Forall₂ Spells cs parts) (h' : List.Forall₂ Spells ds parts')
    (heq : parts.flatten = parts'.flatten) : cs = ds := by
  induction h generalizing ds parts' with
  | nil =>
    cases h' with
    | nil => rfl
    | cons hd => simp [hd.ne_nil] at heq
  | @cons c spelling cs parts hc _ ih =>
    cases h' with
    | nil => simp [hc.ne_nil] at heq
    | cons hd hds =>
      have hread := readChar?_append_of_spells hc parts.flatten
      rw [← List.flatten_cons, heq, List.flatten_cons, readChar?_append_of_spells hd] at hread
      obtain ⟨rfl, hrest⟩ := Prod.mk.inj (Option.some.inj hread)
      rw [ih hds hrest.symm]

theorem Denotes.unique {literal s s' : String} (h : Denotes literal s) (h' : Denotes literal s') :
    s = s' := by
  obtain ⟨parts, hparts, hliteral⟩ := h
  obtain ⟨parts', hparts', hliteral'⟩ := h'
  rw [hliteral, List.append_cancel_right_eq, List.cons_inj_right] at hliteral'
  exact String.toList_inj.1 (eq_of_flatten_eq hparts hparts' hliteral')

/-- **A quoted text denotes the text that was quoted** and no other one. -/
theorem denotes_quote_iff {s s' : String} : Denotes (quote s) s' ↔ s' = s := by
  constructor
  · exact fun h => h.unique (denotes_quote s)
  · rintro rfl
    exact denotes_quote s'

/-- **A quoted text comes from one text only.** -/
theorem quote_injective : Function.Injective quote := by
  intro s s' h
  exact denotes_quote_iff.1 (h ▸ denotes_quote s)

/-! ### Where a literal ends -/

/-- What is left of a text behind its first quote that is not escaped. A backslash escapes the
character behind it, be it another backslash. -/
def afterQuote? : List Char → Option (List Char)
  | '\\' :: _ :: rest => afterQuote? rest
  | '"' :: rest => some rest
  | _ :: rest => afterQuote? rest
  | [] => none

/-- A text has the ends of a literal on one line. -/
structure IsOneLineLiteral (literal : String) : Prop where
  /-- It begins and ends with a quote. Between them every quote is escaped: whatever follows the
  text, it is known to end where it does. -/
  exists_body : ∃ body, literal.toList = '"' :: body ++ ['"'] ∧
    ∀ rest, afterQuote? (body ++ '"' :: rest) = some rest
  /-- It is one line only. -/
  lineFeed_not_mem : '\n' ∉ literal.toList
  /-- Nothing in it belongs to the end of a line. -/
  return_not_mem : '\r' ∉ literal.toList

theorem afterQuote?_cons_of_not_mem {c : Char} (h : c ∉ reserved) (rest : List Char) :
    afterQuote? (c :: rest) = afterQuote? rest := by
  simp only [reserved, List.mem_cons, List.not_mem_nil, or_false, not_or] at h
  rw [afterQuote?]
  · exact fun _ _ hbackslash _ => h.2.1 hbackslash
  · exact h.1

theorem afterQuote?_append_of_not_mem {cs : List Char} (h : ∀ c ∈ cs, c ∉ reserved)
    (rest : List Char) : afterQuote? (cs ++ rest) = afterQuote? rest := by
  induction cs with
  | nil => rfl
  | cons c cs ih =>
    obtain ⟨hc, hcs⟩ := List.forall_mem_cons.1 h
    rw [List.cons_append, afterQuote?_cons_of_not_mem hc, ih hcs]

/-- A spelling is a character that is not reserved, or a backslash, a mark and characters that are
not reserved. -/
theorem Spells.shape {c : Char} {cs : List Char} (h : Spells c cs) :
    (∃ b, b ∉ reserved ∧ cs = [b]) ∨
      ∃ mark tail, mark ∉ ['\n', '\r'] ∧ (∀ b ∈ tail, b ∉ reserved) ∧
        cs = '\\' :: mark :: tail := by
  cases h with
  | plain h => exact .inl ⟨c, h, rfl⟩
  | letter h =>
    refine .inr ⟨_, [], ?_, List.forall_mem_nil _, rfl⟩
    intro hmark
    rcases List.mem_cons.1 hmark with rfl | hmark
    · cases h
    · rw [List.mem_singleton.1 hmark] at h
      cases h
  | @byte a b _ h =>
    refine .inr ⟨'x', [a, b], by decide, fun d hd => ?_, rfl⟩
    exact List.not_mem_of_not_mem_cons (not_mem_of_value? h hd)
  | @numbered numeral _ _ h =>
    refine .inr ⟨'u', '\x7b' :: (numeral ++ ['\x7d']), by decide, ?_, rfl⟩
    have hnumeral : ∀ d ∈ numeral, d ∉ reserved := fun d hd =>
      List.not_mem_of_not_mem_cons (not_mem_of_value?_bareDigits h hd)
    exact List.forall_mem_cons.2 ⟨by decide, List.forall_mem_append.2
      ⟨hnumeral, List.forall_mem_singleton.2 (by decide)⟩⟩

/-- The end of a literal is not in a spelling. -/
theorem Spells.afterQuote?_append {c : Char} {cs : List Char} (h : Spells c cs) (rest : List Char) :
    afterQuote? (cs ++ rest) = afterQuote? rest := by
  rcases h.shape with ⟨b, hb, rfl⟩ | ⟨mark, tail, -, htail, rfl⟩
  · exact afterQuote?_cons_of_not_mem hb rest
  · exact afterQuote?_append_of_not_mem htail rest

/-- Nor is the end of a line. -/
theorem Spells.not_mem {c : Char} {cs : List Char} (h : Spells c cs) {d : Char}
    (hd : d ∈ ['\n', '\r']) : d ∉ cs := by
  have hreserved : d ∈ reserved := List.mem_cons_of_mem _ (List.mem_cons_of_mem _ hd)
  rcases h.shape with ⟨b, hb, rfl⟩ | ⟨mark, tail, hmark, htail, rfl⟩
  · intro hmem
    exact hb (List.mem_singleton.1 hmem ▸ hreserved)
  · intro hmem
    rcases List.mem_cons.1 hmem with rfl | hmem
    · revert hd
      decide
    · rcases List.mem_cons.1 hmem with rfl | hmem
      · exact hmark hd
      · exact htail d hmem hreserved

theorem afterQuote?_flatten_append {cs : List Char} {parts : List (List Char)}
    (h : List.Forall₂ Spells cs parts) (rest : List Char) :
    afterQuote? (parts.flatten ++ rest) = afterQuote? rest := by
  induction h with
  | nil => rfl
  | cons hc _ ih => rw [List.flatten_cons, List.append_assoc, hc.afterQuote?_append, ih]

theorem not_mem_flatten {cs : List Char} {parts : List (List Char)}
    (h : List.Forall₂ Spells cs parts) {d : Char} (hd : d ∈ ['\n', '\r']) : d ∉ parts.flatten := by
  induction h with
  | nil => exact List.not_mem_nil
  | cons hc _ ih =>
    rw [List.flatten_cons, List.mem_append, not_or]
    exact ⟨hc.not_mem hd, ih⟩

/-- **Where a literal ends.** A literal of a text is on one line, and the quote at its end is the
first one in it that is not escaped. -/
theorem Denotes.isOneLineLiteral {literal s : String} (h : Denotes literal s) :
    IsOneLineLiteral literal := by
  obtain ⟨parts, hparts, hliteral⟩ := h
  have hends : ∀ d ∈ ['\n', '\r'], d ∉ literal.toList := by
    intro d hd
    have hquote : d ≠ '"' := by
      rintro rfl
      revert hd
      decide
    simpa [hliteral, hquote, -List.mem_flatten] using not_mem_flatten hparts hd
  exact ⟨⟨parts.flatten, hliteral, fun rest => afterQuote?_flatten_append hparts _⟩,
    hends '\n' (by decide), hends '\r' (by decide)⟩

end SensorCatalog.Quoted
