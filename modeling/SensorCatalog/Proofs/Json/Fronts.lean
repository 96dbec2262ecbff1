import SensorCatalog.Json.Record
import SensorCatalog.Proofs.HexId
import Mathlib.Data.List.TakeWhile

/-!
# What readers take

A reader that succeeds has taken a front off its text. Classes of fronts that can be put together
are carried through readers that are run one after the other. The first such class is that of the
texts on one line: no part of a token holds a line feed, be it read or passed over.

## Main definitions

* `Json.Composes`: a class of texts that can be put together.
* `Json.Took`, `Json.Takes`: what has been taken off a text, and what a reader takes.
* `Json.IsOneLine`: the texts on one line.

## Main results

* `Json.took_bind`, `Json.takes_bind`: one reader after the other.
* `Json.takes_number`, `Json.takes_quotedText`, `Json.takes_startWith`: tokens that are read.
* `Json.takes_skipScalar`: tokens that are passed over.
-/

namespace SensorCatalog.Json

variable {α β σ : Type} {P : List Char → Prop}

/-! ### Fronts of texts -/

/-- A class of texts that can be put together. -/
class Composes (P : List Char → Prop) : Prop where
  /-- The empty text is in the class. -/
  nil : P []
  /-- Two texts of the class make up one of the class. -/
  append {cs ds : List Char} (hcs : P cs) (hds : P ds) : P (cs ++ ds)

/-- A rest of a text follows a front of a class. -/
def Follows (P : List Char → Prop) (text rest : List Char) : Prop :=
  ∃ front, P front ∧ text = front ++ rest

theorem follows_self [Composes P] (text : List Char) : Follows P text text :=
  ⟨[], Composes.nil, rfl⟩

theorem Follows.trans [Composes P] {text middle rest : List Char} (h : Follows P text middle)
    (h' : Follows P middle rest) : Follows P text rest := by
  obtain ⟨front, hfront, rfl⟩ := h
  obtain ⟨front', hfront', rfl⟩ := h'
  exact ⟨front ++ front', Composes.append hfront hfront', (List.append_assoc ..).symm⟩

/-- Reading, if it succeeds, takes a front of a class off its text. -/
def Took (P : List Char → Prop) {text : List Char} (x : Except Failure (Step α text)) : Prop :=
  ∀ s, x = .ok s → Follows P text s.rest

/-- A reader takes fronts of a class. -/
def Takes (P : List Char → Prop) (r : Reader α) : Prop :=
  ∀ text, Took P (r text)

theorem took_error (text : List Char) (e : Failure) :
    Took P (.error e : Except Failure (Step α text)) :=
  fun _ h => nomatch h

theorem took_ok {text : List Char} {s : Step α text} (h : Follows P text s.rest) :
    Took P (.ok s) := by
  rintro _ ⟨⟩
  exact h

/-- What is taken off the rest of a text makes the front longer. -/
theorem took_map_widen {Q : List Char → Prop} {text rest : List Char}
    {x : Except Failure (Step α rest)} (le : rest.length ≤ text.length) (hx : Took Q x)
    (h : ∀ {rest'}, Follows Q rest rest' → Follows P text rest') :
    Took P (x.map (Step.widen le)) := by
  cases x with
  | error e => exact took_error _ e
  | ok s => exact took_ok (h (hx s rfl))

theorem took_here [Composes P] (a : α) (text : List Char) :
    Took P (.ok (Step.here a text)) :=
  took_ok (follows_self text)

theorem takes_pure [Composes P] (a : α) : Takes P (pure a) :=
  took_here a

/-- Two readers one after the other take one front after the other. -/
theorem took_bind {Q R : List Char → Prop} {r : Reader α} {f : α → Reader β} {text : List Char}
    (hr : Took P (r text)) (hf : ∀ a, Takes Q (f a))
    (h : ∀ {middle rest}, Follows P text middle → Follows Q middle rest → Follows R text rest) :
    Took R ((r >>= f) text) := by
  change Took R (r.bind f text)
  rw [Reader.bind]
  cases hread : r text with
  | error e => exact took_error _ e
  | ok s => exact took_map_widen _ (hf s.value s.rest) (h (hr s hread))

theorem takes_bind [Composes P] {r : Reader α} {f : α → Reader β} (hr : Takes P r)
    (hf : ∀ a, Takes P (f a)) : Takes P (r >>= f) :=
  fun text => took_bind (hr text) hf Follows.trans

theorem takes_fail (cause : Cause) : Takes P (Reader.fail cause : Reader α) :=
  fun text => took_error text _

theorem takes_failIn (b : Bracket) (cause : Cause) : Takes P (Reader.failIn b cause : Reader α) :=
  fun text => took_error text _

theorem takes_refuse (expected : Expected) (s : Start) :
    Takes P (s.refuse expected : Reader α) := by
  cases s with
  | scalar value => exact takes_fail _
  | list => exact fun text => took_error text _
  | object => exact fun text => took_error text _

/-! ### Within a token -/

/-- A text on one line. -/
def IsOneLine (cs : List Char) : Prop :=
  '\n' ∉ cs

instance : Composes IsOneLine where
  nil := List.not_mem_nil
  append hcs hds := by simpa [IsOneLine] using And.intro hcs hds

theorem follows_cons {c : Char} (hc : c ≠ '\n') (rest : List Char) :
    Follows IsOneLine (c :: rest) rest :=
  ⟨[c], fun h => hc (List.mem_singleton.1 h).symm, rfl⟩

theorem took_next {c : Char} (hc : c ≠ '\n') (a : α) (rest : List Char) :
    Took IsOneLine (.ok (Step.next a c rest)) :=
  took_ok (follows_cons hc rest)

/-- A reader behind the first character of a text, which is no line feed. -/
theorem Takes.took_behind {r : Reader α} (hr : Takes IsOneLine r) {c : Char} (hc : c ≠ '\n')
    (rest : List Char) : Took IsOneLine (r.behind c rest) :=
  took_map_widen _ (hr rest) (follows_cons hc rest).trans

theorem ne_lineFeed_of_isDigit {c : Char} (h : c.isDigit) : c ≠ '\n' := by
  rintro rfl
  exact absurd h (by decide)

theorem takes_digits : Takes IsOneLine digits := by
  refine fun text => took_ok ⟨text.takeWhile Char.isDigit, fun h => ?_, ?_⟩
  · exact ne_lineFeed_of_isDigit (List.mem_takeWhile_imp h) rfl
  · exact List.takeWhile_append_dropWhile.symm

theorem takes_wholePart (first : Char) : Takes IsOneLine (wholePart first) := by
  intro text
  unfold wholePart
  split
  · split
    · exact took_error _ _
    · exact took_here _ _
  · split
    · exact takes_bind takes_digits (fun _ => takes_pure _) text
    · exact took_error _ _

theorem takes_someDigits (atEnd : Cause) : Takes IsOneLine (someDigits atEnd) := by
  intro text
  unfold someDigits
  split
  · exact took_error _ _
  · split
    · exact takes_digits _
    · exact took_error _ _

theorem takes_fractionPart (atEnd : Cause) : Takes IsOneLine (fractionPart atEnd) := by
  intro text
  unfold fractionPart
  split
  · exact (takes_someDigits atEnd).took_behind (by decide) _
  · exact took_here _ _

theorem takes_exponentSign : Takes IsOneLine exponentSign := by
  intro text
  unfold exponentSign
  split
  · exact took_next (by decide) _ _
  · exact took_next (by decide) _ _
  · exact took_here _ _

theorem takes_exponentPart (atEnd : Cause) : Takes IsOneLine (exponentPart atEnd) := by
  intro text
  unfold exponentPart
  split
  · exact took_here _ _
  · split
    · next hc =>
      refine Takes.took_behind (takes_bind takes_exponentSign fun _ =>
        takes_bind (takes_someDigits atEnd) fun _ => takes_pure _) ?_ _
      rcases hc with rfl | rfl <;> decide
    · exact took_here _ _

theorem takes_numeral (atEnd : Cause) (first : Char) : Takes IsOneLine (numeral atEnd first) :=
  takes_bind (takes_wholePart first) fun _ =>
    takes_bind (takes_fractionPart atEnd) fun _ =>
      takes_bind (takes_exponentPart atEnd) fun _ => takes_pure _

theorem takes_signedNumeral (atEnd : Cause) (first : Char) :
    Takes IsOneLine (signedNumeral atEnd first) := by
  intro text
  by_cases hsign : first = '-'
  · subst hsign
    cases text with
    | nil => exact took_error _ _
    | cons c rest =>
      by_cases hc : c = '\n'
      · subst hc
        exact took_error _ _
      · exact (takes_numeral atEnd c).took_behind hc rest
  · have heq : signedNumeral atEnd first = numeral atEnd first := if_neg hsign
    rw [heq]
    exact takes_numeral atEnd first text

theorem takes_number (first : Char) : Takes IsOneLine (number first) := by
  intro text
  unfold number
  split
  · exact took_error _ _
  · next n hn =>
    split
    · exact took_ok (takes_signedNumeral _ first text n hn)
    · exact took_error _ _

/-! ### Texts and words -/

theorem isOneLine_of_value? {cs : List Char} {n : Nat} (h : HexId.value? cs = some n) :
    IsOneLine cs :=
  fun hmem => absurd (HexId.isSome_of_value? h _ hmem) (by decide)

theorem takes_codeUnit : Takes IsOneLine codeUnit := by
  intro text
  unfold codeUnit
  extract_lets refused
  split
  · next a b c d rest =>
    split
    · next n hn => exact took_ok ⟨[a, b, c, d], isOneLine_of_value? hn, rfl⟩
    · exact took_error _ _
  · exact took_error _ _

theorem takes_lowSurrogate (high : Nat) : Takes IsOneLine (lowSurrogate high) := by
  intro text
  unfold lowSurrogate
  split
  · next rest =>
    have hmarks : Follows IsOneLine ('\\' :: 'u' :: rest) rest :=
      (follows_cons (by decide) _).trans (follows_cons (by decide) _)
    refine took_map_widen _ (takes_bind takes_codeUnit (fun low => ?_) rest) hmarks.trans
    split
    · exact takes_pure _
    · exact takes_fail _
  · exact took_error _ _
  · exact took_error _ _
  · exact took_error _ _
  · exact took_error _ _

theorem takes_numberedEscape : Takes IsOneLine numberedEscape := by
  refine takes_bind takes_codeUnit fun unit => ?_
  split
  · exact takes_fail _
  · split
    · exact takes_lowSurrogate unit
    · exact takes_pure _

theorem ne_lineFeed_of_letterEscape? {c d : Char} (h : letterEscape? c = some d) : c ≠ '\n' := by
  rintro rfl
  cases h

theorem takes_escape : Takes IsOneLine escape := by
  intro text
  unfold escape
  split
  · exact took_error _ _
  · exact takes_numberedEscape.took_behind (by decide) _
  · split
    · next hc => exact took_next (ne_lineFeed_of_letterEscape? hc) _ _
    · exact took_error _ _

theorem ne_lineFeed_of_not_isControl {c : Char} (h : ¬ isControl c) : c ≠ '\n' := by
  rintro rfl
  exact h rfl

theorem took_characters (text : List Char) : Took IsOneLine (characters text) := by
  fun_induction characters text with
  | case2 rest => exact took_next (by decide) _ rest
  | case5 rest c hescape _ s hs ih =>
    have hchar := (follows_cons (c := '\\') (by decide) rest).trans (takes_escape rest c hescape)
    exact took_ok (hchar.trans (ih s hs))
  | case8 c rest _ _ hc s hs ih =>
    have hchar := follows_cons (ne_lineFeed_of_not_isControl hc) rest
    exact took_ok (hchar.trans (ih s hs))
  | _ => exact took_error _ _

theorem takes_quotedText : Takes IsOneLine quotedText :=
  takes_bind took_characters fun _ => takes_pure _

theorem takes_word (meaning : α) {cs : List Char} (h : IsOneLine cs) :
    Takes IsOneLine (word meaning cs) := by
  induction cs with
  | nil => exact takes_pure meaning
  | cons w ws ih =>
    obtain ⟨hw, hws⟩ := not_or.1 (mt List.mem_cons.2 h)
    intro text
    unfold word
    split
    · exact took_error _ _
    · next c rest =>
      split
      · next hc => exact (ih hws).took_behind (hc ▸ Ne.symm hw) rest
      · exact took_error _ _

theorem takes_startWith (first : Char) : Takes IsOneLine (startWith first) := by
  fun_cases startWith first with
  | case1 => exact takes_pure _
  | case2 => exact takes_pure _
  | case3 => exact takes_bind takes_quotedText fun _ => takes_pure _
  | case4 => exact takes_word _ (by simp [IsOneLine])
  | case5 => exact takes_word _ (by simp [IsOneLine])
  | case6 => exact takes_word _ (by simp [IsOneLine])
  | case7 first => exact takes_bind (takes_number first) fun _ => takes_pure _

/-! ### Tokens passed over -/

theorem takes_skipEscape : Takes IsOneLine skipEscape := by
  intro text
  unfold skipEscape
  split
  · exact took_error _ _
  · exact (takes_bind takes_codeUnit fun _ => takes_pure _).took_behind (by decide) _
  · split
    · next hc =>
      obtain ⟨d, hd⟩ := Option.isSome_iff_exists.1 hc
      exact took_next (ne_lineFeed_of_letterEscape? hd) _ _
    · exact took_error _ _

theorem took_skipText (text : List Char) : Took IsOneLine (skipText text) := by
  fun_induction skipText text with
  | case2 rest => exact took_next (by decide) _ rest
  | case4 rest s hescape shorter ih =>
    have hchar :=
      (follows_cons (c := '\\') (by decide) rest).trans (takes_skipEscape rest s hescape)
    exact took_map_widen _ ih hchar.trans
  | case6 c rest _ _ hc ih =>
    have hchar := follows_cons (ne_lineFeed_of_not_isControl hc) rest
    exact took_map_widen _ ih hchar.trans
  | _ => exact took_error _ _

theorem takes_skipScalar (first : Char) : Takes IsOneLine (skipScalar first) := by
  fun_cases skipScalar first with
  | case1 => exact took_skipText
  | case2 => exact takes_word _ (by simp [IsOneLine])
  | case3 => exact takes_word _ (by simp [IsOneLine])
  | case4 => exact takes_word _ (by simp [IsOneLine])
  | case5 first => exact takes_bind (takes_signedNumeral _ first) fun _ => takes_pure _

end SensorCatalog.Json
