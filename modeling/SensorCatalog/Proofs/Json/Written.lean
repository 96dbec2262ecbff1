import SensorCatalog.Json.Record
import SensorCatalog.Proofs.Json.Reads
import Mathlib.Data.List.Forall2

/-!
# Reading what is written

JSON leaves freedom in writing a value: blanks may stand between its parts, and a character of a
text may stand for itself or be escaped by a letter or by number. However a value is written, it is
read as what it is.

## Main definitions

* `Json.SpellsChar`, `Json.SpellsText`: the ways to write a character and a text.
* `Json.Writes`, `Json.WritesDocument`: the ways to write a value, and a document that holds it.

## Main results

* `Json.reads_quotedText`: a text is read as what was spelled.
* `Json.reads_foldMembers`: the loop over the members of an object.
* `Json.document_eq_ok`: a document is read as the value that was written.
* `Json.exists_writes_object`, `Json.exists_writes_text`: there is a way to write a value.
-/

namespace SensorCatalog.Json

variable {α σ : Type}

/-! ### Ways to write a value -/

/-- The first of the two code units of a character whose number is `0x10000` or more. -/
def highUnit (c : Char) : Nat :=
  0xD800 + (c.toNat - 0x10000) / 0x400

/-- The second one. -/
def lowUnit (c : Char) : Nat :=
  0xDC00 + (c.toNat - 0x10000) % 0x400

/-- The letters that may follow a backslash, with the characters that they stand for. -/
def escapeLetters : List (Char × Char) :=
  [('"', '"'), ('\\', '\\'), ('/', '/'), ('b', '\x08'), ('f', '\x0c'), ('n', '\n'), ('r', '\r'),
    ('t', '\t')]

/-- The characters that may stand within quotes for themselves. -/
def isPlain (c : Char) : Bool :=
  c != '"' && c != '\\' && 0x20 ≤ c.toNat

/-- A code unit is escaped by number. -/
inductive SpellsUnit (unit : Nat) : List Char → Prop
  | digits {a b c d : Char} (h : HexId.value? [a, b, c, d] = some unit) :
    SpellsUnit unit ['\\', 'u', a, b, c, d]

/-- A character is written within quotes. -/
inductive SpellsChar (c : Char) : List Char → Prop
  | plain (h : isPlain c) : SpellsChar c [c]
  | letter {l : Char} (h : (l, c) ∈ escapeLetters) : SpellsChar c ['\\', l]
  | numbered {unit : List Char} (h : SpellsUnit c.toNat unit) : SpellsChar c unit
  | pair {high low : List Char} (hge : 0x10000 ≤ c.toNat) (hhigh : SpellsUnit (highUnit c) high)
      (hlow : SpellsUnit (lowUnit c) low) : SpellsChar c (high ++ low)

/-- A text is written from behind its opening quote through its closing one. -/
inductive SpellsText (s : String) : List Char → Prop
  | quoted {parts : List (List Char)} (h : List.Forall₂ SpellsChar s.toList parts) :
    SpellsText s (parts.flatten ++ ['"'])

/-- What stands before the key of a member: blanks, and a comma unless the member is the first. -/
def Separates (isFirst : Bool) (separator : List Char) : Prop :=
  if isFirst then IsBlanks separator
  else ∃ before after, IsBlanks before ∧ IsBlanks after ∧ separator = before ++ ',' :: after

/-- The members of an object are written up to its end, if `W` says how their values are. -/
inductive WritesMembers (W : Value → List Char → Prop) :
    Bool → List (String × Value) → List Char → Prop
  | nil {isFirst : Bool} {blanks : List Char} (h : IsBlanks blanks) :
    WritesMembers W isFirst [] (blanks ++ ['}'])
  | cons {isFirst : Bool} {key : String} {v : Value} {ms : List (String × Value)}
      {separator name blanks value rest : List Char} (hseparator : Separates isFirst separator)
      (hname : SpellsText key name) (hblanks : IsBlanks blanks) (hvalue : W v value)
      (hrest : WritesMembers W false ms rest) :
    WritesMembers W isFirst ((key, v) :: ms)
      (separator ++ '"' :: (name ++ (blanks ++ [':'] ++ value ++ rest)))

/-- A value is written, after blanks. -/
inductive Writes : Value → List Char → Prop
  | null {blanks : List Char} (h : IsBlanks blanks) :
    Writes (.scalar .null) (blanks ++ ['n', 'u', 'l', 'l'])
  | text {s : String} {blanks spelling : List Char} (h : IsBlanks blanks)
      (hs : SpellsText s spelling) : Writes (.scalar (.text s)) (blanks ++ '"' :: spelling)
  | object {ms : List (String × Value)} {blanks members : List Char} (h : IsBlanks blanks)
      (hms : WritesMembers Writes true ms members) : Writes (.object ms) (blanks ++ '{' :: members)

/-- A value is written as a document, with blanks around it. -/
def WritesDocument (v : Value) (text : String) : Prop :=
  ∃ written blanks, Writes v written ∧ IsBlanks blanks ∧ text = String.ofList (written ++ blanks)

/-! ### There is a way to write a value -/

theorem isPlain_iff {c : Char} : isPlain c ↔ c ≠ '"' ∧ c ≠ '\\' ∧ 0x20 ≤ c.toNat := by
  simp [isPlain, and_assoc]

theorem exists_spellsChar (c : Char) : ∃ spelling, SpellsChar c spelling := by
  by_cases hletter : (c, c) ∈ escapeLetters
  · exact ⟨_, .letter hletter⟩
  by_cases hcontrol : 0x20 ≤ c.toNat
  · refine ⟨_, .plain (isPlain_iff.2 ⟨?_, ?_, hcontrol⟩)⟩
    · rintro rfl
      exact hletter (by decide)
    · rintro rfl
      exact hletter (by decide)
  · have hall : ∀ n < 0x20,
        HexId.value? ['0', '0', Nat.digitChar (n / 16), Nat.digitChar (n % 16)] = some n := by
      decide
    exact ⟨_, .numbered ⟨hall _ (Nat.lt_of_not_le hcontrol)⟩⟩

theorem exists_spellsText (s : String) : ∃ spelling, SpellsText s spelling := by
  obtain ⟨parts, hparts⟩ : ∃ parts, List.Forall₂ SpellsChar s.toList parts := by
    induction s.toList with
    | nil => exact ⟨_, .nil⟩
    | cons c cs ih =>
      obtain ⟨spelling, hc⟩ := exists_spellsChar c
      obtain ⟨parts, hparts⟩ := ih
      exact ⟨_, .cons hc hparts⟩
  exact ⟨_, .quoted hparts⟩

theorem spellsText_ofList {cs : List Char} {parts : List (List Char)}
    (h : List.Forall₂ SpellsChar cs parts) :
    SpellsText (String.ofList cs) (parts.flatten ++ ['"']) :=
  .quoted (by rwa [String.toList_ofList])

/-- A text of plain characters is written as it is. -/
theorem spellsText_plain {cs : List Char} (h : cs.all isPlain) :
    SpellsText (String.ofList cs) (cs ++ ['"']) := by
  have hparts : List.Forall₂ SpellsChar cs (cs.map ([·])) := by
    rw [List.forall₂_map_right_iff, List.forall₂_same]
    exact fun c hc => .plain (List.all_eq_true.1 h c hc)
  have htext := spellsText_ofList hparts
  rwa [← List.flatMap_def, List.flatMap_singleton'] at htext

theorem separates_first : Separates true [] :=
  isBlanks_nil

theorem separates_later : Separates false [','] :=
  ⟨[], [], isBlanks_nil, isBlanks_nil, rfl⟩

theorem Writes.singleton {key : String} {v : Value} {name value : List Char}
    (hname : SpellsText key name) (hvalue : Writes v value) :
    Writes (.object [(key, v)]) ('{' :: '"' :: (name ++ (':' :: value ++ ['}']))) :=
  @object _ [] _ isBlanks_nil
    (.cons separates_first hname isBlanks_nil hvalue (.nil isBlanks_nil))

theorem Writes.pair {key key' : String} {v v' : Value} {name name' value value' : List Char}
    (hname : SpellsText key name) (hvalue : Writes v value) (hname' : SpellsText key' name')
    (hvalue' : Writes v' value') :
    Writes (.object [(key, v), (key', v')])
      ('{' :: '"' :: (name ++ (':' :: value ++
        (',' :: '"' :: (name' ++ (':' :: value' ++ ['}'])))))) :=
  @object _ [] _ isBlanks_nil (.cons separates_first hname isBlanks_nil hvalue
    (.cons separates_later hname' isBlanks_nil hvalue' (.nil isBlanks_nil)))

theorem exists_writesMembers {ms : List (String × Value)} (h : ∀ m ∈ ms, ∃ text, Writes m.2 text)
    (isFirst : Bool) : ∃ text, WritesMembers Writes isFirst ms text := by
  induction ms generalizing isFirst with
  | nil => exact ⟨_, .nil isBlanks_nil⟩
  | cons m ms ih =>
    obtain ⟨⟨value, hvalue⟩, hms⟩ := List.forall_mem_cons.1 h
    obtain ⟨name, hname⟩ := exists_spellsText m.1
    obtain ⟨rest, hrest⟩ := ih hms false
    obtain ⟨separator, hseparator⟩ : ∃ separator, Separates isFirst separator := by
      cases isFirst with
      | true => exact ⟨_, separates_first⟩
      | false => exact ⟨_, separates_later⟩
    exact ⟨_, .cons hseparator hname isBlanks_nil hvalue hrest⟩

/-- A value can be written if it is a null, a text or an object of values that can. -/
theorem exists_writes_object {ms : List (String × Value)}
    (h : ∀ m ∈ ms, ∃ text, Writes m.2 text) : ∃ text, Writes (.object ms) text := by
  obtain ⟨members, hms⟩ := exists_writesMembers h true
  exact ⟨_, .object isBlanks_nil hms⟩

theorem exists_writes_text (s : String) : ∃ text, Writes (.scalar (.text s)) text := by
  obtain ⟨spelling, hs⟩ := exists_spellsText s
  exact ⟨_, .text isBlanks_nil hs⟩

theorem exists_writesDocument {v : Value} (h : ∃ text, Writes v text) :
    ∃ text, WritesDocument v text := by
  obtain ⟨written, hwritten⟩ := h
  exact ⟨_, written, [], hwritten, isBlanks_nil, rfl⟩

/-! ### Escapes -/

theorem reads_codeUnit {a b c d : Char} {unit : Nat} (h : HexId.value? [a, b, c, d] = some unit) :
    Reads codeUnit [a, b, c, d] unit := by
  intro rest
  change found? (codeUnit (a :: b :: c :: d :: rest)) = _
  rw [codeUnit]
  split
  case h_1 n heq =>
    obtain rfl : n = unit := Option.some.inj (heq.symm.trans h)
    rfl
  case h_2 heq => cases heq.symm.trans h

/-- No character is a surrogate. -/
theorem not_isSurrogate_toNat (c : Char) :
    isLowSurrogate c.toNat = false ∧ isHighSurrogate c.toNat = false := by
  have hvalid : c.toNat < 0xD800 ∨ 0xDFFF < c.toNat ∧ c.toNat < 0x110000 := c.valid
  simp only [isLowSurrogate, isHighSurrogate, Bool.and_eq_false_iff, decide_eq_false_iff_not]
  omega

theorem isLowSurrogate_lowUnit (c : Char) : isLowSurrogate (lowUnit c) := by
  simp only [isLowSurrogate, Bool.and_eq_true, decide_eq_true_eq]
  rw [lowUnit]
  omega

theorem isHighSurrogate_highUnit (c : Char) :
    isLowSurrogate (highUnit c) = false ∧ isHighSurrogate (highUnit c) := by
  have hvalid : c.toNat < 0xD800 ∨ 0xDFFF < c.toNat ∧ c.toNat < 0x110000 := c.valid
  simp only [isLowSurrogate, isHighSurrogate, Bool.and_eq_true, Bool.and_eq_false_iff,
    decide_eq_true_eq, decide_eq_false_iff_not]
  rw [highUnit]
  omega

theorem surrogatePair_units {c : Char} (h : 0x10000 ≤ c.toNat) :
    surrogatePair (highUnit c) (lowUnit c) = c := by
  have hnumber : 0x10000 + (highUnit c - 0xD800) * 0x400 + (lowUnit c - 0xDC00) = c.toNat := by
    simp only [highUnit, lowUnit]
    omega
  rw [surrogatePair, hnumber, Char.ofNat_toNat]

theorem reads_lowSurrogate {c : Char} {low : List Char} (h : 0x10000 ≤ c.toNat)
    (hlow : SpellsUnit (lowUnit c) low) : Reads (lowSurrogate (highUnit c)) low c := by
  obtain ⟨hlow⟩ := hlow
  intro rest
  refine (found?_map_widen _ _).trans ((reads_codeUnit hlow).bind_pure ?_ rest)
  rw [if_pos (isLowSurrogate_lowUnit c), surrogatePair_units h]
  rfl

theorem reads_numberedEscape {c : Char} {x y z w : Char}
    (h : HexId.value? [x, y, z, w] = some c.toNat) : Reads numberedEscape [x, y, z, w] c := by
  obtain ⟨hlow, hhigh⟩ := not_isSurrogate_toNat c
  refine (reads_codeUnit h).bind_pure ?_
  rw [if_neg (by simp [hlow]), if_neg (by simp [hhigh]), Char.ofNat_toNat]
  rfl

theorem reads_numberedEscape_pair {c : Char} {x y z w : Char} {low : List Char}
    (hge : 0x10000 ≤ c.toNat) (hhigh : HexId.value? [x, y, z, w] = some (highUnit c))
    (hlow : SpellsUnit (lowUnit c) low) : Reads numberedEscape ([x, y, z, w] ++ low) c := by
  obtain ⟨hnot, hunit⟩ := isHighSurrogate_highUnit c
  refine (reads_codeUnit hhigh).bind ?_
  rw [if_neg (by simp [hnot]), if_pos hunit]
  exact reads_lowSurrogate hge hlow

theorem reads_escape_letter {l c : Char} (h : (l, c) ∈ escapeLetters) : Reads escape [l] c := by
  have hall : ∀ p ∈ escapeLetters, p.1 ≠ 'u' ∧ letterEscape? p.1 = some p.2 := by decide
  obtain ⟨hne, hletter⟩ := hall _ h
  intro rest
  change found? (escape (l :: rest)) = _
  rw [escape, hletter]
  · rfl
  · exact hne

theorem reads_escape_numbered {digits : List Char} {c : Char} (h : Reads numberedEscape digits c) :
    Reads escape ('u' :: digits) c :=
  fun rest => (found?_map_widen _ _).trans (h rest)

/-! ### Texts -/

theorem run?_characters_escape {front : List Char} {c : Char} (h : Reads escape front c)
    (rest : List Char) :
    Reader.run? characters ('\\' :: (front ++ rest)) =
      (Reader.run? characters rest).map fun p => (c :: p.1, p.2) := by
  change found? (characters _) = _
  obtain ⟨_, hescape⟩ := exists_eq_ok_of_found? (h rest)
  rw [characters, hescape]
  change _ = (found? (characters rest)).map _
  dsimp only
  cases characters rest <;> rfl

/-- A character is read as what was written. -/
theorem run?_characters_append {c : Char} {front : List Char} (h : SpellsChar c front)
    (rest : List Char) :
    Reader.run? characters (front ++ rest) =
      (Reader.run? characters rest).map fun p => (c :: p.1, p.2) := by
  cases h with
  | plain h =>
    obtain ⟨hquote, hbackslash, hcontrol⟩ := isPlain_iff.1 h
    change found? (characters (c :: rest)) = _
    have hplain : ¬isControl c := by simpa [isControl] using hcontrol
    rw [characters, if_neg hplain]
    · change _ = (found? (characters rest)).map _
      cases characters rest <;> rfl
    · exact hquote
    · exact hbackslash
  | letter h => exact run?_characters_escape (reads_escape_letter h) rest
  | numbered h =>
    obtain ⟨h⟩ := h
    exact run?_characters_escape (reads_escape_numbered (reads_numberedEscape h)) rest
  | pair hge hhigh hlow =>
    obtain ⟨hhigh⟩ := hhigh
    -- the second unit is read as part of the first escape
    rw [List.append_assoc]
    exact run?_characters_escape
      (reads_escape_numbered (reads_numberedEscape_pair hge hhigh hlow)) rest

theorem reads_characters {cs : List Char} {parts : List (List Char)}
    (h : List.Forall₂ SpellsChar cs parts) : Reads characters (parts.flatten ++ ['"']) cs := by
  intro rest
  induction h with
  | nil =>
    change found? (characters ('"' :: rest)) = _
    rw [characters]
    rfl
  | cons hc _ ih =>
    rw [List.flatten_cons, List.append_assoc, List.append_assoc, run?_characters_append hc,
      ← List.append_assoc, ih, Option.map_some]

/-- **A text is read** as what was spelled. -/
theorem reads_quotedText {s : String} {spelling : List Char} (h : SpellsText s spelling) :
    Reads quotedText spelling s := by
  obtain ⟨hparts⟩ := h
  exact (reads_characters hparts).bind_pure (by rw [String.ofList_toList]; rfl)

theorem reads_word {meaning : α} (cs : List Char) : Reads (word meaning cs) cs meaning := by
  intro rest
  induction cs with
  | nil => rfl
  | cons c cs ih =>
    change found? (word meaning (c :: cs) (c :: (cs ++ rest))) = _
    rw [word]
    dsimp only
    rw [if_pos rfl]
    exact (found?_map_widen _ _).trans ih

/-! ### The start of a value -/

theorem run?_start {text rest : List Char} {c : Char} (h : skipBlanks text = c :: rest)
    (hc : startsValue c) : start.run? text = (startWith c).run? rest := by
  change found? (start text) = _
  rw [start]
  split
  case h_1 heq => cases h.symm.trans heq
  case h_2 c' rest' heq =>
    obtain ⟨rfl, rfl⟩ := List.cons.inj (h.symm.trans heq)
    rw [if_pos hc]
    exact found?_map_widen _ _

theorem reads_start {blanks front : List Char} {c : Char} {s : Start} (hblanks : IsBlanks blanks)
    (hblank : isBlank c = false) (hc : startsValue c) (h : Reads (startWith c) front s) :
    Reads start (blanks ++ c :: front) s := by
  intro rest
  rw [List.append_assoc, List.cons_append,
    run?_start (skipBlanks_append_cons hblanks hblank _) hc, h]

theorem reads_start_null {blanks : List Char} (h : IsBlanks blanks) :
    Reads start (blanks ++ ['n', 'u', 'l', 'l']) (.scalar .null) :=
  reads_start h rfl rfl (reads_word _)

theorem reads_start_text {blanks spelling : List Char} {s : String} (h : IsBlanks blanks)
    (hs : SpellsText s spelling) :
    Reads start (blanks ++ '"' :: spelling) (.scalar (.text s)) :=
  reads_start h rfl rfl ((reads_quotedText hs).bind_pure rfl)

theorem reads_start_object {blanks : List Char} (h : IsBlanks blanks) :
    Reads start (blanks ++ ['{']) .object :=
  reads_start h rfl rfl (reads_pure _)

/-! ### Members of an object -/

theorem nextKey_separated {isFirst : Bool} {separator : List Char}
    (h : Separates isFirst separator) (rest : List Char) :
    ∃ lt, nextKey isFirst (separator ++ '"' :: rest) = .ok (.opened rest lt) := by
  cases isFirst with
  | true => exact nextKey_first (skipBlanks_append_cons h rfl rest)
  | false =>
    obtain ⟨before, after, hbefore, hafter, rfl⟩ := h
    rw [List.append_assoc, List.cons_append]
    exact nextKey_later (skipBlanks_append_cons hbefore rfl _) (skipBlanks_append_cons hafter rfl _)

/-- What follows the key of a member is read in a state and leaves another one. -/
def ReadsMember (member : σ → String → Reader σ) (s : σ) (m : String × Value) (s' : σ) : Prop :=
  ∀ blanks value, IsBlanks blanks → Writes m.2 value →
    Reads (member s m.1) (blanks ++ [':'] ++ value) s'

/-- **The loop over the members of an object** carries a state from member to member. -/
theorem reads_foldMembers {member : σ → String → Reader σ} {isFirst : Bool} {s s' : σ}
    {ms : List (String × Value)} {text : List Char} (h : Carries (ReadsMember member) s ms s')
    (hms : WritesMembers Writes isFirst ms text) :
    Reads (foldMembers quotedText member isFirst s) text s' := by
  -- only the first member has no comma before it, so the claim is for both kinds of separators
  induction h generalizing isFirst text with
  | nil s =>
    obtain ⟨hblanks⟩ := hms
    intro rest
    rw [List.append_assoc]
    exact run?_foldMembers_closed (skipBlanks_append_cons hblanks rfl rest)
  | cons hmember _ ih =>
    cases hms with
    | @cons _ key v ms separator name blanks value members hseparator hname hblanks hvalue hrest =>
      intro rest
      obtain ⟨_, hnext⟩ := nextKey_separated hseparator
        (name ++ (blanks ++ [':'] ++ value ++ (members ++ rest)))
      rw [List.append_assoc, List.cons_append, List.append_assoc, List.append_assoc,
        run?_foldMembers_opened hnext, reads_quotedText hname, Option.bind_some,
        hmember _ _ hblanks hvalue, Option.bind_some]
      exact ih hrest rest

/-! ### Values of one kind -/

/-- A value is read, however it is written. -/
def ReadsValue (r : Reader α) (v : Value) (a : α) : Prop :=
  ∀ text, Writes v text → Reads r text a

theorem ReadsValue.bind_pure {β : Type} {r : Reader α} {f : α → Reader β} {v : Value} {a : α}
    {b : β} (h : ReadsValue r v a) (hf : f a = pure b) : ReadsValue (r >>= f) v b :=
  fun text hv => (h text hv).bind_pure hf

theorem readsMember_of_eq {member : σ → String → Reader σ} {s s' : σ} {m : String × Value}
    {r : Reader σ} (h : member s m.1 = colon >>= fun _ => r) (hr : ReadsValue r m.2 s') :
    ReadsMember member s m s' := by
  intro _ _ hblanks hvalue
  rw [h]
  exact (reads_colon hblanks).bind (hr _ hvalue)

/-- A reader that goes by the start of a value reads an object by its members. -/
theorem readsValue_object {f : Start → Reader α} {ms : List (String × Value)} {a : α}
    (h : ∀ {members}, WritesMembers Writes true ms members → Reads (f .object) members a) :
    ReadsValue (start >>= f) (.object ms) a := by
  intro text htext
  cases htext with
  | object hblanks hms =>
    have hread := (reads_start_object hblanks).bind (h hms)
    rwa [List.append_assoc] at hread

theorem readsValue_text (s : String) : ReadsValue text (.scalar (.text s)) s
  | _, .text h hs => (reads_start_text h hs).bind_pure rfl

theorem readsValue_optionalText_text (s : String) :
    ReadsValue optionalText (.scalar (.text s)) (some s)
  | _, .text h hs => (reads_start_text h hs).bind_pure rfl

theorem readsValue_optionalText_null : ReadsValue optionalText (.scalar .null) none
  | _, .null h => (reads_start_null h).bind_pure rfl

/-- A table is read member by member. -/
theorem readsValue_table {r : Reader α} {t : Table α} {ms : List (String × Value)}
    (h : Carries (fun t m t' => ∃ a, ReadsValue r m.2 a ∧ t' = t.insert m.1 a) ∅ ms t) :
    ReadsValue (table r) (.object ms) t := by
  refine readsValue_object fun hms => reads_foldMembers (h.imp ?_) hms
  rintro t m _ ⟨a, ha, rfl⟩
  exact readsMember_of_eq rfl (ha.bind_pure rfl)

/-- A record is read member by member. -/
theorem readsValue_record {r : RecordType σ α} {ms : List (String × Value)} {s : σ} {a : α}
    (h : Carries (ReadsMember r.member) r.unread ms s) (hfinish : r.finish s = .ok a) :
    ReadsValue (record r) (.object ms) a := by
  refine readsValue_object fun hms => (reads_foldMembers h hms).bind_pure ?_
  rw [hfinish]

theorem readsMember_field {r : RecordType σ α} {f : Field σ} {s s' : σ} {m : String × Value}
    (hf : r.fields.find? (fun f => f.name == m.1) = some f) (hset : f.isSet s = false)
    (hread : ReadsValue (f.read .object s) m.2 s') : ReadsMember r.member s m s' := by
  refine readsMember_of_eq ?_ hread
  rw [RecordType.member, hf]
  exact if_neg (by rw [hset]; exact Bool.false_ne_true)

theorem readsValue_value_scalar (room : Nat) (s : Scalar) :
    ReadsValue (value room) (.scalar s) (.scalar s) := by
  rintro _ (h | ⟨h, hs⟩)
  · cases room <;> (rw [value]; exact (reads_start_null h).bind_pure rfl)
  · cases room <;> (rw [value]; exact (reads_start_text h hs).bind_pure rfl)

/-- A value of any kind is read if those within it are. -/
theorem readsValue_value_object {room : Nat} {ms : List (String × Value)}
    (h : ∀ m ∈ ms, ReadsValue (value room) m.2 m.2) :
    ReadsValue (value (room + 1)) (.object ms) (.object ms) := by
  rw [value]
  refine readsValue_object fun hms => ?_
  suffices ∀ before, Carries (ReadsMember _) before ms (ms.reverse ++ before) from
    (reads_foldMembers (this []) hms).bind_pure (by simp)
  clear hms
  induction ms with
  | nil => exact .nil
  | cons m ms ih =>
    intro before
    rw [List.forall_mem_cons] at h
    rw [List.reverse_cons, List.append_assoc]
    exact .cons (readsMember_of_eq rfl (h.1.bind_pure rfl)) (ih h.2 _)

/-! ### Documents -/

/-- **A document is read** as the value that was written. -/
theorem document_eq_ok {r : Reader α} {v : Value} {a : α} {text : String} (h : ReadsValue r v a)
    (htext : WritesDocument v text) : document r text = .ok a := by
  obtain ⟨written, blanks, hwritten, hblanks, rfl⟩ := htext
  obtain ⟨_, hread⟩ := exists_eq_ok_of_found? (h _ hwritten blanks)
  rw [document, String.toList_ofList, whole, hread]
  dsimp only
  rw [skipBlanks_eq_nil hblanks]
  rfl

end SensorCatalog.Json
