import SensorCatalog.Proofs.Fallible
import SensorCatalog.Proofs.Json.Fronts
import SensorCatalog.Proofs.Json.Reads
import SensorCatalog.Text.Blank

/-!
# The layout of texts that are read

Between tokens, what a reader takes is made of blanks and of whole tokens. A token is on one line,
and it begins neither with a slash nor with a character that is blank in Unicode, which has more
blanks than JSON. This holds for all readers of JSON, those that pass over a value included. So a
document that is read is laid out in this way from its start to its end.

## Main definitions

* `Json.IsLaidOut`: the texts made of blanks and of tokens.

## Main results

* `Json.took_foldMembers`, `Json.took_foldElements`: the loops.
* `Json.takes_value`, `Json.takes_skipValue`: values that are read or passed over.
* `Json.takes_table`, `Json.takes_record`: tables and records.
* `Json.isLaidOut_of_document`: a document that is read is laid out.
-/

namespace SensorCatalog.Json

variable {α β σ : Type}

/-! ### Between tokens -/

/-- The characters that a token begins with. -/
def beginsToken (c : Char) : Bool :=
  !Text.isBlank c && c != '/'

/-- A text of blanks and tokens. A token is on one line. -/
inductive IsLaidOut : List Char → Prop
  | nil : IsLaidOut []
  | blank {c : Char} {rest : List Char} (hc : isBlank c) (h : IsLaidOut rest) :
    IsLaidOut (c :: rest)
  | token {c : Char} {cs rest : List Char} (hc : beginsToken c) (hcs : IsOneLine cs)
      (h : IsLaidOut rest) : IsLaidOut (c :: (cs ++ rest))

instance : Composes IsLaidOut where
  nil := .nil
  append {cs ds} hcs hds := by
    induction hcs with
    | nil => exact hds
    | blank hc _ ih => exact .blank hc ih
    | token hc hcs _ ih =>
      rw [List.cons_append, List.append_assoc]
      exact .token hc hcs ih

theorem IsBlanks.isLaidOut {blanks : List Char} (h : IsBlanks blanks) : IsLaidOut blanks := by
  induction blanks with
  | nil => exact .nil
  | cons c blanks ih =>
    obtain ⟨hc, hblanks⟩ := List.forall_mem_cons.1 h
    exact .blank hc (ih hblanks)

theorem follows_of_skipBlanks {text rest : List Char} (h : skipBlanks text = rest) :
    Follows IsLaidOut text rest := by
  subst h
  have hblanks : IsBlanks (text.takeWhile isBlank) := fun _ => List.mem_takeWhile_imp
  exact ⟨_, hblanks.isLaidOut, List.takeWhile_append_dropWhile.symm⟩

/-- A token at the front of a text, after blanks. -/
theorem follows_token {text rest rest' : List Char} {c : Char} (h : skipBlanks text = c :: rest)
    (hc : beginsToken c) (h' : Follows IsOneLine rest rest') : Follows IsLaidOut text rest' := by
  obtain ⟨cs, hcs, rfl⟩ := h'
  refine (follows_of_skipBlanks h).trans ⟨c :: (cs ++ []), .token hc hcs .nil, by simp⟩

/-- A token of one character at the front of a text, after blanks. -/
theorem follows_mark {text rest : List Char} {c : Char} (h : skipBlanks text = c :: rest)
    (hc : beginsToken c) : Follows IsLaidOut text rest :=
  follows_token h hc (follows_self rest)

theorem beginsToken_of_startsValue {c : Char} (h : startsValue c) : beginsToken c := by
  rw [startsValue, Bool.or_eq_true, decide_eq_true_eq] at h
  rcases h with h | h
  · have hall : ['[', '{', '"', 'n', 't', 'f', '-'].all beginsToken := by decide
    exact List.all_eq_true.1 hall c h
  · have hdigit : 48 ≤ c.toNat ∧ c.toNat ≤ 57 := by
      simpa [Char.isDigit, UInt32.le_iff_toNat_le] using h
    have hslash : c ≠ '/' := by
      rintro rfl
      exact absurd h (by decide)
    have hblank : Text.isBlank c = false := by
      simp only [Text.isBlank, Bool.or_eq_false_iff, Bool.and_eq_false_iff, beq_eq_false_iff_ne,
        decide_eq_false_iff_not]
      omega
    simp [beginsToken, hblank, hslash]

theorem takes_colon : Takes IsLaidOut colon := by
  intro text
  rw [colon]
  split
  · next rest h => exact took_ok (follows_mark h rfl)
  · exact took_error _ _
  · exact took_error _ _

theorem takes_start : Takes IsLaidOut start := by
  intro text
  rw [start]
  split
  · exact took_error _ _
  · next c rest h =>
    split
    · next hc =>
      exact took_map_widen _ (takes_startWith c rest)
        (follows_token h (beginsToken_of_startsValue hc))
    · exact took_error _ _

/-! ### Loops -/

theorem follows_of_nextKey_closed {isFirst : Bool} {text rest : List Char}
    {lt : rest.length < text.length} (h : nextKey isFirst text = .ok (.closed rest lt)) :
    Follows IsLaidOut text rest := by
  rw [nextKey] at h
  split at h
  · next hskip =>
    cases h
    exact follows_mark hskip rfl
  · cases h
  · split at h
    · split at h <;> cases h
    · split at h
      · split at h <;> cases h
      · cases h

theorem follows_of_nextKey_opened {isFirst : Bool} {text rest rest' : List Char}
    {lt : rest.length < text.length} (h : nextKey isFirst text = .ok (.opened rest lt))
    (h' : Follows IsOneLine rest rest') : Follows IsLaidOut text rest' := by
  rw [nextKey] at h
  split at h
  · cases h
  · cases h
  · next hskip =>
    split at h
    · split at h
      · next hc =>
        cases h
        exact follows_token hskip (hc ▸ rfl) h'
      · cases h
    · split at h
      · next hc =>
        split at h
        · next hquote =>
          cases h
          exact (follows_mark hskip (hc ▸ rfl)).trans (follows_token hquote rfl h')
        all_goals cases h
      · cases h

theorem took_foldMembers {key : Reader String} {member : σ → String → Reader σ}
    (hkey : Takes IsOneLine key) (hmember : ∀ s name, Takes IsLaidOut (member s name))
    (isFirst : Bool) (state : σ) (text : List Char) :
    Took IsLaidOut (foldMembers key member isFirst state text) := by
  fun_induction foldMembers key member isFirst state text with
  | case2 isFirst state text rest lt hnext => exact took_ok (follows_of_nextKey_closed hnext)
  | case5 isFirst state text rest lt hnext name hname next hread shorter ih =>
    have hname := follows_of_nextKey_opened hnext (hkey rest name hname)
    have hmember := hmember state name.value name.rest next hread
    exact took_map_widen _ ih (hname.trans hmember).trans
  | _ => exact took_error _ _

theorem follows_of_nextElement_closed {isFirst : Bool} {text rest : List Char}
    {lt : rest.length < text.length} (h : nextElement isFirst text = .ok (.closed rest lt)) :
    Follows IsLaidOut text rest := by
  rw [nextElement] at h
  split at h
  · next hskip =>
    cases h
    exact follows_mark hskip rfl
  · cases h
  · extract_lets shorter at h
    split at h
    · cases h
    · split at h
      · split at h <;> cases h
      · cases h

theorem follows_of_nextElement_due {isFirst : Bool} {text rest : List Char}
    {le : rest.length + (!isFirst).toNat ≤ text.length}
    (h : nextElement isFirst text = .ok (.due rest le)) : Follows IsLaidOut text rest := by
  rw [nextElement] at h
  split at h
  · cases h
  · cases h
  · next hskip =>
    extract_lets shorter at h
    split at h
    · cases h
      exact follows_of_skipBlanks hskip
    · split at h
      · next hc =>
        split at h
        · cases h
        · cases h
        · next helement =>
          cases h
          exact (follows_mark hskip (hc ▸ rfl)).trans (follows_of_skipBlanks helement)
      · cases h

theorem took_foldElements {element : σ → Reader σ} (helement : ∀ s, Takes IsLaidOut (element s))
    (isFirst : Bool) (state : σ) (text : List Char) :
    Took IsLaidOut (foldElements element isFirst state text) := by
  fun_induction foldElements element isFirst state text with
  | case2 isFirst state text rest lt hnext => exact took_ok (follows_of_nextElement_closed hnext)
  | case4 isFirst state text rest le hnext next hread shorter ih =>
    have helement := helement state rest next hread
    exact took_map_widen _ ih ((follows_of_nextElement_due hnext).trans helement).trans
  | _ => exact took_error _ _

/-! ### Values -/

theorem takes_value (room : Nat) : Takes IsLaidOut (value room) := by
  induction room with
  | zero =>
    rw [value]
    refine takes_bind takes_start fun s => ?_
    split
    · exact takes_pure _
    · exact takes_fail _
  | succ room ih =>
    rw [value]
    refine takes_bind takes_start fun s => ?_
    split
    · exact takes_pure _
    · refine takes_bind (took_foldElements (fun _ => ?_) true []) fun _ => takes_pure _
      exact takes_bind ih fun _ => takes_pure _
    · refine takes_bind (took_foldMembers takes_quotedText (fun _ _ => ?_) true []) fun _ =>
        takes_pure _
      exact takes_bind takes_colon fun _ => takes_bind ih fun _ => takes_pure _

/-! ### Values passed over -/

theorem takes_skipKey (b : Bracket) : Takes IsLaidOut b.skipKey := by
  cases b with
  | list => exact takes_pure _
  | object =>
    intro text
    dsimp only [Bracket.skipKey]
    split
    · exact took_error _ _
    · next rest h =>
      -- the rest of the key's token, and then the colon
      have hkey : Took (fun cs => IsLaidOut ('"' :: cs))
          ((do skipText; colon : Reader Unit) rest) := by
        refine took_bind (took_skipText rest) (fun _ => takes_colon) ?_
        rintro _ rest' ⟨name, hname, rfl⟩ ⟨cs, hcs, rfl⟩
        exact ⟨name ++ cs, .token rfl hname hcs, (List.append_assoc ..).symm⟩
      refine took_map_widen _ hkey ?_
      rintro rest' ⟨cs, hcs, rfl⟩
      exact (follows_of_skipBlanks h).trans ⟨'"' :: cs, hcs, rfl⟩
    · exact took_error _ _

theorem beginsToken_closing (b : Bracket) : beginsToken b.closing := by
  cases b <;> rfl

mutual

/-- What is passed over up to the end of the brackets around it is laid out. -/
theorem took_skipWithin (enclosing : List Bracket) (text : List Char) :
    Took IsLaidOut (skipWithin enclosing text) := by
  rw [skipWithin]
  split
  · exact took_error _ _
  · next c rest hskip =>
    have shorter := length_lt_of_skipBlanks hskip
    extract_lets
    split
    · exact took_error _ _
    · next hc =>
      have hfirst : beginsToken c := beginsToken_of_startsValue (by simpa using hc)
      split
      · split
        · exact took_error _ _
        · next s hs =>
          have le : s.rest.length < text.length := Nat.lt_of_le_of_lt s.length_le shorter
          have hscalar := follows_token hskip hfirst (takes_skipScalar c rest s hs)
          exact took_map_widen _ (took_skipAfter enclosing s.rest) hscalar.trans
      · next b hb =>
        have hopening := follows_mark hskip hfirst
        split
        · exact took_error _ _
        · next d inner hinner =>
          have le : inner.length < text.length :=
            Nat.lt_trans (length_lt_of_skipBlanks hinner) shorter
          extract_lets
          split
          · next hd =>
            have hclosing := follows_mark hinner (hd ▸ beginsToken_closing b)
            exact took_map_widen _ (took_skipAfter enclosing inner) (hopening.trans hclosing).trans
          · split
            · exact took_error _ _
            · next s hs =>
              have le : s.rest.length < text.length := Nat.lt_of_le_of_lt
                (Nat.le_trans s.length_le (length_lt_of_skipBlanks hinner)) shorter
              have hkey := (follows_of_skipBlanks hinner).trans (takes_skipKey b _ s hs)
              exact took_map_widen _ (took_skipWithin (b :: enclosing) s.rest)
                (hopening.trans hkey).trans
termination_by text.length

theorem took_skipAfter (enclosing : List Bracket) (text : List Char) :
    Took IsLaidOut (skipAfter enclosing text) := by
  rw [skipAfter.eq_def]
  split
  · exact took_here _ _
  · next b outer =>
    split
    · exact took_error _ _
    · next c rest hskip =>
      have shorter := length_lt_of_skipBlanks hskip
      extract_lets
      split
      · next hc =>
        have hclosing := follows_mark hskip (hc ▸ beginsToken_closing b)
        exact took_map_widen _ (took_skipAfter outer rest) hclosing.trans
      · split
        · next hc =>
          split
          · exact took_error _ _
          · next s hs =>
            have le : s.rest.length < text.length := Nat.lt_of_le_of_lt s.length_le shorter
            have hkey := (follows_mark hskip (hc ▸ rfl)).trans (takes_skipKey b _ s hs)
            exact took_map_widen _ (took_skipWithin (b :: outer) s.rest) hkey.trans
        · exact took_error _ _
termination_by text.length

end

theorem takes_skipValue : Takes IsLaidOut skipValue :=
  took_skipWithin []

/-! ### Tables and records -/

theorem takes_text : Takes IsLaidOut text := by
  refine takes_bind takes_start fun s => ?_
  split
  · exact takes_pure _
  · exact takes_refuse _ _

theorem takes_optionalText : Takes IsLaidOut optionalText := by
  refine takes_bind takes_start fun s => ?_
  split
  · exact takes_pure _
  · exact takes_pure _
  · exact takes_refuse _ _

theorem takes_table {value : Reader α} (h : Takes IsLaidOut value) :
    Takes IsLaidOut (table value) := by
  refine takes_bind takes_start fun s => ?_
  cases s with
  | object =>
    refine took_foldMembers takes_quotedText (fun t key => ?_) true ∅
    exact takes_bind takes_colon fun _ => takes_bind h fun _ => takes_pure _
  | scalar value => exact takes_refuse _ _
  | list => exact takes_refuse _ _

theorem takes_closeList : Takes IsLaidOut closeList := by
  intro text
  rw [closeList]
  split
  · next rest hskip => exact took_ok (follows_mark hskip rfl)
  · split <;> exact took_error _ _
  · exact took_error _ _
  · exact took_error _ _

/-- Fields that are left are read one after another, and a list may end before them. -/
theorem elements_cons (r : RecordType σ α) (count : Nat) (state : σ) (f : Field σ)
    (fields : List (Field σ)) (text : List Char) :
    r.elements count state (f :: fields) text =
      match nextElement (count == 0) text with
      | .error e => .error e
      | .ok (.closed rest lt) =>
        match r.finish state with
        | .ok a => .ok ⟨a, rest, Nat.le_of_lt lt⟩
        | .error _ => .error (.before (.invalidLength count r.shape) rest)
      | .ok (.due rest le) =>
        (do r.elements (count + 1) (← f.read .list state) fields : Reader α).after rest
          (Nat.le_trans (Nat.le_add_right _ _) le) :=
  rfl

section

variable {r : RecordType σ α} (h : ∀ f ∈ r.fields, ∀ b state, Takes IsLaidOut (f.read b state))
include h

theorem takes_member (state : σ) (key : String) : Takes IsLaidOut (r.member state key) := by
  unfold RecordType.member
  split
  · exact takes_bind takes_colon fun _ => takes_bind takes_skipValue fun _ => takes_pure _
  · next f hf =>
    split
    · exact takes_failIn _ _
    · exact takes_bind takes_colon fun _ => h f (List.mem_of_find?_eq_some hf) .object state

theorem takes_members : Takes IsLaidOut r.members := by
  refine takes_bind (took_foldMembers takes_quotedText (takes_member h) true r.unread) fun s => ?_
  split
  · exact takes_pure _
  · exact takes_fail _

theorem takes_elements {fields : List (Field σ)} (hfields : fields ⊆ r.fields) (count : Nat)
    (state : σ) : Takes IsLaidOut (r.elements count state fields) := by
  induction fields generalizing count state with
  | nil =>
    refine takes_bind takes_closeList fun _ => ?_
    split
    · exact takes_pure _
    · exact takes_fail _
  | cons f fields ih =>
    obtain ⟨hf, hfields⟩ := List.cons_subset.1 hfields
    intro text
    rw [elements_cons]
    split
    · exact took_error _ _
    · next rest lt hnext =>
      split
      · exact took_ok (follows_of_nextElement_closed hnext)
      · exact took_error _ _
    · next rest le hnext =>
      have hfield := takes_bind (h f hf .list state) fun s => ih hfields (count + 1) s
      exact took_map_widen _ (hfield rest) (follows_of_nextElement_due hnext).trans

theorem takes_record : Takes IsLaidOut (record r) := by
  refine takes_bind takes_start fun s => ?_
  split
  · exact takes_members h
  · exact takes_elements h (List.Subset.refl _) 0 r.unread
  · exact takes_refuse _ _

end

/-! ### Documents -/

/-- **A document that is read is laid out**: it is made of blanks and tokens. -/
theorem isLaidOut_of_document {value : Reader α} (h : Takes IsLaidOut value) {text : String} {a : α}
    (htext : document value text = .ok a) : IsLaidOut text.toList := by
  have hwhole := Fallible.mapError_eq_ok_iff.1 htext
  rw [whole] at hwhole
  split at hwhole
  · cases hwhole
  · next s hs =>
    split at hwhole
    · next hskip =>
      obtain ⟨front, hfront, heq⟩ := (h _ s hs).trans (follows_of_skipBlanks hskip)
      rwa [heq, List.append_nil]
    · cases hwhole

end SensorCatalog.Json
