import SensorCatalog.Text.Utf8

/-!
# Broken bytes show

A reader that cannot fail makes some text of all bytes. What it makes of the bytes of a text is that
text, and every broken part leaves a character that stands for it. So as long as this character is
not in a class, only the bytes of a text whose characters are all in the class are read as such a
text (`forall_mem_decodeLossy_iff`): no broken part can pass for something of the class.

## Main results

* `Utf8.frontChar?_eq_some_iff`: the character at the front of bytes.
* `Utf8.pieces_eq_map_some_iff`: bytes without broken parts.
* `Utf8.forall_mem_decodeLossy_iff`: bytes that are read as characters of a class.
-/

namespace SensorCatalog.Utf8

open String (utf8EncodeChar)

/-! ### Byte arrays as lists -/

theorem toList_loop (bytes : ByteArray) (i : Nat) (front : List UInt8) :
    ByteArray.toList.loop bytes i front = front.reverse ++ bytes.data.toList.drop i := by
  fun_induction ByteArray.toList.loop bytes i front with
  | case1 i front h ih =>
    have hdrop : bytes.data.toList.drop i = bytes.get! i :: bytes.data.toList.drop (i + 1) := by
      rw [List.drop_eq_getElem_cons (by simpa using h)]
      simp [ByteArray.get!, h]
    rw [ih, hdrop, List.reverse_cons, List.append_assoc, List.singleton_append]
  | case2 i front h =>
    rw [List.drop_eq_nil_of_le (by simpa using Nat.le_of_not_lt h), List.append_nil]

theorem toByteArray_toList (bytes : ByteArray) : bytes.toList.toByteArray = bytes := by
  rw [ByteArray.toList, toList_loop]
  exact ByteArray.ext (by simp)

/-! ### Characters at the front -/

/-- A character is at the front of bytes exactly if its encoding is. -/
theorem frontChar?_eq_some_iff {bytes : List UInt8} {c : Char} :
    frontChar? bytes = some c ↔ utf8EncodeChar c <+: bytes := by
  constructor
  · intro h
    obtain ⟨rest, hrest⟩ := ByteArray.exists_of_utf8DecodeChar?_eq_some h
    have hfront : bytes.take 4 = utf8EncodeChar c ++ rest.toList := by
      rw [← List.toByteArray_inj, hrest, List.toByteArray_append, toByteArray_toList]
    exact (List.prefix_append _ _).trans (hfront ▸ List.take_prefix 4 bytes)
  · rintro ⟨rest, rfl⟩
    have hlength : (utf8EncodeChar c).length ≤ 4 := by
      rw [String.length_utf8EncodeChar]
      exact c.utf8Size_le_four
    rw [frontChar?, List.take_append, List.take_of_length_le hlength, List.toByteArray_append]
    exact ByteArray.utf8DecodeChar?_utf8EncodeChar_append

/-- What follows the character at the front. Its first byte has been taken off already. -/
theorem append_drop_of_frontChar? {first : UInt8} {bytes : List UInt8} {c : Char}
    (h : frontChar? (first :: bytes) = some c) :
    utf8EncodeChar c ++ bytes.drop (c.utf8Size - 1) = first :: bytes := by
  obtain ⟨rest, hrest⟩ := frontChar?_eq_some_iff.1 h
  have hdrop : (first :: bytes).drop c.utf8Size = rest := by
    rw [← hrest, ← String.length_utf8EncodeChar, List.drop_left]
  rw [← Nat.sub_add_cancel c.utf8Size_pos, List.drop_succ_cons] at hdrop
  rw [hdrop, hrest]

/-! ### Pieces -/

theorem pieces_append (c : Char) (rest : List UInt8) :
    pieces (utf8EncodeChar c ++ rest) = some c :: pieces rest := by
  have hfront : frontChar? (utf8EncodeChar c ++ rest) = some c :=
    frontChar?_eq_some_iff.2 (List.prefix_append _ _)
  obtain ⟨first, bytes, hbytes⟩ : ∃ first bytes, utf8EncodeChar c ++ rest = first :: bytes :=
    List.exists_cons_of_ne_nil (by simp)
  rw [hbytes] at hfront
  have hrest : bytes.drop (c.utf8Size - 1) = rest :=
    List.append_cancel_left ((append_drop_of_frontChar? hfront).trans hbytes.symm)
  rw [hbytes, pieces, hfront]
  simp only [hrest]

/-- Bytes have no broken part exactly if they are the encoding of a text. -/
theorem pieces_eq_map_some_iff {bytes : List UInt8} {cs : List Char} :
    pieces bytes = cs.map some ↔ bytes = cs.flatMap utf8EncodeChar := by
  constructor
  · intro h
    fun_induction pieces bytes generalizing cs with
    | case1 =>
      rw [List.map_eq_nil_iff.1 h.symm]
      rfl
    | case2 first bytes c hc ih =>
      obtain ⟨c', rest, rfl, hc', hrest⟩ := List.map_eq_cons_iff.1 h.symm
      obtain rfl : c' = c := Option.some.inj hc'
      rw [List.flatMap_cons, ← ih hrest.symm, append_drop_of_frontChar? hc]
    | case3 first bytes hnone ih =>
      obtain ⟨c, rest, -, hc, -⟩ := List.map_eq_cons_iff.1 h.symm
      exact absurd hc (Option.some_ne_none c)
  · rintro rfl
    induction cs with
    | nil => simp [pieces]
    | cons c cs ih => rw [List.flatMap_cons, pieces_append, ih, List.map_cons]

/-! ### Texts -/

theorem fromUTF8?_eq_some_iff {bytes : ByteArray} {text : String} :
    String.fromUTF8? bytes = some text ↔ pieces bytes.toList = text.toList.map some := by
  have hcode : bytes.toList = text.toList.flatMap utf8EncodeChar ↔ text.toByteArray = bytes := by
    rw [← List.toByteArray_inj, toByteArray_toList, eq_comm, ← String.utf8Encode_toList]
    exact Iff.rfl
  rw [pieces_eq_map_some_iff, hcode, String.fromUTF8?]
  constructor
  · intro h
    split at h
    · next hvalid => rw [← Option.some.inj h]; rfl
    · exact absurd h.symm (Option.some_ne_none text)
  · rintro rfl
    exact dif_pos text.isValidUTF8

/-- **Broken parts are seen.** If the character that stands for broken parts is not in a class, then
bytes are read as characters of the class exactly if they are a text of characters of the class. -/
theorem forall_mem_decodeLossy_iff {p : Char → Prop} {broken : Char} (h : ¬ p broken)
    (bytes : ByteArray) :
    (∀ c ∈ (decodeLossy broken bytes).toList, p c) ↔
      ∃ text, String.fromUTF8? bytes = some text ∧ ∀ c ∈ text.toList, p c := by
  rw [decodeLossy, String.toList_ofList]
  simp only [fromUTF8?_eq_some_iff]
  constructor
  · intro hall
    have hpieces : ∀ piece ∈ pieces bytes.toList, piece = some (piece.getD broken) := by
      rintro (_ | c) hpiece
      · exact absurd (hall _ (List.mem_map_of_mem hpiece)) h
      · rfl
    refine ⟨String.ofList ((pieces bytes.toList).map (·.getD broken)), ?_, ?_⟩
    · rw [String.toList_ofList, List.map_map]
      exact (List.map_id _).symm.trans (List.map_congr_left hpieces)
    · rwa [String.toList_ofList]
  · rintro ⟨text, htext, hall⟩
    rw [htext, List.map_map]
    simpa [Function.comp_def] using hall

end SensorCatalog.Utf8
