import SensorCatalog.Proofs.Url.Slash

/-!
# References of plain names

A reference to a document is made of names with slashes between them. If the names are plain, made
of letters, digits and a few signs and without a dot at the front, then nothing in the reference is
read as anything else: not as a scheme, a query or a fragment, and no name as a dot segment. So the
reference stands for the URL with these names in place of the last segment of the base
(`resolve_of_isPlainPath`).

## Main definitions

* `Url.IsPlainName`, `Url.IsPlainPath`: plain names, and texts made of them.
* `Url.names`: the names of a text as they are written.

## Main results

* `Url.resolve_of_isPlainPath`: the URL that plain names stand for.
* `Url.pathText_names`: the names as they are written in a path.
-/

namespace SensorCatalog.Url

/-! ### Plain names -/

/-- Letters, digits and a few signs, and all characters outside ASCII. -/
def isPlain (c : Char) : Bool :=
  c.isAlphanum || c == '-' || c == '_' || c == '.' || 0x80 ≤ c.toNat

/-- A plain name, which no dot segment looks like. -/
structure IsPlainName (name : List Char) : Prop where
  /-- There is a character. -/
  ne_nil : name ≠ []
  /-- All characters are plain. -/
  isPlain : ∀ c ∈ name, isPlain c
  /-- The first one is no dot. -/
  head?_ne : name.head? ≠ some '.'

instance : DecidablePred IsPlainName := fun name =>
  decidable_of_iff (name ≠ [] ∧ name.all Url.isPlain ∧ name.head? ≠ some '.')
    ⟨fun h => ⟨h.1, List.all_eq_true.1 h.2.1, h.2.2⟩,
      fun h => ⟨h.ne_nil, List.all_eq_true.2 h.isPlain, h.head?_ne⟩⟩

/-- A text of plain names with one slash between each two of them. -/
def IsPlainPath (text : String) : Prop :=
  ∀ name ∈ text.toList.splitOn '/', IsPlainName name

instance : DecidablePred IsPlainPath := fun text =>
  inferInstanceAs (Decidable (∀ name ∈ text.toList.splitOn '/', IsPlainName name))

/-- The names of a text as they are written. -/
def names (text : String) : List String :=
  (text.toList.splitOn '/').map encodeSegment

theorem lt_toNat_and_not_mem_of_isPlain {c : Char} (h : isPlain c) :
    0x20 < c.toNat ∧ c ∉ ['/', '\\', '?', '#', ':'] := by
  by_cases hc : c.toNat < 128
  · revert h
    exact Label.forall_of_forall_lt
      (P := fun c => isPlain c → 0x20 < c.toNat ∧ c ∉ ['/', '\\', '?', '#', ':']) (by decide) hc
  · have hascii : ['/', '\\', '?', '#', ':'].all fun d => d.toNat < 128 := by decide
    exact ⟨by omega, fun hmem => hc (of_decide_eq_true (List.all_eq_true.1 hascii c hmem))⟩

theorem toLower_of_isPlain {c : Char} (h : isPlain c) (hdot : c ≠ '.') :
    c.toLower ≠ '.' ∧ c.toLower ≠ '%' := by
  by_cases hc : c.toNat < 128
  · revert h hdot
    exact Label.forall_of_forall_lt
      (P := fun c => isPlain c → c ≠ '.' → c.toLower ≠ '.' ∧ c.toLower ≠ '%') (by decide) hc
  · rw [Label.toLower_eq_self (.inr (by omega))]
    refine ⟨hdot, ?_⟩
    rintro rfl
    exact hc (by decide)

theorem IsPlainName.isDot_eq_false {name : List Char} (h : IsPlainName name) :
    isDot name = false := by
  obtain ⟨c, name, rfl⟩ := List.exists_cons_of_ne_nil h.ne_nil
  have hc := toLower_of_isPlain (h.isPlain c List.mem_cons_self) fun hdot => h.head?_ne (by
    rw [hdot]
    rfl)
  have hhead : ∀ dots ∈ dotSegments, dots.head? = some '.' ∨ dots.head? = some '%' := by decide
  rw [Bool.eq_false_iff]
  intro hdot
  rcases hhead _ (map_toLower_mem_dotSegments hdot) with h | h
  · exact hc.1 (Option.some.inj h)
  · exact hc.2 (Option.some.inj h)

/-- Plain names are put into a path one after the other. -/
theorem segments_addAll_of_isPlainName {parts : List (List Char)}
    (h : ∀ name ∈ parts, IsPlainName name) (path : Path) :
    (Path.addAll false path parts).segments = path.segments ++ parts.map encodeSegment := by
  induction parts generalizing path with
  | nil => exact (List.append_nil _).symm
  | cons name parts ih =>
    have h := List.forall_mem_cons.1 h
    have hdot := h.1.isDot_eq_false
    rw [isDot, Bool.or_eq_false_iff] at hdot
    rw [Path.addAll, hdot.1, hdot.2]
    simp only [Bool.false_eq_true, if_false, ih h.2, List.map_cons]
    exact List.append_assoc _ _ _

/-! ### Texts of plain names -/

theorem isPlainPath_append_iff {s t : String} :
    IsPlainPath (s ++ "/" ++ t) ↔ IsPlainPath s ∧ IsPlainPath t := by
  have hsplit : (s ++ "/" ++ t).toList.splitOn '/' =
      s.toList.splitOn '/' ++ t.toList.splitOn '/' := by
    rw [String.toList_append, String.toList_append, List.append_assoc]
    exact List.splitOnP_append_cons _ _ rfl
  rw [IsPlainPath, hsplit, List.forall_mem_append]
  rfl

section

variable {text : String} (h : IsPlainPath text)

include h

theorem IsPlainPath.isPlain_or {c : Char} (hc : c ∈ text.toList) : isPlain c ∨ c = '/' := by
  have hc : c ∈ ['/'].intercalate (text.toList.splitOn '/') := by
    rwa [List.intercalate_splitOn]
  rcases Text.mem_intercalate hc with hc | ⟨name, hname, hc⟩
  · exact .inr (List.mem_singleton.1 hc)
  · exact .inl ((h name hname).isPlain c hc)

theorem IsPlainPath.exists_cons : ∃ c rest, text.toList = c :: rest ∧ isPlain c := by
  cases htext : text.toList with
  | nil => exact absurd rfl (h [] (by simp [htext])).ne_nil
  | cons c rest =>
    refine ⟨c, rest, rfl, (h.isPlain_or (c := c) (by simp [htext])).resolve_right ?_⟩
    rintro rfl
    refine absurd rfl (h [] ?_).ne_nil
    rw [htext]
    exact List.mem_append_left _ (List.mem_singleton_self _)

theorem IsPlainPath.lt_toNat {c : Char} (hc : c ∈ text.toList) : 0x20 < c.toNat := by
  rcases h.isPlain_or hc with hc | rfl
  · exact (lt_toNat_and_not_mem_of_isPlain hc).1
  · decide

theorem IsPlainPath.not_mem {c : Char} (hsign : c ∈ ['\\', '?', '#', ':']) : c ∉ text.toList := by
  intro hc
  rcases h.isPlain_or hc with hplain | rfl
  · exact (lt_toNat_and_not_mem_of_isPlain hplain).2 (List.mem_cons_of_mem _ hsign)
  · exact absurd hsign (by decide)

theorem IsPlainPath.isMark_eq_false {c : Char} (hc : c ∈ text.toList) : isMark c = false := by
  rw [isMark, Bool.or_eq_false_iff, beq_eq_false_iff_ne, beq_eq_false_iff_ne]
  exact ⟨fun hmark => h.not_mem (c := '?') (by decide) (hmark ▸ hc),
    fun hmark => h.not_mem (c := '#') (by decide) (hmark ▸ hc)⟩

theorem IsPlainPath.isSlash_eq {c : Char} (hc : c ∈ text.toList) (special : Bool) :
    isSlash special c = (c == '/') := by
  have hne : c ≠ '\\' := by
    rintro rfl
    exact h.not_mem (by decide) hc
  rw [isSlash, beq_false_of_ne hne, Bool.and_false, Bool.or_false]

theorem IsPlainPath.splitOnP_isSlash (special : Bool) :
    text.toList.splitOnP (isSlash special) = text.toList.splitOn '/' :=
  Text.splitOnP_congr fun _ hc => h.isSlash_eq hc special

/-- Plain names are put behind a path. -/
theorem extend_of_isPlainPath (special : Bool) (path : List String) :
    extend special path text.toList = path ++ names text := by
  rw [extend, h.splitOnP_isSlash, segments_addAll_of_isPlainName h, names]

/-- **Plain names stand for the URL** in which they take the place of the last segment of the base's
path. -/
theorem resolve_of_isPlainPath {base : Url} {origin : Option Authority} {segments : List String}
    (hplace : base.place = .hierarchy origin segments) (hfile : base.scheme ≠ "file") :
    resolve base text =
      .ok ⟨base.scheme, .hierarchy origin (segments.dropLast ++ names text), none, none⟩ := by
  obtain ⟨c, rest, htext, hc⟩ := h.exists_cons
  have hscheme : splitScheme text.toList = none := by
    refine Option.eq_none_iff_forall_ne_some.2 fun r hr => ?_
    obtain ⟨front, hcolon, -⟩ := splitScheme_eq_some_iff.1 hr
    exact h.not_mem (c := ':') (by decide) (by simp [hcolon])
  have hbreaks : dropBreaks text.toList = text.toList :=
    dropBreaks_eq_self fun c hc => isBreak_eq_false_of_lt (h.lt_toNat hc)
  have hhead : text.toList.head? ≠ some '#' := fun hhash =>
    h.not_mem (c := '#') (by decide) (List.mem_of_head? hhash)
  have hslashes : (text.toList.takeWhile (isSlash true)).length = 0 := by
    have hslash : c ≠ '/' := fun hslash => (lt_toNat_and_not_mem_of_isPlain hc).2 (by simp [hslash])
    have hfirst := h.isSlash_eq (c := c) (by simp [htext]) true
    rw [beq_false_of_ne hslash] at hfirst
    simp [htext, hfirst]
  have hempty : text.toList.isEmpty = false := by rw [htext]; rfl
  have hpath := splitPath_of_isMark fun c hc => h.isMark_eq_false hc
  rw [resolve, parseWith, clean_eq_self fun c hc => h.lt_toNat hc, hscheme]
  simp only [withoutScheme, if_neg hhead, hplace, if_neg hfile, hbreaks, relative, hpath, hslashes,
    hempty, extend_of_isPlainPath h]
  rfl

end

/-! ### Plain names in writing -/

theorem encode_append (isEncoded : Char → Bool) (cs t : List Char) :
    Percent.encode isEncoded (cs ++ t) =
      Percent.encode isEncoded cs ++ Percent.encode isEncoded t :=
  List.flatMap_append

/-- Segments are written as the text between whose slashes they stand. -/
theorem pathText_map_encodeSegment {parts : List (List Char)} (hne : parts ≠ [])
    (hbreaks : ∀ part ∈ parts, dropBreaks part = part) :
    pathText (parts.map encodeSegment) =
      '/' :: Percent.encode Percent.inPath (['/'].intercalate parts) := by
  induction parts with
  | nil => contradiction
  | cons part parts ih =>
    have hbreaks := List.forall_mem_cons.1 hbreaks
    have hpart : (encodeSegment part).toList = Percent.encode Percent.inPath part := by
      rw [encodeSegment, String.toList_ofList, hbreaks.1]
    have hcons : pathText ((part :: parts).map encodeSegment) =
        '/' :: Percent.encode Percent.inPath part ++ pathText (parts.map encodeSegment) := by
      rw [List.map_cons, pathText, List.flatMap_cons, hpart]
      rfl
    cases parts with
    | nil =>
      rw [hcons]
      simp [pathText]
    | cons part' parts =>
      have hslash : Percent.encode Percent.inPath ['/'] = ['/'] := by decide
      rw [hcons, ih (List.cons_ne_nil _ _) hbreaks.2, List.intercalate_cons_cons, encode_append,
        encode_append, hslash]
      simp

/-- The names are written in a path as they are in the text, with a slash before them. -/
theorem pathText_names {text : String} (h : IsPlainPath text) :
    pathText (names text) = '/' :: Percent.encode Percent.inPath text.toList := by
  have hbreaks : ∀ name ∈ text.toList.splitOn '/', dropBreaks name = name := fun name hname =>
    dropBreaks_eq_self fun c hc =>
      isBreak_eq_false_of_lt (lt_toNat_and_not_mem_of_isPlain ((h name hname).isPlain c hc)).1
  have hne : text.toList.splitOn '/' ≠ [] := List.splitOnP_ne_nil _ _
  rw [names, pathText_map_encodeSegment hne hbreaks, List.intercalate_splitOn]

end SensorCatalog.Url
