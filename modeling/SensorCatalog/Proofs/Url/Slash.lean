import SensorCatalog.Proofs.Fallible
import SensorCatalog.Proofs.Text.Trailing
import SensorCatalog.Proofs.Url.Authority
import SensorCatalog.Proofs.Url.Path

/-!
# A slash behind the text of a URL

Most parts of the text of a URL are not touched by what is put behind it: the scheme and the slashes
that announce the authority stand at the front, and the authority ends at the next slash. What
remains is the path, and there the slash arrives (`Gives.concat_slash`). Only blanks and controls at
the end of the text, which do not count there, are in the way: with the slash behind them they are
not at the end any more.

## Main definitions

* `Url.announced?`: the scheme of a text and what stands behind the slashes after it.
* `Url.Gives`: the texts of a scheme, an authority and a path without more.

## Main results

* `Url.exists_gives_of_parse`, `Url.Gives.parse_eq`: the URLs of these texts.
* `Url.Gives.concat_slash`, `Url.Gives.exists_concat_slash`: these texts with a slash behind them.
-/

namespace SensorCatalog.Url

variable {s scheme : String} {a : Authority} {path : List Char} {u : Url}

/-! ### What counts in a text -/

theorem keepColonBreaks_sublist (isBehindColon : Bool) (cs : List Char) :
    (keepColonBreaks isBehindColon cs).Sublist cs := by
  induction cs generalizing isBehindColon with
  | nil => exact .slnil
  | cons c cs ih =>
    rw [keepColonBreaks]
    split
    · split
      · exact (ih _).cons_cons c
      · exact (ih _).cons c
    · exact (ih _).cons_cons c

/-- A text is read in the same way whatever follows it. -/
theorem exists_keepColonBreaks_append (isBehindColon : Bool) (cs : List Char) :
    ∃ isBehind, ∀ t, keepColonBreaks isBehindColon (cs ++ t) =
      keepColonBreaks isBehindColon cs ++ keepColonBreaks isBehind t := by
  induction cs generalizing isBehindColon with
  | nil => exact ⟨isBehindColon, fun t => rfl⟩
  | cons c cs ih =>
    rw [keepColonBreaks]
    simp only [List.cons_append, keepColonBreaks]
    split
    · obtain ⟨isBehind, h⟩ := ih false
      refine ⟨isBehind, fun t => ?_⟩
      split
      · rw [h, List.cons_append]
      · exact h t
    · obtain ⟨isBehind, h⟩ := ih (c == ':')
      exact ⟨isBehind, fun t => by rw [h, List.cons_append]⟩

theorem isBreak_eq_false_of_lt {c : Char} (h : 0x20 < c.toNat) : isBreak c = false := by
  have hne {d : Char} (hd : d.toNat ≤ 0x20) : c ≠ d := (ne_of_toNat_le hd h).symm
  rw [isBreak, beq_false_of_ne (hne (by decide)), beq_false_of_ne (hne (by decide)),
    beq_false_of_ne (hne (by decide)), Bool.or_self, Bool.or_self]

theorem keepColonBreaks_eq_self {cs : List Char} (h : ∀ c ∈ cs, isBreak c = false)
    (isBehindColon : Bool) : keepColonBreaks isBehindColon cs = cs := by
  induction cs generalizing isBehindColon with
  | nil => rfl
  | cons c cs ih =>
    have h := List.forall_mem_cons.1 h
    rw [keepColonBreaks, h.1, if_neg Bool.false_ne_true, ih h.2]

theorem dropBreaks_eq_self {cs : List Char} (h : ∀ c ∈ cs, isBreak c = false) :
    dropBreaks cs = cs :=
  List.filter_eq_self.2 fun c hc => by rw [h c hc]; rfl

/-- All of a text counts that can be seen. -/
theorem clean_eq_self {cs : List Char} (h : ∀ c ∈ cs, 0x20 < c.toNat) : clean cs = cs := by
  have hfront : cs.dropWhile (fun c => decide (c.toNat ≤ 0x20)) = cs := by
    cases cs with
    | nil => rfl
    | cons c cs =>
      rw [List.dropWhile_cons_of_neg]
      have := h c List.mem_cons_self
      simpa using this
  have hend : Text.dropTrailing (fun c => decide (c.toNat ≤ 0x20)) cs = cs :=
    Text.dropTrailing_of_getLast? fun c hc => by
      have := h c (List.mem_of_getLast? hc)
      simpa using this
  rw [clean, hfront, hend, keepColonBreaks_eq_self fun c hc => isBreak_eq_false_of_lt (h c hc)]

/-- The end of a text counts, if there is an end that can be seen. -/
def EndsVisibly (cs : List Char) : Prop :=
  ∀ c ∈ cs.getLast?, 0x20 < c.toNat

instance (cs : List Char) : Decidable (EndsVisibly cs) :=
  decidable_of_iff (cs.getLast?.all fun c => 0x20 < c.toNat) <| by
    rw [Option.all_eq_true]
    exact forall₂_congr fun _ _ => decide_eq_true_iff

/-- A slash behind a text counts, and with it some of the blanks and controls before it. -/
theorem exists_clean_concat_slash (cs : List Char) :
    ∃ e, (∀ c ∈ e, c.toNat ≤ 0x20) ∧ (EndsVisibly cs → e = []) ∧
      clean (cs ++ ['/']) = clean cs ++ e ++ ['/'] := by
  let isOuter := fun (c : Char) => decide (c.toNat ≤ 0x20)
  obtain ⟨trailing, hcut, htrailing⟩ := Text.exists_eq_dropTrailing_append (p := isOuter)
    (cs.dropWhile isOuter)
  obtain ⟨isBehind, hcore⟩ :=
    exists_keepColonBreaks_append false (Text.dropTrailing isOuter (cs.dropWhile isOuter))
  obtain ⟨isBehind', hslash⟩ := exists_keepColonBreaks_append isBehind trailing
  refine ⟨keepColonBreaks isBehind trailing, fun c hc => ?_, fun hvisible => ?_, ?_⟩
  · exact of_decide_eq_true (htrailing c ((keepColonBreaks_sublist _ _).subset hc))
  · rcases List.eq_nil_or_concat trailing with rfl | ⟨rest, c, rfl⟩
    · rfl
    · have hlast : cs.getLast? = some c := by
        rw [← List.takeWhile_append_dropWhile (p := isOuter) (l := cs), hcut]
        simp
      have hc : c.toNat ≤ 0x20 := of_decide_eq_true (htrailing c (by simp))
      have := hvisible c hlast
      omega
  · have hdrop : (cs ++ ['/']).dropWhile isOuter = cs.dropWhile isOuter ++ ['/'] := by
      rw [List.dropWhile_append]
      split
      · next h => rw [List.isEmpty_iff.1 h]; rfl
      · rfl
    have hkeep : Text.dropTrailing isOuter (cs.dropWhile isOuter ++ ['/']) =
        cs.dropWhile isOuter ++ ['/'] :=
      Text.dropTrailing_of_getLast? (by simp [isOuter])
    calc clean (cs ++ ['/'])
        = keepColonBreaks false (cs.dropWhile isOuter ++ ['/']) := by
          rw [clean, hdrop, hkeep]
      _ = clean cs ++ (keepColonBreaks isBehind trailing ++ ['/']) := by
          rw [hcut, List.append_assoc, hcore, hslash]
          rfl
      _ = clean cs ++ keepColonBreaks isBehind trailing ++ ['/'] := (List.append_assoc _ _ _).symm

/-! ### Schemes and the slashes after them -/

/-- The characters of schemes. -/
def isSchemePart (c : Char) : Bool :=
  c.isAlphanum || c == '+' || c == '-' || c == '.'

theorem splitScheme_eq (cs : List Char) :
    splitScheme cs =
      if cs.head?.any Char.isAlpha then
        match cs.dropWhile isSchemePart with
        | ':' :: rest =>
          some (String.ofList ((cs.takeWhile isSchemePart).map Char.toLower), rest)
        | _ => none
      else none :=
  rfl

theorem splitScheme_eq_some_iff {cs rest : List Char} : splitScheme cs = some (scheme, rest) ↔
    ∃ front, cs = front ++ ':' :: rest ∧ (∀ c ∈ front, isSchemePart c) ∧
      front.head?.any Char.isAlpha ∧ String.ofList (front.map Char.toLower) = scheme := by
  constructor
  · intro h
    rw [splitScheme_eq] at h
    split at h
    · next hhead =>
      split at h
      · next tail hdrop =>
        obtain ⟨hscheme, rfl⟩ := Prod.mk.inj (Option.some.inj h)
        refine ⟨cs.takeWhile isSchemePart, ?_, fun c hc => List.mem_takeWhile_imp hc, ?_, hscheme⟩
        · rw [← hdrop]
          exact List.takeWhile_append_dropWhile.symm
        · cases cs with
          | nil => cases hhead
          | cons c cs =>
            have hc : c.isAlpha := hhead
            simp [isSchemePart, Char.isAlphanum, hc]
      · cases h
    · cases h
  · rintro ⟨front, rfl, hfront, hhead, hscheme⟩
    have hcolon : ∀ c ∈ (':' :: rest).head?, ¬ isSchemePart c := by simp [isSchemePart]
    have htake := Text.takeWhile_append_of_head? hfront hcolon
    have hdrop := Text.dropWhile_append_of_head? hfront hcolon
    have hfirst : (front ++ ':' :: rest).head?.any Char.isAlpha := by
      cases front with
      | nil => cases hhead
      | cons c front => exact hhead
    rw [splitScheme_eq, if_pos hfirst, hdrop, htake, hscheme]
    rfl

theorem splitScheme_append {cs rest : List Char} (h : splitScheme cs = some (scheme, rest))
    (t : List Char) : splitScheme (cs ++ t) = some (scheme, rest ++ t) := by
  obtain ⟨front, rfl, hfront⟩ := splitScheme_eq_some_iff.1 h
  exact splitScheme_eq_some_iff.2 ⟨front, List.append_assoc _ _ _, hfront⟩

/-- The scheme of a text and what stands behind the slashes after it. -/
def announced? (s : String) : Option (String × List Char) :=
  (splitScheme (clean s.toList)).map fun r =>
    (r.1, (dropBreaks r.2).dropWhile (isSlash true))

theorem dropBreaks_append (cs t : List Char) :
    dropBreaks (cs ++ t) = dropBreaks cs ++ dropBreaks t :=
  List.filter_append _ _

/-- A slash is put behind what is announced, if there is something. -/
theorem announced?_concat_slash {cs : List Char} (h : announced? s = some (scheme, cs))
    (hne : cs ≠ []) : ∃ e, (∀ c ∈ e, c.toNat ≤ 0x20) ∧ (EndsVisibly s.toList → e = []) ∧
      announced? (s ++ "/") = some (scheme, cs ++ e ++ ['/']) := by
  obtain ⟨r, hsplit, hr⟩ := Option.map_eq_some_iff.1 h
  obtain ⟨rfl, rfl⟩ := Prod.mk.inj hr
  obtain ⟨e, he, hvisible, hclean⟩ := exists_clean_concat_slash s.toList
  refine ⟨dropBreaks e, fun c hc => he c (List.mem_of_mem_filter hc), fun hs => ?_, ?_⟩
  · rw [hvisible hs]
    rfl
  · have hsplit := splitScheme_append hsplit (e ++ ['/'])
    rw [← List.append_assoc, ← hclean] at hsplit
    rw [announced?, String.toList_append, show "/".toList = ['/'] from rfl, hsplit,
      Option.map_some, dropBreaks_append, dropBreaks_append]
    rw [List.append_assoc, List.dropWhile_append, if_neg (mt List.isEmpty_iff.1 hne),
      ← List.append_assoc]
    rfl

/-! ### Texts of places -/

/-- In the schemes that the web knows, all but one go to a host. -/
def goesToHost (scheme : String) : Bool :=
  isSpecial scheme && scheme != "file"

theorem isSpecial_of_goesToHost (h : goesToHost scheme) : isSpecial scheme := by
  rw [goesToHost, Bool.and_eq_true] at h
  exact h.1

/-- A text gives a scheme, an authority and the text of a path, and nothing behind the path. -/
structure Gives (s scheme : String) (a : Authority) (path : List Char) : Prop where
  /-- The scheme is one with a host. -/
  goesToHost : goesToHost scheme
  /-- The authority stands behind the scheme, and the path behind the authority. -/
  announces : ∃ cs, announced? s = some (scheme, cs) ∧ authority scheme cs = .ok (a, path)
  /-- There is no query and no fragment. -/
  isMark_eq_false : ∀ c ∈ path, isMark c = false

/-- The text of the path in the text of a URL. -/
def writtenPath (s : String) : List Char :=
  match announced? s with
  | some (_, cs) => afterAuthority cs
  | none => []

theorem Gives.writtenPath_eq (h : Gives s scheme a path) : writtenPath s = path := by
  obtain ⟨cs, hcs, hread⟩ := h.announces
  rw [writtenPath, hcs, eq_afterAuthority (isSpecial_of_goesToHost h.goesToHost) hread]

theorem afterSlashes_eq_ok_iff {cs : List Char} : afterSlashes scheme cs = .ok u ↔
    ∃ a rest, authority scheme cs = .ok (a, rest) ∧
      finish scheme (.hierarchy (some a) (rootPath (isSpecial scheme) (splitPath rest).1))
        (splitPath rest).2 = u := by
  rw [afterSlashes, Fallible.bind_eq_ok_iff]
  constructor
  · rintro ⟨⟨a, rest⟩, hread, hu⟩
    exact ⟨a, rest, hread, Except.ok.inj hu⟩
  · rintro ⟨a, rest, hread, rfl⟩
    exact ⟨(a, rest), hread, rfl⟩

theorem scheme_of_file {cs : List Char} (h : file none cs = .ok u) : u.scheme = "file" := by
  have hfile {host : Host} {path : Path} {rest : List Char}
      (h : (.ok (ofFile host path rest) : Except Fault Url) = .ok u) : u.scheme = "file" :=
    Except.ok.inj h ▸ rfl
  rw [file] at h
  split at h
  · exact hfile h
  · exact hfile h
  · simp only [fileAfterSlashes] at h
    split at h
    · exact hfile h
    · split at h
      · exact hfile h
      · obtain ⟨host, -, h⟩ := Fallible.bind_eq_ok_iff.1 h
        split at h
        · exact hfile h
        · exact hfile h

theorem scheme_of_withScheme {cs : List Char} (h : withScheme none scheme cs = .ok u) :
    u.scheme = scheme := by
  have hslashes {cs : List Char} (h : afterSlashes scheme cs = .ok u) : u.scheme = scheme := by
    obtain ⟨a, rest, -, rfl⟩ := afterSlashes_eq_ok_iff.1 h
    rfl
  simp only [withScheme, Option.filter_none] at h
  split at h
  · next hfile => rw [scheme_of_file h, hfile]
  · split at h
    · exact hslashes h
    · split at h
      · exact hslashes h
      · exact Except.ok.inj h ▸ rfl
      · exact Except.ok.inj h ▸ rfl

theorem withScheme_of_goesToHost (h : goesToHost scheme) (cs : List Char) :
    withScheme none scheme cs = afterSlashes scheme ((dropBreaks cs).dropWhile (isSlash true)) := by
  rw [goesToHost, Bool.and_eq_true, bne_iff_ne] at h
  simp only [withScheme, Option.filter_none, if_neg h.2, if_pos h.1]

/-- In a scheme with a host, the text is read from behind the slashes. -/
theorem parse_of_announced? {cs : List Char} (h : announced? s = some (scheme, cs))
    (hhost : goesToHost scheme) : parse s = afterSlashes scheme cs := by
  obtain ⟨r, hsplit, hr⟩ := Option.map_eq_some_iff.1 h
  obtain ⟨rfl, rfl⟩ := Prod.mk.inj hr
  rw [parse, parseWith, hsplit]
  exact withScheme_of_goesToHost hhost r.2

theorem exists_announced?_of_parse (h : parse s = .ok u) :
    ∃ cs, announced? s = some (u.scheme, cs) := by
  rw [parse, parseWith] at h
  split at h
  · next scheme rest hsplit =>
    rw [scheme_of_withScheme h, announced?, hsplit]
    exact ⟨_, rfl⟩
  · cases h

/-- Where there are no query and no fragment, nothing follows the path. -/
theorem eq_nil_of_queryAndFragment (special : Bool) {cs : List Char}
    (hmark : ∀ c ∈ cs.head?, isMark c) (h : queryAndFragment special cs = (none, none)) :
    cs = [] := by
  cases cs with
  | nil => rfl
  | cons c cs =>
    have hc := hmark c rfl
    rw [isMark, Bool.or_eq_true, beq_iff_eq, beq_iff_eq] at hc
    rcases hc with rfl | rfl
    · cases (Prod.mk.inj h).1
    · cases (Prod.mk.inj h).2

theorem splitPath_of_isMark {cs : List Char} (h : ∀ c ∈ cs, isMark c = false) :
    splitPath cs = (cs, []) := by
  have h : ∀ c ∈ cs, !isMark c := fun c hc => by rw [h c hc]; rfl
  rw [splitPath, List.takeWhile_eq_self_iff.2 h, List.dropWhile_eq_nil_iff.2 h]

theorem Gives.parse_eq (h : Gives s scheme a path) :
    parse s = .ok ⟨scheme, .hierarchy (some a) (rootPath true path), none, none⟩ := by
  obtain ⟨cs, hcs, hread⟩ := h.announces
  rw [parse_of_announced? hcs h.goesToHost]
  refine afterSlashes_eq_ok_iff.2 ⟨a, path, hread, ?_⟩
  rw [splitPath_of_isMark h.isMark_eq_false, isSpecial_of_goesToHost h.goesToHost]
  rfl

/-- The URLs in a scheme with a host that have no query and no fragment come from such texts. -/
theorem exists_gives_of_parse (h : parse s = .ok u) (hhost : goesToHost u.scheme)
    (hquery : u.query = none) (hfragment : u.fragment = none) :
    ∃ a path, Gives s u.scheme a path := by
  obtain ⟨cs, hcs⟩ := exists_announced?_of_parse h
  rw [parse_of_announced? hcs hhost] at h
  obtain ⟨a, rest, hread, hu⟩ := afterSlashes_eq_ok_iff.1 h
  refine ⟨a, rest, hhost, ⟨cs, hcs, hread⟩, ?_⟩
  have hrest : (splitPath rest).2 = [] := by
    refine eq_nil_of_queryAndFragment (isSpecial u.scheme) (fun c hc => ?_) ?_
    · simpa using Text.not_of_mem_head?_dropWhile hc
    · rw [← hu] at hquery hfragment
      exact Prod.ext hquery hfragment
  intro c hc
  simpa using List.dropWhile_eq_nil_iff.1 hrest c hc

/-! ### Slashes behind them -/

section

variable (h : Gives s scheme a path)

include h

theorem Gives.exists_announced?_concat_slash :
    ∃ cs e, authority scheme cs = .ok (a, path) ∧ (∀ c ∈ e, c.toNat ≤ 0x20) ∧
      (EndsVisibly s.toList → e = []) ∧
      announced? (s ++ "/") = some (scheme, cs ++ e ++ ['/']) := by
  obtain ⟨cs, hcs, hread⟩ := h.announces
  have hne : cs ≠ [] := by
    rintro rfl
    rw [authority_nil (isSpecial_of_goesToHost h.goesToHost)] at hread
    cases hread
  obtain ⟨e, he⟩ := announced?_concat_slash hcs hne
  exact ⟨cs, e, hread, he⟩

theorem Gives.isMark_concat_slash {e : List Char} (he : ∀ c ∈ e, c.toNat ≤ 0x20) :
    ∀ c ∈ path ++ e ++ ['/'], isMark c = false := by
  simp only [List.mem_append, List.mem_singleton]
  rintro c ((hc | hc) | rfl)
  · exact h.isMark_eq_false c hc
  · exact isMark_eq_false_of_le (he c hc)
  · rfl

/-- **A slash behind the text of a place** comes behind its path. -/
theorem Gives.concat_slash (hvisible : EndsVisibly s.toList) :
    Gives (s ++ "/") scheme a (path ++ ['/']) := by
  obtain ⟨cs, e, hread, -, he, hcs⟩ := h.exists_announced?_concat_slash
  obtain rfl := he hvisible
  rw [List.append_nil] at hcs
  refine ⟨h.goesToHost, ⟨_, hcs, ?_⟩, ?_⟩
  · exact authority_append_of_eq_ok (isSpecial_of_goesToHost h.goesToHost) hread fun _ c hc =>
      (Option.some.inj hc) ▸ rfl
  · simpa using h.isMark_concat_slash (e := []) (by simp)

/-- Blanks and controls before the slash are a part of the path, or of an authority that may be
another one. -/
theorem Gives.exists_concat_slash (hread : parse (s ++ "/") = .ok u) :
    ∃ a' e, (∀ c ∈ e, c.toNat ≤ 0x20) ∧ Gives (s ++ "/") scheme a' (path ++ e ++ ['/']) := by
  have hscheme := isSpecial_of_goesToHost h.goesToHost
  obtain ⟨cs, e, hbefore, he, -, hcs⟩ := h.exists_announced?_concat_slash
  rw [parse_of_announced? hcs h.goesToHost] at hread
  obtain ⟨a', rest, hread, -⟩ := afterSlashes_eq_ok_iff.1 hread
  cases hpath : path with
  | nil =>
    -- No slash ends the authority before the one that is put behind it.
    refine ⟨a', [], by simp, h.goesToHost, ⟨_, hcs, ?_⟩, by simp [isMark]⟩
    obtain ⟨front, hfront, hends, -⟩ := exists_front_of_authority hscheme hbefore
    rw [hpath, List.append_nil] at hfront
    have hbehind : ∀ c ∈ cs ++ e, isEnd c = false := fun c hc => by
      rcases List.mem_append.1 hc with hc | hc
      · exact hends c (hfront ▸ hc)
      · rw [isEnd, isSlash_eq_false_of_le (he c hc), isMark_eq_false_of_le (he c hc), Bool.or_self]
    have hslash : ∀ c ∈ ['/'].head?, isEnd c := fun c hc => Option.some.inj hc ▸ rfl
    rw [hread, eq_afterAuthority hscheme hread,
      afterAuthority_append hbehind hslash]
    rfl
  | cons c rest' =>
    refine ⟨a, e, he, h.goesToHost, ⟨_, hcs, ?_⟩, hpath ▸ h.isMark_concat_slash he⟩
    rw [← hpath, List.append_assoc, List.append_assoc]
    exact authority_append_of_eq_ok hscheme hbefore fun hnil => by simp [hpath] at hnil

end

end SensorCatalog.Url
