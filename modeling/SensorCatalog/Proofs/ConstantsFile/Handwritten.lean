import SensorCatalog.Proofs.ConstantsFile.Marker
import SensorCatalog.Proofs.ConstantsFile.Written
import SensorCatalog.Proofs.Text.Trailing
import Mathlib.Data.List.Forall2

/-!
# The part written by hand

What a file keeps of the part written by hand is described here line by line (`IsHandwritten`), and
`handwritten?` is shown to find exactly that (`handwritten?_eq_some_iff`). It finds something as
soon as the end marker occurs anywhere in the file (`exists_handwritten?_iff`).

The part that is kept is in a form that writing and reading leave as it is (`IsKept`). So if nothing
in the generated part looks like the end marker, the part written by hand is found again in the
file that was written (`handwritten?_text`).

## Main definitions

* `ConstantsFile.IsBlankLine`, `ConstantsFile.IsKeptAs`: lines that may be dropped, and how other
  lines are kept.
* `ConstantsFile.IsHandwritten`: the part written by hand in a file.
* `ConstantsFile.IsKept`: the parts written by hand that a file can keep.

## Main results

* `ConstantsFile.handwritten?_eq_some_iff`, `ConstantsFile.exists_handwritten?_iff`.
* `ConstantsFile.handwritten?_text`: the part written by hand is found again.
-/

namespace SensorCatalog.ConstantsFile

open Text (IsLine joinLines)

/-! ### Lines that are kept -/

/-- A line with nothing in it but carriage returns. -/
def IsBlankLine (line : String) : Prop :=
  ∀ c ∈ line.toList, c = '\r'

instance : DecidablePred IsBlankLine := fun line =>
  List.decidableBAll (fun c => c = '\r') line.toList

/-- A line is kept without the carriage returns at its end. -/
structure IsKeptAs (line kept : String) : Prop where
  /-- Only carriage returns at the end are missing. -/
  exists_returns : ∃ n, line.toList = kept.toList ++ List.replicate n '\r'
  /-- All carriage returns at the end are missing. -/
  not_endsWith_return : kept.toList.getLast? ≠ some '\r'

theorem dropReturns_eq_iff {line kept : String} : dropReturns line = kept ↔ IsKeptAs line kept := by
  have hcut : dropReturns line = kept ↔
      Text.dropTrailing (· == '\r') line.toList = kept.toList := by
    rw [← String.toList_inj, dropReturns, String.toList_ofList]
  rw [hcut, Text.dropTrailing_eq_iff]
  constructor
  · rintro ⟨⟨trailing, hline, ht⟩, hlast⟩
    refine ⟨⟨trailing.length, ?_⟩, fun h => hlast _ h (by simp)⟩
    rw [hline, ← List.eq_replicate_of_mem fun c hc => by simpa using ht c hc]
  · rintro ⟨⟨n, hline⟩, hlast⟩
    refine ⟨⟨_, hline, fun c hc => by simpa using List.eq_of_mem_replicate hc⟩, ?_⟩
    intro c hc hr
    exact hlast (by rw [← show c = '\r' by simpa using hr]; exact hc)

theorem dropReturns_eq_empty_iff {line : String} : dropReturns line = "" ↔ IsBlankLine line := by
  rw [← String.toList_inj, dropReturns, String.toList_ofList, IsBlankLine]
  exact Text.dropTrailing_eq_nil_iff.trans (by simp)

theorem dropReturns_of_isLine {line : String} (h : IsLine line) : dropReturns line = line :=
  dropReturns_eq_iff.2 ⟨⟨0, by simp⟩, h.not_endsWith_return⟩

theorem isLine_dropReturns {line : String} (h : '\n' ∉ line.toList) :
    IsLine (dropReturns line) := by
  obtain ⟨⟨n, hline⟩, hlast⟩ := dropReturns_eq_iff.1 (Eq.refl (dropReturns line))
  exact ⟨fun hmem => h (hline ▸ List.mem_append_left _ hmem), hlast⟩

/-- Blank lines are dropped from the end before carriage returns are dropped from lines. -/
theorem kept_eq_map (ls : List String) :
    kept ls = (Text.dropTrailing (fun line => decide (IsBlankLine line)) ls).map dropReturns := by
  have hblank : (String.isEmpty ∘ dropReturns) = fun line => decide (IsBlankLine line) := by
    funext line
    rw [Function.comp_apply, ← Bool.coe_iff_coe, String.isEmpty_iff, dropReturns_eq_empty_iff,
      decide_eq_true_iff]
  rw [kept, Text.dropTrailing_map, hblank]

/-- What is kept of lines: a front of them that does not end in a blank line and is followed by
blank lines only, without the carriage returns at the ends of its lines. -/
theorem kept_eq_iff {ls region : List String} :
    kept ls = region ↔ ∃ front blanks, ls = front ++ blanks ∧ (∀ line ∈ blanks, IsBlankLine line) ∧
      (∀ line ∈ front.getLast?, ¬ IsBlankLine line) ∧ List.Forall₂ IsKeptAs front region := by
  have hkept (front : List String) :
      List.Forall₂ IsKeptAs front region ↔ front.map dropReturns = region := by
    rw [← List.forall₂_eq_eq_eq, List.forall₂_map_left_iff]
    simp only [dropReturns_eq_iff]
  simp only [hkept, kept_eq_map]
  constructor
  · intro h
    obtain ⟨⟨blanks, hls, hblanks⟩, hlast⟩ := Text.dropTrailing_eq_iff.1 (Eq.refl
      (Text.dropTrailing (fun line => decide (IsBlankLine line)) ls))
    exact ⟨_, blanks, hls, by simpa using hblanks, by simpa using hlast, h⟩
  · rintro ⟨front, blanks, hls, hblanks, hlast, rfl⟩
    rw [Text.dropTrailing_eq_iff.2 ⟨⟨blanks, hls, by simpa using hblanks⟩, by simpa using hlast⟩]

/-- Of the lines that are not blank, none is lost and none is added. -/
theorem filter_kept (ls : List String) :
    (kept ls).filter (· ≠ "") = (ls.filter fun line => ¬ IsBlankLine line).map dropReturns := by
  obtain ⟨⟨blanks, hls, hblanks⟩, -⟩ := Text.dropTrailing_eq_iff.1 (Eq.refl
    (Text.dropTrailing (fun line => decide (IsBlankLine line)) ls))
  have hdropped : blanks.filter (fun line => ¬ IsBlankLine line) = [] := by
    simpa using hblanks
  conv => rhs; rw [hls, List.filter_append, hdropped, List.append_nil]
  rw [kept_eq_map, List.filter_map]
  simp only [Function.comp_def, ne_eq, dropReturns_eq_empty_iff]

/-! ### The part that is kept -/

/-- A part written by hand in the form in which files keep it. -/
structure IsKept (region : List String) : Prop where
  /-- Writing and reading leave its lines as they are. -/
  isLine : ∀ line ∈ region, IsLine line
  /-- Its last line is not empty. -/
  getLast?_ne : region.getLast? ≠ some ""

theorem isKept_kept {ls : List String} (h : ∀ line ∈ ls, '\n' ∉ line.toList) :
    IsKept (kept ls) where
  isLine line hline := by
    rw [kept_eq_map] at hline
    obtain ⟨l, hl, rfl⟩ := List.mem_map.1 hline
    obtain ⟨trailing, hls, -⟩ := Text.exists_eq_dropTrailing_append
      (p := fun line => decide (IsBlankLine line)) ls
    exact isLine_dropReturns (h l (hls ▸ List.mem_append_left _ hl))
  getLast?_ne h := Text.not_of_mem_getLast?_dropTrailing _ _ h rfl

theorem IsKept.kept_eq {region : List String} (h : IsKept region) : kept region = region := by
  have hmap : region.map dropReturns = region.map id :=
    List.map_congr_left fun line hline => dropReturns_of_isLine (h.isLine line hline)
  rw [List.map_id] at hmap
  rw [kept, hmap]
  refine Text.dropTrailing_of_getLast? fun line hline hempty => h.getLast?_ne ?_
  rwa [String.isEmpty_iff.1 hempty] at hline

/-! ### Where it begins -/

theorem handwrittenStart?_eq_some_iff {lines : List String} {start : Nat} :
    handwrittenStart? lines = some start ↔ ∃ above marked below,
      lines = above ++ marked :: below ∧ (∀ line ∈ above, ¬ hasEndMarker line) ∧
        hasEndMarker marked ∧ start = above.length + handwrittenOffset := by
  rw [handwrittenStart?, Option.map_eq_some_iff]
  constructor
  · rintro ⟨i, hi, rfl⟩
    obtain ⟨hlt, hmarked, habove⟩ := List.findIdx?_eq_some_iff_getElem.1 hi
    refine ⟨lines.take i, lines[i], lines.drop (i + 1), by simp, ?_, hmarked, by simp; omega⟩
    intro line hline
    obtain ⟨j, hj, rfl⟩ := List.mem_take_iff_getElem.1 hline
    exact habove j (by omega)
  · rintro ⟨above, marked, below, rfl, habove, hmarked, rfl⟩
    refine ⟨above.length, ?_, rfl⟩
    rw [List.findIdx?_append, List.findIdx?_eq_none_iff.2 (by simpa using habove),
      List.findIdx?_cons, if_pos hmarked]
    simp

/-- The first line with the end marker decides, whatever is appended. -/
theorem handwrittenStart?_append {lines : List String} {start : Nat}
    (h : handwrittenStart? lines = some start) (appended : List String) :
    handwrittenStart? (lines ++ appended) = some start := by
  obtain ⟨above, marked, below, rfl, hrest⟩ := handwrittenStart?_eq_some_iff.1 h
  exact handwrittenStart?_eq_some_iff.2 ⟨above, marked, below ++ appended, by simp, hrest⟩

/-- The part written by hand in a file: what is kept of the lines from the sixth one below the first
line that holds the end marker. -/
def IsHandwritten (lines region : List String) : Prop :=
  ∃ above marked below front blanks,
    lines = above ++ marked :: below ∧
    (∀ line ∈ above, ¬ endMarker.toList <:+: line.toList) ∧
    endMarker.toList <:+: marked.toList ∧
    lines.drop (above.length + 6) = front ++ blanks ∧
    (∀ line ∈ blanks, IsBlankLine line) ∧ (∀ line ∈ front.getLast?, ¬ IsBlankLine line) ∧
    List.Forall₂ IsKeptAs front region

/-- **The part written by hand.** It is found where its description says. -/
theorem handwritten?_eq_some_iff {previous : String} {region : List String} :
    handwritten? previous = some region ↔ IsHandwritten (Text.lines previous) region := by
  simp only [handwritten?, Option.map_eq_some_iff, handwrittenStart?_eq_some_iff, hasEndMarker_iff]
  constructor
  · rintro ⟨_, ⟨above, marked, below, hlines, habove, hmarked, rfl⟩, hkept⟩
    obtain ⟨front, blanks, hdrop, hrest⟩ := kept_eq_iff.1 hkept
    exact ⟨above, marked, below, front, blanks, hlines, habove, hmarked, hdrop, hrest⟩
  · rintro ⟨above, marked, below, front, blanks, hlines, habove, hmarked, hdrop, hrest⟩
    exact ⟨_, ⟨above, marked, below, hlines, habove, hmarked, rfl⟩,
      kept_eq_iff.2 ⟨front, blanks, hdrop, hrest⟩⟩

/-- Of what stands in a file, only the lines from the sixth one below the first line with the end
marker matter. -/
theorem handwritten?_eq_some_kept {previous marked : String} {above below : List String}
    (hlines : Text.lines previous = above ++ marked :: below)
    (habove : ∀ line ∈ above, ¬ hasEndMarker line) (hmarked : hasEndMarker marked) :
    handwritten? previous = some (kept (below.drop 5)) := by
  have hstart : handwrittenStart? (Text.lines previous) = some (above.length + handwrittenOffset) :=
    handwrittenStart?_eq_some_iff.2 ⟨above, marked, below, hlines, habove, hmarked, rfl⟩
  have hdrop : (above ++ marked :: below).drop (above.length + handwrittenOffset) =
      below.drop 5 := by
    rw [List.drop_length_add_append, handwrittenOffset, List.drop_succ_cons]
  rw [handwritten?, hstart, Option.map_some, hlines, hdrop]

theorem handwritten?_isKept {previous : String} {region : List String}
    (h : handwritten? previous = some region) : IsKept region := by
  obtain ⟨start, -, rfl⟩ := Option.map_eq_some_iff.1 h
  exact isKept_kept fun line hline =>
    Text.lineFeed_not_mem_of_mem_lines (List.mem_of_mem_drop hline)

/-- There is a part written by hand as soon as the end marker occurs anywhere in a file. -/
theorem exists_handwritten?_iff {previous : String} :
    (∃ region, handwritten? previous = some region) ↔ endMarker.toList <:+: previous.toList := by
  rw [← Text.exists_infix_lines_iff endMarker_ne_nil lineFeed_not_mem_endMarker
    return_not_mem_endMarker]
  simp only [handwritten?, handwrittenStart?, ← Option.isSome_iff_exists, Option.isSome_map,
    List.findIdx?_isSome, List.any_eq_true, hasEndMarker_iff]

/-! ### How it is written -/

theorem IsKept.exists_eq_concat {region : List String} (h : IsKept region) (hne : region ≠ []) :
    ∃ front last, region = front ++ [last] ∧ last ≠ "" ∧ '\n' ∉ last.toList := by
  obtain ⟨front, last, rfl⟩ : ∃ front last, region = front ++ [last] :=
    ⟨_, _, (List.dropLast_concat_getLast hne).symm⟩
  exact ⟨front, last, rfl, fun hempty => h.getLast?_ne (by simp [hempty]),
    (h.isLine last (by simp)).lineFeed_not_mem⟩

/-- A part written by hand ends in a line feed of its own; without one, the line feed before the
empty line at the end of the generated part is the last one. -/
theorem text_endBlock_append (body : List String) {region : List String} (h : IsKept region) :
    text (body ++ endBlock ++ region) =
      joinLines (body ++ endBlock ++ region) ++ if region = [] then "" else "\n" := by
  split
  · next hnil =>
    have hne : body ++ endComment ≠ [] := by simp [endComment, endBlock]
    rw [hnil, List.append_nil, endBlock_eq, ← List.append_assoc, text_concat_empty hne,
      joinLines_concat_empty hne, String.append_empty]
  · next hne =>
    obtain ⟨front, last, rfl, hlast, hfeed⟩ := h.exists_eq_concat hne
    rw [← List.append_assoc, text_concat _ hlast hfeed]

theorem endsInOneLineFeed_text (body : List String) {region : List String} (h : IsKept region) :
    EndsInOneLineFeed (text (body ++ endBlock ++ region)) := by
  by_cases hne : region = []
  · obtain ⟨rest, last, hcomment, hlast, hfeed⟩ := exists_endComment_eq_concat
    rw [hne, List.append_nil, endBlock_eq, hcomment, ← List.append_assoc, ← List.append_assoc]
    exact endsInOneLineFeed_text_concat_empty _ hlast hfeed
  · obtain ⟨front, last, rfl, hlast, hfeed⟩ := h.exists_eq_concat hne
    rw [← List.append_assoc]
    exact endsInOneLineFeed_text_concat _ hlast hfeed

/-! ### What was written is found again -/

/-- Below the comment begins the part written by hand, one line too late if the comment is not
followed by an empty line. -/
theorem handwrittenStart?_endComment {above : List String}
    (h : ∀ line ∈ above, ¬ hasEndMarker line) (below : List String) :
    handwrittenStart? (above ++ (endComment ++ below)) =
      some (above.length + endComment.length + 1) := by
  obtain ⟨first, second, rest, hcomment, hfirst, hsecond⟩ := exists_endComment_eq
  refine handwrittenStart?_eq_some_iff.2
    ⟨above ++ [first], second, rest ++ below, by simp [hcomment], ?_, hsecond, ?_⟩
  · intro line hline
    rcases List.mem_append.1 hline with hline | hline
    · exact h line hline
    · rwa [List.mem_singleton.1 hline]
  · simp [length_endComment, handwrittenOffset]

/-- The end of a written file, read back: without a part written by hand, the empty line below the
comment is lost. -/
theorem lines_text_endBlock_append {region : List String} (h : IsKept region) :
    Text.lines (text (endBlock ++ region)) =
      if region = [] then endComment else endBlock ++ region := by
  split
  · next hnil =>
    rw [hnil, List.append_nil, endBlock_eq]
    exact lines_text_concat_empty (by decide) fun line hline =>
      isLine_of_mem_endBlock (endBlock_eq ▸ List.mem_append_left _ hline)
  · next hne =>
    obtain ⟨front, last, rfl, hlast, -⟩ := h.exists_eq_concat hne
    rw [← List.append_assoc]
    refine lines_text_concat hlast fun line hline => ?_
    rw [List.append_assoc] at hline
    rcases List.mem_append.1 hline with hline | hline
    · exact isLine_of_mem_endBlock hline
    · exact h.isLine line hline

theorem joinLines_endBlock_append_ne_empty (region : List String) :
    joinLines (endBlock ++ region) ≠ "" := by
  obtain ⟨first, second, rest, hcomment, -⟩ := exists_endComment_eq
  rw [endBlock_eq, hcomment, List.append_assoc, List.cons_append,
    Text.joinLines_cons_of_ne_nil _ (by simp)]
  simp

/-- A written file, read back: the lines of the generated part above its end, which may be cut at
line feeds in them, and below it the part written by hand. -/
theorem lines_text_generated {body region : List String} (hbody : body ≠ []) (h : IsKept region) :
    Text.lines (text (body ++ endBlock ++ region)) = Text.lines (joinLines body ++ "\n") ++
      if region = [] then endComment else endBlock ++ region := by
  rw [List.append_assoc, lines_text_append hbody (joinLines_endBlock_append_ne_empty region),
    lines_text_endBlock_append h]

theorem hasEndMarker_lines_joinLines_iff {body : List String} (hbody : body ≠ []) :
    (∀ line ∈ Text.lines (joinLines body ++ "\n"), ¬ hasEndMarker line) ↔
      ∀ line ∈ body, ¬ hasEndMarker line := by
  have hmarked := Text.exists_infix_lines_joinLines_iff endMarker_ne_nil
    lineFeed_not_mem_endMarker return_not_mem_endMarker hbody
  simp only [← hasEndMarker_iff] at hmarked
  simpa using not_congr hmarked

/-- **What was written by hand is found again.** If nothing above the end of the generated part
looks like the end marker, a written file has the part written by hand that went into it. -/
theorem handwritten?_text {body region : List String} (hbody : body ≠ [])
    (hfree : ∀ line ∈ body, ¬ hasEndMarker line) (h : IsKept region) :
    handwritten? (text (body ++ endBlock ++ region)) = some region := by
  have habove := (hasEndMarker_lines_joinLines_iff hbody).2 hfree
  rw [handwritten?, lines_text_generated hbody h]
  split
  · next hnil =>
    have hstart := handwrittenStart?_endComment habove []
    rw [List.append_nil] at hstart
    rw [hstart, Option.map_some, List.drop_eq_nil_of_le (by simp), hnil]
    rfl
  · have hstart := handwrittenStart?_endComment habove ("" :: region)
    have hlines : Text.lines (joinLines body ++ "\n") ++ (endComment ++ "" :: region) =
        (Text.lines (joinLines body ++ "\n") ++ endComment ++ [""]) ++ region := by simp
    rw [endBlock_eq, List.append_assoc, List.singleton_append, hstart, Option.map_some, hlines,
      List.drop_left' (by simp [Nat.add_assoc]), h.kept_eq]

end SensorCatalog.ConstantsFile
