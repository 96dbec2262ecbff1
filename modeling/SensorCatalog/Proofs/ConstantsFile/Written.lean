import SensorCatalog.ConstantsFile.Splice
import SensorCatalog.Proofs.Text.Lines

/-!
# Lines written to a file

A file is written with a line feed between its lines and one at its end, unless the last line is
empty: then the line feed before that line is the one at the end. So a single empty line at the end
is lost when a file is written and read, and nothing else is.

## Main definitions

* `ConstantsFile.EndsInOneLineFeed`: how a written file ends.

## Main results

* `ConstantsFile.lines_text_concat`: lines of which the last is not empty are read back.
* `ConstantsFile.lines_text_concat_empty`: an empty last line is lost.
* `ConstantsFile.lines_text_of_isLine`: what becomes of lines that are written and read.
-/

namespace SensorCatalog.ConstantsFile

open Text (IsLine joinLines)

/-- A text ends in a line feed that does not follow another one. -/
def EndsInOneLineFeed (s : String) : Prop :=
  ∃ front : String, s = front ++ "\n" ∧ front.toList.getLast? ≠ some '\n'

theorem joinLines_concat_empty {ls : List String} (hne : ls ≠ []) :
    joinLines (ls ++ [""]) = joinLines ls ++ "\n" := by
  rw [Text.joinLines_append hne (List.cons_ne_nil _ _)]
  simp [joinLines]

/-- Lines put together end like the last one of them, unless it is empty. -/
theorem getLast?_joinLines_concat (ls : List String) {line : String} (hne : line ≠ "") :
    (joinLines (ls ++ [line])).toList.getLast? = line.toList.getLast? := by
  obtain ⟨last, hlast⟩ : ∃ last, line.toList.getLast? = some last :=
    ⟨_, List.getLast?_eq_some_getLast (by simpa using hne)⟩
  cases ls with
  | nil => simp [joinLines]
  | cons first ls =>
    rw [Text.joinLines_append (List.cons_ne_nil _ _) (List.cons_ne_nil _ _), String.toList_append,
      List.getLast?_append, joinLines, String.intercalate_singleton, hlast, Option.some_or]

theorem getLast?_joinLines_concat_ne_lineFeed (ls : List String) {line : String}
    (hne : line ≠ "") (hline : '\n' ∉ line.toList) :
    (joinLines (ls ++ [line])).toList.getLast? ≠ some '\n' := by
  rw [getLast?_joinLines_concat ls hne]
  exact fun h => hline (List.mem_of_getLast? h)

/-! ### The text of lines -/

theorem text_concat (ls : List String) {line : String} (hne : line ≠ "")
    (hline : '\n' ∉ line.toList) : text (ls ++ [line]) = joinLines (ls ++ [line]) ++ "\n" :=
  if_neg (getLast?_joinLines_concat_ne_lineFeed ls hne hline)

theorem text_concat_empty {ls : List String} (hne : ls ≠ []) :
    text (ls ++ [""]) = joinLines ls ++ "\n" := by
  rw [text, joinLines_concat_empty hne]
  exact if_pos (by simp)

theorem endsInOneLineFeed_text_concat (ls : List String) {line : String} (hne : line ≠ "")
    (hline : '\n' ∉ line.toList) : EndsInOneLineFeed (text (ls ++ [line])) :=
  ⟨_, text_concat ls hne hline, getLast?_joinLines_concat_ne_lineFeed ls hne hline⟩

theorem endsInOneLineFeed_text_concat_empty (ls : List String) {line : String} (hne : line ≠ "")
    (hline : '\n' ∉ line.toList) : EndsInOneLineFeed (text (ls ++ [line] ++ [""])) :=
  ⟨_, text_concat_empty (by simp), getLast?_joinLines_concat_ne_lineFeed ls hne hline⟩

/-- **Written lines are read back** if the last one is not empty. -/
theorem lines_text_concat {ls : List String} {line : String} (hne : line ≠ "")
    (h : ∀ l ∈ ls ++ [line], IsLine l) : Text.lines (text (ls ++ [line])) = ls ++ [line] := by
  have hline := (h line (by simp)).lineFeed_not_mem
  rw [text_concat ls hne hline, Text.lines_joinLines_lineFeed (by simp) h]

/-- **An empty last line is lost** when lines are written and read. -/
theorem lines_text_concat_empty {ls : List String} (hne : ls ≠ []) (h : ∀ l ∈ ls, IsLine l) :
    Text.lines (text (ls ++ [""])) = ls := by
  rw [text_concat_empty hne, Text.lines_joinLines_lineFeed hne h]

/-! ### A text in two parts -/

/-- Lines in front of others are written in front of their text, unless that is empty. -/
theorem text_append {ls ls' : List String} (hne : ls ≠ []) (hne' : joinLines ls' ≠ "") :
    text (ls ++ ls') = joinLines ls ++ "\n" ++ text ls' := by
  have hls' : ls' ≠ [] := by rintro rfl; exact hne' rfl
  have hlast : (joinLines (ls ++ ls')).toList.getLast? = (joinLines ls').toList.getLast? := by
    obtain ⟨last, hlast⟩ : ∃ last, (joinLines ls').toList.getLast? = some last :=
      ⟨_, List.getLast?_eq_some_getLast (by simpa using hne')⟩
    rw [Text.joinLines_append hne hls', String.toList_append, List.getLast?_append, hlast,
      Option.some_or]
  rw [text, text, hlast]
  split
  · exact Text.joinLines_append hne hls'
  · rw [Text.joinLines_append hne hls', String.append_assoc]

theorem lines_text_append {ls ls' : List String} (hne : ls ≠ []) (hne' : joinLines ls' ≠ "") :
    Text.lines (text (ls ++ ls')) = Text.lines (joinLines ls ++ "\n") ++ Text.lines (text ls') := by
  rw [text_append hne hne', Text.lines_append_lineFeed]

/-! ### Writing and reading -/

theorem lines_text_of_getLast?_ne {ls : List String} (h : ∀ line ∈ ls, IsLine line)
    (hne : ls ≠ []) (hlast : ls.getLast? ≠ some "") : Text.lines (text ls) = ls := by
  obtain ⟨front, last, rfl⟩ : ∃ front last, ls = front ++ [last] :=
    ⟨_, _, (List.dropLast_concat_getLast hne).symm⟩
  exact lines_text_concat (by simpa using hlast) h

theorem lines_text_of_getLast?_eq {ls : List String} (h : ∀ line ∈ ls, IsLine line)
    (hlast : ls.getLast? = some "") (hlength : 2 ≤ ls.length) :
    Text.lines (text ls) = ls.dropLast := by
  obtain ⟨front, rfl⟩ := List.getLast?_eq_some_iff.1 hlast
  have hfront : front ≠ [] := by
    rintro rfl
    simp at hlength
  rw [List.dropLast_concat]
  exact lines_text_concat_empty hfront fun line hline => h line (List.mem_append_left _ hline)

/-- **Lines that are written and read.** They come back as they were, but for an empty line at the
end of others, which is lost. Whatever the lines are, no more than one is lost, and only an empty
one. -/
theorem lines_text_of_isLine {ls : List String} (h : ∀ line ∈ ls, IsLine line) :
    (∀ last ∈ ls.getLast?, last ≠ "" → Text.lines (text ls) = ls) ∧
      (2 ≤ ls.length → ls.getLast? = some "" → Text.lines (text ls) = ls.dropLast) ∧
      (ls ≠ [] → ls = Text.lines (text ls) ∨ ls = Text.lines (text ls) ++ [""]) := by
  refine ⟨fun last hlast hne => ?_, fun hlength hlast => ?_, fun hne => ?_⟩
  · refine lines_text_of_getLast?_ne h ?_ fun hempty => hne ?_
    · rintro rfl
      simp at hlast
    · exact Option.some.inj (hlast.symm.trans hempty)
  · exact lines_text_of_getLast?_eq h hlast hlength
  · by_cases hlast : ls.getLast? = some ""
    · obtain ⟨front, rfl⟩ := List.getLast?_eq_some_iff.1 hlast
      cases front with
      | nil => exact .inl rfl
      | cons first rest =>
        rw [lines_text_of_getLast?_eq h hlast (by simp), List.dropLast_concat]
        exact .inr rfl
    · exact .inl (lines_text_of_getLast?_ne h hne hlast).symm

/-- Of two empty lines at the end one is lost, and carriage returns within lines do no harm. -/
theorem lines_text_two_empty_lines :
    (∀ line ∈ ["a\rb", "", ""], IsLine line) ∧
      Text.lines (text ["a\rb", "", ""]) = ["a\rb", ""] ∧
      Text.lines (text ["a\rb", "", "c"]) = ["a\rb", "", "c"] := by
  have hempty : IsLine "" := Text.isLine_ofList (by decide) (by decide)
  have hlines {last : String} (h : IsLine last) : ∀ line ∈ ["a\rb", "", last], IsLine line := by
    simp only [List.forall_mem_cons]
    exact ⟨Text.isLine_ofList (by decide) (by decide), hempty, h, List.forall_mem_nil _⟩
  exact ⟨hlines hempty, (lines_text_of_isLine (hlines hempty)).2.1 (by decide) rfl,
    (lines_text_of_isLine (hlines (Text.isLine_ofList (by decide) (by decide)))).1 "c" rfl
      (by decide)⟩

end SensorCatalog.ConstantsFile
