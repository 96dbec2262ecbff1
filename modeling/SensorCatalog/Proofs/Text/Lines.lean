import SensorCatalog.Proofs.Text.Occurrence
import SensorCatalog.Text.Lines
import Mathlib.Logic.Basic

/-!
# Lines read back

A file is read as lines and written as lines. Two facts carry everything about this: a text that
is cut at one of its line feeds has the lines of both parts (`lines_append_lineFeed`), and lines
that hold no line feed and end in no carriage return are read back as they were written
(`lines_joinLines_lineFeed`).

## Main definitions

* `Text.IsLine`: the lines that reading and writing leave as they are.

## Main results

* `Text.lines_append_lineFeed`: the lines of a text that is cut at a line feed.
* `Text.lines_joinLines_lineFeed`: written lines are read back.
* `Text.exists_infix_lines_iff`: what has no line ends occurs in a text if it occurs in a line.
-/

namespace SensorCatalog.Text

/-- A line that is the same after it has been written and read. -/
structure IsLine (line : String) : Prop where
  /-- The line is one line only. -/
  lineFeed_not_mem : '\n' ∉ line.toList
  /-- Nothing at its end belongs to the end of the line. -/
  not_endsWith_return : line.toList.getLast? ≠ some '\r'

theorem isLine_ofList {cs : List Char} (hn : '\n' ∉ cs) (hr : cs.getLast? ≠ some '\r') :
    IsLine (String.ofList cs) := by
  constructor <;> rwa [String.toList_ofList]

/-! ### Parts of a text -/

/-- What is without a character occurs in a text exactly if it occurs between two of that
character. -/
theorem infix_iff_exists_mem_splitOn {part cs : List Char} {a : Char} (ha : a ∉ part) :
    part <:+: cs ↔ ∃ p ∈ cs.splitOn a, part <:+: p := by
  have hcut := infix_intercalate_iff ha (List.splitOn_ne_nil a cs)
  rwa [List.intercalate_splitOn] at hcut

/-! ### Ends of lines -/

theorem dropReturn_of_getLast?_ne {line : List Char} (h : line.getLast? ≠ some '\r') :
    dropReturn line = line :=
  if_neg h

/-- What has no carriage return occurs in a line with or without the one at its end. -/
theorem infix_dropReturn_iff {part line : List Char} (h : '\r' ∉ part) :
    part <:+: dropReturn line ↔ part <:+: line := by
  rw [dropReturn]
  split
  · next hlast =>
    obtain ⟨start, rfl⟩ := List.getLast?_eq_some_iff.1 hlast
    rw [List.dropLast_concat, infix_append_cons_iff h]
    simp +contextual
  · exact Iff.rfl

theorem dropReturn_subset (line : List Char) : dropReturn line ⊆ line := by
  rw [dropReturn]
  split
  · exact List.dropLast_subset line
  · exact List.Subset.refl line

/-- Every part before the last one is a line without the carriage return at its end. -/
theorem linesOfParts_append (ended : List (List Char)) {rest : List (List Char)}
    (hne : rest ≠ []) :
    linesOfParts (ended ++ rest) = ended.map dropReturn ++ linesOfParts rest := by
  induction ended with
  | nil => rfl
  | cons line ended ih =>
    obtain ⟨next, more, hnext⟩ : ∃ next more, ended ++ rest = next :: more :=
      List.exists_cons_of_ne_nil (by simp [hne])
    rw [List.cons_append, hnext, linesOfParts, ← hnext, ih, List.map_cons, List.cons_append]

theorem mem_linesOfParts {parts : List (List Char)} {line : List Char}
    (h : line ∈ linesOfParts parts) : ∃ part ∈ parts, line = part ∨ line = dropReturn part := by
  fun_induction linesOfParts parts with
  | case1 => exact absurd h List.not_mem_nil
  | case2 last _ => exact absurd h List.not_mem_nil
  | case3 last _ => exact ⟨last, List.mem_singleton_self _, .inl (List.mem_singleton.1 h)⟩
  | case4 ended next rest ih =>
    rcases List.mem_cons.1 h with rfl | h
    · exact ⟨ended, List.mem_cons_self, .inr rfl⟩
    · obtain ⟨part, hpart, hline⟩ := ih h
      exact ⟨part, List.mem_cons_of_mem _ hpart, hline⟩

/-- What has no carriage return and is not empty occurs in a line exactly if it occurs in a part. -/
theorem exists_infix_linesOfParts_iff {part : List Char} (hne : part ≠ []) (hr : '\r' ∉ part)
    (parts : List (List Char)) :
    (∃ line ∈ linesOfParts parts, part <:+: line) ↔ ∃ p ∈ parts, part <:+: p := by
  fun_induction linesOfParts parts with
  | case1 => simp
  | case2 last hempty =>
    rw [List.isEmpty_iff.1 hempty]
    simp [hne]
  | case3 last _ => simp
  | case4 ended next rest ih =>
    simp only [List.mem_cons (b := dropReturn ended), List.mem_cons (b := ended),
      exists_eq_or_imp]
    rw [ih, infix_dropReturn_iff hr]

/-! ### Lines of a text -/

/-- **Cutting a file at a line feed.** The lines of a text that is cut at a line feed are those of
its front, the line feed included, and those of the rest. -/
theorem lines_append_lineFeed (front rest : String) :
    lines (front ++ "\n" ++ rest) = lines (front ++ "\n") ++ lines rest := by
  have hcut : (front ++ "\n" ++ rest).toList.splitOn '\n' =
      front.toList.splitOn '\n' ++ rest.toList.splitOn '\n' := by
    simpa using List.splitOn_append_cons_self (a := '\n') front.toList rest.toList
  have hfront : (front ++ "\n").toList.splitOn '\n' = front.toList.splitOn '\n' ++ [[]] := by
    simpa using List.splitOn_append_cons_self (a := '\n') front.toList []
  rw [lines, lines, lines, hcut, hfront, linesOfParts_append _ (List.splitOn_ne_nil _ _),
    linesOfParts_append _ (List.cons_ne_nil _ _), List.map_append]
  simp [linesOfParts]

theorem lines_lineFeed_of_isLine {line : String} (h : IsLine line) :
    lines (line ++ "\n") = [line] := by
  have hcut : (line ++ "\n").toList.splitOn '\n' = [line.toList, []] := by
    have := List.splitOn_append_cons_self_of_not_mem h.lineFeed_not_mem []
    simpa using this
  rw [lines, hcut, linesOfParts, dropReturn_of_getLast?_ne h.not_endsWith_return]
  simp [linesOfParts]

theorem joinLines_cons_of_ne_nil (line : String) {ls : List String} (hne : ls ≠ []) :
    joinLines (line :: ls) = line ++ "\n" ++ joinLines ls :=
  String.intercalate_cons_of_ne_nil hne

theorem joinLines_append {ls ls' : List String} (hne : ls ≠ []) (hne' : ls' ≠ []) :
    joinLines (ls ++ ls') = joinLines ls ++ "\n" ++ joinLines ls' :=
  String.intercalate_append_of_ne_nil hne hne'

/-- **Written lines are read back.** -/
theorem lines_joinLines_lineFeed {ls : List String} (hne : ls ≠ []) (h : ∀ l ∈ ls, IsLine l) :
    lines (joinLines ls ++ "\n") = ls := by
  induction ls with
  | nil => exact absurd rfl hne
  | cons line ls ih =>
    have hline := lines_lineFeed_of_isLine (h line List.mem_cons_self)
    cases ls with
    | nil => simpa [joinLines] using hline
    | cons next ls =>
      rw [joinLines_cons_of_ne_nil _ (List.cons_ne_nil _ _), String.append_assoc,
        lines_append_lineFeed, hline,
        ih (List.cons_ne_nil _ _) fun l hl => h l (List.mem_cons_of_mem _ hl)]
      rfl

theorem lineFeed_not_mem_of_mem_lines {text line : String} (h : line ∈ lines text) :
    '\n' ∉ line.toList := by
  obtain ⟨cs, hcs, rfl⟩ := List.mem_map.1 h
  obtain ⟨part, hpart, rfl | rfl⟩ := mem_linesOfParts hcs
  · simpa using not_mem_of_mem_splitOn hpart
  · intro hmem
    exact not_mem_of_mem_splitOn hpart (dropReturn_subset _ (by simpa using hmem))

/-- What has no line ends and is not empty occurs in a text exactly if it occurs in a line. -/
theorem exists_infix_lines_iff {part : List Char} (hne : part ≠ []) (hn : '\n' ∉ part)
    (hr : '\r' ∉ part) {text : String} :
    (∃ line ∈ lines text, part <:+: line.toList) ↔ part <:+: text.toList := by
  rw [infix_iff_exists_mem_splitOn hn, ← exists_infix_linesOfParts_iff hne hr]
  simp [lines]

/-- What has no line ends and is not empty occurs in a line of a written file exactly if it occurs
in one of the lines that were written, even if these hold line feeds. -/
theorem exists_infix_lines_joinLines_iff {part : List Char} (hne : part ≠ []) (hn : '\n' ∉ part)
    (hr : '\r' ∉ part) {ls : List String} (hls : ls ≠ []) :
    (∃ line ∈ lines (joinLines ls ++ "\n"), part <:+: line.toList) ↔
      ∃ line ∈ ls, part <:+: line.toList := by
  have hwritten : (joinLines ls ++ "\n").toList =
      ['\n'].intercalate (ls.map String.toList) ++ '\n' :: [] := by
    rw [String.toList_append, joinLines, String.toList_intercalate]
    rfl
  rw [exists_infix_lines_iff hne hn hr, hwritten, infix_append_cons_iff hn,
    infix_intercalate_iff hn (by simpa using hls)]
  simp [hne]

end SensorCatalog.Text
