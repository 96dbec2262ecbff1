import SensorCatalog.Proofs.ConstantsFile.Handwritten

/-!
# What is kept of the lines below the end

The comment that ends the generated part promises that all lines written below it are preserved.
The part written by hand is taken to begin one line below the comment, where a file has an empty
line as it is generated. That line is not always there: a file without a part written by hand ends
in the comment itself. So the promise is kept for all lines but the first one below the comment, and
for that one only if it is blank (`exists_splice?_below_endComment`). Lines appended to a generated
file are kept unless they stand directly below the comment (`exists_splice?_appended`).

## Main definitions

* `ConstantsFile.essential`: the lines that must not be lost.
* `ConstantsFile.Keeps`: a file keeps lines below its generated part.

## Main results

* `ConstantsFile.exists_splice?_below_endComment`: lines below the comment.
* `ConstantsFile.exists_splice?_appended`: lines appended to a generated file.
-/

namespace SensorCatalog.ConstantsFile

/-- The lines that must not be lost: those that are not blank, carriage returns at their ends not
counting. -/
def essential (lines : List String) : List String :=
  (lines.filter fun line => ¬ IsBlankLine line).map dropReturns

/-- The lines of a file begin with a generated part, and the essential ones of the lines that were
written follow in their order. -/
def Keeps (written generated result : List String) : Prop :=
  ∃ tail, result = generated ++ tail ∧ (essential written).Sublist tail

theorem keeps_append_iff {written generated tail : List String} :
    Keeps written generated (generated ++ tail) ↔ (essential written).Sublist tail := by
  constructor
  · rintro ⟨tail', htail, hsublist⟩
    rwa [List.append_cancel_left htail]
  · exact fun h => ⟨tail, rfl, h⟩

/-! ### Essential lines -/

theorem essential_append (lines lines' : List String) :
    essential (lines ++ lines') = essential lines ++ essential lines' := by
  rw [essential, List.filter_append, List.map_append, essential, essential]

theorem essential_cons_of_isBlankLine {line : String} (h : IsBlankLine line)
    (lines : List String) : essential (line :: lines) = essential lines := by
  rw [essential, List.filter_cons_of_neg (by simpa using h), essential]

theorem length_essential_lt {line : String} (h : ¬ IsBlankLine line) (lines : List String) :
    (essential lines).length < (essential (line :: lines)).length := by
  rw [essential, essential, List.filter_cons_of_pos (by simpa using h), List.map_cons,
    List.length_cons]
  exact Nat.lt_succ_self _

theorem ne_empty_of_mem_essential {lines : List String} {line : String}
    (h : line ∈ essential lines) : line ≠ "" := by
  obtain ⟨l, hl, rfl⟩ := List.mem_map.1 h
  obtain ⟨-, hblank⟩ := List.mem_filter.1 hl
  exact mt dropReturns_eq_empty_iff.1 (by simpa using hblank)

theorem IsKept.filter_eq {region : List String} (h : IsKept region) :
    region.filter (· ≠ "") = essential region := by
  have hkept : (kept region).filter (· ≠ "") = essential region := filter_kept region
  rwa [h.kept_eq] at hkept

/-- Among the lines that are kept, the essential ones are those that are not empty. -/
theorem essential_sublist_kept_iff {written lines : List String} :
    (essential written).Sublist (kept lines) ↔
      (essential written).Sublist (essential lines) := by
  have hkept : (kept lines).filter (· ≠ "") = essential lines := filter_kept lines
  constructor
  · intro h
    have hself : (essential written).filter (· ≠ "") = essential written :=
      List.filter_eq_self.2 fun line hline => by simpa using ne_empty_of_mem_essential hline
    rw [← hself, ← hkept]
    exact h.filter _
  · intro h
    rw [← hkept] at h
    exact h.trans List.filter_sublist

/-- If the part written by hand begins at most one line too late, all lines are kept unless it is
one line too late and that line is not blank. -/
theorem essential_sublist_drop_iff {start : Nat} {front written : List String}
    (h : start ≤ front.length + 1) :
    (essential written).Sublist (essential ((front ++ written).drop start)) ↔
      start ≤ front.length ∨ ∀ line ∈ written.head?, IsBlankLine line := by
  rcases Nat.lt_or_ge front.length start with hlt | hle
  · obtain rfl : start = front.length + 1 := Nat.le_antisymm h hlt
    rw [List.drop_length_add_append, or_iff_right (Nat.not_succ_le_self _)]
    cases written with
    | nil => simp
    | cons line written =>
      rw [List.drop_one, List.tail_cons, List.head?_cons]
      by_cases hblank : IsBlankLine line
      · rw [essential_cons_of_isBlankLine hblank]
        simp [hblank]
      · have hlost := length_essential_lt hblank written
        exact iff_of_false (fun hkeeps => Nat.not_le.2 hlost hkeeps.length_le)
          fun hall => hblank (hall line rfl)
  · rw [List.drop_append_of_le_length hle, essential_append]
    exact iff_of_true (List.sublist_append_right _ _) (.inl hle)

theorem exists_splice?_keeps_iff {previous : String} {front written : List String} {start : Nat}
    (hlines : Text.lines previous = front ++ written)
    (hstart : handwrittenStart? (Text.lines previous) = some start)
    (hle : start ≤ front.length + 1) (generated : List String) :
    ∃ result, splice? generated previous = some result ∧
      (Keeps written generated result ↔
        start ≤ front.length ∨ ∀ line ∈ written.head?, IsBlankLine line) := by
  have hresult : splice? generated previous =
      some (generated ++ kept ((front ++ written).drop start)) := by
    rw [splice?, handwritten?, hstart, hlines]
    rfl
  refine ⟨_, hresult, ?_⟩
  rw [keeps_append_iff, essential_sublist_kept_iff, essential_sublist_drop_iff hle]

/-! ### Below the comment -/

/-- Lines below the comment are kept exactly if the first one is blank. -/
theorem exists_splice?_below_endComment {previous : String} {above below : List String}
    (hlines : Text.lines previous = above ++ endComment ++ below)
    (habove : ∀ line ∈ above, ¬ hasEndMarker line) (generated : List String) :
    ∃ result, splice? generated previous = some result ∧
      (Keeps below generated result ↔ ∀ line ∈ below.head?, IsBlankLine line) := by
  have hstart : handwrittenStart? (Text.lines previous) =
      some ((above ++ endComment).length + 1) := by
    rw [hlines, List.append_assoc, handwrittenStart?_endComment habove, List.length_append]
  obtain ⟨result, hresult, hkeeps⟩ :=
    exists_splice?_keeps_iff hlines hstart (Nat.le_refl _) generated
  exact ⟨result, hresult, hkeeps.trans (or_iff_right (Nat.not_succ_le_self _))⟩

/-! ### Below a generated file -/

theorem exists_marked_lines_joinLines_iff {body : List String} (hbody : body ≠ []) :
    (∃ line ∈ Text.lines (Text.joinLines body ++ "\n"), hasEndMarker line) ↔
      ∃ line ∈ body, hasEndMarker line := by
  have hfree := not_congr (hasEndMarker_lines_joinLines_iff hbody)
  simpa using hfree

theorem exists_handwrittenStart?_le {lines : List String} (h : ∃ line ∈ lines, hasEndMarker line) :
    ∃ start, handwrittenStart? lines = some start ∧ start ≤ lines.length + 5 := by
  obtain ⟨start, hstart⟩ : ∃ start, handwrittenStart? lines = some start := by
    simpa [handwrittenStart?, ← Option.isSome_iff_exists] using h
  obtain ⟨above, marked, below, rfl, -, -, rfl⟩ := handwrittenStart?_eq_some_iff.1 hstart
  refine ⟨_, hstart, ?_⟩
  simp only [List.length_append, List.length_cons, handwrittenOffset]
  omega

/-- Where the part written by hand begins in a generated file. It is one line too late if the file
ends in the comment, unless an end marker is found above the comment. -/
theorem exists_handwrittenStart?_text {body region : List String} (hbody : body ≠ [])
    (hregion : IsKept region) :
    ∃ start, handwrittenStart? (Text.lines (text (body ++ endBlock ++ region))) = some start ∧
      start ≤ (Text.lines (text (body ++ endBlock ++ region))).length + 1 ∧
      (start ≤ (Text.lines (text (body ++ endBlock ++ region))).length ↔
        region ≠ [] ∨ ∃ line ∈ body, hasEndMarker line) := by
  rw [lines_text_generated hbody hregion, ← exists_marked_lines_joinLines_iff hbody]
  generalize Text.lines (Text.joinLines body ++ "\n") = written
  obtain ⟨rest, hend, hrest⟩ : ∃ rest, (if region = [] then endComment else endBlock ++ region) =
      endComment ++ rest ∧ (rest ≠ [] ↔ region ≠ []) := by
    split
    · next hnil => exact ⟨[], by simp, by simp [hnil]⟩
    · next hne => exact ⟨"" :: region, by simp [endBlock_eq], by simp [hne]⟩
  rw [hend, ← hrest]
  by_cases hmarked : ∃ line ∈ written, hasEndMarker line
  · obtain ⟨start, hstart, hle⟩ := exists_handwrittenStart?_le hmarked
    have hlength : start ≤ (written ++ (endComment ++ rest)).length := by
      simp only [List.length_append, length_endComment]
      omega
    exact ⟨start, handwrittenStart?_append hstart _, Nat.le_succ_of_le hlength,
      iff_of_true hlength (.inr hmarked)⟩
  · have hfree : ∀ line ∈ written, ¬ hasEndMarker line :=
      fun line hline h => hmarked ⟨line, hline, h⟩
    refine ⟨_, handwrittenStart?_endComment hfree rest, ?_, ?_⟩
    · simp only [List.length_append]
      omega
    · rw [or_iff_left hmarked, ← List.length_pos_iff]
      simp only [List.length_append]
      omega

/-- Lines appended to a generated file are kept exactly if the file has a part written by hand
already, or its first end marker is above the comment, or the first appended line is blank. -/
theorem exists_splice?_appended {body region : List String} (hbody : body ≠ [])
    (hregion : IsKept region) (generated : List String) (appended : String) :
    ∃ result, splice? generated (text (body ++ endBlock ++ region) ++ appended) = some result ∧
      (Keeps (Text.lines appended) generated result ↔
        region ≠ [] ∨ (∃ line ∈ body, hasEndMarker line) ∨
          ∀ line ∈ (Text.lines appended).head?, IsBlankLine line) := by
  obtain ⟨start, hstart, hle, hkept⟩ := exists_handwrittenStart?_text hbody hregion
  obtain ⟨front, hfront, -⟩ := endsInOneLineFeed_text body hregion
  generalize text (body ++ endBlock ++ region) = written at hstart hle hkept hfront ⊢
  have hlines : Text.lines (written ++ appended) = Text.lines written ++ Text.lines appended := by
    rw [hfront, Text.lines_append_lineFeed]
  have hstart' : handwrittenStart? (Text.lines (written ++ appended)) = some start := by
    rw [hlines]
    exact handwrittenStart?_append hstart _
  obtain ⟨result, hresult, hkeeps⟩ := exists_splice?_keeps_iff hlines hstart' hle generated
  refine ⟨result, hresult, hkeeps.trans ?_⟩
  rw [hkept, or_assoc]

end SensorCatalog.ConstantsFile
