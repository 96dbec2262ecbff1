import SensorCatalog.ConstantsFile.Marker
import SensorCatalog.Proofs.Text.Lines

/-!
# The end marker in a line

Whether a line holds the end marker is asked of lines of two kinds: of lines with a known text,
where it can be looked up, and of lines that lack a character of the marker, which do not hold it.

## Main definitions

* `ConstantsFile.endComment`: the comment that ends the generated part.

## Main results

* `ConstantsFile.hasEndMarker_iff`: the lines that hold the end marker.
* `ConstantsFile.exists_endComment_eq`: the end marker is in the second line of the comment.
-/

namespace SensorCatalog.ConstantsFile

theorem hasEndMarker_iff {line : String} :
    hasEndMarker line ↔ endMarker.toList <:+: line.toList :=
  Text.occursIn_iff

theorem hasEndMarker_ofList (cs : List Char) :
    hasEndMarker (String.ofList cs) = Text.occursIn endMarker.toList cs := by
  rw [hasEndMarker, String.toList_ofList]

/-- The end marker character by character, which evaluation needs. -/
theorem toList_endMarker : endMarker.toList =
    ['*', '*', 'E', 'N', 'D', ' ', 'O', 'F', ' ', 'A', 'U', 'T', 'O', 'G', 'E', 'N', 'E', 'R', 'A',
      'T', 'E', 'D', ' ', 'C', 'O', 'N', 'T', 'E', 'N', 'T', '*', '*'] :=
  String.toList_ofList

theorem endMarker_ne_nil : endMarker.toList ≠ [] := by
  rw [toList_endMarker]
  exact List.cons_ne_nil _ _

theorem lineFeed_not_mem_endMarker : '\n' ∉ endMarker.toList := by
  rw [toList_endMarker]
  decide

theorem return_not_mem_endMarker : '\r' ∉ endMarker.toList := by
  rw [toList_endMarker]
  decide

theorem not_hasEndMarker_of_not_mem {line : String} (h : '*' ∉ line.toList) :
    ¬ hasEndMarker line := by
  intro hmarked
  have hsubset := (hasEndMarker_iff.1 hmarked).subset
  rw [toList_endMarker] at hsubset
  exact h (hsubset List.mem_cons_self)

/-! ### The comment that ends the generated part -/

/-- The lines of the comment that ends the generated part. -/
def endComment : List String :=
  endBlock.dropLast

theorem endBlock_eq : endBlock = endComment ++ [""] :=
  rfl

theorem length_endComment : endComment.length = 6 :=
  rfl

theorem exists_endComment_eq : ∃ first second rest, endComment = first :: second :: rest ∧
    ¬ hasEndMarker first ∧ hasEndMarker second := by
  refine ⟨_, _, _, rfl, ?_, ?_⟩
  all_goals
    rw [hasEndMarker_ofList, toList_endMarker]
    decide

theorem exists_endComment_eq_concat : ∃ rest last, endComment = rest ++ [last] ∧ last ≠ "" ∧
    '\n' ∉ last.toList :=
  ⟨endComment.dropLast, _, rfl, by decide, by rw [String.toList_ofList]; decide⟩

theorem isLine_of_mem_endBlock {line : String} (h : line ∈ endBlock) : Text.IsLine line := by
  simp only [endBlock, List.mem_cons, List.not_mem_nil, or_false] at h
  rcases h with rfl | rfl | rfl | rfl | rfl | rfl | rfl
  all_goals exact Text.isLine_ofList (by decide) (by decide)

end SensorCatalog.ConstantsFile
