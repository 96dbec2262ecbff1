import SensorCatalog.ConstantsFile.Render
import SensorCatalog.Proofs.Label.Joined

/-!
# The remark above a scale class

A remark is written with every two spaces made one, so a space in it may have been two. What stands
between its spaces is left as it is. A readable name consists of words with one space between them,
and therefore the remark above a scale class still tells the name of its group.

## Main definitions

* `ConstantsFile.spaced`: what stands between the spaces of a text.

## Main results

* `ConstantsFile.spaced_append_squeeze`: spaces that are made one separate the same words.
* `ConstantsFile.displayName_eq_of_remark_eq`: groups with one remark have one name.
-/

namespace SensorCatalog.ConstantsFile

/-! ### Spaces that are made one -/

theorem squeeze_subset (cs : List Char) : squeeze cs ⊆ cs := by
  fun_induction squeeze cs with
  | case1 rest ih => exact List.cons_subset_cons _ (List.subset_cons_of_subset _ ih)
  | case2 c rest _ ih => exact List.cons_subset_cons _ ih
  | case3 => exact List.Subset.refl _

/-- A comment is one also with every two spaces made one. -/
theorem ofList_squeeze_comment (rest : String) :
    String.ofList (squeeze ("//" ++ rest).toList) =
      "//" ++ String.ofList (squeeze rest.toList) := by
  have hslashes : "//".toList = ['/', '/'] := by decide +kernel
  rw [← String.toList_inj, String.toList_ofList, String.toList_append, String.toList_append,
    hslashes, String.toList_ofList]
  rfl

/-- What stands between the spaces of a text. -/
def spaced (cs : List Char) : List (List Char) :=
  (cs.splitOnP (· == ' ')).filter (fun w => !w.isEmpty)

theorem spaced_append_cons (xs ys : List Char) :
    spaced (xs ++ ' ' :: ys) = spaced xs ++ spaced ys := by
  rw [spaced, List.splitOnP_append_cons _ _ (by decide), List.filter_append]
  rfl

theorem spaced_cons (cs : List Char) : spaced (' ' :: cs) = spaced cs :=
  spaced_append_cons [] cs

/-- **Spaces that are made one** separate the same words, after any other text. -/
theorem spaced_append_squeeze (front cs : List Char) :
    spaced (front ++ squeeze cs) = spaced (front ++ cs) := by
  fun_induction squeeze cs generalizing front with
  | case1 rest ih =>
    have hrest := ih []
    rw [List.nil_append, List.nil_append] at hrest
    rw [spaced_append_cons, spaced_append_cons, spaced_cons, hrest]
  | case2 c rest _ ih =>
    have hrest := ih (front ++ [c])
    rwa [List.append_assoc, List.append_assoc, List.singleton_append, List.singleton_append]
      at hrest
  | case3 => rfl

/-! ### Names in remarks -/

/-- A readable name is told by what stands between its spaces. -/
theorem ofList_intercalate_spaced_displayName (label : String) :
    String.ofList ([' '].intercalate (spaced (Label.displayName label).toList)) =
      Label.displayName label := by
  have hwords : spaced (Label.displayName label).toList =
      (Label.wordsOf (Label.withoutParentheses label)).map Label.capitalize := by
    rw [Label.displayName, String.toList_ofList]
    refine Label.filter_splitOnP_intercalate (by decide) ?_
    rw [List.forall_mem_map]
    intro w hw
    have hword := Label.isWord_of_mem_wordsOf hw
    refine ⟨?_, fun c hc => ?_⟩
    · intro hnil
      exact hword.ne_nil (by rw [← Label.map_toLower_capitalize hword, hnil, List.map_nil])
    · have hc := Label.isAlphanum_of_mem_capitalize hword hc
      refine beq_eq_false_iff_ne.2 ?_
      rintro rfl
      exact absurd hc (by decide)
  rw [hwords, ← Label.displayName]

/-- **Groups with one remark** above their classes have one name. -/
theorem displayName_eq_of_remark_eq {label label' : String}
    (h : squeeze ("/// Enum for known " ++ ("scales for " ++ Label.displayName label) ++
        " multilevel sensor types.").toList =
      squeeze ("/// Enum for known " ++ ("scales for " ++ Label.displayName label') ++
        " multilevel sensor types.").toList) :
    Label.displayName label = Label.displayName label' := by
  have hspaced : ∀ name : String, spaced (squeeze
      ("/// Enum for known " ++ ("scales for " ++ name) ++ " multilevel sensor types.").toList) =
      spaced "/// Enum for known scales for".toList ++ (spaced name.toList ++
        spaced "multilevel sensor types.".toList) := by
    intro name
    have hfront : "/// Enum for known ".toList ++ "scales for ".toList =
        "/// Enum for known scales for".toList ++ [' '] := by decide +kernel
    have hback : " multilevel sensor types.".toList =
        ' ' :: "multilevel sensor types.".toList := by decide +kernel
    have hsqueeze := spaced_append_squeeze []
    simp only [List.nil_append] at hsqueeze
    rw [hsqueeze, String.toList_append, String.toList_append, String.toList_append, hback,
      ← List.append_assoc, hfront, List.append_assoc, List.append_assoc, List.singleton_append,
      spaced_append_cons, spaced_append_cons]
  have hname := congrArg spaced h
  rw [hspaced, hspaced, List.append_cancel_left_eq, List.append_cancel_right_eq] at hname
  rw [← ofList_intercalate_spaced_displayName label, hname, ofList_intercalate_spaced_displayName]

end SensorCatalog.ConstantsFile
