import SensorCatalog.Proofs.Label.Alphabet
import SensorCatalog.Proofs.Text.Trailing
import Mathlib.Data.List.Basic
import Mathlib.Data.List.TakeWhile

/-!
# Maximal runs

The words of a text are its maximal runs of word characters. Runs can be found in two ways: the text
is cut at all other characters and empty pieces are left out, or every gap between runs is marked by
one underscore and the marks at the ends are taken off. Both are tied here to what runs are, a
relation between a text and its runs that does not mention how they are found.

## Main definitions

* `Label.HasRuns`: the maximal runs of a class of characters in a text.
* `Label.markGaps`, `Label.trimMarks`: a text with its gaps marked, and without marks at its ends.

## Main results

* `Label.runs_eq_iff`: cutting finds the runs.
* `Label.trimMarks_markGaps`: marking leaves the runs joined by single underscores.
-/

namespace SensorCatalog.Label

/-- The maximal runs of a class of characters in a text, in order. -/
inductive HasRuns (p : Char → Bool) : List Char → List (List Char) → Prop
  /-- The text is at its end. -/
  | nil : HasRuns p [] []
  /-- A character outside the class belongs to no run. -/
  | other {c : Char} {cs : List Char} {ws : List (List Char)} (hc : ¬ p c)
      (hrest : HasRuns p cs ws) : HasRuns p (c :: cs) ws
  /-- A run holds characters of the class, and goes on until there is none. -/
  | run {w cs : List Char} {ws : List (List Char)} (hne : w ≠ []) (hw : ∀ c ∈ w, p c)
      (hend : ∀ c ∈ cs.head?, ¬ p c) (hrest : HasRuns p cs ws) : HasRuns p (w ++ cs) (w :: ws)

/-- Every text has runs. -/
theorem exists_hasRuns (p : Char → Bool) (cs : List Char) : ∃ ws, HasRuns p cs ws := by
  induction cs with
  | nil => exact ⟨[], .nil⟩
  | cons c cs ih =>
    obtain ⟨ws, h⟩ := ih
    by_cases hc : p c
    · have hsingle : ∀ b ∈ [c], p b := List.forall_mem_singleton.2 hc
      -- the character begins a run, or stands before the first one
      cases h with
      | nil => exact ⟨[[c]], .run (w := [c]) (List.cons_ne_nil c []) hsingle (by simp) .nil⟩
      | other hd hrest =>
        exact ⟨[c] :: ws, .run (List.cons_ne_nil c []) hsingle (by simpa using hd)
          (.other hd hrest)⟩
      | @run w cs ws hne hw hend hrest =>
        exact ⟨(c :: w) :: ws, .run (List.cons_ne_nil c w) (List.forall_mem_cons.2 ⟨hc, hw⟩) hend
          hrest⟩
    · exact ⟨ws, .other hc h⟩

/-- Classes that agree on the characters of a text have the same runs in it. -/
theorem HasRuns.congr {p q : Char → Bool} {cs : List Char} {ws : List (List Char)}
    (h : HasRuns p cs ws) (hpq : ∀ c ∈ cs, p c = q c) : HasRuns q cs ws := by
  induction h with
  | nil => exact .nil
  | other hc _ ih =>
    obtain ⟨hsame, hrest⟩ := List.forall_mem_cons.1 hpq
    exact .other (hsame ▸ hc) (ih hrest)
  | @run w cs ws hne hw hend _ ih =>
    obtain ⟨hword, hrest⟩ := List.forall_mem_append.1 hpq
    refine .run hne (fun c hc => hword c hc ▸ hw c hc) (fun c hc => ?_) (ih hrest)
    exact hrest c (List.mem_of_mem_head? hc) ▸ hend c hc

/-! ### Pieces that are joined -/

/-- Pieces that a separator keeps apart: none is empty or holds the separator. -/
def AreApart (sep : Char) (ws : List (List Char)) : Prop :=
  ∀ w ∈ ws, w ≠ [] ∧ sep ∉ w

section

variable {sep : Char} {ws : List (List Char)}

theorem head?_intercalate_ne (h : AreApart sep ws) : ([sep].intercalate ws).head? ≠ some sep := by
  cases ws with
  | nil => simp
  | cons w ws =>
    obtain ⟨hne, hsep⟩ := h w List.mem_cons_self
    obtain ⟨c, w, rfl⟩ := List.exists_cons_of_ne_nil hne
    have hc : c ≠ sep := fun e => hsep (e ▸ List.mem_cons_self)
    cases ws <;> simpa [List.intercalate_cons_cons] using hc

theorem getLast?_intercalate_ne (h : AreApart sep ws) :
    ([sep].intercalate ws).getLast? ≠ some sep := by
  induction ws with
  | nil => simp
  | cons w ws ih =>
    obtain ⟨⟨hne, hsep⟩, hrest⟩ := List.forall_mem_cons.1 h
    cases ws with
    | nil =>
      intro hlast
      exact hsep (List.mem_of_getLast? (by simpa using hlast))
    | cons w' ws =>
      obtain ⟨hne', -⟩ := hrest w' List.mem_cons_self
      have hrest_ne : [sep].intercalate (w' :: ws) ≠ [] := by
        cases ws <;> simp [List.intercalate_cons_cons, hne']
      rw [List.intercalate_cons_cons, List.getLast?_append_of_ne_nil _ hrest_ne]
      exact ih hrest

/-- The separator is never doubled. -/
theorem not_infix_intercalate (h : AreApart sep ws) : ¬ [sep, sep] <:+: [sep].intercalate ws := by
  induction ws with
  | nil => simp
  | cons w ws ih =>
    obtain ⟨⟨-, hsep⟩, hrest⟩ := List.forall_mem_cons.1 h
    cases ws with
    | nil =>
      rw [List.intercalate_singleton]
      exact fun hdoubled => hsep (hdoubled.subset List.mem_cons_self)
    | cons w' ws =>
      rw [List.intercalate_cons_cons, List.append_assoc, Text.cons_infix_append_iff hsep,
        List.singleton_append, List.infix_cons_iff, List.cons_prefix_cons]
      rintro (⟨-, hnext⟩ | hdoubled)
      · obtain ⟨rest, hrest_eq⟩ := hnext
        exact head?_intercalate_ne hrest (hrest_eq ▸ rfl)
      · exact ih hrest hdoubled

end

/-! ### Cutting -/

theorem runs_cons_of_not {c : Char} (hc : ¬ isWordChar c) (cs : List Char) :
    runs (c :: cs) = runs cs := by
  rw [runs, List.splitOnP_cons_eq_if_modifyHead, if_pos (by simpa using hc)]
  rfl

theorem runs_append {w cs : List Char} (hne : w ≠ []) (hw : ∀ c ∈ w, isWordChar c)
    (hend : ∀ c ∈ cs.head?, ¬ isWordChar c) : runs (w ++ cs) = w :: runs cs := by
  have hinside : ∀ c ∈ w, (!isWordChar c) = false := fun c hc => by simp [hw c hc]
  cases cs with
  | nil => simp [runs, List.splitOnP_eq_singleton hinside, hne]
  | cons d cs =>
    have hd : ¬ isWordChar d := hend d rfl
    rw [runs_cons_of_not hd, runs,
      List.splitOnP_append_cons_of_forall_mem hinside d (by simpa using hd),
      List.filter_cons_of_pos (by simpa using hne), runs]

/-- **Cutting finds the runs.** -/
theorem runs_eq_iff {cs : List Char} {ws : List (List Char)} :
    runs cs = ws ↔ HasRuns isWordChar cs ws := by
  have hruns : ∀ {ws : List (List Char)}, HasRuns isWordChar cs ws → runs cs = ws := by
    intro ws h
    induction h with
    | nil => rfl
    | other hc _ ih => rw [runs_cons_of_not hc, ih]
    | run hne hw hend _ ih => rw [runs_append hne hw hend, ih]
  refine ⟨?_, hruns⟩
  rintro rfl
  obtain ⟨ws, h⟩ := exists_hasRuns isWordChar cs
  exact hruns h ▸ h

/-! ### Marking -/

/-- A text with each maximal run of characters that belong to no word replaced by an underscore;
`inGap` says that the text follows such a character. -/
def markGaps (inGap : Bool) : List Char → List Char
  | [] => []
  | c :: rest =>
    if isWordChar c then c :: markGaps false rest
    else if inGap then markGaps true rest
    else '_' :: markGaps true rest

/-- A text without the underscores at its ends. -/
def trimMarks (cs : List Char) : List Char :=
  Text.dropTrailing (· == '_') (cs.dropWhile (· == '_'))

theorem markGaps_append {w : List Char} (hw : ∀ c ∈ w, isWordChar c) (hne : w ≠ []) (inGap : Bool)
    (cs : List Char) : markGaps inGap (w ++ cs) = w ++ markGaps false cs := by
  induction w generalizing inGap with
  | nil => exact absurd rfl hne
  | cons c w ih =>
    obtain ⟨hc, hw⟩ := List.forall_mem_cons.1 hw
    rw [List.cons_append, markGaps, if_pos hc]
    cases w with
    | nil => rfl
    | cons d w =>
      rw [ih hw (List.cons_ne_nil d w) false]
      rfl

/-- Behind a mark the gap goes on without another one. -/
theorem markGaps_false {cs : List Char} (hne : cs ≠ []) (hgap : ∀ c ∈ cs.head?, ¬ isWordChar c) :
    markGaps false cs = '_' :: markGaps true cs := by
  obtain ⟨c, cs, rfl⟩ := List.exists_cons_of_ne_nil hne
  have hc : ¬ isWordChar c := hgap c rfl
  simp [markGaps, hc]

/-- Where a gap is already marked, what follows are the runs with single marks between them, and at
most one mark at the end. -/
theorem exists_markGaps_true_eq {cs : List Char} {ws : List (List Char)}
    (h : HasRuns isWordChar cs ws) :
    ∃ marks, markGaps true cs = slugOf ws ++ marks ∧ ∀ c ∈ marks, c = '_' := by
  induction h with
  | nil => exact ⟨[], rfl, by simp⟩
  | @other c cs ws hc _ ih =>
    obtain ⟨marks, hmarks, hall⟩ := ih
    refine ⟨marks, ?_, hall⟩
    rw [markGaps, if_neg hc, if_pos rfl, hmarks]
  | @run w cs ws hne hw hend hrest ih =>
    obtain ⟨marks, hmarks, hall⟩ := ih
    rw [markGaps_append hw hne]
    cases hrest with
    | nil => exact ⟨[], by simp [markGaps, slugOf], by simp⟩
    | other hd hrest =>
      rw [markGaps_false (List.cons_ne_nil _ _) hend, hmarks]
      cases ws with
      | nil => exact ⟨'_' :: marks, by simp [slugOf], List.forall_mem_cons.2 ⟨rfl, hall⟩⟩
      | cons w' ws =>
        exact ⟨marks, by simp [slugOf, List.intercalate_cons_cons], hall⟩
    | run hne' hw' _ _ =>
      -- the run would have gone on
      obtain ⟨c, w', rfl⟩ := List.exists_cons_of_ne_nil hne'
      exact absurd (hw' c List.mem_cons_self) (hend c rfl)

theorem exists_markGaps_eq {cs : List Char} {ws : List (List Char)}
    (h : HasRuns isWordChar cs ws) :
    ∃ front marks, markGaps false cs = front ++ (slugOf ws ++ marks) ∧ (∀ c ∈ front, c = '_') ∧
      ∀ c ∈ marks, c = '_' := by
  obtain ⟨marks, hmarks, hall⟩ := exists_markGaps_true_eq h
  cases cs with
  | nil => exact ⟨[], marks, hmarks, by simp, hall⟩
  | cons c cs =>
    by_cases hc : isWordChar c
    · refine ⟨[], marks, ?_, by simp, hall⟩
      rw [List.nil_append, ← hmarks, markGaps, markGaps, if_pos hc, if_pos hc]
    · refine ⟨['_'], marks, ?_, by simp, hall⟩
      rw [markGaps_false (List.cons_ne_nil c cs) (by simpa using hc), hmarks]
      rfl

theorem areApart_runs (cs : List Char) : AreApart '_' (runs cs) := by
  intro w hw
  have hword := isWord_of_mem_runs hw
  exact ⟨hword.ne_nil, fun hmem => absurd (hword.isWordChar _ hmem) (by decide)⟩

/-- **Marking leaves the runs** joined by single underscores. -/
theorem trimMarks_markGaps (cs : List Char) : trimMarks (markGaps false cs) = slugOf (runs cs) := by
  obtain ⟨front, marks, hmarks, hfront, hall⟩ :=
    exists_markGaps_eq (runs_eq_iff.1 (Eq.refl (runs cs)))
  have hfirst : (slugOf (runs cs)).head? ≠ some '_' := head?_intercalate_ne (areApart_runs cs)
  have hlast : (slugOf (runs cs)).getLast? ≠ some '_' :=
    getLast?_intercalate_ne (areApart_runs cs)
  have hfront' : ∀ c ∈ front, (c == '_') = true := fun c hc => beq_iff_eq.2 (hfront c hc)
  have hall' : ∀ c ∈ marks, (c == '_') = true := fun c hc => beq_iff_eq.2 (hall c hc)
  rw [trimMarks, hmarks, List.dropWhile_append_of_pos hfront']
  cases hslug : slugOf (runs cs) with
  | nil => rw [List.nil_append, List.dropWhile_eq_nil_iff.2 hall', Text.dropTrailing_nil]
  | cons c rest =>
    have hc : c ≠ '_' := fun e => hfirst (by rw [hslug, e]; rfl)
    have hdrop : ((c :: rest) ++ marks).dropWhile (· == '_') = (c :: rest) ++ marks :=
      List.dropWhile_cons_of_neg (by simpa using hc)
    rw [hdrop, ← hslug, Text.dropTrailing_append hall']
    refine Text.dropTrailing_of_getLast? fun b hb hmark => ?_
    rw [Option.mem_def, beq_iff_eq.1 hmark] at hb
    exact hlast hb

end SensorCatalog.Label
