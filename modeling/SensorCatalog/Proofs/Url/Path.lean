import SensorCatalog.Proofs.Label.Joined
import SensorCatalog.Proofs.Text.Occurrence
import SensorCatalog.Url.Path

/-!
# Paths and what is put behind them

A path is read segment by segment, and only the last segment has a rule of its own: a dot segment
there leaves the path open for another segment. So a slash behind the text of a path adds an empty
segment, unless the path was left open before it. Controls between the text and the slash are a
segment or a part of one, and then the path always grows.

## Main definitions

* `Url.Path.step`, `Url.Path.final`: a path with one more segment read.
* `Url.isLeftOpen`: the texts of paths at whose end another segment may stand.

## Main results

* `Url.rootPath_concat_slash`: the path of a text with a slash behind it.
* `Url.rootPath_concat_slash_eq_or`: the path of a text with controls and a slash behind it.
-/

namespace SensorCatalog.Url

/-! ### Dot segments -/

/-- A segment that is not put into the path. -/
def isDot (segment : List Char) : Bool :=
  isDoubleDot segment || isSingleDot segment

/-- The segments that are not put into paths, in lower case. -/
def dotSegments : List (List Char) :=
  let dots := [['.'], ['%', '2', 'e']]
  dots ++ dots.flatMap fun a => dots.map fun b => a ++ b

theorem map_toLower_mem_dotSegments {segment : List Char} (h : isDot segment) :
    segment.map Char.toLower ∈ dotSegments := by
  rw [isDot, Bool.or_eq_true] at h
  rcases h with h | h
  · exact List.mem_append_right _ (of_decide_eq_true h)
  · exact List.mem_append_left _ (of_decide_eq_true h)

/-- The characters of dot segments are visible. -/
theorem lt_toNat_of_isDot {segment : List Char} (h : isDot segment) :
    ∀ c ∈ segment, 0x20 < c.toNat := by
  intro c hc
  by_contra hle
  have hlower : c.toLower = c := Label.toLower_eq_self (.inl (by omega))
  have hvisible : ∀ dots ∈ dotSegments, dots.all fun c => 0x20 < c.toNat := by decide
  exact hle (of_decide_eq_true (List.all_eq_true.1 (hvisible _ (map_toLower_mem_dotSegments h)) c
    (hlower ▸ List.mem_map_of_mem hc)))

/-! ### Segments one by one -/

namespace Path

variable {isFile : Bool}

/-- A path with one more segment, behind which others follow. -/
def step (isFile : Bool) (path : Path) (segment : List Char) : Path :=
  if isDoubleDot segment then path.back
  else if isSingleDot segment then path
  else path.add isFile segment

/-- A path with its last segment. -/
def final (isFile : Bool) (path : Path) (segment : List Char) : Path :=
  if isDot segment then (path.step isFile segment).opened else path.step isFile segment

theorem addAll_concat (path : Path) (init : List (List Char)) (last : List Char) :
    addAll isFile path (init ++ [last]) = (init.foldl (step isFile) path).final isFile last := by
  induction init generalizing path with
  | nil =>
    rw [List.nil_append, addAll, List.foldl_nil, final, isDot, step]
    cases isDoubleDot last <;> cases isSingleDot last <;> rfl
  | cons segment init ih =>
    rw [List.cons_append, addAll, List.foldl_cons, step]
    have hrest : (init ++ [last]).isEmpty = false := by simp
    simp only [ih, hrest]
    cases isDoubleDot segment <;> cases isSingleDot segment <;> rfl

theorem step_of_not_isDot {segment : List Char} (h : isDot segment = false) (path : Path) :
    (path.step false segment).segments = path.segments ++ [encodeSegment segment] := by
  rw [isDot, Bool.or_eq_false_iff] at h
  rw [step, h.1, h.2]
  rfl

theorem segments_final_nil (path : Path) : (path.final false []).segments = path.segments ++ [""] :=
  step_of_not_isDot (show isDot [] = false from rfl) path

theorem length_segments_final_le (path : Path) (segment : List Char) :
    (path.final false segment).segments.length ≤ path.segments.length + 1 := by
  cases h : isDot segment with
  | false => simp [final, h, step_of_not_isDot h]
  | true =>
    rw [final, h, if_pos rfl, opened, List.length_append]
    refine Nat.add_le_add_right ?_ 1
    rw [step]
    split
    · rw [back]
      split <;> simp
    · rw [if_pos (by simp_all [isDot])]

theorem final_segments_ne_nil (path : Path) (segment : List Char) :
    (path.final false segment).segments ≠ [] := by
  cases h : isDot segment with
  | false => simp [final, h, step_of_not_isDot h]
  | true => simp [final, h, opened]

end Path

/-! ### Slashes behind a path -/

section

variable {special : Bool} {path : List String}

/-- The last of the segments of a text. -/
def lastSegment (special : Bool) (cs : List Char) : List Char :=
  (cs.splitOnP (isSlash special)).getLastD []

theorem ne_of_toNat_le {c d : Char} (hc : c.toNat ≤ 0x20) (hd : 0x20 < d.toNat) : c ≠ d := by
  rintro rfl
  omega

theorem isSlash_eq_false_of_le {c : Char} (h : c.toNat ≤ 0x20) : isSlash special c = false := by
  rw [isSlash, beq_false_of_ne (ne_of_toNat_le h (by decide)),
    beq_false_of_ne (ne_of_toNat_le h (by decide)), Bool.and_false, Bool.or_false]

theorem isMark_eq_false_of_le {c : Char} (h : c.toNat ≤ 0x20) : isMark c = false := by
  rw [isMark, beq_false_of_ne (ne_of_toNat_le h (by decide)),
    beq_false_of_ne (ne_of_toNat_le h (by decide)), Bool.or_false]

/-- What is put behind a text goes into the last of its parts, up to the next separator. -/
theorem exists_splitOnP_append {p : Char → Bool} (cs : List Char) :
    ∃ init last, cs.splitOnP p = init ++ [last] ∧
      ∀ e, (∀ c ∈ e, p c = false) → (cs ++ e).splitOnP p = init ++ [last ++ e] := by
  induction cs with
  | nil => exact ⟨[], [], rfl, fun e he => List.splitOnP_eq_singleton he⟩
  | cons c cs ih =>
    obtain ⟨init, last, hcs, happend⟩ := ih
    simp only [List.cons_append, List.splitOnP_cons_eq_if_modifyHead]
    cases p c with
    | true =>
      exact ⟨[] :: init, last, by simp [hcs], fun e he => by simp [happend e he]⟩
    | false =>
      cases init with
      | nil => exact ⟨[], c :: last, by simp [hcs], fun e he => by simp [happend e he]⟩
      | cons first init =>
        exact ⟨(c :: first) :: init, last, by simp [hcs], fun e he => by simp [happend e he]⟩

theorem isSlash_slash : isSlash special '/' = true := rfl

/-- The segments of a text with a slash behind it. -/
theorem extend_concat_slash_of_splitOnP {cs : List Char} {init : List (List Char)}
    {last : List Char} (h : cs.splitOnP (isSlash special) = init ++ [last]) :
    extend special path (cs ++ ['/']) =
      ((init.foldl (Path.step false) ⟨path, false⟩).step false last).segments ++ [""] := by
  rw [extend, List.splitOnP_append_cons cs [] isSlash_slash, List.splitOnP_nil, h,
    Path.addAll_concat, Path.segments_final_nil, List.foldl_append]
  rfl

theorem extend_of_splitOnP {cs : List Char} {init : List (List Char)} {last : List Char}
    (h : cs.splitOnP (isSlash special) = init ++ [last]) :
    extend special path cs =
      ((init.foldl (Path.step false) ⟨path, false⟩).final false last).segments := by
  rw [extend, h, Path.addAll_concat]

theorem extend_ne_nil (path : List String) (cs : List Char) : extend special path cs ≠ [] := by
  obtain ⟨init, last, hsplit, -⟩ := exists_splitOnP_append (p := isSlash special) cs
  rw [extend_of_splitOnP hsplit]
  exact Path.final_segments_ne_nil _ _

/-- A slash adds an empty segment, except behind a dot segment, which has added it before. -/
theorem extend_concat_slash (path : List String) (cs : List Char) :
    extend special path (cs ++ ['/']) =
      if isDot (lastSegment special cs) then extend special path cs
      else extend special path cs ++ [""] := by
  obtain ⟨init, last, hsplit, -⟩ := exists_splitOnP_append (p := isSlash special) cs
  rw [extend_concat_slash_of_splitOnP hsplit, extend_of_splitOnP hsplit, lastSegment, hsplit,
    List.getLastD_concat, Path.final]
  split <;> rfl

/-- Controls before the slash keep a last segment from being a dot segment. -/
theorem length_extend_lt (path : List String) (cs : List Char) {e : List Char} (hne : e ≠ [])
    (he : ∀ c ∈ e, c.toNat ≤ 0x20) :
    (extend special path cs).length < (extend special path (cs ++ e ++ ['/'])).length := by
  obtain ⟨init, last, hsplit, happend⟩ := exists_splitOnP_append (p := isSlash special) cs
  have hdot : isDot (last ++ e) = false := by
    obtain ⟨c, e, rfl⟩ := List.exists_cons_of_ne_nil hne
    have hc := he c List.mem_cons_self
    rw [Bool.eq_false_iff]
    intro h
    have := lt_toNat_of_isDot h c (by simp)
    omega
  rw [extend_concat_slash_of_splitOnP (happend e fun c hc => isSlash_eq_false_of_le (he c hc)),
    extend_of_splitOnP hsplit, Path.step_of_not_isDot hdot]
  have := Path.length_segments_final_le (init.foldl (Path.step false) ⟨path, false⟩) last
  simp only [List.length_append, List.length_singleton]
  omega

end

/-! ### Slashes behind a path after an authority -/

/-- At the end of the text another segment may stand already, so that a slash before it changes
nothing: there is no path yet, or its last segment is a dot segment. -/
def isLeftOpen (cs : List Char) : Bool :=
  cs.isEmpty || isDot (lastSegment true cs)

/-- A path after an authority is one from nothing, behind the slash at the front of the text. -/
theorem exists_rootPath_append (cs : List Char) :
    ∃ rest, isLeftOpen cs = (cs.isEmpty || isDot (lastSegment true rest)) ∧
      rootPath true cs = extend true [] rest ∧
      ∀ a t, (cs = [] → isSlash true a = false) →
        rootPath true (cs ++ a :: t) = extend true [] (rest ++ a :: t) := by
  cases cs with
  | nil =>
    refine ⟨[], rfl, rfl, fun a t ha => ?_⟩
    rw [List.nil_append, rootPath, ha rfl]
    rfl
  | cons c rest =>
    cases hc : isSlash true c with
    | true =>
      refine ⟨rest, ?_, ?_, fun a t _ => ?_⟩
      · rw [isLeftOpen, lastSegment, lastSegment, List.splitOnP_cons_eq_if_modifyHead, if_pos hc]
        obtain ⟨first, segments, hsplit⟩ :=
          List.exists_cons_of_ne_nil (List.splitOnP_ne_nil (isSlash true) rest)
        rw [hsplit]
        rfl
      · rw [rootPath, hc, if_pos rfl]
      · rw [List.cons_append, rootPath, hc, if_pos rfl]
    | false =>
      refine ⟨c :: rest, rfl, ?_, fun a t _ => ?_⟩
      · rw [rootPath, hc, if_neg Bool.false_ne_true]
      · rw [List.cons_append, rootPath, hc, if_neg Bool.false_ne_true]

theorem rootPath_ne_nil (cs : List Char) : rootPath true cs ≠ [] := by
  obtain ⟨rest, -, hpath, -⟩ := exists_rootPath_append cs
  rw [hpath]
  exact extend_ne_nil [] rest

theorem getLast?_rootPath_concat_slash (cs : List Char) :
    (rootPath true (cs ++ ['/'])).getLast? = some "" := by
  by_cases hcs : cs = []
  · rw [hcs]
    rfl
  · obtain ⟨rest, -, -, happend⟩ := exists_rootPath_append cs
    obtain ⟨init, last, hsplit, -⟩ := exists_splitOnP_append (p := isSlash true) rest
    rw [happend '/' [] fun h => absurd h hcs, extend_concat_slash_of_splitOnP hsplit,
      List.getLast?_concat]

/-- **A slash behind a path** adds an empty segment to it, unless the path is left open. -/
theorem rootPath_concat_slash (cs : List Char) :
    rootPath true (cs ++ ['/']) =
      if isLeftOpen cs then rootPath true cs else rootPath true cs ++ [""] := by
  by_cases hcs : cs = []
  · rw [hcs]
    rfl
  · obtain ⟨rest, hopen, hpath, happend⟩ := exists_rootPath_append cs
    rw [hopen, hpath, happend '/' [] fun h => absurd h hcs, extend_concat_slash,
      List.isEmpty_eq_false_iff.2 hcs, Bool.false_or]

/-- Controls and a slash behind a path change nothing or make it longer. -/
theorem rootPath_concat_slash_eq_or (cs : List Char) {e : List Char}
    (he : ∀ c ∈ e, c.toNat ≤ 0x20) :
    rootPath true (cs ++ e ++ ['/']) = rootPath true cs ∨
      (rootPath true cs).length < (rootPath true (cs ++ e ++ ['/'])).length := by
  cases e with
  | nil =>
    rw [List.append_nil, rootPath_concat_slash]
    split
    · exact .inl rfl
    · exact .inr (by simp)
  | cons a e =>
    obtain ⟨rest, -, hpath, happend⟩ := exists_rootPath_append cs
    have hlt : (extend true [] rest).length < (extend true [] (rest ++ (a :: e ++ ['/']))).length :=
      List.append_assoc rest _ _ ▸ length_extend_lt [] rest (List.cons_ne_nil a e) he
    rw [hpath, List.append_assoc, List.cons_append,
      happend _ _ fun _ => isSlash_eq_false_of_le (he a List.mem_cons_self)]
    exact .inr hlt

end SensorCatalog.Url
