import SensorCatalog.Document.Comment
import SensorCatalog.Document.Reading
import SensorCatalog.Proofs.Json.Layout
import SensorCatalog.Proofs.Text.Occurrence
import SensorCatalog.Proofs.Text.Trailing

/-!
# Comments between the lines of a document

Comments are found line by line, without a look at the JSON around them. That is safe: in a document
that is read, no text goes on from one line to the next, and no token begins with a slash. So no
line of the document itself is taken for a comment, whatever its texts hold, and a document to which
comments have been added on lines of their own is found again when they are taken out.

## Main definitions

* `Document.IsCommentLine`: two slashes and a remark, after blanks.
* `Document.IsCommented`: comments have been added to a document on lines of their own.

## Main results

* `Document.isComment_iff`: the lines that are comments.
* `ScaleDocument.isLaidOut_of_parse`, `SensorDocument.isLaidOut_of_parse`: documents are laid out.
* `Document.not_isComment_of_isLaidOut`: no line of what is laid out is a comment.
* `Document.withoutComments_of_isCommented`: comments are taken out and nothing else.
-/

namespace SensorCatalog

open Json (IsLaidOut Takes)

/-! ### What is read of a document -/

theorem ScaleDefinition.takes_reader : Takes IsLaidOut ScaleDefinition.reader := by
  refine Json.takes_record (List.forall_mem_cons.2 ⟨fun _ _ => ?_,
    List.forall_mem_cons.2 ⟨fun _ _ => ?_, List.forall_mem_singleton.2 fun _ _ => ?_⟩⟩)
  · exact Json.takes_bind Json.takes_text fun _ => Json.takes_pure _
  · exact Json.takes_bind Json.takes_optionalText fun _ => Json.takes_pure _
  · exact Json.takes_bind Json.takes_optionalText fun _ => Json.takes_pure _

theorem ScaleSource.takes_reader (b : Json.Bracket) : Takes IsLaidOut (ScaleSource.reader b) := by
  refine Json.takes_bind (Json.takes_value _) fun v => ?_
  split
  · exact Json.takes_pure _
  · exact Json.takes_failIn _ _

theorem SensorDefinition.takes_reader : Takes IsLaidOut SensorDefinition.reader := by
  refine Json.takes_record (List.forall_mem_cons.2 ⟨fun _ _ => ?_,
    List.forall_mem_singleton.2 fun b _ => ?_⟩)
  · exact Json.takes_bind Json.takes_text fun _ => Json.takes_pure _
  · exact Json.takes_bind (ScaleSource.takes_reader b) fun _ => Json.takes_pure _

theorem ScaleDocument.isLaidOut_of_parse {text : String} {scales : ScaleDocument}
    (h : ScaleDocument.parse text = .ok scales) : IsLaidOut text.toList :=
  Json.isLaidOut_of_document (Json.takes_table (Json.takes_table ScaleDefinition.takes_reader)) h

theorem SensorDocument.isLaidOut_of_parse {text : String} {sensors : SensorDocument}
    (h : SensorDocument.parse text = .ok sensors) : IsLaidOut text.toList :=
  Json.isLaidOut_of_document (Json.takes_table SensorDefinition.takes_reader) h

namespace Document

/-! ### Lines that are comments -/

/-- A comment on a line of its own: two slashes and a remark, after blanks. -/
inductive IsCommentLine : List Char → Prop
  | slashes {blanks remark : List Char} (hblanks : ∀ c ∈ blanks, Text.isBlank c)
      (hline : '\n' ∉ blanks ++ remark) : IsCommentLine (blanks ++ '/' :: '/' :: remark)

/-- **The lines that are comments.** Blanks at the end of a line do not count either. -/
theorem isComment_iff {line : List Char} :
    isComment line ↔ ∃ blanks remark, (∀ c ∈ blanks, Text.isBlank c) ∧
      line = blanks ++ '/' :: '/' :: remark := by
  have hslash : ¬ Text.isBlank '/' := by decide
  have hslashes : ∀ c ∈ ['/', '/'], ¬ Text.isBlank c :=
    List.forall_mem_cons.2 ⟨hslash, List.forall_mem_singleton.2 hslash⟩
  rw [isComment, List.isPrefixOf_iff_prefix, Text.trim, Text.trimEnd,
    Text.prefix_dropTrailing_iff hslashes, Text.trimStart]
  constructor
  · rintro ⟨remark, hremark⟩
    refine ⟨line.takeWhile Text.isBlank, remark, fun _ => List.mem_takeWhile_imp, ?_⟩
    calc
      line = line.takeWhile Text.isBlank ++ line.dropWhile Text.isBlank :=
        List.takeWhile_append_dropWhile.symm
      _ = _ := by rw [← hremark]; rfl
  · rintro ⟨blanks, remark, hblanks, rfl⟩
    rw [List.dropWhile_append_of_pos hblanks, List.dropWhile_cons_of_neg (by decide)]
    exact List.prefix_append ['/', '/'] remark

theorem isCommentLine_iff {line : List Char} :
    IsCommentLine line ↔ isComment line ∧ '\n' ∉ line := by
  constructor
  · rintro ⟨hblanks, hline⟩
    exact ⟨isComment_iff.2 ⟨_, _, hblanks, rfl⟩, by simpa using hline⟩
  · rintro ⟨hcomment, hline⟩
    obtain ⟨blanks, remark, hblanks, rfl⟩ := isComment_iff.1 hcomment
    exact .slashes hblanks (by simpa using hline)

theorem isComment_cons_of_isBlank {c : Char} (h : Text.isBlank c) (line : List Char) :
    isComment (c :: line) = isComment line := by
  rw [isComment, isComment, Text.trim, Text.trim, Text.trimStart, List.dropWhile_cons_of_pos h]
  rfl

/-- A line that begins with a token is no comment. -/
theorem not_isComment_cons {c : Char} (h : Json.beginsToken c) (line : List Char) :
    ¬ isComment (c :: line) := by
  intro hcomment
  obtain ⟨blanks, remark, hblanks, heq⟩ := isComment_iff.1 hcomment
  cases blanks with
  | nil =>
    obtain ⟨rfl, -⟩ := List.cons.inj heq
    exact absurd h (by decide)
  | cons b blanks =>
    obtain ⟨rfl, -⟩ := List.cons.inj heq
    simp [Json.beginsToken, hblanks] at h

/-! ### Lines of a document -/

theorem splitOn_append_of_not_mem {front : List Char} {c : Char} (h : c ∉ front)
    (rest : List Char) :
    (front ++ rest).splitOn c = (rest.splitOn c).modifyHead (front ++ ·) := by
  induction front with
  | nil => exact (congrFun List.modifyHead_id (rest.splitOn c)).symm
  | cons b front ih =>
    obtain ⟨hb, hfront⟩ := not_or.1 (mt List.mem_cons.2 h)
    rw [List.cons_append, List.splitOn_cons_eq_if_modifyHead, if_neg (by simpa using Ne.symm hb),
      ih hfront, List.modifyHead_modifyHead]
    rfl

theorem isBlank_of_jsonIsBlank {c : Char} (h : Json.isBlank c) : Text.isBlank c := by
  simp only [Json.isBlank, Bool.or_eq_true, beq_iff_eq] at h
  rcases h with ((rfl | rfl) | rfl) | rfl <;> rfl

/-- No line of a text of blanks and tokens is a comment. -/
theorem not_isComment_of_isLaidOut {cs : List Char} (h : IsLaidOut cs) :
    ∀ line ∈ cs.splitOn '\n', ¬ isComment line := by
  induction h with
  | nil => decide
  | @blank c rest hc _ ih =>
    obtain ⟨first, lines, hlines⟩ := List.exists_cons_of_ne_nil (List.splitOn_ne_nil '\n' rest)
    rw [List.splitOn_cons_eq_if_modifyHead]
    split
    · exact List.forall_mem_cons.2 ⟨by decide, ih⟩
    · -- a blank before the first line makes it no comment
      rw [hlines, List.forall_mem_cons] at ih
      rw [hlines, List.modifyHead_cons, List.forall_mem_cons,
        isComment_cons_of_isBlank (isBlank_of_jsonIsBlank hc)]
      exact ih
  | @token c cs rest hc hcs _ ih =>
    obtain ⟨first, lines, hlines⟩ := List.exists_cons_of_ne_nil (List.splitOn_ne_nil '\n' rest)
    have hline : '\n' ∉ c :: cs := by
      refine List.not_mem_cons_of_ne_of_not_mem ?_ hcs
      rintro rfl
      exact absurd hc (by decide)
    rw [← List.cons_append, splitOn_append_of_not_mem hline, hlines, List.modifyHead_cons,
      List.forall_mem_cons]
    rw [hlines, List.forall_mem_cons] at ih
    exact ⟨not_isComment_cons hc _, ih.2⟩

/-! ### Comments added and taken out -/

/-- Lines of comments stand before, between and after lines. -/
inductive AddsComments : List (List Char) → List (List Char) → Prop
  | nil : AddsComments [] []
  | keep {line : List Char} {lines commented : List (List Char)}
      (h : AddsComments lines commented) : AddsComments (line :: lines) (line :: commented)
  | comment {comment : List Char} {lines commented : List (List Char)}
      (hcomment : IsCommentLine comment) (h : AddsComments lines commented) :
    AddsComments lines (comment :: commented)

/-- Comments have been added to a document, on lines of their own. -/
def IsCommented (document commented : String) : Prop :=
  ∃ lines, AddsComments (document.toList.splitOn '\n') lines ∧
    commented = String.ofList (['\n'].intercalate lines)

theorem AddsComments.ne_nil {lines commented : List (List Char)} (h : AddsComments lines commented)
    (hne : lines ≠ []) : commented ≠ [] := by
  rintro rfl
  cases h
  exact hne rfl

theorem AddsComments.filter_eq {lines commented : List (List Char)}
    (h : AddsComments lines commented) (hlines : ∀ line ∈ lines, ¬ isComment line) :
    commented.filter (fun line => !isComment line) = lines := by
  induction h with
  | nil => rfl
  | keep _ ih =>
    obtain ⟨hline, hlines⟩ := List.forall_mem_cons.1 hlines
    rw [List.filter_cons_of_pos (by simpa using hline), ih hlines]
  | comment hcomment _ ih =>
    rw [List.filter_cons_of_neg (by simpa using (isCommentLine_iff.1 hcomment).1), ih hlines]

theorem AddsComments.lineFeed_not_mem {lines commented : List (List Char)}
    (h : AddsComments lines commented) (hlines : ∀ line ∈ lines, '\n' ∉ line) :
    ∀ line ∈ commented, '\n' ∉ line := by
  induction h with
  | nil => exact hlines
  | keep _ ih =>
    obtain ⟨hline, hlines⟩ := List.forall_mem_cons.1 hlines
    exact List.forall_mem_cons.2 ⟨hline, ih hlines⟩
  | comment hcomment _ ih =>
    exact List.forall_mem_cons.2 ⟨(isCommentLine_iff.1 hcomment).2, ih hlines⟩

/-- **Comments are taken out and nothing else.** A document that is read, be it of sensor types or
of scales, is the same without its comments, as it has none; and it is what is left of every text
that has been made of it by adding comments on lines of their own. -/
theorem withoutComments_of_isCommented {document : String}
    (h : (∃ sensors, SensorDocument.parse document = .ok sensors) ∨
      ∃ scales, ScaleDocument.parse document = .ok scales) :
    withoutComments document = document ∧
      ∀ commented, IsCommented document commented → withoutComments commented = document := by
  have hlaidOut : IsLaidOut document.toList := by
    rcases h with ⟨sensors, hsensors⟩ | ⟨scales, hscales⟩
    · exact SensorDocument.isLaidOut_of_parse hsensors
    · exact ScaleDocument.isLaidOut_of_parse hscales
  have hlines := not_isComment_of_isLaidOut hlaidOut
  have hdocument :
      String.ofList (['\n'].intercalate (document.toList.splitOn '\n')) = document := by
    rw [List.intercalate_splitOn, String.ofList_toList]
  constructor
  · rw [withoutComments, List.filter_eq_self.2 fun line hline => by simpa using hlines line hline,
      hdocument]
  · rintro commented ⟨lines, hadded, rfl⟩
    have hne : lines ≠ [] := hadded.ne_nil (List.splitOn_ne_nil _ _)
    have hcut : (['\n'].intercalate lines).splitOn '\n' = lines :=
      List.splitOn_intercalate '\n'
        (hadded.lineFeed_not_mem fun _ => Text.not_mem_of_mem_splitOn) hne
    rw [withoutComments, String.toList_ofList, hcut, hadded.filter_eq hlines, hdocument]

/-- A sensor type with slashes in its label and in a member that nobody asks for, on lines of which
one is empty. -/
def slashedDocument : String :=
  "\x7b\"1\":\x7b\"url\":[\"//\"],\n\n \"label\":\"// Air\",\"scales\":\"heat\"\x7d\x7d"

/-- The same with a comment before its first line, after a no-break space, and two after the empty
line. -/
def commentedDocument : String :=
  "\u00A0// \x7b\n\x7b\"1\":\x7b\"url\":[\"//\"],\n\n//\n\t// \"\r\n" ++
    " \"label\":\"// Air\",\"scales\":\"heat\"\x7d\x7d"

/-- The comments are taken out, and the lines of the document are kept. -/
theorem withoutComments_commentedDocument :
    (∃ sensors, SensorDocument.parse slashedDocument = .ok sensors) ∧
      IsCommented slashedDocument commentedDocument ∧
      withoutComments slashedDocument = slashedDocument ∧
      withoutComments commentedDocument = slashedDocument := by
  have hparse : ∃ sensors, SensorDocument.parse slashedDocument = .ok sensors :=
    Fallible.exists_eq_ok_of_isOk (by decide +kernel)
  have hlines : ∃ first last, slashedDocument.toList.splitOn '\n' = [first, [], last] ∧
      commentedDocument = String.ofList (['\n'].intercalate
        ["\u00A0// \x7b".toList, first, [], ['/', '/'], "\t// \"\r".toList, last]) :=
    ⟨_, _, rfl, by decide +kernel⟩
  have hcommented : IsCommented slashedDocument commentedDocument := by
    obtain ⟨first, last, hlines, heq⟩ := hlines
    refine ⟨_, hlines ▸ ?_, heq⟩
    exact .comment (isCommentLine_iff.2 (by decide +kernel)) (.keep (.keep
      (.comment (isCommentLine_iff.2 (by decide +kernel))
        (.comment (isCommentLine_iff.2 (by decide +kernel)) (.keep .nil)))))
  obtain ⟨hself, hcomments⟩ := withoutComments_of_isCommented (.inl hparse)
  exact ⟨hparse, hcommented, hself, hcomments _ hcommented⟩

end Document

end SensorCatalog
