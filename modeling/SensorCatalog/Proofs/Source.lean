import SensorCatalog.Proofs.Url.Plain
import SensorCatalog.Source

/-!
# Slashes at the end of a place

The URL of the page that shows a document is the text of the place with the path behind it, and
slashes at the end of the place do not count. The URL to fetch a document from is a reference
relative to the place instead. So the last segment of the place is lost unless it is empty, and a
slash at the end keeps it: the two URLs treat the slash alike only where it changes nothing in the
place itself (`Source.rawUrl_withSlash`).

## Main definitions

* `Source.withSlash`: the same places with a slash at the end of their texts.
* `Url.segments`, `Url.withSegments`: the path of a URL.
* `Source.IsAt`, `Source.IsPlain`: places that are paths on a host, and documents with plain names.

## Main results

* `Source.rawUrl_withSlash`: what a slash at the end of a place changes.
* `Source.target_of_rawUrl`: the path that is asked for.
-/

namespace SensorCatalog

namespace Url

/-- The segments that others go behind: all but an empty one at the end. -/
def leading (segments : List String) : List String :=
  if segments.getLast? = some "" then segments.dropLast else segments

/-- The segments of the path of a URL. -/
def segments (u : Url) : List String :=
  match u.place with
  | .hierarchy _ path => path
  | .rootless _ => []

/-- A URL with another path. -/
def withSegments (u : Url) (path : List String) : Url :=
  match u.place with
  | .hierarchy origin _ => { u with place := .hierarchy origin path }
  | .rootless _ => u

end Url

namespace Source

open Url

/-- The path of a document from the place that serves it. -/
def reference (source : Source) (path : String) : String :=
  source.project ++ "/" ++ source.branch ++ "/" ++ path

/-- The same places with a slash at the end of their texts. -/
def withSlash (source : Source) : Source :=
  { source with rawBase := source.rawBase ++ "/", blobBase := source.blobBase ++ "/" }

/-- The place that serves raw files is a path on a host. -/
structure IsAt (source : Source) (base : Url) : Prop where
  /-- Its text is the one of the URL. -/
  parse_eq : Url.parse source.rawBase = .ok base
  /-- The URL goes to a host. -/
  goesToHost : goesToHost base.scheme
  /-- It has no query. -/
  query_eq : base.query = none
  /-- It has no fragment. -/
  fragment_eq : base.fragment = none

/-- A document has a plain path in a plain branch of a plain project. -/
structure IsPlain (source : Source) (path : String) : Prop where
  project : IsPlainPath source.project
  branch : IsPlainPath source.branch
  path : IsPlainPath path

variable {source : Source} {path scheme : String} {a : Authority} {text : List Char} {base : Url}

theorem IsPlain.reference (h : source.IsPlain path) : IsPlainPath (source.reference path) :=
  isPlainPath_append_iff.2 ⟨isPlainPath_append_iff.2 ⟨h.project, h.branch⟩, h.path⟩

theorem IsPlain.withSlash (h : source.IsPlain path) : source.withSlash.IsPlain path :=
  ⟨h.project, h.branch, h.path⟩

theorem IsAt.exists_gives (h : source.IsAt base) :
    ∃ a text, Gives source.rawBase base.scheme a text ∧
      base = ⟨base.scheme, .hierarchy (some a) (rootPath true text), none, none⟩ := by
  obtain ⟨a, text, hgives⟩ :=
    exists_gives_of_parse h.parse_eq h.goesToHost h.query_eq h.fragment_eq
  exact ⟨a, text, hgives, Except.ok.inj (h.parse_eq.symm.trans hgives.parse_eq)⟩

/-- The names of a document take the place of the last segment of the place. -/
theorem rawUrl_of_gives (hgives : Gives source.rawBase scheme a text)
    (hplain : source.IsPlain path) :
    source.rawUrl path = .ok ⟨scheme,
      .hierarchy (some a) ((rootPath true text).dropLast ++ names (source.reference path)),
      none, none⟩ := by
  have hfile : scheme ≠ "file" := by
    rintro rfl
    exact absurd hgives.goesToHost (by decide)
  rw [rawUrl, hgives.parse_eq]
  exact resolve_of_isPlainPath hplain.reference rfl hfile

/-- The path that is asked for is the path of the document, in its written form, in place of the
last segment. -/
theorem target_of_rawUrl (hbase : source.IsAt base) (hplain : source.IsPlain path) :
    ∃ u, source.rawUrl path = .ok u ∧
      u.target = String.ofList (pathText base.segments.dropLast ++
        '/' :: Percent.encode Percent.inPath (source.reference path).toList) := by
  obtain ⟨a, text, hgives, heq⟩ := hbase.exists_gives
  have hsegments : base.segments = rootPath true text := congrArg segments heq
  refine ⟨_, rawUrl_of_gives hgives hplain, ?_⟩
  rw [hsegments, ← pathText_names hplain.reference, pathText, pathText, ← List.flatMap_append]
  exact congrArg String.ofList (List.append_nil _)

/-- A place is the same with a slash at the end if the documents in it are. -/
theorem rawUrl_withSlash_eq_iff (hgives : Gives source.rawBase scheme a text)
    (hplain : source.IsPlain path) :
    source.withSlash.rawUrl path = source.rawUrl path ↔
      Url.parse (source.rawBase ++ "/") = Url.parse source.rawBase := by
  constructor
  · intro h
    rw [rawUrl_of_gives hgives hplain] at h
    obtain ⟨base', hread, -⟩ := Fallible.bind_eq_ok_iff.1 h
    obtain ⟨a', e, he, hgives'⟩ := hgives.exists_concat_slash hread
    have hslash : source.withSlash.rawUrl path = _ := rawUrl_of_gives hgives' hplain.withSlash
    have hplaces := (Url.mk.inj (Except.ok.inj (hslash.symm.trans h))).2.1
    obtain ⟨hauthority, hpath⟩ := Place.hierarchy.inj hplaces
    obtain rfl := Option.some.inj hauthority
    have hfront := List.append_cancel_right hpath
    rw [hgives'.parse_eq, hgives.parse_eq]
    rcases rootPath_concat_slash_eq_or text he with heq | hlt
    · rw [heq]
    · -- A longer path has a longer front.
      have hlength := congrArg List.length hfront
      rw [List.length_dropLast, List.length_dropLast] at hlength
      have := List.length_pos_iff.2 (rootPath_ne_nil text)
      omega
  · intro h
    rw [rawUrl, rawUrl]
    exact congrArg (· >>= fun base => resolve base (source.reference path)) h

theorem blobUrl_withSlash (source : Source) (path : String) :
    source.withSlash.blobUrl path = source.blobUrl path := by
  have hslash : ∀ c ∈ ['/'], (c == '/') = true := by simp
  rw [blobUrl, blobUrl]
  simp only [withSlash, String.toList_append]
  rw [show "/".toList = ['/'] from rfl, Text.dropTrailing_append hslash]

theorem leading_concat_iff (front : List String) {last : String} :
    leading (front ++ [last]) = front ↔ last = "" := by
  rw [leading, List.getLast?_concat]
  split
  · next h => simpa using h
  · next h => simpa using h

/-- **A slash at the end of a place.** A document takes the place of the last segment. So nothing
of the place is lost exactly if this segment is empty. A slash does not change the URL of the
document exactly if it does not change the place, and then the segment is empty. Unless blanks or
controls are in the way, this means that the text of the place has no path or a dot segment at its
end; otherwise the slash saves the last segment. The page that shows the document is the same in any
case. -/
theorem rawUrl_withSlash (hbase : source.IsAt base) (hplain : source.IsPlain path) :
    ∃ front last,
      base.segments = front ++ [last] ∧
      source.rawUrl path = .ok (base.withSegments (front ++ names (source.reference path))) ∧
      (source.rawUrl path =
          .ok (base.withSegments (leading base.segments ++ names (source.reference path))) ↔
        last = "") ∧
      (source.withSlash.rawUrl path = source.rawUrl path ↔
        Url.parse (source.rawBase ++ "/") = Url.parse source.rawBase) ∧
      (source.withSlash.rawUrl path = source.rawUrl path → last = "") ∧
      (EndsVisibly source.rawBase.toList →
        source.withSlash.rawUrl path = .ok (base.withSegments
          ((if isLeftOpen (writtenPath source.rawBase) then front else front ++ [last]) ++
            names (source.reference path)))) ∧
      source.withSlash.blobUrl path = source.blobUrl path := by
  obtain ⟨a, text, hgives, heq⟩ := hbase.exists_gives
  obtain ⟨front, last, hsegments⟩ :=
    (List.eq_nil_or_concat (rootPath true text)).resolve_left (rootPath_ne_nil text)
  rw [List.concat_eq_append] at hsegments
  have hbefore : base.segments = front ++ [last] := by rw [heq]; exact hsegments
  have hwith (segments : List String) : base.withSegments segments =
      ⟨base.scheme, .hierarchy (some a) segments, none, none⟩ := by rw [heq]; rfl
  have hraw : source.rawUrl path =
      .ok (base.withSegments (front ++ names (source.reference path))) := by
    rw [rawUrl_of_gives hgives hplain, hsegments, List.dropLast_concat, hwith]
  refine ⟨front, last, hbefore, hraw, ?_, rawUrl_withSlash_eq_iff hgives hplain, ?_, ?_,
    blobUrl_withSlash source path⟩
  · rw [hraw, hbefore, hwith, hwith, ← leading_concat_iff front]
    simp only [Except.ok.injEq, Url.mk.injEq, Place.hierarchy.injEq, List.append_cancel_right_eq,
      true_and, and_true]
    exact eq_comm
  · intro h
    have hread := (rawUrl_withSlash_eq_iff hgives hplain).1 h
    obtain ⟨a', e, -, hgives'⟩ := hgives.exists_concat_slash (hread.trans hbase.parse_eq)
    have hsame := Except.ok.inj (hbase.parse_eq.symm.trans (hread.symm.trans hgives'.parse_eq))
    have hlast : base.segments.getLast? = some "" :=
      (congrArg (fun u => (segments u).getLast?) hsame).trans
        (getLast?_rootPath_concat_slash (text ++ e))
    rw [hbefore, List.getLast?_concat] at hlast
    exact Option.some.inj hlast
  · intro hvisible
    have hslash : source.withSlash.rawUrl path = _ :=
      rawUrl_of_gives (hgives.concat_slash hvisible) hplain.withSlash
    rw [hslash, rootPath_concat_slash, hgives.writtenPath_eq, hwith, hsegments]
    split <;> rw [List.dropLast_concat] <;> rfl

/-- A place with a path that does not end in a slash. -/
def mirror : Source :=
  { rawBase := "http://server/mirror" }

/-- The URL of this place. -/
def mirrorUrl : Url :=
  ⟨"http", .hierarchy (some (.ofHost (.name "server"))) ["mirror"], none, none⟩

theorem isAt_mirror : mirror.IsAt mirrorUrl :=
  ⟨by decide +kernel, by decide +kernel, rfl, rfl⟩

theorem isPlain_mirror : mirror.IsPlain "scales.json" :=
  ⟨by decide +kernel, by decide +kernel, by decide +kernel⟩

/-- With a slash behind it, the segment of this place stays before the document. -/
theorem rawUrl_withSlash_mirror :
    mirror.IsAt mirrorUrl ∧ mirror.IsPlain "scales.json" ∧
      ∃ front last, mirrorUrl.segments = front ++ [last] ∧
        mirror.withSlash.rawUrl "scales.json" = .ok (mirrorUrl.withSegments
          (front ++ [last] ++ names (mirror.reference "scales.json"))) := by
  obtain ⟨front, last, hsegments, -, -, -, -, hslash, -⟩ :=
    rawUrl_withSlash isAt_mirror isPlain_mirror
  have hopen : isLeftOpen (writtenPath mirror.rawBase) = false := by decide +kernel
  have hvisible : EndsVisibly mirror.rawBase.toList := by decide +kernel
  refine ⟨isAt_mirror, isPlain_mirror, front, last, hsegments, ?_⟩
  rw [hslash hvisible, hopen, if_neg Bool.false_ne_true]

/-- **The last segment is lost** without a slash behind it, and with one it is not. -/
theorem rawUrl_mirror_ne :
    mirror.IsAt mirrorUrl ∧ mirror.IsPlain "scales.json" ∧
      (mirror.rawUrl "scales.json").toOption.map Url.text =
        some "http://server/zwave-js/node-zwave-js/master/scales.json" ∧
      (mirror.withSlash.rawUrl "scales.json").toOption.map Url.text =
        some "http://server/mirror/zwave-js/node-zwave-js/master/scales.json" ∧
      mirror.withSlash.rawUrl "scales.json" ≠ mirror.rawUrl "scales.json" :=
  ⟨isAt_mirror, isPlain_mirror, by decide +kernel, by decide +kernel, by decide +kernel⟩

end Source

end SensorCatalog
