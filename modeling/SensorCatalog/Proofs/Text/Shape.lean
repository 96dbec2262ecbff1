import Mathlib.Data.List.Basic
import Mathlib.Data.List.TakeWhile

/-!
# Lines with gaps

A generated line is made of fixed text and of names, and some lines end in text of another kind. The
shape of a line is its fixed text: what the line begins with and what follows each name. A line is
read back as long as nothing that follows a name begins like a name. It is not taken for a line of
another shape if the fixed texts of the two differ somewhere before either of them ends, and so a
line can be read by a list of shapes.

## Main definitions

* `Text.Shape`: the fixed text of a line, and what may follow it.
* `Text.Shape.fill`, `Text.Shape.read?`: the line with some names, and the names of a line.
* `Text.Shape.firstRead?`: reading a line by the first shape that it has.
* `Text.Shape.canBeTold`: shapes whose lines are not taken for each other.

## Main results

* `Text.Shape.read?_eq_some_iff`: the lines that are read.
* `Text.Shape.firstRead?_fill_append`: a line is read by its own shape.
-/

namespace SensorCatalog.Text

/-- The characters of names in source code. -/
def isNameChar (c : Char) : Bool :=
  c.isAlphanum || c == '_'

/-- A text with the characters of names only, whatever it begins with. -/
def IsNameText (s : String) : Prop :=
  ∀ c ∈ s.toList, isNameChar c

instance : DecidablePred IsNameText := fun s =>
  decidable_of_iff (s.toList.all isNameChar) List.all_eq_true

theorem isNameText_append {s t : String} (hs : IsNameText s) (ht : IsNameText t) :
    IsNameText (s ++ t) := by
  rw [IsNameText, String.toList_append, List.forall_mem_append]
  exact ⟨hs, ht⟩

/-- What may follow the fixed text of a line. -/
inductive Tail where
  /-- Nothing. -/
  | nothing
  /-- More of the line. -/
  | text
  /-- Anything, be it on the line or below it. -/
  | anything

/-- A text may follow. -/
def Tail.allows : Tail → List Char → Bool
  | .nothing, rest => rest.isEmpty
  | .text, rest => !rest.contains '\n'
  | .anything, _ => true

theorem Tail.allows_nil (t : Tail) : t.allows [] := by
  cases t <;> rfl

/-- The fixed text of a line. -/
structure Shape where
  /-- What the line begins with. -/
  start : String
  /-- What follows each name. -/
  ends : List String
  /-- What may follow all of this. -/
  tail : Tail

namespace Shape

/-! ### Filling in and reading -/

/-- The names, each with what follows it. -/
def fillEnds : List String → List String → String
  | e :: es, n :: ns => n ++ (e ++ fillEnds es ns)
  | _, _ => ""

/-- The line of a shape with some names. -/
def fill (s : Shape) (names : List String) : String :=
  s.start ++ fillEnds s.ends names

/-- The names that a text begins with, if each is followed by what it must be, and the rest of the
text. -/
def readEnds? : List String → List Char → Option (List String × List Char)
  | [], cs => some ([], cs)
  | e :: es, cs =>
    ((cs.dropWhile isNameChar).dropPrefix? e.toList).bind fun rest =>
      (readEnds? es rest).map fun r => (String.ofList (cs.takeWhile isNameChar) :: r.1, r.2)

/-- The names of a line, if the line has the shape. -/
def read? (s : Shape) (line : String) : Option (List String) :=
  ((line.toList.dropPrefix? s.start.toList).bind (readEnds? s.ends)).bind fun r =>
    if s.tail.allows r.2 then some r.1 else none

/-- Reading a line by the first shape that it has. -/
def firstRead? {α : Type} : List (Shape × (List String → α)) → String → Option α
  | [], _ => none
  | (s, f) :: rules, line => ((s.read? line).map f).or (firstRead? rules line)

/-! ### Shapes that can be told from each other -/

/-- A text begins with a character that names do not have. -/
def endsName (s : String) : Bool :=
  s.toList.head?.any fun c => !isNameChar c

/-- Two texts differ before either of them ends. -/
def apartTexts (s t : String) : Bool :=
  !s.toList.isPrefixOf t.toList && !t.toList.isPrefixOf s.toList

/-- What follows some name differs, and is the same for all names before it. -/
def apartEnds : List String → List String → Bool
  | e :: es, f :: fs => apartTexts e f || e == f && apartEnds es fs
  | _, _ => false

/-- Two shapes differ before either of them ends. -/
def apart (s t : Shape) : Bool :=
  apartTexts s.start t.start || s.start == t.start && apartEnds s.ends t.ends

/-- No name runs on into what follows it, and any two shapes differ before either ends. -/
def canBeTold (shapes : List Shape) : Bool :=
  shapes.all (fun s => s.ends.all endsName) && decide (shapes.Pairwise fun s t => s.apart t)

section

variable {s t : Shape} {names : List String}

theorem dropPrefix?_append_self (cs rest : List Char) : (cs ++ rest).dropPrefix? cs = some rest :=
  List.dropPrefix?_eq_some_iff.2 ⟨cs, rfl, BEq.refl cs⟩

theorem dropPrefix?_append_of_apartTexts {s t : String} (h : apartTexts s t) (rest : List Char) :
    (t.toList ++ rest).dropPrefix? s.toList = none := by
  rw [apartTexts, Bool.and_eq_true, Bool.not_eq_true', Bool.not_eq_true'] at h
  rw [Option.eq_none_iff_forall_ne_some]
  rintro rest' hrest'
  obtain ⟨start, hstart, hsame⟩ := List.dropPrefix?_eq_some_iff.1 hrest'
  rw [eq_of_beq hsame] at hstart
  rcases List.prefix_or_prefix_of_prefix (List.prefix_append t.toList rest)
    (hstart ▸ List.prefix_append s.toList rest') with hts | hst
  · exact absurd (List.isPrefixOf_iff_prefix.2 hts) (by simp [h.2])
  · exact absurd (List.isPrefixOf_iff_prefix.2 hst) (by simp [h.1])

/-- A name ends where what follows it begins. -/
theorem span_append {n e : String} (hn : IsNameText n) (he : endsName e) (rest : List Char) :
    (n.toList ++ (e.toList ++ rest)).takeWhile isNameChar = n.toList ∧
      (n.toList ++ (e.toList ++ rest)).dropWhile isNameChar = e.toList ++ rest := by
  rw [List.takeWhile_append_of_pos hn, List.dropWhile_append_of_pos hn]
  obtain ⟨c, cs, hcs, hc⟩ : ∃ c cs, e.toList = c :: cs ∧ isNameChar c = false := by
    rw [endsName] at he
    cases hcs : e.toList with
    | nil => simp [hcs] at he
    | cons c cs => exact ⟨c, cs, rfl, by simpa [hcs] using he⟩
  simp [hcs, hc]

theorem readEnds?_fillEnds_append {es : List String} (hes : es.all endsName)
    (hlength : names.length = es.length) (hnames : ∀ n ∈ names, IsNameText n) (rest : List Char) :
    readEnds? es ((fillEnds es names).toList ++ rest) = some (names, rest) := by
  induction es generalizing names with
  | nil => simp [readEnds?, fillEnds, List.length_eq_zero_iff.1 hlength]
  | cons e es ih =>
    obtain ⟨n, ns, rfl⟩ := List.exists_cons_of_length_eq_add_one hlength
    rw [List.all_cons, Bool.and_eq_true] at hes
    obtain ⟨hn, hns⟩ := List.forall_mem_cons.1 hnames
    obtain ⟨htake, hdrop⟩ := span_append hn hes.1 ((fillEnds es ns).toList ++ rest)
    simp only [fillEnds, String.toList_append, List.append_assoc, readEnds?, htake, hdrop,
      dropPrefix?_append_self, Option.bind_some, ih hes.2 (Nat.succ.inj hlength) hns,
      Option.map_some, String.ofList_toList]

theorem exists_fillEnds_eq {es : List String} {cs rest : List Char}
    (h : readEnds? es cs = some (names, rest)) :
    names.length = es.length ∧ (∀ n ∈ names, IsNameText n) ∧
      cs = (fillEnds es names).toList ++ rest := by
  induction es generalizing cs names with
  | nil =>
    obtain ⟨rfl, rfl⟩ := Prod.mk.inj (Option.some.inj h)
    simp [fillEnds]
  | cons e es ih =>
    obtain ⟨mid, hmid, h⟩ := Option.bind_eq_some_iff.1 h
    obtain ⟨⟨ns, last⟩, hread, h⟩ := Option.map_eq_some_iff.1 h
    obtain ⟨rfl, rfl⟩ := Prod.mk.inj h
    obtain ⟨hlength, hns, rfl⟩ := ih hread
    obtain ⟨front, hdrop, hsame⟩ := List.dropPrefix?_eq_some_iff.1 hmid
    refine ⟨congrArg Nat.succ hlength, List.forall_mem_cons.2 ⟨fun c hc => ?_, hns⟩, ?_⟩
    · rw [String.toList_ofList] at hc
      exact List.mem_takeWhile_imp hc
    · rw [fillEnds, String.toList_append, String.toList_append, String.toList_ofList,
        ← eq_of_beq hsame, List.append_assoc, List.append_assoc, ← hdrop,
        List.takeWhile_append_dropWhile]

/-- **The lines that are read** are those of the shape, with what may follow the fixed text. -/
theorem read?_eq_some_iff (hs : s.ends.all endsName) {line : String} :
    s.read? line = some names ↔ names.length = s.ends.length ∧ (∀ n ∈ names, IsNameText n) ∧
      ∃ rest : String, s.tail.allows rest.toList ∧ line = s.fill names ++ rest := by
  constructor
  · intro h
    obtain ⟨⟨ns, rest⟩, hread, h⟩ := Option.bind_eq_some_iff.1 h
    obtain ⟨hrest, hns⟩ := Option.ite_none_right_eq_some.1 h
    obtain rfl : ns = names := Option.some.inj hns
    obtain ⟨mid, hmid, hread⟩ := Option.bind_eq_some_iff.1 hread
    obtain ⟨front, hline, hsame⟩ := List.dropPrefix?_eq_some_iff.1 hmid
    obtain ⟨hlength, hnames, rfl⟩ := exists_fillEnds_eq hread
    refine ⟨hlength, hnames, String.ofList rest, by rwa [String.toList_ofList], ?_⟩
    rw [← String.toList_inj, hline, eq_of_beq hsame]
    simp [fill]
  · rintro ⟨hlength, hnames, rest, hrest, rfl⟩
    rw [read?, fill, String.toList_append, String.toList_append, List.append_assoc,
      dropPrefix?_append_self, Option.bind_some, readEnds?_fillEnds_append hs hlength hnames,
      Option.bind_some, if_pos hrest]

theorem readEnds?_fillEnds_append_of_apartEnds {es fs : List String} (h : apartEnds es fs)
    (hfs : fs.all endsName) (hlength : names.length = fs.length)
    (hnames : ∀ n ∈ names, IsNameText n) (rest : List Char) :
    readEnds? es ((fillEnds fs names).toList ++ rest) = none := by
  induction fs generalizing names es with
  | nil => cases es <;> cases h
  | cons f fs ih =>
    cases es with
    | nil => cases h
    | cons e es =>
      obtain ⟨n, ns, rfl⟩ := List.exists_cons_of_length_eq_add_one hlength
      rw [List.all_cons, Bool.and_eq_true] at hfs
      obtain ⟨hn, hns⟩ := List.forall_mem_cons.1 hnames
      obtain ⟨-, hdrop⟩ := span_append hn hfs.1 ((fillEnds fs ns).toList ++ rest)
      simp only [fillEnds, String.toList_append, List.append_assoc, readEnds?, hdrop]
      rw [apartEnds, Bool.or_eq_true, Bool.and_eq_true] at h
      rcases h with h | ⟨hef, h⟩
      · rw [dropPrefix?_append_of_apartTexts h, Option.bind_none]
      · obtain rfl : e = f := eq_of_beq hef
        rw [dropPrefix?_append_self, Option.bind_some,
          ih h hfs.2 (Nat.succ.inj hlength) hns, Option.map_none]

/-- A line of a shape that is apart is not read. -/
theorem read?_fill_append_of_apart (h : s.apart t) (ht : t.ends.all endsName)
    (hlength : names.length = t.ends.length) (hnames : ∀ n ∈ names, IsNameText n)
    (rest : String) : s.read? (t.fill names ++ rest) = none := by
  rw [read?, fill, String.toList_append, String.toList_append, List.append_assoc]
  rw [apart, Bool.or_eq_true, Bool.and_eq_true] at h
  rcases h with h | ⟨hst, h⟩
  · rw [dropPrefix?_append_of_apartTexts h, Option.bind_none, Option.bind_none]
  · rw [eq_of_beq hst, dropPrefix?_append_self, Option.bind_some,
      readEnds?_fillEnds_append_of_apartEnds h ht hlength hnames, Option.bind_none]

/-- **A line is read by its own shape**, with what may follow its fixed text. -/
theorem firstRead?_fill_append {α : Type} {rules : List (Shape × (List String → α))}
    {f : List String → α} (hrules : canBeTold (rules.map Prod.fst)) (hs : (s, f) ∈ rules)
    (hlength : names.length = s.ends.length) (hnames : ∀ n ∈ names, IsNameText n)
    {rest : String} (hrest : s.tail.allows rest.toList) :
    firstRead? rules (s.fill names ++ rest) = some (f names) := by
  rw [canBeTold, Bool.and_eq_true, decide_eq_true_iff, List.all_eq_true] at hrules
  obtain ⟨hproper, hapart⟩ := hrules
  have hends := hproper s (List.mem_map_of_mem hs)
  clear hproper
  induction rules with
  | nil => cases hs
  | cons r rules ih =>
    rw [List.map_cons, List.pairwise_cons] at hapart
    rcases List.mem_cons.1 hs with rfl | hs
    · rw [firstRead?, (read?_eq_some_iff hends).2 ⟨hlength, hnames, rest, hrest, rfl⟩]
      rfl
    · have hr := hapart.1 s (List.mem_map_of_mem hs)
      rw [firstRead?, read?_fill_append_of_apart hr hends hlength hnames]
      exact ih hs hapart.2

end

end Shape

end SensorCatalog.Text
