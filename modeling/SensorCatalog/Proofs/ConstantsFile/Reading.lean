import SensorCatalog.ConstantsFile.Render
import SensorCatalog.Proofs.Text.Shape

/-!
# Reading the constants file

The constants file is read line by line for what it declares. A line is understood from its own text
and from the block that it stands in: the lines of an enumeration are its variants, those of an
implementation its constants and functions, those of a list what it lists. Every line has one of the
shapes of its block; a file with any other line is not read.

## Main definitions

* `ConstantsFile.Item`: what a line declares or lists.
* `ConstantsFile.Block`: where a line stands.
* `ConstantsFile.readLines`: the items of lines.

## Main results

* `ConstantsFile.Block.step_eq`: a line is read by the rule that it is written by.
* `ConstantsFile.readLines_append`, `ConstantsFile.readLines_flatMap`: lines after other lines.
-/

namespace SensorCatalog.ConstantsFile

open Text (Shape IsNameText)

/-- What a line of the file declares or lists. -/
inductive Item where
  /-- A constant of the module that is a text. -/
  | text (name : String)
  /-- A constant of the module that is a list. -/
  | list (name : String)
  /-- A type over a byte. -/
  | struct (name : String)
  /-- An enumeration. -/
  | enumeration (name : String)
  /-- A variant of an enumeration, and the type of what it holds. -/
  | variant (enumeration name : String) (payload : Option String)
  /-- A constant of a type. -/
  | constant (type name value : String)
  /-- A case of a function of a type: the variant, and the class that the function has there. -/
  | arm (type function variant result : String)
  /-- An implementation of a trait with an argument. -/
  | traitOf (type trait argument : String)
  /-- A row of a list: a sensor type and a scale class. -/
  | row (list sensor scaleClass : String)
  /-- A member of a list: the variant for its class, its class and its token. -/
  | member (list variant scaleClass token : String)
  deriving DecidableEq

/-- Where a line stands. -/
inductive Block where
  | module
  | enumeration (name : String)
  | implementation (type : String)
  | function (type name : String)
  | traitOf (argument : String)
  | list (name : String)
  deriving DecidableEq

/-- How lines of a shape are understood: what stands in them for the names in them, and where the
next line stands. -/
abbrev Rule :=
  Shape × (List String → Option (Block × List Item))

namespace Rule

/-- A fixed line that declares nothing. -/
def fixed (line : String) (next : Block) : Rule :=
  (⟨line, [], .nothing⟩, fun _ => some (next, []))

/-! ### Lines of the module -/

/-- A comment. -/
def comment : Rule :=
  (⟨"//", [], .anything⟩, fun _ => some (.module, []))

/-- A constant that is a text; the text is not read. -/
def text : Rule :=
  (⟨"pub const ", [": &str = "], .text⟩,
    fun | [name] => some (.module, [.text name]) | _ => none)

/-- The first line of a constant that is a list; the type is not read. -/
def list : Rule :=
  (⟨"pub const ", [": &["], .text⟩,
    fun | [name] => some (.list name, [.list name]) | _ => none)

/-- A type over a byte. -/
def struct : Rule :=
  (⟨"pub struct ", ["(pub u8);"], .nothing⟩,
    fun | [name] => some (.module, [.struct name]) | _ => none)

/-- The first line of an enumeration. -/
def enumeration : Rule :=
  (⟨"pub enum ", [" \x7b"], .nothing⟩,
    fun | [name] => some (.enumeration name, [.enumeration name]) | _ => none)

/-- The first line of an implementation. -/
def implementation : Rule :=
  (⟨"impl ", [" \x7b"], .nothing⟩,
    fun | [type] => some (.implementation type, []) | _ => none)

/-- The first line of an implementation of a trait. -/
def traitOf : Rule :=
  (⟨"impl ", ["<", "> for ", " \x7b"], .nothing⟩,
    fun
      | [trait, argument, type] => some (.traitOf argument, [.traitOf type trait argument])
      | _ => none)

/-! ### Lines of blocks -/

/-- A variant of an enumeration. -/
def variant (name : String) : Rule :=
  (⟨indent, [","], .nothing⟩,
    fun | [v] => some (.enumeration name, [.variant name v none]) | _ => none)

/-- A variant of an enumeration that holds something. -/
def variantOf (name : String) : Rule :=
  (⟨indent, ["(", "),"], .nothing⟩,
    fun | [v, payload] => some (.enumeration name, [.variant name v (some payload)]) | _ => none)

/-- A constant of a type. -/
def constant (type : String) : Rule :=
  (⟨indent ++ "pub const ", [": Self = Self(", ");"], .nothing⟩,
    fun | [name, value] => some (.implementation type, [.constant type name value]) | _ => none)

/-- The first line of a function of a type; its first name is a keyword. -/
def function (type : String) : Rule :=
  (⟨indent ++ "pub const ", [" ", "(self) -> ", " \x7b"], .nothing⟩,
    fun | [_, name, _] => some (.function type name, []) | _ => none)

/-- A case of a function that has a scale class for each variant. -/
def arm (type name : String) : Rule :=
  (⟨indent ++ indent ++ indent ++ "Self::", ["(_) => " ++ scaleKindName ++ "::", ","], .nothing⟩,
    fun | [v, result] => some (.function type name, [.arm type name v result]) | _ => none)

/-- A line of an implementation of a trait that names the argument of the trait. -/
def ofArgument (start finish argument : String) : Rule :=
  (⟨start, [finish], .nothing⟩,
    fun | [name] => if name = argument then some (.traitOf argument, []) else none | _ => none)

/-- A row of the map from sensor types to scale classes. -/
def row (name : String) : Rule :=
  (⟨indent ++ "(" ++ sensorTypeName ++ "::", [", " ++ scaleKindName ++ "::", "),"], .nothing⟩,
    fun | [sensor, c] => some (.list name, [.row name sensor c]) | _ => none)

/-- A member of a list of scales. -/
def member (name : String) : Rule :=
  (⟨indent ++ scaleTypeName ++ "::", ["(", "::", "),"], .nothing⟩,
    fun | [v, c, token] => some (.list name, [.member name v c token]) | _ => none)

end Rule

/-- The rules for the lines of a block. -/
def Block.rules : Block → List Rule
  | .module => [.comment, .fixed derives .module, .text, .list, .struct, .enumeration,
      .implementation, .traitOf]
  | .enumeration name => [.variant name, .variantOf name, .fixed "\x7d" .module]
  | .implementation type => [.constant type, .function type, .fixed "\x7d" .module]
  | .function type name => [.fixed (indent ++ indent ++ "match self \x7b") (.function type name),
      .arm type name, .fixed (indent ++ indent ++ "\x7d") (.function type name),
      .fixed (indent ++ "\x7d") (.implementation type)]
  | .traitOf argument => [.ofArgument (indent ++ "fn from(scale: ") ") -> Self \x7b" argument,
      .ofArgument (indent ++ indent ++ "Self::") "(scale)" argument,
      .fixed (indent ++ "\x7d") (.traitOf argument), .fixed "\x7d" .module]
  | .list name => [.row name, .member name, .fixed "];" .module]

/-- The lines of a block are not taken for each other. -/
theorem Block.canBeTold_rules (b : Block) : Shape.canBeTold (b.rules.map Prod.fst) := by
  -- the shapes do not depend on the names of the blocks
  have hblocks : ∀ b ∈ [Block.module, .enumeration "", .implementation "", .function "" "",
      .traitOf "", .list ""], Shape.canBeTold (b.rules.map Prod.fst) := by
    decide +kernel
  cases b with
  | module => exact hblocks .module (by decide)
  | enumeration name => exact hblocks (.enumeration "") (by decide)
  | implementation type => exact hblocks (.implementation "") (by decide)
  | function type name => exact hblocks (.function "" "") (by decide)
  | traitOf argument => exact hblocks (.traitOf "") (by decide)
  | list name => exact hblocks (.list "") (by decide)

/-- Reading a line. Empty lines mean nothing. -/
def Block.step (b : Block) (line : String) : Option (Block × List Item) :=
  match Shape.firstRead? b.rules line with
  | some result => result
  | none => if line = "" then some (b, []) else none

/-- Reading lines one after the other: the items, and where the next line stands. Lines are taken as
they are given, and a comment is passed over whatever it holds, ends of lines included. -/
def readLines (b : Block) : List String → Option (Block × List Item)
  | [] => some (b, [])
  | line :: lines => (b.step line).bind fun r =>
      (readLines r.1 lines).map fun r' => (r'.1, r.2 ++ r'.2)

section

variable {b b' b'' : Block} {items items' : List Item} {lines lines' : List String}

/-- **A line is read by the rule that it is written by**, with what may follow its fixed text. -/
theorem Block.step_append_eq {r : Rule} (hr : r ∈ b.rules) (names : List String)
    (hlength : names.length = r.1.ends.length) (hnames : ∀ n ∈ names, IsNameText n)
    (rest : String) (hrest : r.1.tail.allows rest.toList) {line : String}
    (hline : line = r.1.fill names ++ rest) : b.step line = r.2 names := by
  rw [step, hline, Shape.firstRead?_fill_append b.canBeTold_rules hr hlength hnames hrest]

theorem Block.step_eq {r : Rule} (hr : r ∈ b.rules) (names : List String)
    (hlength : names.length = r.1.ends.length) (hnames : ∀ n ∈ names, IsNameText n)
    {line : String} (hline : line = r.1.fill names) : b.step line = r.2 names :=
  step_append_eq hr names hlength hnames "" (String.toList_empty ▸ r.1.tail.allows_nil)
    (hline.trans String.append_empty.symm)

/-- A line that is one of the fixed lines of its block. -/
theorem Block.step_fixed (b : Block) {line : String} {next : Block}
    (hr : Rule.fixed line next ∈ b.rules) : b.step line = some (next, []) :=
  step_eq hr [] rfl (List.forall_mem_nil _) (by simp [Rule.fixed, Shape.fill, Shape.fillEnds])

/-- An empty line is not taken for any other. -/
theorem Block.step_empty (b : Block) : b.step "" = some (b, []) := by
  cases b <;> rfl

theorem readLines_nil : readLines b [] = some (b, []) :=
  rfl

theorem readLines_cons {line : String} (hline : b.step line = some (b', items))
    (hlines : readLines b' lines = some (b'', items')) :
    readLines b (line :: lines) = some (b'', items ++ items') := by
  rw [readLines, hline, Option.bind_some, hlines]
  rfl

theorem readLines_append (h : readLines b lines = some (b', items))
    (h' : readLines b' lines' = some (b'', items')) :
    readLines b (lines ++ lines') = some (b'', items ++ items') := by
  induction lines generalizing b items with
  | nil =>
    obtain ⟨rfl, rfl⟩ := Prod.mk.inj (Option.some.inj h)
    exact h'
  | cons line lines ih =>
    obtain ⟨⟨mid, first⟩, hline, h⟩ := Option.bind_eq_some_iff.1 h
    obtain ⟨⟨last, others⟩, hlines, h⟩ := Option.map_eq_some_iff.1 h
    obtain ⟨rfl, rfl⟩ := Prod.mk.inj h
    rw [List.append_assoc]
    exact readLines_cons hline (ih hlines)

/-- An empty line at the end changes nothing. -/
theorem readLines_concat_empty (b : Block) (lines : List String) :
    readLines b (lines ++ [""]) = readLines b lines := by
  induction lines generalizing b with
  | nil => simp [readLines, Block.step_empty]
  | cons line lines ih => simp only [List.cons_append, readLines, ih]

/-- Lines for the members of a list, where each member's lines lead back to where they stand. -/
theorem readLines_flatMap {α : Type} {l : List α} {f : α → List String} {g : α → List Item}
    (h : ∀ a ∈ l, readLines b (f a) = some (b, g a)) :
    readLines b (l.flatMap f) = some (b, l.flatMap g) := by
  induction l with
  | nil => rfl
  | cons a l ih =>
    obtain ⟨ha, hl⟩ := List.forall_mem_cons.1 h
    exact readLines_append ha (ih hl)

theorem readLines_map {α : Type} {l : List α} {f : α → String} {g : α → Item}
    (h : ∀ a ∈ l, b.step (f a) = some (b, [g a])) :
    readLines b (l.map f) = some (b, l.map g) := by
  rw [List.map_eq_flatMap, List.map_eq_flatMap]
  exact readLines_flatMap fun a ha => readLines_cons (h a ha) rfl

end

end SensorCatalog.ConstantsFile
