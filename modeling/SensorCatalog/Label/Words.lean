import SensorCatalog.Label.Parenthesis
import SensorCatalog.Text.Transliteration

/-!
# The words of a label, and the names made of them

A label is free text in any script. Its words are the runs of letters and digits of its lower-case
transliteration; a comma that groups the digits of one number separates nothing. Every name that
the catalogue gives to a thing is made of the words of its label, so two labels with the same words
have the same names.

## Main definitions

* `Label.wordsOf`: the words of a label.
* `Label.slug`, `Label.token`: words joined by underscores, in lower and in upper case.
* `Label.displayName`: capitalized words joined by spaces.
* `Label.className`: capitalized words run together, with the ending of scale classes.
* `Label.isIdentifier`: the tokens that can stand as names in source code.
-/

namespace SensorCatalog.Label

/-! ### Words -/

/-- Letters and digits of lower-case ASCII text, the characters that words are made of. -/
def isWordChar (c : Char) : Bool :=
  c.isLower || c.isDigit

/-- A text without the commas that stand between two digits; `afterDigit` says that the text
follows a digit. -/
def dropGroupCommas (afterDigit : Bool) : List Char → List Char
  | [] => []
  | c :: rest =>
    if c = ',' ∧ afterDigit ∧ rest.head?.any Char.isDigit then dropGroupCommas false rest
    else c :: dropGroupCommas c.isDigit rest

/-- The maximal runs of word characters, in order. -/
def runs (cs : List Char) : List (List Char) :=
  (cs.splitOnP (fun c => !isWordChar c)).filter (fun w => !w.isEmpty)

/-- The words of a text. -/
def wordsOf (text : String) : List (List Char) :=
  runs (dropGroupCommas false ((Transliteration.spell text.toList).map Char.toLower))

/-! ### Names -/

/-- A word with a capital at its start. -/
def capitalize : List Char → List Char
  | [] => []
  | c :: rest => c.toUpper :: rest

/-- Words joined by underscores. -/
def slugOf (words : List (List Char)) : List Char :=
  ['_'].intercalate words

/-- The slug of a text. -/
def slug (text : String) : String :=
  String.ofList (slugOf (wordsOf text))

/-- Whether the parenthesized parts of a label count towards its name. -/
inductive Parentheses where
  /-- They count like the rest of the label. -/
  | kept
  /-- They are left out. -/
  | dropped
  deriving DecidableEq

/-- The part of a label that its name is made of. -/
def Parentheses.apply : Parentheses → String → String
  | .kept, label => label
  | .dropped, label => withoutParentheses label

theorem Parentheses.apply_kept (label : String) : kept.apply label = label :=
  rfl

theorem Parentheses.apply_dropped (label : String) :
    dropped.apply label = withoutParentheses label :=
  rfl

/-- Where there are no parenthesized parts, it does not matter whether they count. -/
theorem Parentheses.apply_eq_self (parentheses : Parentheses) {label : String}
    (h : withoutParentheses label = label) : parentheses.apply label = label := by
  cases parentheses with
  | kept => exact apply_kept label
  | dropped => exact h

/-- The token of a label: its words in upper case, joined by underscores. -/
def token (parentheses : Parentheses) (label : String) : String :=
  String.ofList ((slugOf (wordsOf (parentheses.apply label))).map Char.toUpper)

/-- The readable name of a label: its words capitalized and joined by spaces. -/
def displayName (label : String) : String :=
  String.ofList ([' '].intercalate ((wordsOf (withoutParentheses label)).map capitalize))

/-- The ending of the name of a scale class. -/
def classEnding : List Char := ['S', 'c', 'a', 'l', 'e']

/-- The name of the scale class of a group: the capitalized words of the group's name run together,
and the ending. -/
def className (groupName : String) : String :=
  String.ofList
    (((wordsOf (withoutParentheses groupName)).map capitalize).flatten ++ classEnding)

/-- A token can stand as a name in source code: it begins with a letter or an underscore. -/
def isIdentifier (token : String) : Bool :=
  token.toList.head?.any (fun c => c.isAlpha || c == '_')

end SensorCatalog.Label
