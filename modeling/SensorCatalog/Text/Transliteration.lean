/-!
# Transliteration into ASCII

Characters are spelled by ASCII texts of their own: letters by the letters they come from or by
their sound, digits by digits, symbols and pictures by a short word. Outside ASCII only the
characters of a table have a spelling; any other one is shown as `[?]`.

Words spelled out end with a space that keeps them apart. That space is left out at the end of the
text and before a spelling that begins with a space itself.

A text that is in ASCII up to some point stands as it is up to there. From the first other character
on every character is spelled, and control characters have an empty spelling.

## Main definitions

* `Transliteration.spelling?`: the spelling of one character.
* `Transliteration.spellEach`: a text with every character spelled.
* `Transliteration.spell`: a text put into ASCII.
-/

namespace SensorCatalog.Transliteration

/-- The spellings of some characters outside ASCII: a choice of letters, digits, signs and pictures
from many scripts. It is far from all that could be spelled, and a character that is not listed
counts as one without a spelling. Nothing is proved from it but that all spellings are in ASCII. -/
def table : List (Char × String) :=
  [('\u0085', ""), ('\u00A0', " "), ('£', "PS"), ('\u00AD', ""), ('®', "(r)"), ('°', "deg"),
   ('²', "2"), ('³', "3"), ('µ', "u"), ('½', "1/2"), ('Æ', "AE"), ('É', "E"), ('Ö', "O"),
   ('×', "x"), ('ß', "ss"), ('æ', "ae"), ('ç', "c"), ('é', "e"), ('ï', "i"), ('ñ', "n"),
   ('÷', "/"), ('ø', "o"), ('ü', "u"), ('İ', "I"), ('ı', "i"), ('Ł', "L"), ('ł', "l"),
   ('ſ', "s"), ('ǆ', "dz"), ('\u0301', ""), ('\u0308', ""), ('Ω', "O"), ('α', "a"), ('β', "b"),
   ('γ', "g"), ('ω', "o"), ('Ж', "Zh"), ('Ъ', "'"), ('ж', "zh"), ('щ', "shch"), ('ь', "'"),
   ('\u05D0', "'"), ('\u0645', "m"), ('\u0661', "1"), ('\u0663', "3"), ('\u1680', " "),
   ('ẞ', "Ss"), ('\u200B', " "), ('\u200D', ""), ('\u2010', "-"), ('–', "-"), ('—', "--"),
   ('‘', "'"), ('’', "'"), ('“', "\""), ('”', "\""), ('„', ",,"), ('…', "..."),
   ('\u2028', "\n"), ('€', "EUR"), ('\u20E3', ""), ('℃', "C"), ('℉', "F"), ('№', "No"),
   ('™', "tm"), ('Ⅷ', "VIII"), ('∞', "inf"), ('≤', "<="), ('☃', "snowman "), ('★', "*"),
   ('☣', "biohazard "), ('⚡', "zap "), ('\u3000', " "), ('か', "ka"), ('な', "na"),
   ('カ', "ka"), ('ナ', "na"), ('中', "Zhong "), ('京', "Jing "), ('全', "Quan "),
   ('北', "Bei "), ('国', "Guo "), ('日', "Ri "), ('本', "Ben "), ('語', "Yu "), ('국', "gug"),
   ('한', "han"), ('ﬁ', "fi"), ('\uFE0F', ""), ('\uFEFF', ""), ('（', "("), ('）', ")"),
   ('，', ","), ('０', "0"), ('１', "1"), ('２', "2"), ('Ｂ', "B"), ('＿', "_"), ('ａ', "a"),
   ('🇱', "L"), ('🇳', "N"), ('🌡', "thermometer "), ('🏽', ""), ('👍', "+1 "),
   ('💧', "droplet "), ('🦄', "unicorn ")]

/-- The characters of ASCII, but for the delete character at its end. -/
def isAscii (c : Char) : Bool :=
  c.toNat < 0x7F

/-- The characters of ASCII without a visible form. -/
def isControl (c : Char) : Bool :=
  c.toNat < 0x20 || c.toNat == 0x7F

/-- The spelling of a character. -/
def spelling? (c : Char) : Option (List Char) :=
  if isControl c then some []
  else if isAscii c then some [c]
  else (table.lookup c).map String.toList

/-- The spelling shown for a character that has none. -/
def unknown : List Char := ['[', '?', ']']

/-- A spelling with the space at its end left out, if it is more than that space. -/
def dropSpace (spelling : List Char) : List Char :=
  if 1 < spelling.length ∧ spelling.getLast? = some ' ' then spelling.dropLast else spelling

/-- A text begins with a spelling that begins with a space, or is at its end. -/
def endsWord : List Char → Bool
  | [] => true
  | c :: _ => (spelling? c).any (fun s => s.head? = some ' ')

/-- A text with every character spelled. -/
def spellEach : List Char → List Char
  | [] => []
  | c :: rest =>
    match spelling? c with
    | some s => (if endsWord rest then dropSpace s else s) ++ spellEach rest
    | none => unknown ++ spellEach rest

/-- A text put into ASCII. -/
def spell (cs : List Char) : List Char :=
  cs.takeWhile isAscii ++ spellEach (cs.dropWhile isAscii)

end SensorCatalog.Transliteration
