/-!
# Quoted text

A text in quotes, written so that it stays on one line and shows what it holds: quotes and
backslashes get a backslash, the commonest control characters have a letter, and other controls,
blanks and some more characters without a visible form of their own are written by number.

## Main definitions

* `Quoted.isHidden`: the characters written by number.
* `Quoted.escape`, `Quoted.encode`: the written form of a character and of a text.
* `Quoted.quote`: a text in its quotes.
-/

namespace SensorCatalog.Quoted

/-- The characters that are written by number: controls, blanks other than the space, the marks of
two blocks that combine with the character before them, variation selectors, format characters next
to the blanks, private characters and two that are unassigned. Other marks, format characters and
unassigned characters are not among them, and stand as they are. -/
def isHidden (c : Char) : Bool :=
  let n := c.toNat
  n < 0x20 || (0x7F ≤ n && n ≤ 0xA0) || n == 0xAD || (0x300 ≤ n && n ≤ 0x36F) || n == 0x378 ||
    n == 0x379 || n == 0x1680 || (0x2000 ≤ n && n ≤ 0x200F) || (0x2028 ≤ n && n ≤ 0x202F) ||
    (0x205F ≤ n && n ≤ 0x206F) || (0x20D0 ≤ n && n ≤ 0x20F0) || n == 0x3000 ||
    (0xE000 ≤ n && n ≤ 0xF8FF) || (0xFE00 ≤ n && n ≤ 0xFE0F) || n == 0xFEFF || 0xF0000 ≤ n

/-- The written form of one character. A number is in lower-case hexadecimal, in braces and
without leading zeros. -/
def escape (c : Char) : List Char :=
  match c with
  | '"' => ['\\', '"']
  | '\\' => ['\\', '\\']
  | '\n' => ['\\', 'n']
  | '\r' => ['\\', 'r']
  | '\t' => ['\\', 't']
  | '\x00' => ['\\', '0']
  | c =>
    if isHidden c then ['\\', 'u', '\x7b'] ++ Nat.toDigits 16 c.toNat ++ ['\x7d'] else [c]

/-- The written form of a text, without its quotes. -/
def encode (cs : List Char) : List Char :=
  cs.flatMap escape

/-- A text in quotes. -/
def quote (s : String) : String :=
  String.ofList ('"' :: encode s.toList ++ ['"'])

@[simp] theorem encode_nil : encode [] = [] := rfl

@[simp] theorem encode_cons (c : Char) (cs : List Char) :
    encode (c :: cs) = escape c ++ encode cs := rfl

@[simp] theorem encode_append (cs ds : List Char) : encode (cs ++ ds) = encode cs ++ encode ds :=
  List.flatMap_append

end SensorCatalog.Quoted
