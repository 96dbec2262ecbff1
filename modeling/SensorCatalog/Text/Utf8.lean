/-!
# Reading UTF-8 that may be broken

Bytes are cut into well-formed characters and, between them, maximal broken parts. A reader that
must not fail shows each broken part as one character; bytes without broken parts are
the text that `String.fromUTF8?` reads.

A broken part is a byte that starts no character, or a byte that does, together with those of the
following bytes that could have continued it.

## Main definitions

* `Utf8.frontChar?`: the well-formed character at the front of a byte string.
* `Utf8.tailRanges`, `Utf8.brokenLength`: how far a broken part goes.
* `Utf8.pieces`: bytes cut into characters and broken parts.
* `Utf8.decodeLossy`: the text of bytes, broken parts replaced.
-/

namespace SensorCatalog.Utf8

/-- The character whose encoding a byte string starts with. -/
def frontChar? (bytes : List UInt8) : Option Char :=
  (bytes.take 4).toByteArray.utf8DecodeChar? 0

/-- The range of each byte that may follow a first byte, if some character starts with it. The
second byte is held to a narrower range where overlong forms, surrogates and numbers past the last
code point would begin. -/
def tailRanges (first : UInt8) : List (UInt8 × UInt8) :=
  let tail : UInt8 × UInt8 := (0x80, 0xBF)
  if first < 0xC2 then []
  else if first < 0xE0 then [tail]
  else if first = 0xE0 then [(0xA0, 0xBF), tail]
  else if first = 0xED then [(0x80, 0x9F), tail]
  else if first < 0xF0 then [tail, tail]
  else if first = 0xF0 then [(0x90, 0xBF), tail, tail]
  else if first < 0xF4 then [tail, tail, tail]
  else if first = 0xF4 then [(0x80, 0x8F), tail, tail]
  else []

/-- The number of leading bytes that lie in the given ranges one by one. -/
def matchLength : List (UInt8 × UInt8) → List UInt8 → Nat
  | (low, high) :: ranges, b :: bytes =>
    if low ≤ b && b ≤ high then matchLength ranges bytes + 1 else 0
  | _, _ => 0

/-- The length of the broken part that a first byte opens. -/
def brokenLength (first : UInt8) (bytes : List UInt8) : Nat :=
  matchLength (tailRanges first) bytes + 1

/-- The characters of a byte string in order, `none` standing for each maximal broken part. -/
def pieces : List UInt8 → List (Option Char)
  | [] => []
  | first :: bytes =>
    match frontChar? (first :: bytes) with
    | some c => some c :: pieces (bytes.drop (c.utf8Size - 1))
    | none => none :: pieces (bytes.drop (brokenLength first bytes - 1))
termination_by bytes => bytes.length
decreasing_by all_goals simp only [List.length_drop, List.length_cons]; omega

/-- The character that stands for what could not be read. -/
def replacement : Char := '\uFFFD'

/-- The text of a byte string, each maximal broken part shown as one character. -/
def decodeLossy (broken : Char) (bytes : ByteArray) : String :=
  String.ofList ((pieces bytes.toList).map (·.getD broken))

end SensorCatalog.Utf8
