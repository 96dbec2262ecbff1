/-!
# Punycode

A text outside ASCII can be written in ASCII: first the ASCII characters that it has, then a hyphen
if there are any, then a number for each of the others, by rising code points. Each number tells how
many places and code points lie between the last character put in and the next one. Numbers are
written with the least digit first, in a mixed radix that follows the size of the numbers before.

## Main definitions

* `Url.Punycode.decode`: the text that is written.
* `Url.Punycode.encode`: a text as it is written.
-/

namespace SensorCatalog.Url.Punycode

/-! ### Numbers -/

/-- The value of a digit: the letters come before the decimal digits. -/
def digitValue? (c : Char) : Option Nat :=
  if c.isLower then some (c.toNat - 'a'.toNat)
  else if c.isDigit then some (c.toNat - '0'.toNat + 26)
  else none

/-- The digit of a value. -/
def digit (value : Nat) : Char :=
  if value < 26 then Char.ofNat ('a'.toNat + value) else Char.ofNat ('0'.toNat + (value - 26))

/-- The least value of a digit that another one follows; `place` goes up by 36 from digit to
digit. -/
def threshold (bias place : Nat) : Nat :=
  max 1 (min 26 (place - bias))

/-- The number at the front of a text and what follows it. -/
def number? (bias place : Nat) : List Char → Option (Nat × List Char)
  | [] => none
  | c :: rest => do
    let low ← digitValue? c
    let t := threshold bias place
    if low < t then return (low, rest)
    else
      let (high, rest) ← number? bias (place + 36) rest
      return (low + (36 - t) * high, rest)

/-- A number takes at least one character. -/
theorem number?_length {bias : Nat} {cs : List Char} :
    ∀ {place : Nat} {r : Nat × List Char}, number? bias place cs = some r →
      r.2.length < cs.length := by
  induction cs with
  | nil => intro place r h; simp [number?] at h
  | cons c rest ih =>
    intro place r h
    simp only [number?, Option.bind_eq_bind, Option.bind_eq_some_iff] at h
    obtain ⟨low, -, h⟩ := h
    split at h
    · cases h; simp
    · simp only [Option.bind_eq_some_iff] at h
      obtain ⟨s, hs, h⟩ := h
      cases h
      have := ih hs
      simp only [List.length_cons]
      omega

/-- A number as it is written. -/
def numberText (bias place n : Nat) : List Char :=
  let t := threshold bias place
  if h : n < t then [digit n]
  else
    digit (t + (n - t) % (36 - t)) :: numberText bias (place + 36) ((n - t) / (36 - t))
termination_by n
decreasing_by
  have positive : 1 ≤ threshold bias place := Nat.le_max_left 1 (min 26 (place - bias))
  have := Nat.div_le_self (n - threshold bias place) (36 - threshold bias place)
  omega

/-! ### The bias -/

/-- A number brought down to the size that the bias is taken from, and 36 for each time. -/
def scaled (n : Nat) : Nat × Nat :=
  if 455 < n then
    let (low, places) := scaled (n / 35)
    (low, places + 36)
  else (n, 0)
termination_by n
decreasing_by omega

/-- The bias after a number, when the text has `length` characters. The first number is damped more
than others. -/
def bias (isFirst : Bool) (n length : Nat) : Nat :=
  let damped := if isFirst then n / 700 else n / 2
  let (low, places) := scaled (damped + damped / length)
  places + 36 * low / (low + 38)

/-! ### Texts -/

/-- The text that numbers make of a text, of which the last character put in has the code point
`code` and stands before `place`. -/
def putIn (b code place : Nat) (text cs : List Char) : Option (List Char) :=
  match cs with
  | [] => some text
  | c :: rest =>
    match h : number? b 36 (c :: rest) with
    | none => none
    | some (n, rest) =>
      let length := text.length + 1
      let code := code + (place + n) / length
      let position := (place + n) % length
      if code.isValidChar then
        putIn (bias (place == 0) n length) code (position + 1)
          (text.insertIdx position (Char.ofNat code)) rest
      else none
termination_by cs.length
decreasing_by exact number?_length h

/-- The text that is written. -/
def decode (cs : List Char) : Option (List Char) :=
  let numbers := (cs.reverse.takeWhile (· != '-')).reverse
  let plain := cs.take (cs.length - numbers.length - 1)
  if plain.isEmpty then putIn 72 0x80 0 [] cs else putIn 72 0x80 0 plain numbers

/-- The numbers of characters with their positions, by rising code points, when `length` characters
are there already. -/
def numbers (b code place length : Nat) : List (Nat × Nat) → List Char
  | [] => []
  | (next, position) :: rest =>
    let n := (next - code) * (length + 1) + position - place
    numberText b 36 n ++
      numbers (bias (place == 0) n (length + 1)) next (position + 1) (length + 1) rest

/-- A text as it is written. -/
def encode (cs : List Char) : List Char :=
  let plain := cs.filter fun c => c.toNat < 0x80
  let others := (cs.zipIdx.filter fun (c, _) => 0x80 ≤ c.toNat).mergeSort
    fun (a, _) (b, _) => a.toNat ≤ b.toNat
  let put := others.map fun (c, i) => (c.toNat, (cs.take i).countP fun a => a.toNat ≤ c.toNat)
  plain ++ (if plain.isEmpty then [] else ['-']) ++ numbers 72 0x80 0 plain.length put

end SensorCatalog.Url.Punycode
