import SensorCatalog.Proofs.Catalog.Provenance
import SensorCatalog.Proofs.HexId
import SensorCatalog.Proofs.Label.Joined
import Mathlib.Data.Nat.Digits.Defs

/-!
# The ids that keys name

A key names an id by a numeral: one or more digits in either case, with any number of zeros in
front. What a numeral stands for is said by place value (`HexId.number`), and reading finds exactly
that (`HexId.value?_eq_some_iff`), also when it never holds more than a byte
(`HexId.parse?_eq_parseInByte?`).

A mark may stand in front of the numeral, and behind the mark one plus sign is let pass. So keys
name ids in more ways than by marked numerals alone (`readId_spells`).

## Main definitions

* `HexId.IsNumeral`, `HexId.Spells`: numerals, and texts that spell a number.
* `HexId.parseInByte?`: the id of a text, read within a byte.

## Main results

* `HexId.parse?_eq_some_iff`, `HexId.parse?_eq_parseInByte?`: the id that a text names.
* `readId_spells`: the keys that name ids.
-/

namespace SensorCatalog

namespace HexId

/-! ### Numerals -/

/-- The digits in lower case, each at the place of its value. -/
def digits : List Char :=
  ['0', '1', '2', '3', '4', '5', '6', '7', '8', '9', 'a', 'b', 'c', 'd', 'e', 'f']

/-- A digit in either case. -/
def IsDigit (c : Char) : Prop :=
  c.toLower ∈ digits

instance : DecidablePred IsDigit := fun c =>
  inferInstanceAs (Decidable (c.toLower ∈ digits))

/-- The value of a digit. -/
def digitNumber (c : Char) : Nat :=
  digits.idxOf c.toLower

/-- The number that digits stand for, of which the last one counts ones. -/
def number (ds : List Char) : Nat :=
  Nat.ofDigits 16 (ds.reverse.map digitNumber)

/-- One or more digits that stand for a number. -/
structure IsNumeral (ds : List Char) (n : Nat) : Prop where
  /-- There is a digit. -/
  ne_nil : ds ≠ []
  /-- There are only digits. -/
  isDigit : ∀ c ∈ ds, IsDigit c
  /-- The digits stand for the number. -/
  number_eq : number ds = n

/-- What may stand in front of a numeral to say that it is hexadecimal. -/
def marks : List (List Char) :=
  [[], ['0', 'x'], ['0', 'X']]

/-- What may stand in front of the digits. -/
def signs : List (List Char) :=
  [[], ['+']]

/-- A text is a numeral of a number with a sign in front of it and a mark in front of both. -/
def Spells (sign : List Char) (text : String) (n : Nat) : Prop :=
  ∃ mark ∈ marks, ∃ ds, text.toList = mark ++ sign ++ ds ∧ IsNumeral ds n

theorem digitValue?_eq (c : Char) :
    digitValue? c = if IsDigit c then some (digitNumber c) else none := by
  by_cases hc : c.toNat < 128
  · exact Label.forall_of_forall_lt
      (P := fun c => digitValue? c = if IsDigit c then some (digitNumber c) else none)
      (by decide) hc
  · -- Beyond ASCII there are no digits, and no letters in two cases.
    have hle {d : Char} (hd : d.toNat < 128) : ¬ c ≤ d := fun h =>
      hc (Nat.lt_of_le_of_lt h hd)
    have hlower : c.toLower = c := Label.toLower_eq_self (.inr (by omega))
    have hdigits : digits.all fun d => d.toNat < 128 := by decide
    have hdigit : ¬ IsDigit c := fun h =>
      hc (of_decide_eq_true (List.all_eq_true.1 hdigits c (hlower ▸ h)))
    rw [if_neg hdigit, digitValue?, if_neg fun h => hle (by decide) h.2,
      if_neg fun h => hle (by decide) h.2, if_neg fun h => hle (by decide) h.2]

theorem digitValue?_eq_some_iff {c : Char} {d : Nat} :
    digitValue? c = some d ↔ IsDigit c ∧ digitNumber c = d := by
  rw [digitValue?_eq]
  split <;> simp [*]

theorem number_cons (c : Char) (cs : List Char) :
    number (c :: cs) = digitNumber c * 16 ^ cs.length + number cs := by
  rw [number, List.reverse_cons, List.map_append, Nat.ofDigits_append]
  simp [number, Nat.add_comm, Nat.mul_comm]

/-- Digits are read behind others as in a positional system. -/
theorem valueFrom?_eq_some_iff {acc n : Nat} {cs : List Char} :
    valueFrom? acc cs = some n ↔
      (∀ c ∈ cs, IsDigit c) ∧ acc * 16 ^ cs.length + number cs = n := by
  induction cs generalizing acc with
  | nil => simp [valueFrom?, number]
  | cons c cs ih =>
    rw [valueFrom?, Option.bind_eq_some_iff, List.forall_mem_cons, number_cons, List.length_cons]
    simp only [ih, digitValue?_eq_some_iff]
    have hplace : acc * 16 ^ (cs.length + 1) + (digitNumber c * 16 ^ cs.length + number cs) =
        (acc * 16 + digitNumber c) * 16 ^ cs.length + number cs := by ring
    rw [hplace]
    constructor
    · rintro ⟨d, ⟨hc, rfl⟩, hcs, hn⟩
      exact ⟨⟨hc, hcs⟩, hn⟩
    · rintro ⟨⟨hc, hcs⟩, hn⟩
      exact ⟨_, ⟨hc, rfl⟩, hcs, hn⟩

theorem value?_eq_some_iff {cs : List Char} {n : Nat} :
    value? cs = some n ↔ IsNumeral cs n := by
  by_cases hne : cs = []
  · refine ⟨fun h => ?_, fun h => absurd hne h.ne_nil⟩
    rw [hne] at h
    contradiction
  · rw [value?_eq_of_ne_nil hne, valueFrom?_eq_some_iff, Nat.zero_mul, Nat.zero_add]
    exact ⟨fun h => ⟨hne, h.1, h.2⟩, fun h => ⟨h.isDigit, h.number_eq⟩⟩

/-! ### Texts that name bytes -/

/-- The byte of a number that fits in one. -/
def byte? (n : Nat) : Option UInt8 :=
  if n < 256 then some (UInt8.ofNat n) else none

theorem byte?_eq_some_iff {n : Nat} {b : UInt8} : byte? n = some b ↔ n = b.toNat := by
  rw [byte?]
  constructor
  · intro h
    split at h
    · next hn => rw [← Option.some.inj h, UInt8.toNat_ofNat_of_lt' hn]
    · contradiction
  · rintro rfl
    rw [if_pos b.toNat_lt, UInt8.ofNat_toNat]

theorem parse?_eq_bind (text : String) :
    parse? text = (value? (dropPlus (dropMark text.toList))).bind byte? := by
  rw [parse?]
  cases value? (dropPlus (dropMark text.toList)) <;> rfl

theorem exists_dropMark_eq (cs : List Char) : ∃ mark ∈ marks, cs = mark ++ dropMark cs := by
  fun_cases dropMark cs with
  | case1 rest => exact ⟨['0', 'x'], by decide, rfl⟩
  | case2 rest => exact ⟨['0', 'X'], by decide, rfl⟩
  | case3 => exact ⟨[], by decide, rfl⟩

theorem dropMark_append {mark rest : List Char} (hmark : mark ∈ marks) (hx : 'x' ∉ rest)
    (hX : 'X' ∉ rest) : dropMark (mark ++ rest) = rest := by
  simp only [marks, List.mem_cons, List.not_mem_nil, or_false] at hmark
  rcases hmark with rfl | rfl | rfl
  · rw [List.nil_append]
    fun_cases dropMark rest with
    | case1 rest => simp at hx
    | case2 rest => simp at hX
    | case3 => rfl
  · rfl
  · rfl

theorem exists_dropPlus_eq (cs : List Char) : ∃ sign ∈ signs, cs = sign ++ dropPlus cs := by
  fun_cases dropPlus cs with
  | case1 rest => exact ⟨['+'], by decide, rfl⟩
  | case2 => exact ⟨[], by decide, rfl⟩

theorem dropPlus_append {sign rest : List Char} (hsign : sign ∈ signs) (h : '+' ∉ rest) :
    dropPlus (sign ++ rest) = rest := by
  simp only [signs, List.mem_cons, List.not_mem_nil, or_false] at hsign
  rcases hsign with rfl | rfl
  · rw [List.nil_append]
    fun_cases dropPlus rest with
    | case1 rest => simp at h
    | case2 => rfl
  · rfl

/-- Marks and signs are found where they stand, since no numeral looks like one. -/
theorem dropPlus_dropMark_append {mark sign ds : List Char} (hmark : mark ∈ marks)
    (hsign : sign ∈ signs) (h : ∀ c ∈ ds, IsDigit c) :
    dropPlus (dropMark (mark ++ sign ++ ds)) = ds := by
  have hnot {c : Char} (hdigit : ¬ IsDigit c) (hc : ∀ sign ∈ signs, c ∉ sign) : c ∉ sign ++ ds :=
    fun hmem => (List.mem_append.1 hmem).elim (hc sign hsign) fun hmem => hdigit (h c hmem)
  rw [List.append_assoc, dropMark_append hmark (hnot (by decide) (by decide))
    (hnot (by decide) (by decide)), dropPlus_append hsign fun hmem => absurd (h _ hmem) (by decide)]

/-- **The id that a text names** is the number of the numeral in it, behind a mark and a sign that
may be missing. -/
theorem parse?_eq_some_iff {text : String} {id : UInt8} :
    parse? text = some id ↔ ∃ sign ∈ signs, Spells sign text id.toNat := by
  rw [parse?_eq_bind, Option.bind_eq_some_iff]
  simp only [value?_eq_some_iff, byte?_eq_some_iff]
  constructor
  · rintro ⟨n, hnumeral, rfl⟩
    obtain ⟨mark, hmark, htext⟩ := exists_dropMark_eq text.toList
    obtain ⟨sign, hsign, hrest⟩ := exists_dropPlus_eq (dropMark text.toList)
    refine ⟨sign, hsign, mark, hmark, _, ?_, hnumeral⟩
    rw [List.append_assoc, ← hrest, ← htext]
  · rintro ⟨sign, hsign, mark, hmark, ds, htext, hnumeral⟩
    refine ⟨_, ?_, rfl⟩
    rwa [htext, dropPlus_dropMark_append hmark hsign hnumeral.isDigit]

/-! ### Reading within a byte -/

/-- The byte of digits that follow others with a byte. What does not fit is given up at once. -/
def byteFrom? (acc : UInt8) : List Char → Option UInt8
  | [] => some acc
  | c :: rest => do
    let scaled ← byte? (acc.toNat * 16)
    let d ← digitValue? c
    let next ← byte? (scaled.toNat + d)
    byteFrom? next rest

/-- The id of a text, read without ever holding more than a byte. -/
def parseInByte? (text : String) : Option UInt8 :=
  match dropPlus (dropMark text.toList) with
  | [] => none
  | ds => byteFrom? 0 ds

theorem le_of_valueFrom? {acc n : Nat} {cs : List Char} (h : valueFrom? acc cs = some n) :
    acc ≤ n := by
  obtain ⟨-, rfl⟩ := valueFrom?_eq_some_iff.1 h
  have := Nat.le_mul_of_pos_right acc (Nat.pow_pos (n := cs.length) (show 0 < 16 by decide))
  omega

theorem exists_byte?_eq {n : Nat} (h : n < 256) : ∃ b, byte? n = some b ∧ b.toNat = n :=
  ⟨UInt8.ofNat n, if_pos h, UInt8.toNat_ofNat_of_lt' h⟩

theorem byte?_eq_none {n : Nat} (h : 256 ≤ n) : byte? n = none :=
  if_neg (Nat.not_lt.2 h)

/-- A number that is too large for a byte does not become smaller by further digits. -/
theorem valueFrom?_bind_byte?_eq_none {acc : Nat} (h : 256 ≤ acc) (cs : List Char) :
    (valueFrom? acc cs).bind byte? = none :=
  Option.bind_eq_none_iff.2 fun _ hn => byte?_eq_none (h.trans (le_of_valueFrom? hn))

/-- A byte is enough to read a byte, whatever the number of digits. -/
theorem byteFrom?_eq_bind (acc : UInt8) (cs : List Char) :
    byteFrom? acc cs = (valueFrom? acc.toNat cs).bind byte? := by
  induction cs generalizing acc with
  | nil => exact (byte?_eq_some_iff.2 rfl).symm
  | cons c cs ih =>
    rw [byteFrom?, valueFrom?]
    cases hd : digitValue? c with
    | none => cases byte? (acc.toNat * 16) <;> rfl
    | some d =>
      rw [Option.bind_some]
      by_cases hnext : acc.toNat * 16 + d < 256
      · obtain ⟨scaled, hscaled, hs⟩ := exists_byte?_eq (Nat.lt_of_add_right_lt hnext)
        obtain ⟨next, hnext, hn⟩ := exists_byte?_eq hnext
        rw [← hn, ← ih next, hscaled]
        simp [hs, hnext]
      · rw [valueFrom?_bind_byte?_eq_none (Nat.not_lt.1 hnext)]
        cases hscaled : byte? (acc.toNat * 16) with
        | none => rfl
        | some scaled =>
          rw [byte?_eq_some_iff] at hscaled
          simp [← hscaled, byte?_eq_none (Nat.not_lt.1 hnext)]

/-- **Reading needs no more than a byte.** -/
theorem parse?_eq_parseInByte? (text : String) : parse? text = parseInByte? text := by
  rw [parse?_eq_bind, parseInByte?]
  cases dropPlus (dropMark text.toList) with
  | nil => rfl
  | cons c cs => exact (byteFrom?_eq_bind 0 (c :: cs)).symm

/-! ### Signs -/

/-- The sign of a text that spells a number can be seen. -/
theorem Spells.plus_mem_iff {sign : List Char} {text : String} {n : Nat} (h : Spells sign text n) :
    '+' ∈ text.toList ↔ '+' ∈ sign := by
  obtain ⟨mark, hmark, ds, htext, hnumeral⟩ := h
  have hmarks : ∀ mark ∈ marks, '+' ∉ mark := by decide
  have hds : '+' ∉ ds := fun hmem => absurd (hnumeral.isDigit _ hmem) (by decide)
  rw [htext]
  simp [hmarks mark hmark, hds]

theorem Spells.not_plus {text : String} {n n' : Nat} (h : Spells [] text n) :
    ¬ Spells ['+'] text n' := fun h' =>
  List.not_mem_nil (h.plus_mem_iff.1 (h'.plus_mem_iff.2 (List.mem_singleton_self _)))

end HexId

open HexId (Spells)

/-- **The keys that name ids.** A key names an id that a numeral in it stands for, behind a mark and
a plus sign that may both be missing; every other key is refused. Marked numerals alone are all that
names ids except where there is a plus sign. No more than a byte is needed to read a key. -/
theorem readId_spells (raw : String) :
    (∀ id : UInt8,
        readId raw = .ok id ↔ Spells [] raw id.toNat ∨ Spells ['+'] raw id.toNat) ∧
      (readId raw = .error (.invalidId raw) ↔
        ∀ n < 256, ¬ Spells [] raw n ∧ ¬ Spells ['+'] raw n) ∧
      ((∀ id : UInt8, readId raw = .ok id ↔ Spells [] raw id.toNat) ↔
        ∀ n < 256, ¬ Spells ['+'] raw n) ∧
      HexId.parse? raw = HexId.parseInByte? raw := by
  have hok (id : UInt8) :
      readId raw = .ok id ↔ Spells [] raw id.toNat ∨ Spells ['+'] raw id.toNat := by
    rw [readId_eq_ok_iff, HexId.parse?_eq_some_iff]
    simp [HexId.signs]
  have hbyte {P : Nat → Prop} : (∀ n < 256, P n) ↔ ∀ id : UInt8, P id.toNat :=
    ⟨fun h id => h _ id.toNat_lt, fun h n hn => UInt8.toNat_ofNat_of_lt' hn ▸ h (UInt8.ofNat n)⟩
  refine ⟨hok, ?_, ?_, HexId.parse?_eq_parseInByte? raw⟩
  · have herror : readId raw = .error (.invalidId raw) ↔ ∀ id, readId raw ≠ .ok id := by
      rw [readId_eq_error_iff, and_iff_left rfl, Option.eq_none_iff_forall_ne_some]
      simp only [ne_eq, readId_eq_ok_iff]
    rw [herror, hbyte]
    simp only [ne_eq, hok, not_or]
  · rw [hbyte]
    refine forall_congr' fun id => ?_
    rw [hok]
    exact ⟨fun h hplus => (h.1 (.inr hplus)).not_plus hplus, fun h => or_iff_left h⟩

/-- **A plus sign is let pass**: the key names an id, although no marked numeral is in it. -/
theorem readId_plus : readId "+f" = .ok 15 ∧ ∀ n, ¬ Spells [] "+f" n :=
  ⟨by decide +kernel, fun _ h => List.not_mem_nil (h.plus_mem_iff.1 (by decide +kernel))⟩

end SensorCatalog
