/-!
# A file on a disk

A file is read and written as a whole, and both can fail through no fault of what is in it. To write
a file is to open it, which empties it, and then to fill it; so when writing fails, the file is as
it was or holds some front of what was to be written.

## Main definitions

* `Disk`, `Disk.Writing`: what comes of reading and of writing the file.
* `Disk.Writing.written?`, `Disk.Writing.fault?`: what the file is given, and why that is not all.
-/

namespace SensorCatalog

/-- What comes of writing a file. -/
inductive Disk.Writing where
  /-- All of it is written. -/
  | done
  /-- The file cannot be opened for writing, for this reason. -/
  | refused (reason : String)
  /-- The file is opened, but after so many bytes writing ends, for this reason. -/
  | brokenOff (count : Nat) (reason : String)
  deriving DecidableEq

/-- What comes of reading and of writing the file. -/
structure Disk where
  /-- Why the file cannot be read, even if it is there and is a text. -/
  readFault? : Option String := none
  /-- What comes of writing the file. -/
  writing : Disk.Writing := .done

namespace Disk.Writing

/-- What the file is given when some content is written, if it can be opened. -/
def written? (writing : Writing) (content : ByteArray) : Option ByteArray :=
  match writing with
  | .done => some content
  | .refused _ => none
  | .brokenOff count _ => some (content.extract 0 count)

/-- Why the content is not written, or not all of it. -/
def fault? : Writing → Option String
  | .done => none
  | .refused reason => some reason
  | .brokenOff _ reason => some reason

theorem fault?_eq_none_iff {writing : Writing} : writing.fault? = none ↔ writing = .done := by
  cases writing <;> simp [fault?]

end Disk.Writing

end SensorCatalog
