import Stencil.Path
import Stencil.Text.Quoted
import Stencil.Text.Utf8

/-!
# `Stencil.Disk.Basic` — what is found at a path

## Contents
- **`Reading`**, what there is at a path, and **`Disk`**, a reading for every path.
- **`Disk.file?`**, the file at a path if there is one; a name that is too long is a fault even here.
- **`textOfOctets`**, the text of a file: UTF-8, with line ends unified.
-/

namespace Stencil

/-- What there is at a path. -/
inductive Reading where
  | file (octets : List UInt8)
  | folder
  | missing
  /-- A part of the path that should be a folder is a file. -/
  | notFolder
  /-- A part of the path, or all of it, is too long. -/
  | nameTooLong
  /-- The path holds the null character. -/
  | nullCharacter
deriving DecidableEq, Repr

/-- What there is at every path. -/
abbrev Disk := Path → Reading

/-- What stops a look at a path. -/
inductive DiskFault where
  | nameTooLong (path : Path)
deriving DecidableEq, Repr

/-- What is said of a fault. -/
def DiskFault.message : DiskFault → Text
  | .nameTooLong path => Text.of "[Errno 36] File name too long: " ++ path.toText.quoted

/-- The octets of the file at a path, if there is a file. -/
def Disk.file? (disk : Disk) (path : Path) : Except DiskFault (Option (List UInt8)) :=
  match disk path with
  | .file octets => .ok (some octets)
  | .nameTooLong => .error (.nameTooLong path)
  | .folder | .missing | .notFolder | .nullCharacter => .ok none

/-- The text that the octets of a file hold. -/
def textOfOctets (octets : List UInt8) : Except Utf8.Fault Text :=
  (Utf8.decode octets).map Text.unifyLineEnds

end Stencil
