import Unified2.Text.Quoted

/-! What goes wrong with files. -/

namespace Unified2

/-- What the system has against a request. -/
inductive FileFault
  | notFound
  /-- The path ends in a step that names nothing of its own. -/
  | busy
  /-- There is something at the path already. -/
  | taken
  /-- A step of the path leads through something that is no directory. -/
  | notDirectory
  /-- The path leads to a directory, which has no content. -/
  | isDirectory
  | invalid
  /-- The path, or a name in it, is longer than any path can be. -/
  | nameTooLong
  | notEmpty
  deriving DecidableEq, Repr

namespace FileFault

/-- The number of the fault in the system's list. -/
def number : FileFault → Nat
  | notFound => 2
  | busy => 16
  | taken => 17
  | notDirectory => 20
  | isDirectory => 21
  | invalid => 22
  | nameTooLong => 36
  | notEmpty => 39

/-- The wording of the fault. -/
def description : FileFault → String
  | notFound => "No such file or directory"
  | busy => "Device or resource busy"
  | taken => "File exists"
  | notDirectory => "Not a directory"
  | isDirectory => "Is a directory"
  | invalid => "Invalid argument"
  | nameTooLong => "File name too long"
  | notEmpty => "Directory not empty"

end FileFault

/-- Why a file operation was refused. -/
inductive FileError
  | refused (fault : FileFault) (path : String)
  /-- A path was not given another one. -/
  | notMoved (fault : FileFault) (path target : String)
  /-- The offset is negative. -/
  | negativeOffset
  /-- The offset does not fit the signed 64 bits of a file offset. -/
  | offsetTooWide
  /-- The path holds the character that ends every path. -/
  | nulInPath
  deriving DecidableEq, Repr

namespace FileError

/-- What the system has against the request; some requests never reach it. -/
def fault? : FileError → Option FileFault
  | refused fault _ | notMoved fault _ _ => some fault
  | negativeOffset => some .invalid
  -- Both are found before the system is asked for anything.
  | offsetTooWide | nulInPath => none

/-- The wording of the error. -/
def message : FileError → String
  | refused fault path => s!"[Errno {fault.number}] {fault.description}: {Text.quoted path}"
  | notMoved fault path target =>
    s!"[Errno {fault.number}] {fault.description}: {Text.quoted path} -> {Text.quoted target}"
  | negativeOffset => s!"[Errno {FileFault.invalid.number}] {FileFault.invalid.description}"
  | offsetTooWide => "cannot fit 'int' into an offset-sized integer"
  | nulInPath => "embedded null byte"

end FileError

end Unified2
