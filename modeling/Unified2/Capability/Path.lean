import Unified2.Text.CodeText

/-! Import paths: what they are read as. -/

namespace Unified2

/-- The name of a module and of something in it, with a colon between them. -/
abbrev ImportPath := CodeText

namespace ImportPath

/-- The name that a path without one looks for. -/
def defaultMember : String := "build_capability"

/-- The module name and the member name of an import path, which its first colon parts. -/
def split (path : ImportPath) : CodeText × CodeText :=
  let moduleName := path.takeWhile (· != .char ':')
  -- A path without a colon ends with its module name, and then nothing is left to drop.
  let memberName := path.drop (moduleName.length + 1)
  (moduleName, if memberName.isEmpty then CodeText.ofString defaultMember else memberName)

end ImportPath

end Unified2
