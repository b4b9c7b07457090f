/-! Paths of files, as texts and as the steps they take. -/

namespace Unified2

namespace FilePath

/-- The steps of a path, blank ones included. -/
def steps (path : String) : List String := (path.toList.splitOn '/').map String.ofList

/-- The steps that lead anywhere. -/
def names (path : String) : List String :=
  -- Two dots stay, because only the files could tell what they lead to.
  (steps path).filter fun step => step != "" && step != "."

/-- The slashes that a path from the top starts with: two mean something else than one, three do
not. -/
def root (path : String) : String :=
  -- From three on, more slashes say no more than one.
  if path.startsWith "///" then "/"
  else if path.startsWith "//" then "//"
  else if path.startsWith "/" then "/"
  else ""

/-- The shortest spelling of a path that does not look at any file. -/
def normalize (path : String) : String :=
  let text := root path ++ "/".intercalate (names path)
  -- Nothing at all means the directory that paths start from.
  if text = "" then "." else text

end FilePath

end Unified2
