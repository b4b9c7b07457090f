import Unified2.Bytes
import Unified2.File.Error
import Unified2.File.Path

/-! Files by path. A path leads to a file by its number, so that a file that is open stays the same
when its path is renamed or deleted. -/

namespace Unified2

/-- What a path can lead to. -/
inductive FileNode
  | directory
  | file (number : Nat)
  deriving DecidableEq, Repr

/-- Where a path leads, as names from the working directory on. -/
abbrev Location := List String

/-- The files and directories below the working directory, and the content of every file that
ever was. -/
structure FileStore where
  nodes : List (Location × FileNode) := []
  contents : List Bytes := []
  deriving Repr

namespace FileStore

/-- What is at a location; the directories around the working directory are always there. -/
def node? (store : FileStore) (location : Location) : Option FileNode :=
  if location.all fun name => name == ".." || name == "/" then some .directory
  else store.nodes.lookup location

/-- The content of a file. -/
def content (store : FileStore) (number : Nat) : Bytes := (store.contents[number]?).getD []

/-- One step up; above the working directory every further step is remembered. -/
def parent (location : Location) : Location :=
  match location.getLast? with
  | none | some ".." => location ++ [".."]
  | some "/" => location
  | some _ => location.dropLast

/-- What a directory holds under a name, if the name can be one. -/
def entry? (store : FileStore) (directory : Location) (name : String) :
    Except FileFault (Option FileNode) :=
  -- What counts is the bytes of the name, not its characters.
  if 255 < name.utf8ByteSize then .error .nameTooLong
  else .ok (store.node? (directory ++ [name]))

/-- Follows steps from a directory; each of them must lead to a directory. -/
def follow (store : FileStore) : Location → (steps : List String) → Except FileFault Location
  | location, [] => .ok location
  | location, step :: rest =>
    if step = "." then store.follow location rest
    -- There are no links, so a step up is always the way back.
    else if step = ".." then store.follow (parent location) rest
    else do
      match ← store.entry? location step with
      | none => throw .notFound
      | some (.file _) => throw .notDirectory
      | some .directory => store.follow (location ++ [step]) rest

/-- Where a path ends. -/
inductive Arrival
  /-- At a name in a directory; a slash after it asks for a directory there. -/
  | entry (directory : Location) (name : String) (slash : Bool)
  /-- At a directory that the last step does not name. -/
  | directory
  deriving DecidableEq, Repr

/-- Where a path ends, whether or not there is anything; all steps but the last must lead to
directories. -/
def arrive (store : FileStore) (path : String) : Except FileFault Arrival := do
  if path = "" then throw .notFound
  else if 4096 ≤ path.utf8ByteSize then throw .nameTooLong
  else
    -- Slashes side by side are one, and a slash at the end is remembered apart.
    let steps := (FilePath.steps path).filter (· != "")
    let directory ← store.follow (if path.startsWith "/" then ["/"] else []) steps.dropLast
    match steps.getLast? with
    | none | some "." | some ".." => return .directory
    | some name => return .entry directory name (path.endsWith "/")

/-- The number of the file that a path leads to, which must be there. -/
def fileNumberAt (store : FileStore) (path : String) : Except FileFault Nat := do
  match ← store.arrive path with
  | .directory => throw .isDirectory
  | .entry directory name slash =>
    match ← store.entry? directory name with
    | none => throw .notFound
    | some .directory => throw .isDirectory
    | some (.file number) => if slash then throw .notDirectory else return number

/-- The number of the file that a path leads to. -/
def fileNumber (store : FileStore) (path : String) : Except FileError Nat :=
  if path.contains '\x00' then .error .nulInPath
  else (store.fileNumberAt path).mapError fun fault => .refused fault path

/-- Whether a path leads to a file; of a path that is too long nothing can be said. -/
def isFile (store : FileStore) (path : String) : Except FileError Bool :=
  match store.fileNumber path with
  -- All other faults mean that no file is there.
  | .ok _ => .ok true
  | .error error => if error.fault? = some .nameTooLong then .error error else .ok false

/-- Puts a node at a location in place of whatever was there. -/
def place (store : FileStore) (location : Location) (node : FileNode) : FileStore :=
  -- The content of a file that was there stays, for whoever has it open.
  { store with nodes := (location, node) :: store.nodes.filter (·.1 != location) }

/-- The store without what is at a location. -/
def without (store : FileStore) (location : Location) : FileStore :=
  { store with nodes := store.nodes.filter (·.1 != location) }

/-- The store after the content at a path changed, that of a new file if there is none. -/
def modifyAt (store : FileStore) (path : String) (change : Bytes → Bytes) :
    Except FileFault FileStore := do
  match ← store.arrive path with
  -- A file is never made where the path asks for a directory.
  | .directory | .entry _ _ true => throw .isDirectory
  | .entry directory name false =>
    match ← store.entry? directory name with
    | some .directory => throw .isDirectory
    | some (.file number) =>
      return { store with contents := store.contents.modify number change }
    | none =>
      -- The number of a new file is one that no other file ever had.
      let store := store.place (directory ++ [name]) (.file store.contents.length)
      return { store with contents := store.contents ++ [change []] }

/-- Changes the content at a path. -/
def modify (store : FileStore) (path : String) (change : Bytes → Bytes) :
    Except FileError FileStore :=
  if path.contains '\x00' then .error .nulInPath
  else (store.modifyAt path change).mapError fun fault => .refused fault path

/-- Replaces the content at a path. -/
def write (store : FileStore) (path : String) (bytes : Bytes) : Except FileError FileStore :=
  store.modify path fun _ => bytes

/-- Adds to the content at a path. -/
def append (store : FileStore) (path : String) (bytes : Bytes) : Except FileError FileStore :=
  store.modify path (· ++ bytes)

/-- The store after a file was taken from its path. -/
def deleteAt (store : FileStore) (path : String) : Except FileFault FileStore := do
  match ← store.arrive path with
  | .directory => throw .isDirectory
  | .entry directory name slash =>
    match ← store.entry? directory name with
    | none => throw .notFound
    | some .directory => throw .isDirectory
    | some (.file _) =>
      -- Only the path goes; the content keeps its number.
      if slash then throw .notDirectory else return store.without (directory ++ [name])

/-- Takes a file from its path; its content stays for whoever has it open. -/
def delete (store : FileStore) (path : String) : Except FileError FileStore :=
  if path.contains '\x00' then .error .nulInPath
  else (store.deleteAt path).mapError fun fault => .refused fault path

/-- The store after a directory was made. -/
def makeDirectoryAt (store : FileStore) (path : String) : Except FileFault FileStore := do
  match ← store.arrive path with
  | .directory => throw .taken
  | .entry directory name _ =>
    match ← store.entry? directory name with
    | some _ => throw .taken
    | none => return store.place (directory ++ [name]) .directory

/-- Makes a directory. -/
def makeDirectory (store : FileStore) (path : String) : Except FileError FileStore :=
  if path.contains '\x00' then .error .nulInPath
  else (store.makeDirectoryAt path).mapError fun fault => .refused fault path

/-- Whether one location is another or below it. -/
def isWithin (location top : Location) : Bool := top.isPrefixOf location

/-- The location of what was below one location and is now below another. -/
def moved (source target location : Location) : Location :=
  if isWithin location source then target ++ location.drop source.length else location

/-- The store after a node went from one location to another, in place of what was there. -/
def move (store : FileStore) (source target : Location) : FileStore :=
  let others := store.without target
  -- What is below the source goes along with it.
  { others with nodes := others.nodes.map fun (location, node) =>
      (moved source target location, node) }

/-- Why a node cannot go from one location to another, if it cannot: only a file takes the place
of a file, and only a directory that of an empty directory. -/
def obstacle? (store : FileStore) (source target : Location) (node : FileNode)
    (occupant : Option FileNode) : Option FileFault :=
  -- Nothing can go below itself.
  if source != target && isWithin target source then some .invalid
  -- What the source is in cannot make way for it.
  else if source != target && isWithin source target then some .notEmpty
  else match node, occupant with
    | .directory, some (.file _) => some .notDirectory
    | .file _, some .directory => some .isDirectory
    | .directory, some .directory =>
      if source != target &&
        store.nodes.any fun (location, _) => location != target && isWithin location target
      then some .notEmpty
      else none
    | _, _ => none

/-- The store after what was at a path went to another path. -/
def renameAt (store : FileStore) (path target : String) : Except FileFault FileStore := do
  let start ← store.arrive path
  let goal ← store.arrive target
  match start, goal with
  | .entry home name slash, .entry other otherName otherSlash =>
    match ← store.entry? home name with
    | none => throw .notFound
    | some node =>
      let occupant ← store.entry? other otherName
      let source := home ++ [name]
      let destination := other ++ [otherName]
      -- A file is not where a path asks for a directory.
      if node != .directory && (slash || otherSlash) then throw .notDirectory
      else match store.obstacle? source destination node occupant with
        | some fault => throw fault
        | none => return if source = destination then store else store.move source destination
  -- One of the paths ends in dots or at the top, which cannot be taken away or replaced.
  | _, _ => throw .busy

/-- Moves what is at a path, and all that is below it, to another path; a file that was there
loses its path and keeps its content. -/
def rename (store : FileStore) (path target : String) : Except FileError FileStore :=
  if path.contains '\x00' || target.contains '\x00' then .error .nulInPath
  else (store.renameAt path target).mapError fun fault => .notMoved fault path target

end FileStore

end Unified2
