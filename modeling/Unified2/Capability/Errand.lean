import Unified2.Capability.Path
import Unified2.Capability.Registry
import Unified2.Log.Record
import Unified2.Queue

/-! What a program has others do: looking for modules, calling what they hold, running a service.
An errand may fail, and what the log was told and what has changed by then stays. -/

namespace Unified2

/-- Why something was not loaded, or did not become part of a host. -/
inductive LoadError
  /-- The import path names no module. -/
  | noModuleName (path : ImportPath)
  | registry (error : RegistryError)
  | queue (error : QueueError)
  /-- What is no part of the program failed, for a reason of its own. -/
  | outside (kind message : String)
  deriving DecidableEq, Repr

/-- The wording of the error. -/
def LoadError.message : LoadError → String
  | noModuleName path => s!"bad capability import string {Text.quotedPoints path}"
  | registry error => error.message
  | queue error => error.message
  | outside _ message => message

/-- What came of an errand. -/
structure Report (World α : Type) where
  result : Except LoadError α
  /-- What the log was told meanwhile. -/
  log : List LogEvent
  /-- The world afterwards. -/
  world : World

/-- The report of an errand that had others before it. -/
def Report.behind {World α : Type} (report : Report World α) (log : List LogEvent) :
    Report World α :=
  { report with log := log ++ report.log }

/-- Something that is done in a world. -/
def Errand (World α : Type) : Type := World → Report World α

namespace Errand

variable {World α : Type}

instance : Monad (Errand World) where
  -- What is known already costs nothing and is told to nobody.
  pure value := fun world => ⟨.ok value, [], world⟩
  bind errand next := fun world =>
    match errand world with
    | ⟨.ok value, log, after⟩ => (next value after).behind log
    -- A failure ends it all, but takes back nothing.
    | ⟨.error error, log, after⟩ => ⟨.error error, log, after⟩

/-- Fails, and changes nothing. -/
def fail (error : LoadError) : Errand World α := fun world => ⟨.error error, [], world⟩

/-- What was found out without any errand. -/
def lift (result : Except LoadError α) : Errand World α := fun world => ⟨result, [], world⟩

/-- Tells the log something. -/
def tell (log : List LogEvent) : Errand World Unit := fun world => ⟨.ok (), log, world⟩

end Errand

end Unified2
