import Unified2.Json.Escape
import Unified2.Log.Level

/-! Log records and the lines they are written as. -/

namespace Unified2

/-- Something worth telling, by the part of the program that tells it. -/
structure LogRecord where
  component : String
  level : LogLevel
  message : String
  /-- The text of a failure that belongs to the record. -/
  failure : Option String := none
  deriving DecidableEq, Repr

/-- The full names of the failures that the program itself defines. -/
def LogRecord.ownFailures : List (String × String) :=
  [("DecodingError", "unified2_mcp.core.errors.DecodingError"),
   ("Unified2Error", "unified2_mcp.core.errors.Unified2Error")]

/-- The failures whose message is a text of a program, with what is said without one. -/
def LogRecord.sourceFailures : List String := ["SyntaxError", "IndentationError", "TabError"]

/-- What a failure of a kind says: a missing key is shown in quotes. -/
def LogRecord.failureMessage (kind message : String) : String :=
  if kind = "KeyError" then Text.quoted message
  -- Such a failure has a place for its detail, which is never left blank.
  else if sourceFailures.contains kind && message = "" then "<no detail available>"
  else message

/-- The text of a failure by its kind and its message; without a message the kind is all. -/
def LogRecord.failureText (kind message : String) : String :=
  let message := failureMessage kind message
  let kind := (ownFailures.lookup kind).getD kind
  -- A failure that says nothing has no colon behind its kind.
  if message = "" then kind else kind ++ ": " ++ message

/-- What a line of the log tells, all of it as text. -/
structure LogEntry where
  timestamp : String
  level : String
  component : String
  message : String
  /-- The text of a failure, if one belongs to the line. -/
  failure : Option String
  deriving DecidableEq, Repr

/-- The members of a line, in order. -/
def LogEntry.members (entry : LogEntry) : List (String × String) :=
  -- The order is the same in every line.
  [("timestamp", entry.timestamp), ("level", entry.level), ("component", entry.component),
    ("message", entry.message)] ++
  match entry.failure with
  -- The member is left out where there is no failure, not left empty.
  | some text => [("exception", text)]
  | none => []

/-- The line of an entry, a JSON object. -/
def LogEntry.line (entry : LogEntry) : String := Json.line entry.members

/-- What the line of a record tells. -/
def LogRecord.entry (timestamp : String) (record : LogRecord) : LogEntry where
  timestamp
  level := record.level.name
  component := record.component
  message := record.message
  failure := record.failure

/-- A record as one line. -/
def LogRecord.line (timestamp : String) (record : LogRecord) : String :=
  (record.entry timestamp).line

/-- What the log is told: something worth telling, or what to heed from then on. -/
inductive LogEvent
  | record (record : LogRecord)
  /-- The log is set up for records of a severity or more. -/
  | setup (severity : Nat)
  /-- The outer default is set to a severity; it counts where the log itself asks for none. -/
  | outer (severity : Nat)
  deriving DecidableEq, Repr

/-- Which records are written, and how often each of them. -/
structure LogSetup where
  /-- The least severity asked for; zero leaves the choice to the outer default. -/
  threshold : Nat := 0
  /-- The least severity that counts when none was asked for. -/
  outerThreshold : Nat := LogLevel.warning.severity
  /-- The writers that were attached; each of them writes every record. -/
  writers : Nat := 0
  /-- The components that told something so far. -/
  known : List String := []
  /-- What was decided since the last setup, by component and level. -/
  decided : List ((String × LogLevel) × Bool) := []
  deriving DecidableEq, Repr

namespace LogSetup

/-- The component that all others are part of. -/
def root : String := "unified2_mcp"

/-- Whether a name, read from its end, leads up to the root. Up from a name is what stands before
its last dot, if that is the root or a known component. -/
def leadsToRoot (known : List String) : List Char → Bool
  | '.' :: char :: rest =>
    let above := String.ofList (char :: rest).reverse
    if above = root then true
    else if above ∈ known then leadsToRoot known (char :: rest)
    -- Otherwise the next dot counts, but never one that stands right beside this one.
    else leadsToRoot known rest
  | _ :: rest => leadsToRoot known rest
  | [] => false

/-- Whether a component is the root or part of it. -/
def covers (setup : LogSetup) (component : String) : Bool :=
  component == root || leadsToRoot setup.known component.toList.reverse

/-- The least severity that counts for the root. -/
def least (setup : LogSetup) : Nat :=
  if setup.threshold = 0 then setup.outerThreshold else setup.threshold

/-- Whether a level is severe enough for a component; what was decided before stands. -/
def heeds (setup : LogSetup) (component : String) (level : LogLevel) : Bool :=
  (setup.decided.lookup (component, level)).getD <|
    -- What is not part of the root goes by the outer default alone.
    (if setup.covers component then setup.least else setup.outerThreshold) ≤ level.severity

/-- Whether a record is written at all. -/
def admits (setup : LogSetup) (record : LogRecord) : Bool :=
  setup.covers record.component && setup.heeds record.component record.level

/-- The setup for records of a severity or more; a writer is attached if there is none, and
everything is decided anew. -/
def heed (setup : LogSetup) (severity : Nat) : LogSetup :=
  -- A writer that is there already stays the only one.
  { setup with threshold := severity, writers := max setup.writers 1, decided := [] }

/-- Sets the threshold by a level text. -/
def configure (setup : LogSetup) (level : String) : Except LevelError LogSetup := do
  return setup.heed (← LogLevel.requested level)

/-- Sets the threshold by one level text after the other. -/
def configureAll (setup : LogSetup) : List String → Except LevelError LogSetup
  | [] => .ok setup
  | level :: rest => do (← setup.configure level).configureAll rest

/-- The setup after the log was told something. -/
def after (setup : LogSetup) : LogEvent → LogSetup
  | .record record => { setup with
      -- From now on the component can stand above others, and what was decided for it stays.
      known := setup.known.insert record.component
      decided := ((record.component, record.level), setup.heeds record.component record.level) ::
        setup.decided }
  | .setup severity => setup.heed severity
  | .outer severity => { setup with outerThreshold := severity, decided := [] }

/-- The lines that are written when the log is told something. -/
def write (setup : LogSetup) (timestamp : String) : LogEvent → List String
  | .record record =>
    -- Every writer writes the line on its own.
    if setup.admits record then List.replicate setup.writers (record.line timestamp) else []
  | .setup _ | .outer _ => []

/-- The lines that are written while the log is told one thing after the other. -/
def trace (setup : LogSetup) (timestamp : String) : List LogEvent → List String
  | [] => []
  | event :: rest => setup.write timestamp event ++ (setup.after event).trace timestamp rest

/-- The lines that records are written as, one after the other. -/
def lines (setup : LogSetup) (timestamp : String) (records : List LogRecord) : List String :=
  setup.trace timestamp (records.map .record)

end LogSetup

end Unified2
