import Unified2.Host

/-! A session: files that change, a clock that only moves when told to, and whatever reads the
files meanwhile. -/

namespace Unified2

/-- What can be done in a session. -/
inductive Command
  | write (path : String) (bytes : Bytes)
  | append (path : String) (bytes : Bytes)
  | delete (path : String)
  | rename (path target : String)
  | makeDirectory (path : String)
  | openTail (path : String) (offset : Int) (skipCorrupt : Bool)
  | pollTail (limit : Option Int)
  /-- A poll after which the file is closed. -/
  | pollTailOnce (limit : Option Int)
  | describeTail
  | closeTail
  | newReader
  | readPage (path : String) (offset limit : Int)
  | describeReader
  | newCollector (interval : Binary64) (capacity : Option Int) (batch : Int)
  | startCollector (path : String) (offset : Int)
  | stopCollector
  | fetch (limit : Option Int)
  | describeCollector
  /-- A host with the capabilities of its settings, or with those of other import paths. -/
  | newHost (environment : Environment) (paths : Option (List ImportPath))
  | call (call : ToolCall)
  | runHost
  /-- One turn of the collector, if it is ready. -/
  | tick
  /-- Turns until the collector waits or has ended. -/
  | settle
  | elapse (seconds : Binary64)

/-- What a command that did not fail answers. -/
inductive Answer
  | done
  | tailAt (offset : Int)
  | polled (answer : Except PollError (List Record)) (offset : Int)
  | tail (tail : Tail)
  | page (page : Page)
  | reader (reader : PageReader)
  | text (text : String)
  | fetched (fetch : Fetch)
  | collector (collector : Collector)
  | names (names : List String)
  | tool (answer : ToolAnswer)

/-- Why a command failed. -/
inductive CommandError
  | file (error : FileError)
  | queue (error : QueueError)
  | settings (error : SettingsError)
  | load (error : LoadError)
  | registry (error : RegistryError)
  deriving DecidableEq, Repr

/-- The state of a session. -/
structure Session where
  files : FileStore := {}
  now : Instant := Instant.start
  tail : Option Tail := none
  reader : PageReader := {}
  collector : Option Collector := none
  host : Option Host := none
  log : List LogEvent := []

namespace Session

/-- What a command does: its answer and the session after it. -/
abbrev Outcome := Except CommandError Answer × Session

/-- The session after the log was told something. -/
def note (session : Session) (records : List LogRecord) : Session :=
  { session with log := session.log ++ records.map LogEvent.record }

/-- A change of the files. -/
def changeFiles (session : Session) (changed : Except FileError FileStore) : Outcome :=
  match changed with
  | .ok files => (.ok .done, { session with files })
  | .error error => (.error (.file error), session)

/-- A step of the cursor, if there is one. -/
def withTail (session : Session) (step : Tail → Outcome) : Outcome :=
  match session.tail with
  | some tail => step tail
  | none => (.ok .done, session)

/-- The answer of a poll, and the session after it; a poll that failed still answers. -/
def afterPoll (session : Session) (poll : Poll) : Outcome :=
  (.ok (.polled poll.answer poll.tail.offset),
    { session with tail := some poll.tail }.note poll.log)

/-- A step of the collector, if there is one. -/
def withCollector (session : Session) (step : Collector → Outcome) : Outcome :=
  match session.collector with
  | some collector => step collector
  | none => (.ok .done, session)

/-- Lets the collector and that of the host take their turns. -/
def drive (session : Session)
    (turns : Collector → FileStore → Instant → Collector × List LogRecord) : Session :=
  let session := match session.collector with
    | none => session
    | some collector =>
      let (collector, log) := turns collector session.files session.now
      { session with collector := some collector }.note log
  match session.host with
  | none => session
  | some host => match host.collector? with
    | none => session
    | some collector =>
      let (collector, log) := turns collector session.files session.now
      { session with host := some (host.withCollector collector) }.note log

/-- A new host. -/
def newHost (session : Session) (environment : Environment) (paths : Option (List ImportPath)) :
    Outcome :=
  match Settings.read environment with
  | .error error => (.error (.settings error), session)
  | .ok settings =>
    -- The environment is that of the host; the process itself was started without variables.
    -- The paths that are given take the place of those in the settings.
    match Host.new {} settings (paths.getD settings.capabilities) with
    | (.error error, log) => (.error (.load error), { session with log := session.log ++ log })
    | (.ok host, log) =>
      (.ok (.names host.tools), { session with host := some host, log := session.log ++ log })

/-- A call of a tool of the host. -/
def callTool (session : Session) (call : ToolCall) : Outcome :=
  match session.host with
  | none => (.ok (.tool (.noTool call.tool)), session)
  | some host =>
    -- The host may have changed even if the call failed.
    let (answer, host, log) := host.call session.files call
    let session := { session with host := some host }.note log
    match answer with
    -- These two the tool does not catch, so the caller meets them as they are.
    | .registryError error => (.error (.registry error), session)
    | .fileError error => (.error (.file error), session)
    | answer => (.ok (.tool answer), session)

/-- Carries out a command. -/
def step (session : Session) : Command → Outcome
  | .write path bytes => session.changeFiles (session.files.write path bytes)
  | .append path bytes => session.changeFiles (session.files.append path bytes)
  | .delete path => session.changeFiles (session.files.delete path)
  | .rename path target => session.changeFiles (session.files.rename path target)
  | .makeDirectory path => session.changeFiles (session.files.makeDirectory path)
  -- A cursor that is opened has looked at no file yet, so this never fails.
  | .openTail path offset skipCorrupt =>
    (.ok (.tailAt offset), { session with tail := some (Tail.new path offset skipCorrupt) })
  | .pollTail limit =>
    session.withTail fun tail => session.afterPoll (tail.poll session.files limit)
  | .pollTailOnce limit =>
    session.withTail fun tail => session.afterPoll (tail.pollOnce session.files limit)
  | .describeTail => session.withTail fun tail => (.ok (.tail tail), session)
  | .closeTail => session.withTail fun tail =>
    (.ok (.tailAt tail.close.offset), { session with tail := some tail.close })
  | .newReader => (.ok .done, { session with reader := {} })
  -- The reader counts the call whether or not the file opens.
  | .readPage path offset limit =>
    match session.reader.read session.files path offset limit with
    | (.ok page, reader, log) => (.ok (.page page), { session with reader }.note log)
    | (.error error, reader, log) => (.error (.file error), { session with reader }.note log)
  | .describeReader => (.ok (.reader session.reader), session)
  | .newCollector interval capacity batch =>
    match Collector.new interval capacity batch with
    | .ok collector => (.ok .done, { session with collector := some collector })
    | .error error => (.error (.queue error), session)
  -- Being turned down is an answer like any other; only the system's own refusal is an error.
  | .startCollector path offset => session.withCollector fun collector =>
    match collector.start session.files path offset with
    | .error error => (.error (.file error), session)
    | .ok (answer, collector, log) =>
      (.ok (.text answer.message), { session with collector := some collector }.note log)
  | .stopCollector => session.withCollector fun collector =>
    let (answer, collector, log) := collector.stop
    (.ok (.text answer.message), { session with collector := some collector }.note log)
  | .fetch limit => session.withCollector fun collector =>
    let (fetch, collector) := collector.fetch limit
    (.ok (.fetched fetch), { session with collector := some collector })
  | .describeCollector => session.withCollector fun collector =>
    (.ok (.collector collector), session)
  | .newHost environment paths => session.newHost environment paths
  | .call call => session.callTool call
  -- In a session the service takes the host over and comes back at once.
  | .runHost => match session.host with
    | none => (.ok .done, session)
    | some host =>
      (.ok (.names [Assembly.serviceName]),
        { session with log := session.log ++ [host.startNotice] })
  | .tick => (.ok .done, session.drive Collector.tick)
  | .settle => (.ok .done, session.drive Collector.settle)
  | .elapse seconds =>
    -- The clock moves first, so a new deadline counts from the new time.
    let session := { session with now := session.now.add seconds }
    (.ok .done, session.drive Collector.reach)

/-- Stops what still runs and closes the file of the cursor. -/
def close (session : Session) : Session :=
  -- What runs in the background is stopped first, so its last word is in the log.
  let session := session.drive fun collector _ _ =>
    let (_, collector, log) := collector.stop
    (collector, log)
  { session with tail := session.tail.map Tail.close }

/-- Carries out commands one after the other, and closes the session after the last. -/
def run : Session → List Command → List (Except CommandError Answer) × Session
  | session, [] => ([], session.close)
  | session, command :: rest =>
    let (answer, session) := session.step command
    let (answers, session) := run session rest
    (answer :: answers, session)

end Session

end Unified2
