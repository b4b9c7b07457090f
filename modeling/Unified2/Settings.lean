import Unified2.Json.Reader

/-! Settings read from environment variables. -/

namespace Unified2

/-- Environment variables and their values. -/
abbrev Environment := List (String × String)

/-- Why an environment gives no settings. -/
inductive SettingsError
  | capabilities (error : JsonError)
  /-- The capabilities are a document of another form. -/
  | noStringList
  | number (error : NumberError)
  /-- The number that a variable holds is not positive. -/
  | notPositive (variableName : String)
  deriving DecidableEq, Repr

/-- The settings of a host. -/
structure Settings where
  /-- The import paths of the capabilities to load. -/
  capabilities : List CodeText
  logLevel : String
  /-- The seconds that a collector waits at the end of its file. -/
  pollInterval : Binary64
  /-- The most records that wait to be fetched. -/
  queueSize : Nat
  /-- The most records that one answer holds. -/
  readLimit : Nat
  deriving DecidableEq, Repr

namespace Settings

/-- The capabilities that are loaded when no others are asked for. -/
def defaultCapabilities : List CodeText :=
  ["unified2_mcp.capabilities.file_read.capability:build_capability",
   "unified2_mcp.capabilities.file_tail.capability:build_capability"].map CodeText.ofString

/-- The settings of an environment without variables. -/
def plain : Settings where
  capabilities := defaultCapabilities
  logLevel := "info"
  pollInterval := .finite false Binary64.unitsPerOne
  queueSize := 10000
  readLimit := 500

/-- The strings of a list of strings. -/
def strings? : List JsonValue → Option (List CodeText)
  | [] => some []
  -- Halves of pairs in a string are kept, so that a path is shown as it was written.
  | .string text :: rest => (text :: ·) <$> strings? rest
  | _ :: _ => none

/-- The capabilities that a variable asks for; an empty one asks for nothing. -/
def readCapabilities (environment : Environment) : Except SettingsError (List CodeText) :=
  match environment.lookup "U2_CAPABILITIES" with
  -- Only here an empty text counts as none; an empty number is no number.
  | none | some "" => .ok defaultCapabilities
  | some text =>
    match Json.parse text with
    | .error error => .error (.capabilities error)
    -- Strings are all that the list may hold; whether they lead anywhere is found out later.
    | .ok (.array items) =>
      match strings? items with
      | some paths => .ok paths
      | none => .error .noStringList
    | .ok _ => .error .noStringList

/-- The integer that a variable holds. -/
def readInteger (environment : Environment) (variableName fallback : String) :
    Except SettingsError Int :=
  -- The default is a text as well, and read like one that was given.
  (Integer.parse ((environment.lookup variableName).getD fallback)).mapError .number

/-- The decimal that a variable holds. -/
def readDecimal (environment : Environment) (variableName fallback : String) :
    Except SettingsError Binary64 :=
  (Decimal.parse ((environment.lookup variableName).getD fallback)).mapError .number

/-- The settings in an environment: all variables are read before any number is judged. -/
def read (environment : Environment) : Except SettingsError Settings := do
  let capabilities ← readCapabilities environment
  -- Any text will do for now; the log judges it when it is set up.
  let logLevel := (environment.lookup "U2_LOG_LEVEL").getD plain.logLevel
  let pollInterval ← readDecimal environment "U2_POLL_INTERVAL" "1.0"
  let queueSize ← readInteger environment "U2_QUEUE_SIZE" "10000"
  let readLimit ← readInteger environment "U2_READ_LIMIT" "500"
  -- A text that is no number is found before any number that is not positive.
  if pollInterval.isNotPositive then throw (.notPositive "U2_POLL_INTERVAL")
  else if queueSize ≤ 0 then throw (.notPositive "U2_QUEUE_SIZE")
  else if readLimit ≤ 0 then throw (.notPositive "U2_READ_LIMIT")
  else return {
    capabilities, logLevel, pollInterval
    queueSize := queueSize.toNat, readLimit := readLimit.toNat }

/-- The number of records that a request is answered with at most: what it asks for, within the
limit, and the limit itself if it asks for nothing. -/
def clampLimit (settings : Settings) : Option Int → Nat
  | none => settings.readLimit
  | some requested =>
    -- Nobody gets more than the limit, and whoever asks for nothing gets that much.
    if requested ≤ 0 then settings.readLimit else min requested.toNat settings.readLimit

end Settings

/-- The wording of the error of a document; what is wrong with its form has none. -/
def JsonError.message : JsonError → String
  | malformed => ""
  | number error => error.message
  | tooDeep isObject =>
    "maximum recursion depth exceeded while decoding a JSON " ++
      (if isObject then "object" else "array") ++ " from a unicode string"

/-- The wording of the error. -/
def SettingsError.message : SettingsError → String
  | capabilities error => error.message
  | noStringList => "U2_CAPABILITIES must be a JSON list of import strings"
  | number error => error.message
  | notPositive variableName => s!"{variableName} must be positive"

end Unified2
