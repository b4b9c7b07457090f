import Unified2.Text.Capitals

/-! Levels of log records, and the texts that ask for one. -/

namespace Unified2

/-- How serious a log record is: a more serious one has a larger number. -/
structure LogLevel where
  severity : Nat
  deriving DecidableEq, Repr

namespace LogLevel

def debug : LogLevel := ⟨10⟩

def info : LogLevel := ⟨20⟩

def warning : LogLevel := ⟨30⟩

def error : LogLevel := ⟨40⟩

def critical : LogLevel := ⟨50⟩

/-- The numbers that have a name, with the name of each. -/
def names : List (Nat × String) :=
  [(50, "CRITICAL"), (40, "ERROR"), (30, "WARNING"), (20, "INFO"), (10, "DEBUG"), (0, "NOTSET")]

/-- The name of a level in every log line; a level without a name is called by its number. -/
def name (level : LogLevel) : String :=
  -- Any number is a level; six of them have names.
  (names.lookup level.severity).getD ("Level " ++ toString level.severity)

/-- The names that a level text can use, and the numbers they stand for. -/
def severities : List (String × Nat) :=
  -- Two levels go by two names each, of which lines show the first.
  [("CRITICAL", 50), ("FATAL", 50), ("ERROR", 40), ("WARNING", 30), ("WARN", 30), ("INFO", 20),
   ("DEBUG", 10), ("NOTSET", 0)]

end LogLevel

/-- Why a level text was refused: it is one of two names that stand for something else than a
level. -/
inductive LevelError
  | lineFormat
  | styles
  deriving DecidableEq, Repr

/-- The wording of the error. -/
def LevelError.message : LevelError → String
  | lineFormat => "Unknown level: '%(levelname)s:%(name)s:%(message)s'"
  | styles => "Level not an integer or a valid string: " ++
      "\x7b'%': (<class 'logging.PercentStyle'>, '%(levelname)s:%(name)s:%(message)s'), " ++
      "'\x7b': (<class 'logging.StrFormatStyle'>, " ++
      "'\x7blevelname\x7d:\x7bname\x7d:\x7bmessage\x7d'), " ++
      "'$': (<class 'logging.StringTemplateStyle'>, " ++
      "'$\x7blevelname\x7d:$\x7bname\x7d:$\x7bmessage\x7d')\x7d"

/-- The severity that a text in any case asks for; a text that names nothing asks for `INFO`. -/
def LogLevel.requested (text : String) : Except LevelError Nat :=
  let name := Text.capitals text
  match severities.lookup name with
  | some severity => .ok severity
  | none =>
    -- The names are looked up among others, and two of those stand for no number.
    if name = "BASIC_FORMAT" then .error .lineFormat
    else if name = "_STYLES" then .error .styles
    else .ok LogLevel.info.severity

end Unified2
