import Unified2.File.Reader
import Unified2.Frame.Sweep
import Unified2.Log.Record
import Unified2.Record.Fields

/-! Reading a file page by page, with the cursor in the hands of the caller. -/

namespace Unified2

/-- Why a page ends where it does. -/
inductive PageEnd
  /-- The page is full. -/
  | full
  /-- There is no further frame. -/
  | shortfall (reason : Shortfall)
  /-- The frame at the offset is corrupt; the next page starts after it. -/
  | corrupt (offset : Nat) (error : BodyError)
  deriving DecidableEq, Repr

/-- The name of a page's end in every answer. -/
def PageEnd.name : PageEnd → String
  | full => "limit"
  | shortfall reason => reason.name
  | corrupt _ _ => "decoding_error"

/-- One page of a file. -/
structure Page where
  path : String
  records : List Record
  /-- How many unknown records were passed over. -/
  skippedUnknown : Nat
  nextOffset : Nat
  ending : PageEnd
  deriving DecidableEq, Repr

/-- The fields that only a page with a corrupt frame at its end has. -/
def PageEnd.fieldList : PageEnd → FieldList
  | corrupt offset error => [
      ("error_offset", .number offset),
      ("record_type", .number error.recordType),
      ("message", .text error.message)]
  | _ => []

/-- The answer that a page is; a record without fields leaves it unanswered. -/
def Page.answer (page : Page) : Except NoAddress AnswerValue := do
  -- All records have to have fields, or there is no answer at all.
  let records ← page.records.mapM Record.fieldList
  let ending := page.ending.fieldList.map fun (name, value) => (name, AnswerValue.field value)
  return .members ([
    ("path", .text page.path),
    ("records", .list (records.map .fields)),
    ("count", .number page.records.length),
    ("skipped_unknown", .number page.skippedUnknown),
    ("next_offset", .number page.nextOffset),
    ("stop", .text page.ending.name)] ++ ending)

/-- What was asked of a reader of pages so far. -/
structure PageReader where
  calls : Nat := 0
  records : Nat := 0
  errors : Nat := 0
  deriving DecidableEq, Repr

namespace PageReader

/-- The name of the capability. -/
def name : String := "file_read"

/-- The component that log records of a reader name. -/
def component : String := "unified2_mcp.capabilities.file_read"

/-- The most records on a page that was asked for no other number. -/
def defaultLimit : Int := 100

/-- The rule of a page: it ends at a corrupt frame. -/
def rule : SweepRule := { stopAtCorrupt := true, countUnknown := false }

/-- Why a page ends, by the sweep that read it. -/
def ending (sweep : Sweep OpenFile) : PageEnd :=
  match sweep.ending with
  | .full => .full
  | .shortfall reason => .shortfall reason
  -- The sweep stopped at the corrupt frame, so that one is the last it saw.
  | .corrupt error =>
    .corrupt ((sweep.sightings.getLast?.map Sighting.offset).getD 0) error

/-- The page at an offset of a file. -/
def page (store : FileStore) (path : String) (offset limit : Int) : Except FileError Page := do
  -- Every page opens the file anew, and the caller says where.
  let reader ← FileReader.openAt store path offset
  let file : OpenFile := { content := store.content reader.number, reader }
  let sweep := rule.sweep (some limit) file
  -- Unknown records are passed over and do not fill the page.
  let records := sweep.sightings.filterMap Sighting.known?
  let unknown := sweep.sightings.filter fun sighting =>
    match sighting.outcome with
    | .ok (.unknown _) => true
    | _ => false
  return {
    path, records
    skippedUnknown := unknown.length
    nextOffset := sweep.source.reader.position
    ending := ending sweep }

/-- What the log is told about a page. -/
def notices (page : Page) : List LogRecord :=
  match page.ending with
  | .corrupt offset error => [{
      component, level := .warning
      message := s!"corrupt record at offset {offset} in {page.path}: " ++ error.message }]
  | _ => []

/-- What a reader tells about itself. -/
def status (reader : PageReader) : FieldList := [
  ("name", .text name),
  ("calls", .number reader.calls),
  ("records", .number reader.records),
  ("errors", .number reader.errors)]

/-- Reads a page and counts what came of it; a page that cannot be read counts as a call. -/
def read (reader : PageReader) (store : FileStore) (path : String) (offset limit : Int) :
    Except FileError Page × PageReader × List LogRecord :=
  -- The call is counted before the file is opened, the records only once the page is complete.
  let reader := { reader with calls := reader.calls + 1 }
  match page store path offset limit with
  | .error error => (.error error, reader, [])
  | .ok page =>
    -- A corrupt frame counts as an error, a page that is cut short does not.
    let failed := match page.ending with
      | .corrupt _ _ => 1
      | _ => 0
    (.ok page,
      { reader with
        records := reader.records + page.records.length, errors := reader.errors + failed },
      notices page)

end PageReader

end Unified2
