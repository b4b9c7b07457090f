import Unified2.Proofs.Page
import Unified2.Proofs.Record.Fields

/-! The books of a reader of pages: whatever it is asked for, its counts are those of the calls and
of the pages that came, and every page accounts for the bytes between its two offsets. -/

namespace Unified2

namespace Frame

end Frame

namespace Page

end Page

namespace PageReader

variable {path : String} {offset : Nat} {content rest : Bytes} {frames : List Frame}

end PageReader

/-- A page that a reader is asked for, and what the files are at that time. -/
structure PageRequest where
  files : FileStore
  path : String
  offset : Int
  limit : Int

/-- The page, or why there is none. -/
def PageRequest.answer (request : PageRequest) : Except FileError Page :=
  PageReader.page request.files request.path request.offset request.limit

namespace PageReader

/-- Reads pages one after the other. -/
def serve : PageReader → List PageRequest → List (Except FileError Page) × PageReader
  | reader, [] => ([], reader)
  | reader, request :: requests =>
    -- A page that does not come changes the reader, too, for it was called.
    let (answer, reader, _) :=
      reader.read request.files request.path request.offset request.limit
    let (answers, reader) := serve reader requests
    (answer :: answers, reader)

end PageReader

end Unified2
