import Unified2.File.Store
import Unified2.Frame.Source

/-! Files that are open for reading. -/

namespace Unified2

/-- An open file: everything before `fetched` was fetched from it, and of that the bytes ahead were
not read yet. They stay as they were fetched, whatever happens to the file. -/
structure FileReader where
  number : Nat
  fetched : Nat
  ahead : Bytes := []
  deriving DecidableEq, Repr

namespace FileReader

/-- The bytes that are fetched at a time. -/
def blockSize : Nat := 4096

/-- The offset of the next byte to read. -/
def position (reader : FileReader) : Nat := reader.fetched - reader.ahead.length

/-- Moves the position, and forgets what was fetched. -/
def seek (reader : FileReader) (offset : Nat) : FileReader :=
  { reader with fetched := offset, ahead := [] }

/-- The least number of bytes in whole blocks that is no smaller than the one asked for. -/
def wholeBlocks (bytes : Nat) : Nat := (bytes + (blockSize - 1)) / blockSize * blockSize

/-- Reads from the bytes ahead as long as they are enough; else fetches whole blocks from the
content for what is missing, and keeps what is left over. -/
def read (reader : FileReader) (content : Bytes) (asked : Nat) : Bytes × FileReader :=
  if asked ≤ reader.ahead.length then
    -- The file is not asked, so these bytes may be gone from it by now.
    (reader.ahead.take asked, { reader with ahead := reader.ahead.drop asked })
  else
    let missing := asked - reader.ahead.length
    -- The content counts as it is now; the bytes ahead are from an earlier time.
    let blocks := (content.drop reader.fetched).take (wholeBlocks missing)
    (reader.ahead ++ blocks.take missing,
      { reader with fetched := reader.fetched + blocks.length, ahead := blocks.drop missing })

/-- The offsets that are too wide for a file, as a distance from zero. -/
def offsetLimit : Int := 9223372036854775808

/-- Opens the file at a path and moves to an offset; the path is looked at first. -/
def openAt (store : FileStore) (path : String) (offset : Int) : Except FileError FileReader := do
  let number ← store.fileNumber path
  -- A width that no offset has is found before the sign.
  if offset < -offsetLimit ∨ offsetLimit ≤ offset then throw .offsetTooWide
  else if offset < 0 then throw .negativeOffset
  -- The offset may lie past the end; reads there give nothing until the file has grown.
  else return { number, fetched := offset.toNat }

end FileReader

/-- An open file together with what it holds now. -/
structure OpenFile where
  content : Bytes
  reader : FileReader
  deriving Repr

namespace OpenFile

instance : ByteSource OpenFile where
  position file := file.reader.position
  seek file offset := { file with reader := file.reader.seek offset }
  read file asked :=
    let (bytes, reader) := file.reader.read file.content asked
    (bytes, { file with reader })
  remaining file := file.reader.ahead.length + (file.content.length - file.reader.fetched)

end OpenFile

end Unified2
