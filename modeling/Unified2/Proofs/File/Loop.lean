import Unified2.Proofs.File.Reader
import Unified2.Proofs.Frame.Loop

/-! A loop over an open file takes its frames out of the bytes that are left to read, whatever has
become of the file since it was opened. -/

namespace Unified2

namespace OpenFile

open ByteSource

/-- A file gives the bytes ahead and those that were not fetched yet, each of them once. -/
theorem draws : Draws OpenFile := by
  intro file asked
  -- Either way both parts of what remains shrink by what they give.
  by_cases enough : asked ≤ file.reader.ahead.length
  · simp only [read_of_le enough, remaining, List.length_drop, List.length_take]
    omega
  · -- What is fetched goes to the bytes given as far as it is missing, and else to those ahead.
    have short := Nat.lt_of_not_le enough
    simp only [read_of_lt short, remaining, List.length_drop, List.length_take, List.length_append]
    omega

/-- Reading goes on in the same file. -/
theorem keeps_file (content : Bytes) (number : Nat) :
    Keeps fun file : OpenFile => file.content = content ∧ file.reader.number = number where
  read := by
    rintro file asked ⟨rfl, rfl⟩
    by_cases enough : asked ≤ file.reader.ahead.length
    · simp only [read_of_le enough, and_self]
    · simp only [read_of_lt (Nat.lt_of_not_le enough), and_self]
  seek := by
    rintro file offset ⟨rfl, rfl⟩
    exact ⟨rfl, rfl⟩

/-- What is ahead was always fetched before. -/
theorem keeps_fetched :
    Keeps fun file : OpenFile => file.reader.ahead.length ≤ file.reader.fetched where
  read := by
    intro file asked within
    by_cases enough : asked ≤ file.reader.ahead.length
    · simp only [read_of_le enough, List.length_drop]
      omega
    · simp only [read_of_lt (Nat.lt_of_not_le enough), List.length_drop]
      omega
  seek := by
    intro file offset _
    -- Moving forgets what is ahead.
    exact Nat.zero_le _

end OpenFile

namespace FileReader

/-- How many bytes a file has left behind the position of a reader. What was fetched is left even if
the file does not reach as far any more. -/
def left (reader : FileReader) (content : Bytes) : Nat :=
  max (content.length - reader.position) reader.ahead.length

variable {reader : FileReader} {content : Bytes}

/-- The bytes left are those that remain to a loop. -/
theorem remaining_eq_left (within : reader.ahead.length ≤ reader.fetched) :
    ByteSource.remaining (OpenFile.mk content reader) = reader.left content := by
  simp only [ByteSource.remaining, left, position]
  -- In a file that was cut short only what is ahead counts, on both sides.
  omega

/-- In a file that reaches as far as it was fetched, those behind the position are left. -/
theorem left_of_fetched_le (within : reader.ahead.length ≤ reader.fetched)
    (reaches : reader.fetched ≤ content.length ∨ reader.ahead = []) :
    reader.left content = content.length - reader.position := by
  unfold left position
  -- What is ahead is a part of the content then, if there is anything.
  rcases reaches with reaches | nothing
  · omega
  · simp [nothing]

/-- A loop over a file that was just opened ends within the bytes behind the offset. -/
theorem endsWithin_of_openAt {store : FileStore} {path : String} {offset : Int}
    (opened : openAt store path offset = .ok reader) (rule : SweepRule) (limit : Option Int) :
    rule.EndsWithin limit (OpenFile.mk (store.content reader.number) reader)
      (((store.content reader.number).length - offset.toNat) / Frame.headerLength + 1) := by
  have ends := SweepRule.endsWithin_remaining OpenFile.draws rule limit
    (OpenFile.mk (store.content reader.number) reader)
  -- Nothing is ahead yet, so only the file itself is left.
  obtain ⟨-, -, number, -, rfl⟩ := of_openAt_eq_ok opened
  simpa [ByteSource.remaining] using ends

end FileReader

/-- A loop over an open file ends within the bytes that the file has left. -/
theorem OpenFile.endsWithin_left (file : OpenFile)
    (within : file.reader.ahead.length ≤ file.reader.fetched) (rule : SweepRule)
    (limit : Option Int) :
    rule.EndsWithin limit file (file.reader.left file.content / Frame.headerLength + 1) := by
  -- The bytes left are those that remain to the loop.
  rw [← FileReader.remaining_eq_left within]
  exact SweepRule.endsWithin_remaining OpenFile.draws rule limit file

end Unified2
