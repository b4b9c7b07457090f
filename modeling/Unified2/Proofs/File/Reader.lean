import Unified2.File.Reader
import Unified2.Proofs.Frame.Sweep

/-! An open file reads its content steadily, as long as that content only grows. -/

namespace Unified2

namespace OpenFile

open ByteSource

/-- The bytes ahead are what the content has at the position of the reader. -/
structure Sound (number : Nat) (file : OpenFile) : Prop where
  number_eq : file.reader.number = number
  /-- What is ahead was fetched. -/
  fetched : file.reader.ahead.length ≤ file.reader.fetched
  /-- What is ahead did not change since. -/
  fresh : file.reader.ahead <+: file.content.drop file.reader.position

variable {number : Nat} {file : OpenFile}

/-- Behind the bytes ahead comes what was not fetched yet. -/
theorem Sound.drop_fetched (sound : Sound number file) :
    file.content.drop file.reader.fetched =
      (file.content.drop file.reader.position).drop file.reader.ahead.length := by
  -- The position is as far before the last byte fetched as there are bytes ahead.
  have within := sound.fetched
  rw [List.drop_drop, FileReader.position, Nat.sub_add_cancel within]

/-- Bytes ahead that are enough are given as they are. -/
theorem read_of_le {asked : Nat} (enough : asked ≤ file.reader.ahead.length) :
    ByteSource.read file asked =
      (file.reader.ahead.take asked,
        { file with reader := { file.reader with ahead := file.reader.ahead.drop asked } }) := by
  simp [ByteSource.read, FileReader.read, enough]

/-- Else whole blocks are fetched for what is missing. -/
theorem read_of_lt {asked : Nat} (short : file.reader.ahead.length < asked) :
    let missing := asked - file.reader.ahead.length
    let blocks := (file.content.drop file.reader.fetched).take (FileReader.wholeBlocks missing)
    ByteSource.read file asked =
      (file.reader.ahead ++ blocks.take missing,
        { file with reader := { file.reader with
            fetched := file.reader.fetched + blocks.length, ahead := blocks.drop missing } }) := by
  simp [ByteSource.read, FileReader.read, Nat.not_le.mpr short]

/-- Whole blocks are at least as many bytes as are missing. -/
theorem le_wholeBlocks (bytes : Nat) : bytes ≤ FileReader.wholeBlocks bytes := by
  unfold FileReader.wholeBlocks FileReader.blockSize
  omega

/-- A read leaves the file sound, gives what comes next, and moves on by that. -/
theorem Sound.read (sound : Sound number file) (asked : Nat) :
    let given := ByteSource.read file asked
    Sound number given.2 ∧ given.2.content = file.content ∧
      given.1 <+: file.content.drop file.reader.position ∧ given.1.length ≤ asked ∧
      given.2.reader.position = file.reader.position + given.1.length := by
  have within := sound.fetched
  by_cases enough : asked ≤ file.reader.ahead.length
  · -- The bytes ahead only get fewer.
    have moved : file.reader.fetched - (file.reader.ahead.length - asked) =
        file.reader.fetched - file.reader.ahead.length + asked := by omega
    have fresh := Bytes.prefix_drop sound.fresh asked
    rw [List.drop_drop, FileReader.position, ← moved] at fresh
    simp only [read_of_le enough]
    refine ⟨⟨sound.number_eq, ?_, ?_⟩, trivial, ?_, ?_, ?_⟩
    · simp only [List.length_drop]
      omega
    · simpa only [FileReader.position, List.length_drop] using fresh
    · exact (List.take_prefix ..).trans sound.fresh
    · exact List.length_take_le ..
    · simp only [FileReader.position, List.length_drop, List.length_take]
      omega
  · -- The blocks fetched come right behind the bytes ahead.
    have short := Nat.lt_of_not_le enough
    have behind := sound.drop_fetched
    simp only [read_of_lt short]
    generalize missingIs : asked - file.reader.ahead.length = missing
    generalize blocksAre :
      (file.content.drop file.reader.fetched).take (FileReader.wholeBlocks missing) = blocks
    have next : blocks <+: file.content.drop file.reader.fetched :=
      blocksAre ▸ List.take_prefix ..
    have moved : file.reader.fetched + blocks.length - (blocks.length - missing) =
        file.reader.fetched - file.reader.ahead.length +
          (file.reader.ahead.length + min missing blocks.length) := by omega
    refine ⟨⟨sound.number_eq, ?_, ?_⟩, trivial, ?_, ?_, ?_⟩
    · simp only [List.length_drop]
      omega
    · -- Either all of the blocks is given, or what is left of them is ahead.
      by_cases rest : blocks.length ≤ missing
      · rw [List.drop_of_length_le rest]
        exact List.nil_prefix
      · have fresh := Bytes.prefix_drop next missing
        rw [List.drop_drop] at fresh
        have there : file.reader.fetched + blocks.length - (blocks.length - missing) =
            file.reader.fetched + missing := by omega
        simpa only [FileReader.position, List.length_drop, there] using fresh
    · rw [behind] at next
      exact Bytes.prefix_append_of_drop sound.fresh ((List.take_prefix ..).trans next)
    · simp only [List.length_append, List.length_take]
      omega
    · simpa only [FileReader.position, List.length_drop, List.length_append, List.length_take]
        using moved

/-- The file with a number, read by a reader that is true to it. -/
def backing (number : Nat) : Backing OpenFile where
  content := OpenFile.content
  sound := Sound number
  read_begins _ asked sound := (sound.read asked).2.2.1
  length_read_le _ asked sound := (sound.read asked).2.2.2.1
  sound_read _ asked sound := (sound.read asked).1
  content_read _ asked sound := (sound.read asked).2.1
  position_read _ asked sound := (sound.read asked).2.2.2.2
  sound_seek _ _ sound := ⟨sound.number_eq, Nat.zero_le _, List.nil_prefix⟩
  content_seek _ _ _ := rfl
  position_seek _ _ _ := rfl
  length_le_remaining file sound := by
    have within := sound.fetched
    simp only [List.length_drop, ByteSource.position, FileReader.position, ByteSource.remaining]
    omega

/-- A file gives something as long as there is anything. -/
theorem backing_steady (number : Nat) : (backing number).Steady := by
  intro file asked sound positive left
  have sound : Sound number file := sound
  by_cases enough : asked ≤ file.reader.ahead.length
  · rw [read_of_le enough]
    intro nothing
    -- Nothing was asked for, or nothing was ahead; neither is the case here.
    rcases List.take_eq_nil_iff.mp nothing with none | none
    · omega
    · simp only [none, List.length_nil] at enough
      omega
  · -- Either something is ahead, or the next block is not empty.
    rw [read_of_lt (Nat.lt_of_not_le enough)]
    intro nothing
    obtain ⟨noneAhead, noBlock⟩ := List.append_eq_nil_iff.mp nothing
    -- With nothing ahead, an empty block would mean that nothing is left.
    have large := le_wholeBlocks (asked - file.reader.ahead.length)
    rw [List.take_take, List.take_eq_nil_iff, sound.drop_fetched, noneAhead] at noBlock
    rcases noBlock with none | none
    · simp only [noneAhead, List.length_nil] at none large
      omega
    · rw [List.length_nil, List.drop_zero] at none
      exact left none

/-- A reader stays true to a content that grows. -/
theorem Sound.grow {content grown : Bytes} {reader : FileReader}
    (sound : Sound number ⟨content, reader⟩) (grows : content <+: grown) :
    Sound number ⟨grown, reader⟩ :=
  ⟨sound.number_eq, sound.fetched, sound.fresh.trans (Bytes.prefix_drop grows _)⟩

/-- A reader that has fetched nothing is true to every content. -/
theorem sound_of_fresh (content : Bytes) (number offset : Nat) :
    Sound number ⟨content, { number, fetched := offset }⟩ :=
  ⟨rfl, Nat.zero_le _, List.nil_prefix⟩

/-- A sweep of a file passes frames of its content and leaves the reader behind them. -/
theorem Sound.sweep (sound : Sound number file) {frames : List Frame} {rest : Bytes}
    (split : Frame.Splits (file.content.drop file.reader.position) frames rest)
    (rule : SweepRule) (limit : Option Int) :
    let passing := rule.pass (limit.map Int.toNat) frames
    let sweep := rule.sweep limit file
    sweep.sightings = Frame.sightings file.reader.position (frames.take passing.1) ∧
      sweep.ending = passing.2.getD (.shortfall (.ofRest rest)) ∧
      Sound number ⟨file.content, sweep.source.reader⟩ ∧
      sweep.source.reader.position =
        file.reader.position + Frame.totalSize (frames.take passing.1) := by
  obtain ⟨shown, ended, advanced⟩ := rule.sweep_spec (backing_steady number)
    (show (backing number).sound file from sound) split limit
  have content : (rule.sweep limit file).source.content = file.content := advanced.content_eq
  have after : Sound number (rule.sweep limit file).source := advanced.sound
  exact ⟨shown, ended, content ▸ after, advanced.position_eq⟩

end OpenFile

namespace FileReader

/-- A file that is there opens at every offset that a file can have. -/
theorem openAt_eq_ok {store : FileStore} {path : String} {number offset : Nat}
    (found : store.fileNumber path = .ok number) (representable : (offset : Int) < offsetLimit) :
    openAt store path offset = .ok { number, fetched := offset } := by
  -- The offset is judged as an integer, and one of no file is refused.
  have wide : ¬ ((offset : Int) < -offsetLimit ∨ offsetLimit ≤ (offset : Int)) := by
    unfold offsetLimit at *
    omega
  have negative : ¬ (offset : Int) < 0 := by omega
  simp only [openAt, found, bind, Except.bind, if_neg wide, if_neg negative]
  rfl

/-- A file that opens is there, and opens where it was asked to with nothing fetched yet. -/
theorem of_openAt_eq_ok {store : FileStore} {path : String} {offset : Int} {reader : FileReader}
    (opened : openAt store path offset = .ok reader) :
    0 ≤ offset ∧ offset < offsetLimit ∧ ∃ number, store.fileNumber path = .ok number ∧
      reader = { number, fetched := offset.toNat } := by
  unfold openAt at opened
  cases found : store.fileNumber path with
  | error error => simp [found, bind, Except.bind] at opened
  | ok number =>
    simp only [found, bind, Except.bind] at opened
    by_cases wide : offset < -offsetLimit ∨ offsetLimit ≤ offset
    · rw [if_pos wide] at opened
      cases opened
    by_cases negative : offset < 0
    · rw [if_neg wide, if_pos negative] at opened
      cases opened
    · rw [if_neg wide, if_neg negative] at opened
      exact ⟨by omega, by omega, number, rfl, (Except.ok.inj opened).symm⟩

/-- No file opens at an offset that no file has. -/
theorem openAt_of_outside (store : FileStore) (path : String) {offset : Int}
    (outside : offset < 0 ∨ offsetLimit ≤ offset) :
    ∃ error, openAt store path offset = .error error := by
  unfold openAt
  cases store.fileNumber path with
  | error error => exact ⟨error, rfl⟩
  | ok number =>
    by_cases wide : offset < -offsetLimit ∨ offsetLimit ≤ offset
    · exact ⟨.offsetTooWide, by simp only [bind, Except.bind, if_pos wide]; rfl⟩
    · -- An offset outside that is not too wide to ask for is below zero.
      have negative : offset < 0 := by omega
      exact ⟨.negativeOffset, by
        simp only [bind, Except.bind, if_neg wide, if_pos negative]; rfl⟩

/-- A file does not open at an offset that no file has, or as there is no file to open; nothing else
keeps it from opening. -/
theorem exists_openAt_eq_error_iff {store : FileStore} {path : String} {offset : Int} :
    (∃ error, openAt store path offset = .error error) ↔
      offset < 0 ∨ offsetLimit ≤ offset ∨ ∃ error, store.fileNumber path = .error error := by
  constructor
  · rintro ⟨error, refused⟩
    by_contra sound
    simp only [not_or] at sound
    obtain ⟨notNegative, narrow, found⟩ := sound
    cases leads : store.fileNumber path with
    | error error => exact found ⟨error, leads⟩
    | ok number =>
      -- The offset is a number that a file can have, so the file would open there.
      obtain ⟨start, rfl⟩ := Int.eq_ofNat_of_zero_le (Int.not_lt.mp notNegative)
      rw [openAt_eq_ok leads (Int.not_le.mp narrow)] at refused
      cases refused
  · -- Opening looks for the file first, but any of the three reasons is enough.
    rintro (negative | wide | ⟨error, missing⟩)
    · exact openAt_of_outside store path (.inl negative)
    · exact openAt_of_outside store path (.inr wide)
    · exact ⟨error, by simp only [openAt, missing, bind, Except.bind]⟩

/-- A file that does not open is refused by the system, unless the offset is too wide to ask. -/
theorem openAt_eq_error {store : FileStore} {path : String} {offset : Int} {error : FileError}
    (noNul : path.contains '\x00' = false) (refused : openAt store path offset = .error error) :
    error.fault?.isSome = true ∨
      error = .offsetTooWide ∧ (offset < -offsetLimit ∨ offsetLimit ≤ offset) := by
  unfold openAt at refused
  cases found : store.fileNumber path with
  | error other =>
    -- The path was looked at first, and the system found a fault with it.
    obtain ⟨fault, rfl⟩ : ∃ fault, other = .refused fault path := by
      simp only [FileStore.fileNumber, noNul, Bool.false_eq_true, if_false] at found
      cases faulty : store.fileNumberAt path with
      | error fault => exact ⟨fault, by simpa [faulty, Except.mapError, eq_comm] using found⟩
      | ok number => simp [faulty, Except.mapError] at found
    have same : FileError.refused fault path = error := by
      simpa [found, bind, Except.bind] using refused
    exact .inl (same ▸ rfl)
  | ok number =>
    simp only [found, bind, Except.bind] at refused
    by_cases wide : offset < -offsetLimit ∨ offsetLimit ≤ offset
    · rw [if_pos wide] at refused
      exact .inr ⟨(Except.error.inj refused).symm, wide⟩
    · rw [if_neg wide] at refused
      by_cases negative : offset < 0
      · rw [if_pos negative] at refused
        exact .inl (Except.error.inj refused ▸ rfl)
      · rw [if_neg negative] at refused
        cases refused

end FileReader

end Unified2
