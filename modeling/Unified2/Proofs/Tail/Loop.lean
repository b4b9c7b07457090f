import Unified2.Proofs.Record.Listing
import Unified2.Proofs.Tail

/-! A poll is one loop over the file that it finds open or opens, whatever has become of that file;
and polls one after the other are one poll. -/

namespace Unified2

/-- The bytes of the smallest frame that holds a record of a known type. -/
def Frame.leastKnown : Nat := headerLength + RecordType.packet.minBodyLength

example : Frame.headerLength = 8 ∧ Frame.leastKnown = 36 := by decide

/-- No body of a known type is shorter than that of an empty packet. -/
theorem Frame.leastKnown_le_size {frame : Frame} {record : Record}
    (shows : frame.known? = some record) : leastKnown ≤ frame.size := by
  have decoded : Record.decode frame.tag.toNat frame.body = .ok record := decode_of_known? shows
  cases named : RecordType.ofTag? (frame.tag.toNat : Int) with
  | none =>
    -- A record of no type is an unknown one.
    rw [Record.decode_of_ofTag?_eq_none named] at decoded
    have same : frame.decode = .ok (.unknown frame.tag.toNat) :=
      Record.decode_of_ofTag?_eq_none named _
    simp [known?, same] at shows
  | some type =>
    have tagged := RecordType.ofTag?_eq_some_iff.mp named
    rw [← tagged] at decoded
    rcases Record.decode_tag_cases type frame.body with ⟨-, _, _, refused⟩ | ⟨long, -⟩
    · simp [refused] at decoded
    · have least : RecordType.packet.minBodyLength ≤ type.minBodyLength := by
        cases type <;> decide
      unfold leastKnown size
      omega

namespace SweepRule

open ByteSource

variable {σ : Type} [ByteSource σ] {rule : SweepRule} {room : Option Nat} {source : σ} {tries : Nat}
  {sweep : Sweep σ}

/-- A loop that its limit ends took the frames of all its records out of the bytes that remained. -/
theorem Loops.remaining_of_full (loops : rule.Loops room source tries sweep) (draws : Draws σ)
    (full : sweep.ending = .full) :
    remaining sweep.source +
        (sweep.sightings.filterMap Sighting.known?).length * Frame.leastKnown ≤
      remaining source := by
  -- Along the loop what remains gets smaller by every frame, with or without a record.
  induction loops with
  | full source => simp
  | short open_ answered => cases full
  | corrupt open_ answered stops => cases full
  | @again room source after outcome tries sweep open_ answered goesOn later ih =>
    obtain ⟨frame, rfl, read⟩ := readRecord_eq_ok answered
    have drawn := draws.readFrame read
    have rest := ih full
    cases shown : (⟨position source, frame.decode⟩ : Sighting).known? with
    | none =>
      -- A frame without a record may be as small as its header.
      simp only [List.filterMap_cons, shown]
      omega
    | some record =>
      -- The frame of a record is large enough for one.
      have large := Frame.leastKnown_le_size (show frame.known? = some record from shown)
      simp only [List.filterMap_cons, shown, List.length_cons, Nat.add_mul]
      omega

end SweepRule

namespace Tail

variable {tail : Tail} {store : FileStore} {reader : FileReader}

/-- Two sweeps of a file, one from where the limit of the other ended it, are one sweep. -/
theorem swept_swept {first : Sweep OpenFile} (full : first.ending = .full)
    (second : Sweep OpenFile) :
    (tail.swept first).swept second =
      tail.swept ⟨first.sightings ++ second.sightings, second.ending, second.source⟩ := by
  -- A limit is no shortfall to be remembered.
  simp only [swept, full, List.foldl_append]

/-- After a sweep the cursor goes on where the sweep ended, in the same file. -/
theorem openReader_swept {room : Option Nat} {tries : Nat} {sweep : Sweep OpenFile}
    (loops : tail.rule.Loops room ⟨store.content reader.number, reader⟩ tries sweep) :
    (tail.swept sweep).openReader store = .ok sweep.source.reader ∧
      OpenFile.mk (store.content sweep.source.reader.number) sweep.source.reader =
        sweep.source := by
  -- The sweep left a reader, and that one is open.
  obtain ⟨content, number⟩ := loops.keeps
    (OpenFile.keeps_file (store.content reader.number) reader.number) ⟨rfl, rfl⟩
  refine ⟨rfl, ?_⟩
  rw [number, ← content]

/-- A cursor that was polled and closed any number of times, whatever the files were each time. -/
inductive Used : Tail → Prop
  | new (path : String) (start : Int) (skipCorrupt : Bool) : Used (Tail.new path start skipCorrupt)
  | poll {tail : Tail} (used : Used tail) (store : FileStore) (limit : Option Int) :
      Used (tail.poll store limit).tail
  | close {tail : Tail} (used : Used tail) : Used tail.close

/-- A file that opens has nothing ahead that was not fetched. -/
theorem fetched_of_openReader
    (fetched : ∀ reader, tail.reader = some reader → reader.ahead.length ≤ reader.fetched)
    (opened : tail.openReader store = .ok reader) : reader.ahead.length ≤ reader.fetched := by
  rcases of_openReader_eq_ok opened with held | ⟨-, opensNow⟩
  · exact fetched reader held
  · -- A reader that was just opened has nothing ahead.
    obtain ⟨-, -, number, -, rfl⟩ := FileReader.of_openAt_eq_ok opensNow
    exact Nat.zero_le _

/-- However a cursor was used, its reader has nothing ahead that was not fetched. -/
theorem Used.fetched (used : tail.Used) :
    ∀ reader, tail.reader = some reader → reader.ahead.length ≤ reader.fetched := by
  -- A new cursor and a closed one have no reader at all.
  induction used with
  | new path start skipCorrupt => nofun
  | @poll tail used store limit ih =>
    cases opened : tail.openReader store with
    | error error => simpa only [poll_of_refused opened] using ih
    | ok reader =>
      -- The poll leaves the reader of its sweep.
      have within := fetched_of_openReader ih opened
      obtain ⟨tries, loops, -⟩ := SweepRule.endsWithin_remaining OpenFile.draws tail.rule limit
        (OpenFile.mk (store.content reader.number) reader)
      rw [poll_eq_pollOf opened]
      rintro _ ⟨⟩
      exact loops.keeps OpenFile.keeps_fetched within
  | close used ih => nofun

end Tail

end Unified2
