import Unified2.Proofs.Frame.ShortReads

/-! How bytes are gathered: read by read, each asking for all that is missing still, until nothing
is missing any more or a read gives nothing. -/

namespace Unified2

namespace ByteSource

variable {σ : Type} [ByteSource σ]

/-- The bytes that reads gave, one after the other. -/
def givenBy (calls : List ReadCall) : Bytes := calls.flatMap ReadCall.given

/-- Without a read nothing is given. -/
@[simp] theorem givenBy_nil : givenBy [] = [] := rfl

/-- What the first read gave stands in front. -/
@[simp] theorem givenBy_cons (call : ReadCall) (calls : List ReadCall) :
    givenBy (call :: calls) = call.given ++ givenBy calls := rfl

/-- Gathering without a bound on the reads: those that are made of a source while so many bytes are
missing, and the source after them. -/
inductive Gathers : (missing : Nat) → σ → List ReadCall → σ → Prop
  /-- Nothing is missing, so nothing is read. -/
  | full (source : σ) : Gathers 0 source [] source
  /-- The read gives nothing, so no other one is made. -/
  | dry {missing : Nat} {source after : σ} (wanted : 0 < missing)
      (answered : read source missing = ([], after)) :
      Gathers missing source [⟨missing, remaining source, []⟩] after
  /-- The read gives something, and that much less is missing. -/
  | more {missing : Nat} {source middle after : σ} {chunk : Bytes} {calls : List ReadCall}
      (wanted : 0 < missing) (answered : read source missing = (chunk, middle))
      (some : chunk ≠ []) (rest : Gathers (missing - chunk.length) middle calls after) :
      Gathers missing source (⟨missing, remaining source, chunk⟩ :: calls) after

namespace Gathers

variable {missing : Nat} {source after : σ} {calls : List ReadCall}

/-- Nothing is read exactly when nothing is missing. -/
theorem calls_eq_nil_iff (gathers : Gathers missing source calls after) :
    calls = [] ↔ missing = 0 := by
  -- Only one of the three ways makes no read, and the other two begin with something missing.
  cases gathers with
  | full source => simp
  | dry wanted answered =>
    simp only [reduceCtorEq, false_iff]
    omega
  | more wanted answered some rest =>
    simp only [reduceCtorEq, false_iff]
    omega

/-- Bytes are missing in the end exactly when the last read gave nothing. -/
theorem length_givenBy_lt_iff (gathers : Gathers missing source calls after) :
    (givenBy calls).length < missing ↔
      ∃ call, calls.getLast? = some call ∧ call.given = [] := by
  -- Of the two ways to end, only the one with such a read leaves bytes missing.
  induction gathers with
  | full source => simp
  | dry wanted answered => simpa using wanted
  | @more missing source middle after chunk calls wanted answered some rest ih =>
    -- What is missing behind the first read is missing in the end as well.
    have later : chunk.length + (givenBy calls).length < missing ↔
        (givenBy calls).length < missing - chunk.length := by omega
    rw [givenBy_cons, List.length_append, later, ih]
    cases calls with
    -- The only read gave something.
    | nil => simp [some]
    | cons second calls => rw [List.getLast?_cons_cons]

end Gathers

namespace Logged

/-- With no fewer reads allowed than bytes are missing, the log gets the reads of gathering without
a bound, and what is gathered is what they gave. -/
theorem exists_gathers (logged : Logged σ) {reads missing : Nat} (enough : missing ≤ reads)
    (gathered : Bytes) :
    ∃ calls, (gatherWithin reads missing logged gathered).2.calls = logged.calls ++ calls ∧
      Gathers missing logged.source calls (gatherWithin reads missing logged gathered).2.source ∧
      (gatherWithin reads missing logged gathered).1 = gathered.reverse ++ givenBy calls := by
  -- Every read that goes on brings one byte at least, so the bound is never what ends it.
  induction reads generalizing logged missing gathered with
  | zero =>
    obtain rfl := Nat.le_zero.mp enough
    exact ⟨[], by simp, .full _, by simp⟩
  | succ reads ih =>
    obtain rfl | wanted := Nat.eq_zero_or_pos missing
    · rw [gatherWithin_zero]
      exact ⟨[], by simp, .full _, by simp⟩
    cases answered : read logged.source missing with
    | mk chunk next =>
      have entered := logged.read_eq answered
      by_cases nothing : chunk = []
      · -- It is the last entry then.
        subst nothing
        rw [gatherWithin_of_nothing wanted entered]
        exact ⟨[_], rfl, .dry wanted answered, by simp⟩
      · -- The other entries come behind it, and one read fewer is enough for them.
        have grows := List.length_pos_iff.mpr nothing
        rw [gatherWithin_of_chunk wanted entered nothing]
        obtain ⟨calls, log, rest, given⟩ :=
          ih ⟨next, _⟩ (show missing - chunk.length ≤ reads by omega) (chunk.reverse ++ gathered)
        exact ⟨_ :: calls, by rw [log, List.append_assoc]; rfl,
          .more wanted answered nothing rest, by simp [given]⟩

/-- The log of a gathering holds the reads of gathering without a bound. -/
theorem gathers (source : σ) (size : Nat) :
    let calls := (gather ({ source } : Logged σ) size).2.calls
    Gathers size source calls (gather source size).2 ∧ (gather source size).1 = givenBy calls := by
  obtain ⟨calls, log, gathers, given⟩ := exists_gathers { source } (Nat.le_refl size) []
  -- The source and the bytes are the same without a log.
  obtain ⟨sameBytes, sameSource⟩ := gatherWithin_eq { source } size size []
  rw [sameSource] at gathers
  rw [sameBytes] at given
  have all : (gather ({ source } : Logged σ) size).2.calls = calls := log
  rw [all]
  exact ⟨gathers, given⟩

end Logged

end ByteSource

namespace Stream

open ByteSource

/-- The stream after so many bytes were passed in so many reads. -/
def behind (stream : Stream) (bytes reads : Nat) : Stream :=
  -- Every read uses up a limit of the schedule.
  { stream with
    position := stream.position + bytes, schedule := stream.schedule.drop reads }

/-- Without a read the stream is as it was. -/
@[simp] theorem behind_zero (stream : Stream) : stream.behind 0 0 = stream := rfl

/-- Bytes and reads add up. -/
@[simp] theorem behind_behind (stream : Stream) (bytes more reads others : Nat) :
    (stream.behind bytes reads).behind more others =
      stream.behind (bytes + more) (reads + others) := by
  simp [behind, Nat.add_assoc]

/-- One read passes what it gives. -/
theorem eq_behind_of_read {stream after : Stream} {asked : Nat} {chunk : Bytes}
    (answered : ByteSource.read stream asked = (chunk, after)) :
    after = stream.behind chunk.length 1 := by
  -- Only the position and the schedule change.
  cases answered
  simp [behind]

/-- A read as it is made to gather so many bytes of a stream, behind the reads made before it. -/
structure IsReadFor (stream : Stream) (size : Nat) (earlier : List ReadCall) (call : ReadCall) :
    Prop where
  /-- Bytes are missing when it is made. -/
  short : (givenBy earlier).length < size
  /-- Every read before it gave something. -/
  fed : ∀ former ∈ earlier, former.given ≠ []
  /-- It asks for just the bytes that are missing. -/
  asked_eq : call.asked = size - (givenBy earlier).length
  /-- It gives what the stream gives where the earlier reads left it. -/
  given_eq : call.given =
    (ByteSource.read (stream.behind (givenBy earlier).length earlier.length) call.asked).1
  /-- It takes no byte behind the last one to gather. -/
  within : (givenBy earlier).length + call.given.length ≤ size

/-- The first read asks for everything. -/
theorem isReadFor_first {stream after : Stream} {size : Nat} {chunk : Bytes} (left : Nat)
    (wanted : 0 < size) (answered : ByteSource.read stream size = (chunk, after)) :
    stream.IsReadFor size [] ⟨size, left, chunk⟩ where
  short := wanted
  fed := by simp
  asked_eq := rfl
  given_eq := by simp [answered]
  within := by
    have most := backing.length_read_le stream size trivial
    rw [answered] at most
    simpa using most

/-- A read for what is missing behind the first one is a read for all of it. -/
theorem IsReadFor.cons {stream : Stream} {size : Nat} {first call : ReadCall}
    {earlier : List ReadCall} (some : first.given ≠ [])
    (made : (stream.behind first.given.length 1).IsReadFor (size - first.given.length) earlier
      call) :
    stream.IsReadFor size (first :: earlier) call := by
  -- The bytes of the first read are added to those given, and are no longer missing.
  obtain ⟨short, fed, asked, given, within⟩ := made
  refine ⟨?_, List.forall_mem_cons.mpr ⟨some, fed⟩, ?_, ?_, ?_⟩
  · rw [givenBy_cons, List.length_append]
    omega
  · rw [givenBy_cons, List.length_append]
    omega
  · rw [given, behind_behind, givenBy_cons, List.length_append, List.length_cons, Nat.add_comm 1]
  · rw [givenBy_cons, List.length_append]
    omega

variable {missing : Nat} {stream after : Stream} {calls earlier later : List ReadCall}
  {call : ReadCall}

/-- Gathering passes what its reads give. -/
theorem eq_behind_of_gathers (gathers : Gathers missing stream calls after) :
    after = stream.behind (givenBy calls).length calls.length := by
  -- One read moves the stream, and the others move it from there.
  induction gathers with
  | full stream => rfl
  | dry wanted answered => exact eq_behind_of_read answered
  | more wanted answered some rest ih =>
    rw [ih, eq_behind_of_read answered]
    simp [Nat.add_comm]

/-- Every read that gathering makes is one for what is missing behind the reads before it. -/
theorem isReadFor_of_gathers (gathers : Gathers missing stream calls after)
    (parts : calls = earlier ++ call :: later) : stream.IsReadFor missing earlier call := by
  -- The read is the first one, or it is made for what is missing behind the first one.
  induction gathers generalizing earlier with
  | full stream => simp at parts
  | dry wanted answered =>
    cases earlier with
    | nil =>
      obtain ⟨rfl, -⟩ := List.cons.inj parts
      exact isReadFor_first _ wanted answered
    | cons first earlier => simp at parts
  | more wanted answered some rest ih =>
    cases earlier with
    | nil =>
      obtain ⟨rfl, -⟩ := List.cons.inj parts
      exact isReadFor_first _ wanted answered
    | cons first earlier =>
      obtain ⟨rfl, others⟩ := List.cons.inj parts
      have made := ih others
      rw [eq_behind_of_read answered] at made
      exact made.cons some

/-- Whatever limits the reads of a stream, gathering gives bytes that stand at its position, no more
than asked for, and leaves the position right behind them. It reads nothing when nothing is asked
for; each of its reads is made while bytes are missing and behind reads that all gave something, and
asks for just the missing bytes; it gives fewer than asked for exactly when its last read gave
nothing. -/
theorem gathering_is_exact (stream : Stream) (size : Nat) :
    let calls := (gather ({ source := stream } : Logged Stream) size).2.calls
    ∃ count ≤ size,
      gather stream size =
        ((stream.content.drop stream.position).take count, stream.behind count calls.length) ∧
      (gather stream size).1.length = count ∧ givenBy calls = (gather stream size).1 ∧
      (calls = [] ↔ size = 0) ∧
      (∀ earlier call later, calls = earlier ++ call :: later →
        stream.IsReadFor size earlier call) ∧
      (count < size ↔ ∃ call, calls.getLast? = some call ∧ call.given = []) := by
  intro calls
  obtain ⟨gathers, given⟩ : Gathers size stream calls (gather stream size).2 ∧
    (gather stream size).1 = givenBy calls := Logged.gathers stream size
  -- The bytes are those at the position, and what was passed is what the reads gave.
  have begins := List.prefix_iff_eq_take.mp
    (backing.gather_begins (show backing.sound stream from trivial) size)
  have passed := eq_behind_of_gathers gathers
  have most := backing.length_gather_le (show backing.sound stream from trivial) size
  have stops := gathers.length_givenBy_lt_iff
  rw [← given] at passed stops
  exact ⟨_, most, Prod.ext begins passed, rfl, given.symm, gathers.calls_eq_nil_iff,
    fun _ _ _ parts => isReadFor_of_gathers gathers parts, stops⟩

/-- Eight bytes are asked for from the second byte of seven: the first read gives two, the second
one three, and the third is not answered, so that no other read is made. -/
theorem gathering_is_exact_of_unanswered_read :
    let stream : Stream :=
      { content := [1, 2, 3, 4, 5, 6, 7], position := 1,
        schedule := [some 2, some 3, none, some 9] }
    let earlier : List ReadCall := [⟨8, 6, [2, 3]⟩, ⟨6, 4, [4, 5, 6]⟩]
    let calls := (gather ({ source := stream } : Logged Stream) 8).2.calls
    calls = earlier ++ [⟨3, 1, []⟩] ∧ stream.IsReadFor 8 earlier ⟨3, 1, []⟩ ∧
      gather stream 8 = ([2, 3, 4, 5, 6], stream.behind 5 3) ∧
      ∃ call, calls.getLast? = some call ∧ call.given = [] := by
  intro stream earlier calls
  have parts : calls = earlier ++ [⟨3, 1, []⟩] := by decide
  obtain ⟨count, -, gathered, counted, -, -, made, stops⟩ := gathering_is_exact stream 8
  -- Five bytes came, so the theorem speaks of the three that are missing.
  have five : count = 5 := counted.symm.trans (by decide)
  subst five
  exact ⟨parts, made earlier _ [] parts, gathered, stops.mp (by decide)⟩

end Stream

end Unified2
