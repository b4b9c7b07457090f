import Unified2.Proofs.Frame.Mirror
import Unified2.Proofs.Frame.Reading

/-! However short the reads of a stream are, as long as they give something while something is left,
whatever is asked of the stream gives the same. -/

namespace Unified2

namespace ByteSource

/-- A source to whose end bytes can be added. -/
class GrowingSource (σ : Type) extends ByteSource σ where
  append : σ → Bytes → σ

instance : GrowingSource Stream where
  append := Stream.append

/-- A read that was made: how many bytes were asked for, how many were left, and which ones came. -/
structure ReadCall where
  asked : Nat
  left : Nat
  given : Bytes
  deriving DecidableEq, Repr

/-- A source together with the reads that were made of it, one after the other. -/
structure Logged (σ : Type) where
  source : σ
  calls : List ReadCall := []
  deriving Repr

instance {σ : Type} [ByteSource σ] : ByteSource (Logged σ) where
  position logged := position logged.source
  seek logged offset := { logged with source := seek logged.source offset }
  read logged asked :=
    let (given, source) := read logged.source asked
    { fst := given
      snd := { source, calls := logged.calls ++ [⟨asked, remaining logged.source, given⟩] } }
  remaining logged := remaining logged.source

instance {σ : Type} [GrowingSource σ] : GrowingSource (Logged σ) where
  append logged bytes := { logged with source := GrowingSource.append logged.source bytes }

/-- What can be asked of a source. -/
inductive Call
  | readFrame
  | readRecord
  /-- A new iterator is asked for records until it ends, or until so many came. -/
  | iterate (limit : Option Int)
  | append (bytes : Bytes)

/-- What a call gives. -/
inductive Reply
  | frame (answer : Except Shortfall Frame)
  | record (answer : Except Shortfall (Except BodyError Record))
  | records (records : List Record) (ending : SweepEnd)
  | appended

section

variable {σ : Type} [GrowingSource σ]

/-- The reply to a call, and the source after it. -/
def serve (source : σ) : Call → Reply × σ
  | .readFrame =>
    let (answer, source) := readFrame source
    (.frame answer, source)
  | .readRecord =>
    let (answer, source) := readRecord source
    (.record answer, source)
  | .iterate limit =>
    let sweep := SweepRule.plain.sweep limit source
    (.records sweep.records sweep.ending, sweep.source)
  | .append bytes => (.appended, GrowingSource.append source bytes)

/-- The replies to calls one after the other, each with the position after it, and the source after
the last of them. -/
def serveAll : σ → List Call → List (Reply × Nat) × σ
  | source, [] => ([], source)
  | source, call :: calls =>
    let (reply, source) := serve source call
    let (replies, after) := serveAll source calls
    ((reply, position source) :: replies, after)

end

/-- Every read gave something, if something was left. -/
def Logged.Fed {σ : Type} (logged : Logged σ) : Prop :=
  -- At the end of the bytes a read may give nothing, or not be answered at all.
  ∀ call ∈ logged.calls, 0 < call.left → call.given ≠ []

instance {σ : Type} (logged : Logged σ) : Decidable logged.Fed :=
  inferInstanceAs (Decidable (∀ call ∈ logged.calls, 0 < call.left → call.given ≠ []))

section

variable {σ τ : Type} [GrowingSource σ] [GrowingSource τ]

/-- What lasts and outlasts growth is there after any calls. -/
theorem Lasting.serveAll {holds : σ → Prop} (lasting : Lasting holds)
    (grows : ∀ {source : σ}, holds source → ∀ bytes, holds (GrowingSource.append source bytes))
    {source : σ} (before : holds source) (calls : List Call) :
    holds (ByteSource.serveAll source calls).2 := by
  -- A call reads frames, or it adds bytes.
  induction calls generalizing source with
  | nil => exact before
  | cons call calls ih =>
    cases call with
    | readFrame => exact ih (lasting.readFrame before)
    | readRecord => exact ih (lasting.readFrame before)
    | iterate limit => exact ih (lasting.sweepWithin before _ _ _ _)
    | append bytes => exact ih (grows before bytes)

/-- Sources that are the same and grow in the same way reply the same to all calls. -/
theorem Mirrors.serveAll {lost : σ → Prop} {same : σ → τ → Prop} (mirrors : Mirrors lost same)
    (lostGrows : ∀ {source : σ}, lost source → ∀ bytes, lost (GrowingSource.append source bytes))
    (sameGrows : ∀ {source : σ} {image : τ}, same source image → ∀ bytes,
      same (GrowingSource.append source bytes) (GrowingSource.append image bytes))
    {source : σ} {image : τ} (alike : same source image) (calls : List Call) :
    Agree lost same (ByteSource.serveAll source calls) (ByteSource.serveAll image calls) := by
  -- The sources are the same again after every call, as long as nothing is lost.
  induction calls generalizing source image with
  | nil => exact .inr ⟨rfl, alike⟩
  | cons call calls ih =>
    -- The call itself has the same reply, or something is lost in it.
    have first : Agree lost same (serve source call) (serve image call) := by
      cases call with
      | readFrame => exact (mirrors.readFrame alike).imp_right fun ⟨frame, after⟩ =>
          ⟨congrArg Reply.frame frame, after⟩
      | readRecord => exact (mirrors.readRecord alike).imp_right fun ⟨record, after⟩ =>
          ⟨congrArg Reply.record record, after⟩
      | iterate limit =>
        refine (mirrors.sweep alike SweepRule.plain limit).imp_right fun ⟨passed, after⟩ => ?_
        obtain ⟨sightings, ending⟩ := Prod.mk.inj passed
        refine ⟨?_, after⟩
        simp only [serve, Sweep.records, sightings, ending]
      | append bytes => exact .inr ⟨rfl, sameGrows alike bytes⟩
    rcases first with gone | ⟨replySame, afterSame⟩
    · -- No later call brings it back.
      exact .inl (mirrors.lasting.serveAll lostGrows gone calls)
    · rcases ih afterSame with gone | ⟨repliesSame, lastSame⟩
      · exact .inl gone
      · refine .inr ⟨?_, lastSame⟩
        simp only [ByteSource.serveAll, replySame, mirrors.position_eq afterSame, repliesSame]

end

namespace Logged

variable {σ : Type} [ByteSource σ]

/-- Whatever a read gives, it is entered in the log. -/
theorem read_eq (logged : Logged σ) {asked : Nat} {chunk : Bytes} {after : σ}
    (answered : read logged.source asked = (chunk, after)) :
    read logged asked =
      (chunk, ⟨after, logged.calls ++ [⟨asked, remaining logged.source, chunk⟩]⟩) := by
  simp [read, answered]

/-- To log the reads changes nothing of what they give. -/
theorem gatherWithin_eq (logged : Logged σ) (reads missing : Nat) (gathered : Bytes) :
    (gatherWithin reads missing logged gathered).1 =
        (gatherWithin reads missing logged.source gathered).1 ∧
      (gatherWithin reads missing logged gathered).2.source =
        (gatherWithin reads missing logged.source gathered).2 := by
  -- Each read gives the same chunk, so both go on or stop together.
  induction reads generalizing logged missing gathered with
  | zero => exact ⟨rfl, rfl⟩
  | succ reads ih =>
    obtain rfl | wanted := Nat.eq_zero_or_pos missing
    · simp
    cases answered : read logged.source missing with
    | mk chunk after =>
      have entered := logged.read_eq answered
      by_cases nothing : chunk = []
      · subst nothing
        rw [gatherWithin_of_nothing wanted entered, gatherWithin_of_nothing wanted answered]
        exact ⟨rfl, rfl⟩
      · -- The log that one of them keeps is not looked at.
        rw [gatherWithin_of_chunk wanted entered nothing,
          gatherWithin_of_chunk wanted answered nothing]
        exact ih _ _ _

/-- A logged source does what the source itself does. -/
theorem mirrors : Mirrors (fun _ : Logged σ => False) (fun logged source => logged.source = source)
    where
  lasting := ⟨fun impossible _ _ => impossible, fun impossible _ => impossible⟩
  position_eq alike := congrArg position alike
  remaining_eq alike := congrArg remaining alike
  seek alike offset := congrArg (ByteSource.seek · offset) alike
  gather alike size := by
    subst alike
    exact .inr (gatherWithin_eq _ size size [])

/-- A read that gave nothing stays in the log. -/
theorem lasting_not_fed : Lasting (fun logged : Logged σ => ¬ logged.Fed) where
  read hungry _ _ fed := hungry fun call member => fed call (List.mem_append_left _ member)
  seek hungry _ := hungry

/-- What is behind a logged source is what is behind the source. -/
def backing (behind : Backing σ) : Backing (Logged σ) where
  content logged := behind.content logged.source
  sound logged := behind.sound logged.source
  read_begins logged := behind.read_begins logged.source
  length_read_le logged := behind.length_read_le logged.source
  sound_read logged := behind.sound_read logged.source
  content_read logged := behind.content_read logged.source
  position_read logged := behind.position_read logged.source
  sound_seek logged := behind.sound_seek logged.source
  content_seek logged := behind.content_seek logged.source
  position_seek logged := behind.position_seek logged.source
  length_le_remaining logged := behind.length_le_remaining logged.source

/-- If all reads gave something while something was left, all the bytes asked for are gathered that
there are. -/
theorem gather_of_fed (behind : Backing σ) {logged : Logged σ}
    (sound : behind.sound logged.source) {size : Nat} (fed : (gather logged size).2.Fed) :
    (gather logged size).1 = (behind.ahead logged.source).take size := by
  refine Backing.gather_eq_take_of_dry (show (backing behind).sound logged from sound) size ?_
  intro before asked soundBefore some given
  -- The read that gave nothing is the last one in the log, so nothing was left.
  have last : (read before asked).2 = (gather logged size).2 := by rw [given]
  have nothing : (read before asked).1 = [] := by rw [given]
  rw [← last] at fed
  have spent : remaining before.source = 0 := by
    by_contra left
    exact fed ⟨asked, remaining before.source, (read before asked).1⟩
      (List.mem_append_right _ (List.mem_singleton.mpr rfl)) (Nat.pos_of_ne_zero left) nothing
  have most := behind.length_le_remaining before.source soundBefore
  exact List.length_eq_zero_iff.mp (by
    show ((behind.content before.source).drop (position before.source)).length = 0
    omega)

end Logged

end ByteSource

namespace Stream

open ByteSource

/-- The stream with reads that nothing cuts short. -/
def uncut (stream : Stream) : Stream := { stream with schedule := [], chunk := none }

/-- While calls are served, every read gives something if something is left. -/
def Fed (stream : Stream) (calls : List Call) : Prop :=
  (serveAll ({ source := stream } : Logged Stream) calls).2.Fed

instance (stream : Stream) (calls : List Call) : Decidable (stream.Fed calls) :=
  inferInstanceAs (Decidable (Logged.Fed _))

/-- As long as its reads are fed, a stream does what it does without limits. -/
theorem mirrors_uncut :
    Mirrors (fun logged : Logged Stream => ¬ logged.Fed)
      (fun logged image => image = logged.source.uncut) where
  lasting := Logged.lasting_not_fed
  position_eq := by
    rintro logged _ rfl
    rfl
  remaining_eq := by
    rintro logged _ rfl
    rfl
  seek := by
    rintro logged _ rfl offset
    rfl
  gather := by
    rintro logged _ rfl size
    by_cases fed : (gather logged size).2.Fed
    · -- Both gather what is ahead, which is the same for both.
      have sound : uncutBacking.sound logged.source.uncut := ⟨rfl, rfl⟩
      have gathered : (gather logged size).1 = (gather logged.source.uncut size).1 :=
        (Logged.gather_of_fed Stream.backing trivial fed).trans
          (Backing.gather_eq_take uncutBacking_steady sound size).symm
      refine .inr ⟨gathered, ?_⟩
      -- So both are behind as many bytes of the content.
      have advanced := Backing.gather_advanced
        (show (Logged.backing Stream.backing).sound logged from trivial) size
      have content : (gather logged size).2.source.content = logged.source.content :=
        advanced.content_eq
      have position : (gather logged size).2.source.position =
        logged.source.position + (gather logged size).1.length := advanced.position_eq
      have moved : (gather logged.source.uncut size).2 =
          { content := logged.source.content
            position := logged.source.position + (gather logged size).1.length } := by
        rw [gathered]
        exact eq_of_advanced (Backing.gather_advanced sound size)
      show (gather logged.source.uncut size).2 = (gather logged size).2.source.uncut
      rw [moved, ← position, ← content]
      rfl
    · exact .inl fed

/-- Limits that let something through at every read. -/
structure Generous (stream : Stream) : Prop where
  schedule : ∀ limit ∈ stream.schedule, ∃ most, limit = some most ∧ 0 < most
  chunk : ∀ most, stream.chunk = some most → 0 < most

/-- What is left of generous limits lets something through. -/
theorem Generous.allowance_pos {stream : Stream} (generous : stream.Generous) {asked : Nat}
    (some : 0 < asked) : 0 < stream.allowance asked := by
  -- The next limit is that of the schedule, and behind the schedule that of all other reads.
  unfold allowance
  cases limits : stream.schedule with
  | nil =>
    cases limit : stream.chunk with
    | none => exact some
    | some most =>
      have positive := generous.chunk most limit
      simp only
      omega
  | cons limit limits' =>
    obtain ⟨most, rfl, positive⟩ := generous.schedule limit (limits ▸ List.mem_cons_self)
    simp only
    omega

/-- With generous limits every read gives something if something is left, whatever is asked of the
stream. -/
theorem Generous.fed {stream : Stream} (generous : stream.Generous) (calls : List Call) :
    stream.Fed calls := by
  -- Generous limits stay generous, and each read under them is fed.
  have lasting : Lasting fun logged : Logged Stream => logged.source.Generous ∧ logged.Fed := by
    refine ⟨?_, fun ⟨generous, fed⟩ _ => ⟨⟨generous.schedule, generous.chunk⟩, fed⟩⟩
    rintro logged ⟨generous, fed⟩ asked some
    refine ⟨⟨fun limit member => generous.schedule limit (List.mem_of_mem_tail member),
      generous.chunk⟩, ?_⟩
    intro call member left
    rcases List.mem_append.mp member with before | last
    · exact fed call before left
    · obtain rfl := List.mem_singleton.mp last
      -- Something is ahead, and the limit lets some of it through.
      intro nothing
      have allowed := generous.allowance_pos some
      rcases List.take_eq_nil_iff.mp nothing with none | none
      · omega
      · have left : 0 < logged.source.content.length - logged.source.position := left
        have length := congrArg List.length none
        rw [ahead, List.length_drop, List.length_nil] at length
        omega
  have start : stream.Generous ∧ ({ source := stream } : Logged Stream).Fed :=
    ⟨generous, by simp [Logged.Fed]⟩
  exact (lasting.serveAll
    (fun ⟨generous, fed⟩ _ => ⟨⟨generous.schedule, generous.chunk⟩, fed⟩) start calls).2

/-- Fed calls are replied to as if nothing cut the reads short. -/
theorem serveAll_of_fed {stream : Stream} {calls : List Call} (fed : stream.Fed calls) :
    (serveAll stream calls).1 = (serveAll stream.uncut calls).1 := by
  -- The log of the reads is between the stream and the one without limits.
  have itself : Mirrors (fun _ : Logged Stream => False) (fun logged stream =>
      logged.source = stream) := Logged.mirrors
  have plain := itself.serveAll (fun impossible _ => impossible)
    (by rintro logged _ rfl bytes; rfl)
    (show ({ source := stream } : Logged Stream).source = stream from rfl) calls
  have uncut := mirrors_uncut.serveAll (fun hungry _ => hungry)
    (by rintro logged _ rfl bytes; rfl)
    (show stream.uncut = ({ source := stream } : Logged Stream).source.uncut from rfl) calls
  rcases plain with impossible | ⟨loggedSame, -⟩
  · exact impossible.elim
  rcases uncut with hungry | ⟨uncutSame, -⟩
  · exact absurd fed hungry
  · exact loggedSame.symm.trans uncutSame

/-- Whatever limits the reads of a stream, as long as every read gives something while something is
left, calls have the replies and leave the positions that they have under any other such limits, and
under none. -/
theorem short_reads_change_nothing (stream : Stream) (schedule : List (Option Nat))
    (chunk : Option Nat) (calls : List Call) (fed : stream.Fed calls)
    (fedToo : Fed { stream with schedule, chunk } calls) :
    (serveAll { stream with schedule, chunk } calls).1 = (serveAll stream calls).1 ∧
      (serveAll stream calls).1 = (serveAll stream.uncut calls).1 := by
  have uncut := serveAll_of_fed fed
  exact ⟨(serveAll_of_fed fedToo).trans uncut.symm, uncut⟩

/-- A frame that is cut off, and then not, is read in pieces of any size, one of them missing at the
end of the bytes, just as it is read byte by byte. -/
theorem short_reads_change_nothing_of_cut_frame :
    let frame : Bytes := Frame.encode ⟨2, List.replicate 28 7, by decide⟩
    let stream : Stream :=
      { content := frame.take 20, schedule := [some 3, some 6, some 12, none], chunk := some 5 }
    let calls : List Call := [.readFrame, .append (frame.drop 20), .iterate none]
    stream.Fed calls ∧ Fed { stream with schedule := [], chunk := some 1 } calls ∧
      (serveAll stream calls).1.map Prod.snd = [0, 0, 36] ∧
      (serveAll { stream with schedule := [], chunk := some 1 } calls).1 =
        (serveAll stream calls).1 ∧
      (serveAll stream calls).1 = (serveAll stream.uncut calls).1 := by
  intro frame stream calls
  have fed : stream.Fed calls := by decide
  have fedToo : Fed { stream with schedule := [], chunk := some 1 } calls :=
    Generous.fed ⟨by simp, by simp⟩ calls
  exact ⟨fed, fedToo, by decide,
    short_reads_change_nothing stream [] (some 1) calls fed fedToo⟩

end Stream

end Unified2
