import Unified2.Proofs.Frame.Sweep

/-! One source in place of another: frames and records are read through gathered bytes alone, so
sources that give the same bytes to every gathering give the same frames. -/

namespace Unified2

namespace ByteSource

variable {σ τ : Type} [ByteSource σ] [ByteSource τ]

/-- What is true of a source stays true, whatever is read from it and wherever it is moved. -/
structure Lasting (holds : σ → Prop) : Prop where
  read : ∀ {source : σ}, holds source → ∀ asked, 0 < asked →
    holds (ByteSource.read source asked).2
  seek : ∀ {source : σ}, holds source → ∀ offset, holds (ByteSource.seek source offset)

namespace Lasting

variable {holds : σ → Prop} {source : σ}

/-- Gathering is reading. -/
theorem gatherWithin (lasting : Lasting holds) (before : holds source) (reads missing : Nat)
    (gathered : Bytes) : holds (ByteSource.gatherWithin reads missing source gathered).2 := by
  -- Each round reads at most once, and only if something is missing.
  induction reads generalizing source missing gathered with
  | zero => exact before
  | succ reads ih =>
    obtain rfl | wanted := Nat.eq_zero_or_pos missing
    · simpa using before
    have after := lasting.read before missing wanted
    cases answered : ByteSource.read source missing with
    | mk chunk next =>
      rw [answered] at after
      by_cases nothing : chunk = []
      · subst nothing
        rw [gatherWithin_of_nothing wanted answered]
        exact after
      · rw [gatherWithin_of_chunk wanted answered nothing]
        exact ih after _ _

/-- Gathering any number of bytes keeps it. -/
theorem gather (lasting : Lasting holds) (before : holds source) (size : Nat) :
    holds (ByteSource.gather source size).2 :=
  lasting.gatherWithin before size size []

/-- What is true behind the header of a frame is true behind the frame. -/
theorem readFrame_of_header (lasting : Lasting holds)
    (header : holds (ByteSource.gather source Frame.headerLength).2) :
    holds (ByteSource.readFrame source).2 := by
  -- Every way out but one goes back from where the last gathering ended.
  have ways := readsFrame source
  generalize ByteSource.readFrame source = outcome at ways
  cases ways with
  | nothing headRead =>
    rw [headRead] at header
    exact lasting.seek header _
  | partialHeader headRead some partly =>
    rw [headRead] at header
    exact lasting.seek header _
  | @partialBody head _ _ _ headRead some wide bodyRead partly =>
    rw [headRead] at header
    have behind := lasting.gather header (Frame.headerBodyLength head).toNat
    rw [bodyRead] at behind
    exact lasting.seek behind _
  | @whole head _ _ _ headRead some wide bodyRead whole =>
    rw [headRead] at header
    have behind := lasting.gather header (Frame.headerBodyLength head).toNat
    rw [bodyRead] at behind
    exact behind

/-- Reading a frame gathers its header and its body, and goes back if they are not there. -/
theorem readFrame (lasting : Lasting holds) (before : holds source) :
    holds (ByteSource.readFrame source).2 :=
  lasting.readFrame_of_header (lasting.gather before _)

/-- A sweep reads frames. -/
theorem sweepWithin (lasting : Lasting holds) (before : holds source) (rule : SweepRule)
    (frames : Nat) (room : Option Nat) (passed : List Sighting) :
    holds (rule.sweepWithin frames room source passed).source := by
  -- Every round reads one frame, and what is true behind it is all the next round needs.
  induction frames generalizing source room passed with
  | zero => exact before
  | succ frames ih =>
    by_cases full : room = some 0
    · simpa [SweepRule.sweepWithin, full] using before
    have after := lasting.readFrame before
    rw [← readRecord_snd] at after
    simp only [SweepRule.sweepWithin, if_neg full]
    cases answered : readRecord source with
    | mk answer next =>
      rw [answered] at after
      cases answer with
      | error reason => exact after
      | ok outcome =>
        -- A corrupt frame may end the sweep; any other one lets it go on.
        dsimp only
        split
        · exact after
        · exact ih after _ _

end Lasting

/-- Two answers are one and leave the same, unless something was lost for the first. -/
def Agree {α : Type} (lost : σ → Prop) (same : σ → τ → Prop) (one : α × σ) (other : α × τ) : Prop :=
  lost one.2 ∨ one.1 = other.1 ∧ same one.2 other.2

/-- Sources of one kind give to every gathering what the same sources of another kind give, unless
something is lost, which it then is for good. -/
structure Mirrors (lost : σ → Prop) (same : σ → τ → Prop) : Prop where
  lasting : Lasting lost
  position_eq : ∀ {source : σ} {image : τ}, same source image → position source = position image
  remaining_eq : ∀ {source : σ} {image : τ}, same source image →
    remaining source = remaining image
  seek : ∀ {source : σ} {image : τ}, same source image → ∀ offset,
    same (ByteSource.seek source offset) (ByteSource.seek image offset)
  gather : ∀ {source : σ} {image : τ}, same source image → ∀ size,
    Agree lost same (ByteSource.gather source size) (ByteSource.gather image size)

namespace Mirrors

variable {lost : σ → Prop} {same : σ → τ → Prop} {source : σ} {image : τ}

/-- The same frame is read from both. -/
theorem readFrame (mirrors : Mirrors lost same) (alike : same source image) :
    Agree lost same (ByteSource.readFrame source) (ByteSource.readFrame image) := by
  have start := mirrors.position_eq alike
  rcases mirrors.gather alike Frame.headerLength with gone | ⟨headSame, middleSame⟩
  · exact .inl (mirrors.lasting.readFrame_of_header gone)
  cases headRead : ByteSource.gather source Frame.headerLength with
  | mk head middle =>
  cases otherHeadRead : ByteSource.gather image Frame.headerLength with
  | mk otherHead otherMiddle =>
  rw [headRead, otherHeadRead] at headSame middleSame
  obtain rfl : head = otherHead := headSame
  -- With the same header both go back to the start, or both gather the same number of bytes.
  by_cases nothing : head = []
  · subst nothing
    rw [readFrame_of_nothing headRead, readFrame_of_nothing otherHeadRead, start]
    exact .inr ⟨rfl, mirrors.seek middleSame _⟩
  by_cases partly : head.length < Frame.headerLength
  · rw [readFrame_of_partial_header headRead nothing partly,
      readFrame_of_partial_header otherHeadRead nothing partly, start]
    exact .inr ⟨rfl, mirrors.seek middleSame _⟩
  have wide := Nat.le_of_not_lt partly
  have bodies := mirrors.gather middleSame (Frame.headerBodyLength head).toNat
  cases bodyRead : ByteSource.gather middle (Frame.headerBodyLength head).toNat with
  | mk body after =>
  cases otherBodyRead : ByteSource.gather otherMiddle (Frame.headerBodyLength head).toNat with
  | mk otherBody otherAfter =>
  rw [bodyRead, otherBodyRead] at bodies
  by_cases whole : body.length = (Frame.headerBodyLength head).toNat
  · rw [readFrame_of_whole headRead wide bodyRead whole]
    rcases bodies with gone | ⟨bodySame, afterSame⟩
    · exact .inl gone
    · obtain rfl : body = otherBody := bodySame
      rw [readFrame_of_whole otherHeadRead wide otherBodyRead whole]
      exact .inr ⟨rfl, afterSame⟩
  · rw [readFrame_of_partial_body headRead wide bodyRead whole]
    rcases bodies with gone | ⟨bodySame, afterSame⟩
    · -- What was lost is not found by going back.
      exact .inl (mirrors.lasting.seek gone _)
    · obtain rfl : body = otherBody := bodySame
      rw [readFrame_of_partial_body otherHeadRead wide otherBodyRead whole, start]
      exact .inr ⟨rfl, mirrors.seek afterSame _⟩

/-- The same record is read from both. -/
theorem readRecord (mirrors : Mirrors lost same) (alike : same source image) :
    Agree lost same (ByteSource.readRecord source) (ByteSource.readRecord image) := by
  rcases mirrors.readFrame alike with gone | ⟨frameSame, afterSame⟩
  · exact .inl gone
  · exact .inr ⟨congrArg (Except.map Frame.decode) frameSame, afterSame⟩

/-- A sweep passes the same frames of both and ends with both for the same reason. -/
theorem sweepWithin (mirrors : Mirrors lost same) (alike : same source image) (rule : SweepRule)
    (frames : Nat) (room : Option Nat) (passed : List Sighting) :
    let one := rule.sweepWithin frames room source passed
    let other := rule.sweepWithin frames room image passed
    Agree lost same ((one.sightings, one.ending), one.source)
      ((other.sightings, other.ending), other.source) := by
  -- Round by round both read the same record, so both rules decide the same.
  induction frames generalizing source image room passed with
  | zero => exact .inr ⟨rfl, alike⟩
  | succ frames ih =>
    by_cases full : room = some 0
    · simpa [SweepRule.sweepWithin, full] using .inr ⟨rfl, alike⟩
    have start := mirrors.position_eq alike
    have records := mirrors.readRecord alike
    simp only [SweepRule.sweepWithin, if_neg full, start]
    cases answered : ByteSource.readRecord source with
    | mk answer next =>
    cases otherAnswered : ByteSource.readRecord image with
    | mk otherAnswer otherNext =>
    rw [answered, otherAnswered] at records
    rcases records with gone | ⟨answerSame, nextSame⟩
    · -- What the sweep goes on with is lost already.
      refine .inl ?_
      cases answer with
      | error reason => exact gone
      | ok outcome =>
        dsimp only
        split
        · exact gone
        · exact mirrors.lasting.sweepWithin gone _ _ _ _
    · obtain rfl : answer = otherAnswer := answerSame
      cases answer with
      | error reason => exact .inr ⟨rfl, nextSame⟩
      | ok outcome =>
        dsimp only
        split
        · exact .inr ⟨rfl, nextSame⟩
        · exact ih nextSame _ _

/-- Both have as many bytes left, so a sweep goes as far with one as with the other. -/
theorem sweep (mirrors : Mirrors lost same) (alike : same source image) (rule : SweepRule)
    (limit : Option Int) :
    let one := rule.sweep limit source
    let other := rule.sweep limit image
    Agree lost same ((one.sightings, one.ending), one.source)
      ((other.sightings, other.ending), other.source) := by
  have left := mirrors.remaining_eq alike
  simp only [SweepRule.sweep, left]
  exact mirrors.sweepWithin alike rule _ _ []

end Mirrors

end ByteSource

end Unified2
