import Unified2.Proofs.Frame.Mirror

/-! Reading loops with no bound on how often they go round. They end, as every time round but the
last one takes a frame out of the bytes that remain; and a loop can be cut where a limit ends it. -/

namespace Unified2

namespace ByteSource

variable {σ : Type} [ByteSource σ]

/-- Reads take what they give out of the bytes that remain. -/
def Draws (σ : Type) [ByteSource σ] : Prop :=
  -- How much they give is left open.
  ∀ (source : σ) (asked : Nat),
    remaining (read source asked).2 + (read source asked).1.length ≤ remaining source

/-- What is gathered in so many reads was taken out of the bytes that remained. -/
theorem Draws.gatherWithin (draws : Draws σ) (reads missing : Nat) (source : σ)
    (gathered : Bytes) :
    remaining (gatherWithin reads missing source gathered).2 +
        (gatherWithin reads missing source gathered).1.length ≤
      remaining source + gathered.length := by
  -- Each read moves as many bytes from those that remain to those gathered.
  induction reads generalizing missing source gathered with
  | zero => simp [ByteSource.gatherWithin]
  | succ reads ih =>
    obtain rfl | wanted := Nat.eq_zero_or_pos missing
    · simp
    have drawn := draws source missing
    cases answered : read source missing with
    | mk chunk after =>
      simp only [answered] at drawn
      by_cases nothing : chunk = []
      · subst nothing
        rw [gatherWithin_of_nothing wanted answered]
        simpa using drawn
      · -- The chunk is gathered now, and that much less is missing.
        rw [gatherWithin_of_chunk wanted answered nothing]
        have later := ih (missing - chunk.length) after (chunk.reverse ++ gathered)
        rw [List.length_append, List.length_reverse] at later
        omega

/-- What is gathered was taken out of the bytes that remained. -/
theorem Draws.gather (draws : Draws σ) {source after : σ} {size : Nat} {bytes : Bytes}
    (gathered : gather source size = (bytes, after)) :
    remaining after + bytes.length ≤ remaining source := by
  have drawn := draws.gatherWithin size size source []
  rw [show ByteSource.gatherWithin size size source [] = (bytes, after) from gathered] at drawn
  exact drawn

/-- A frame that is read was taken out of the bytes that remained. -/
theorem Draws.readFrame (draws : Draws σ) {source after : σ} {frame : Frame}
    (answered : readFrame source = (.ok frame, after)) :
    remaining after + frame.size ≤ remaining source := by
  -- Of the ways out only the last gives a frame, and that was gathered in two parts.
  have ways := readsFrame source
  rw [answered] at ways
  cases ways with
  | whole headRead some wide bodyRead whole =>
    -- The header and the body are all of the frame, one drawn after the other.
    have headDrawn := draws.gather headRead
    have bodyDrawn := draws.gather bodyRead
    simp only [Frame.size]
    omega

/-- The invariant holds of a source whatever is read from it, and wherever it is moved. -/
structure Keeps (invariant : σ → Prop) : Prop where
  read : ∀ source asked, invariant source → invariant (ByteSource.read source asked).2
  seek : ∀ source offset, invariant source → invariant (ByteSource.seek source offset)

/-- What every read keeps is kept by the reads that ask for something. -/
theorem Keeps.lasting {invariant : σ → Prop} (keeps : Keeps invariant) : Lasting invariant :=
  ⟨fun holds asked _ => keeps.read _ asked holds, fun holds offset => keeps.seek _ offset holds⟩

end ByteSource

namespace SweepRule

open ByteSource

variable {σ : Type} [ByteSource σ]

/-- The room that is left for records after a frame was passed. -/
def roomAfter (rule : SweepRule) (room : Option Nat) (sighting : Sighting) : Option Nat :=
  if rule.counts sighting then room.map (· - 1) else room

/-- A reading loop that goes on as long as there is room for another record: how often it tries to
read one, and what it has passed in the end. -/
inductive Loops (rule : SweepRule) : (room : Option Nat) → σ → (tries : Nat) → Sweep σ → Prop
  /-- It does not try again once there is no room. -/
  | full (source : σ) : Loops rule (some 0) source 0 ⟨[], .full, source⟩
  /-- There is no frame to pass. -/
  | short {room : Option Nat} {source after : σ} {reason : Shortfall} (open_ : room ≠ some 0)
      (answered : readRecord source = (.error reason, after)) :
      Loops rule room source 1 ⟨[], .shortfall reason, after⟩
  /-- The frame is corrupt, and the rule says to stop at it. -/
  | corrupt {room : Option Nat} {source after : σ} {error : BodyError} (open_ : room ≠ some 0)
      (answered : readRecord source = (.ok (.error error), after))
      (stops : rule.stopAtCorrupt = true) :
      Loops rule room source 1 ⟨[⟨position source, .error error⟩], .corrupt error, after⟩
  /-- The frame is passed, and the loop goes round again. -/
  | again {room : Option Nat} {source after : σ} {outcome : Except BodyError Record} {tries : Nat}
      {sweep : Sweep σ} (open_ : room ≠ some 0)
      (answered : readRecord source = (.ok outcome, after))
      (goesOn : rule.stopAtCorrupt = true → outcome.isOk = true)
      (later : Loops rule (rule.roomAfter room ⟨position source, outcome⟩) after tries sweep) :
      Loops rule room source (tries + 1)
        ⟨⟨position source, outcome⟩ :: sweep.sightings, sweep.ending, sweep.source⟩

variable {rule : SweepRule} {room : Option Nat} {source : σ} {tries : Nat} {sweep : Sweep σ}

/-- With a bound that a loop keeps to it passes the same and ends the same. -/
theorem Loops.sweepWithin_eq (loops : rule.Loops room source tries sweep) {reads : Nat}
    (enough : tries ≤ reads) (passed : List Sighting) :
    rule.sweepWithin reads room source passed =
      ⟨passed.reverse ++ sweep.sightings, sweep.ending, sweep.source⟩ := by
  -- The bound counts down as often as the loop goes round.
  induction loops generalizing reads passed with
  | full source => cases reads <;> simp [sweepWithin]
  | short open_ answered =>
    obtain ⟨reads, rfl⟩ := Nat.exists_eq_add_of_le' enough
    simp [sweepWithin, open_, answered]
  | corrupt open_ answered stops =>
    obtain ⟨reads, rfl⟩ := Nat.exists_eq_add_of_le' enough
    simp [sweepWithin, open_, answered, stops]
  | @again room source after outcome tries sweep open_ answered goesOn later ih =>
    obtain ⟨reads, rfl⟩ := Nat.exists_eq_add_of_le' (Nat.le_trans (Nat.le_add_left 1 tries) enough)
    have same := ih (Nat.le_of_add_le_add_right enough) (⟨position source, outcome⟩ :: passed)
    rw [roomAfter] at same
    cases outcome with
    | ok record => simp [sweepWithin, open_, answered, same]
    | error error =>
      have passes : rule.stopAtCorrupt = false := by simpa [Except.isOk, Except.toBool] using goesOn
      simp [sweepWithin, open_, answered, passes, same]

/-- A loop goes one way only. -/
theorem Loops.unique (loops : rule.Loops room source tries sweep) {triesToo : Nat}
    {other : Sweep σ} (loopsToo : rule.Loops room source triesToo other) : sweep = other := by
  -- Both are what a bound that is large enough for the two of them leads to.
  have one := loops.sweepWithin_eq (Nat.le_max_left tries triesToo) []
  have two := loopsToo.sweepWithin_eq (Nat.le_max_right tries triesToo) []
  exact one.symm.trans two

/-- Every loop ends. -/
theorem exists_loops (draws : Draws σ) (rule : SweepRule) (room : Option Nat) (source : σ) :
    ∃ tries sweep, rule.Loops room source tries sweep := by
  -- A loop that goes round again has fewer bytes left, for a frame is never empty.
  induction size : remaining source using Nat.strongRecOn generalizing room source with
  | ind bytes ih =>
    by_cases closed : room = some 0
    · subst closed
      exact ⟨0, _, .full source⟩
    cases read : readFrame source with
    | mk answer after =>
      cases answer with
      | error reason =>
        exact ⟨1, _, .short closed (show readRecord source = (.error reason, after) by
          simp [readRecord, read, Except.map])⟩
      | ok frame =>
        have answered : readRecord source = (.ok frame.decode, after) := by
          simp [readRecord, read, Except.map]
        have drawn := draws.readFrame read
        have header : Frame.headerLength = 8 := rfl
        have large := frame.headerLength_le_size
        obtain ⟨tries, sweep, later⟩ := ih (remaining after) (by omega)
          (rule.roomAfter room ⟨position source, frame.decode⟩) after rfl
        by_cases goesOn : rule.stopAtCorrupt = true → frame.decode.isOk = true
        · exact ⟨_, _, .again closed answered goesOn later⟩
        · -- The frame is corrupt, and the loop may not pass it by.
          cases decoded : frame.decode with
          | ok record => simp [decoded, Except.isOk, Except.toBool] at goesOn
          | error error =>
            have stops : rule.stopAtCorrupt = true := by
              by_contra passes
              exact goesOn fun stops => absurd stops passes
            exact ⟨1, _, .corrupt closed (decoded ▸ answered) stops⟩

/-- A loop tries to read as often as it passes a frame, and once more if there is none. -/
theorem Loops.tries_eq (loops : rule.Loops room source tries sweep) :
    tries = sweep.sightings.length + match sweep.ending with
      | .shortfall _ => 1
      | _ => 0 := by
  -- Only the try that finds no further frame passes none.
  induction loops with
  | full source => rfl
  | short open_ answered => rfl
  | corrupt open_ answered stops => rfl
  | again open_ answered goesOn later ih =>
    simp only [List.length_cons]
    omega

/-- The outcome of a read that was not short is what a frame decodes to. -/
theorem readRecord_eq_ok {after : σ} {outcome : Except BodyError Record}
    (answered : readRecord source = (.ok outcome, after)) :
    ∃ frame : Frame, frame.decode = outcome ∧ readFrame source = (.ok frame, after) := by
  cases read : readFrame source with
  | mk answer last =>
    cases answer with
    | error reason => simp [readRecord, read, Except.map] at answered
    | ok frame =>
      have parts : frame.decode = outcome ∧ last = after := by
        simpa [readRecord, read, Except.map] using answered
      exact ⟨frame, parts.1, by rw [parts.2]⟩

/-- A loop tries to read no more often than headers fit into the bytes that remain, and once
more. -/
theorem Loops.tries_le (loops : rule.Loops room source tries sweep) (draws : Draws σ) :
    tries ≤ remaining source / Frame.headerLength + 1 := by
  rw [show Frame.headerLength = 8 from rfl]
  induction loops with
  | full source => omega
  | short open_ answered => omega
  | corrupt open_ answered stops => omega
  | again open_ answered goesOn later ih =>
    -- The frame passed takes one header at least.
    obtain ⟨frame, -, read⟩ := readRecord_eq_ok answered
    have drawn := draws.readFrame read
    have large := frame.headerLength_le_size
    rw [show Frame.headerLength = 8 from rfl] at large
    omega

/-- A sweep is a loop: its bound is as much as a loop needs. -/
theorem Loops.sweep_eq {limit : Option Int}
    (loops : rule.Loops (limit.map Int.toNat) source tries sweep) (draws : Draws σ) :
    rule.sweep limit source = sweep :=
  -- One try more than headers that fit is just what the bound allows.
  loops.sweepWithin_eq (loops.tries_le draws) []

/-- A sweep is a loop that tries to read at most so often. -/
def EndsWithin (rule : SweepRule) (limit : Option Int) (source : σ) (most : Nat) : Prop :=
  ∃ tries, rule.Loops (limit.map Int.toNat) source tries (rule.sweep limit source) ∧ tries ≤ most

/-- A sweep is a loop that tries to read no more often than headers fit into the bytes that remain,
and once more. -/
theorem endsWithin_remaining (draws : Draws σ) (rule : SweepRule) (limit : Option Int)
    (source : σ) :
    rule.EndsWithin limit source (remaining source / Frame.headerLength + 1) := by
  obtain ⟨tries, sweep, loops⟩ := exists_loops draws rule (limit.map Int.toNat) source
  exact ⟨tries, (loops.sweep_eq draws).symm ▸ loops, loops.tries_le draws⟩

/-- What a loop passes are frames that it decoded. -/
theorem Loops.exists_frame (loops : rule.Loops room source tries sweep) :
    ∀ sighting ∈ sweep.sightings, ∃ frame : Frame, sighting.outcome = frame.decode := by
  -- An outcome is what the frame that was read decodes to.
  have frameOf : ∀ {source after : σ} {outcome : Except BodyError Record},
      readRecord source = (.ok outcome, after) → ∃ frame : Frame, outcome = frame.decode := by
    intro source after outcome answered
    obtain ⟨frame, same, -⟩ := readRecord_eq_ok answered
    exact ⟨frame, same.symm⟩
  induction loops with
  | full source => simp
  | short open_ answered => simp
  | corrupt open_ answered stops => simpa using frameOf answered
  | again open_ answered passes later ih =>
    exact List.forall_mem_cons.mpr ⟨frameOf answered, ih⟩

/-- A loop that passes corrupt frames does not end with one. -/
theorem Loops.ending_ne_corrupt (loops : rule.Loops room source tries sweep)
    (goesOn : rule.stopAtCorrupt = false) (error : BodyError) : sweep.ending ≠ .corrupt error := by
  induction loops with
  | full source => nofun
  | short open_ answered => nofun
  | corrupt open_ answered stops => simp [goesOn] at stops
  | again open_ answered passes later ih => exact ih

/-- What reading keeps holds after a loop. -/
theorem Loops.keeps (loops : rule.Loops room source tries sweep) {invariant : σ → Prop}
    (keeps : Keeps invariant) (holds : invariant source) : invariant sweep.source := by
  -- A sweep with room for all the tries of the loop does the same, and it only reads frames.
  have kept := keeps.lasting.sweepWithin holds rule tries room []
  rwa [loops.sweepWithin_eq (Nat.le_refl tries) []] at kept

/-- Where a limit ended a loop, another loop can go on. -/
theorem Loops.append {most : Nat} (loops : rule.Loops (some most) source tries sweep)
    (full : sweep.ending = .full) {moreTries : Nat} {more : Sweep σ}
    (later : rule.Loops none sweep.source moreTries more) :
    ∃ allTries, rule.Loops none source allTries
      ⟨sweep.sightings ++ more.sightings, more.ending, more.source⟩ := by
  -- Without a limit the loop goes round just as it did, and then on.
  generalize roomIs : some most = room at loops
  induction loops generalizing most with
  | full source => exact ⟨_, later⟩
  | short open_ answered => cases full
  | corrupt open_ answered stops => cases full
  | @again room source after outcome tries sweep open_ answered goesOn first ih =>
    obtain ⟨left, leftIs⟩ : ∃ left, some left = rule.roomAfter room ⟨position source, outcome⟩ := by
      rw [← roomIs, roomAfter]
      split <;> exact ⟨_, rfl⟩
    obtain ⟨allTries, all⟩ := ih full later leftIs
    have unlimited : rule.roomAfter none ⟨position source, outcome⟩ = none := by simp [roomAfter]
    rw [← unlimited] at all
    have always : (none : Option Nat) ≠ some 0 := nofun
    exact ⟨allTries + 1, .again always answered goesOn all⟩

/-- A loop that its limit did not end needed none. -/
theorem Loops.unlimited {most : Nat} (loops : rule.Loops (some most) source tries sweep)
    (early : sweep.ending ≠ .full) : rule.Loops none source tries sweep := by
  -- The room is asked for at every try, so it is followed along the loop.
  generalize roomIs : some most = room at loops
  induction loops generalizing most with
  | full source => exact absurd rfl early
  | short open_ answered => exact .short nofun answered
  | corrupt open_ answered stops => exact .corrupt nofun answered stops
  | @again room source after outcome tries sweep open_ answered goesOn first ih =>
    obtain ⟨left, leftIs⟩ : ∃ left, some left = rule.roomAfter room ⟨position source, outcome⟩ := by
      rw [← roomIs, roomAfter]
      split <;> exact ⟨_, rfl⟩
    have all := ih early leftIs
    have unlimited : rule.roomAfter none ⟨position source, outcome⟩ = none := by simp [roomAfter]
    rw [← unlimited] at all
    have always : (none : Option Nat) ≠ some 0 := nofun
    exact .again always answered goesOn all

/-- Where unknown records do not count, a loop brings no more records than it may, and its limit
ends it exactly if it brings as many. -/
theorem Loops.records (loops : rule.Loops room source tries sweep)
    (uncounted : rule.countUnknown = false) {most : Nat} (limited : room = some most) :
    let brought := sweep.sightings.filterMap Sighting.known?
    brought.length ≤ most ∧ (sweep.ending = .full ↔ brought.length = most) := by
  induction loops generalizing most with
  | full source =>
    cases limited
    simp
  | short open_ answered =>
    have room : most ≠ 0 := by rintro rfl; exact open_ limited
    simp [Ne.symm room]
  | @corrupt _ source _ error open_ answered stops =>
    have room : most ≠ 0 := by rintro rfl; exact open_ limited
    have nothing : (⟨position source, .error error⟩ : Sighting).known? = none := rfl
    simp [nothing, Ne.symm room]
  | @again room source after outcome tries sweep open_ answered goesOn later ih =>
    obtain ⟨before, rfl⟩ : ∃ before, most = before + 1 := by
      refine Nat.exists_eq_succ_of_ne_zero ?_
      rintro rfl
      exact open_ limited
    -- A frame with a record takes up room, and only such a frame does.
    have counted := counts_eq uncounted ⟨position source, outcome⟩
    cases shown : (⟨position source, outcome⟩ : Sighting).known? with
    | none =>
      have same : rule.roomAfter room ⟨position source, outcome⟩ = some (before + 1) := by
        simp [roomAfter, counted, shown, limited]
      simpa [shown] using ih same
    | some record =>
      have less : rule.roomAfter room ⟨position source, outcome⟩ = some before := by
        simp [roomAfter, counted, shown, limited]
      simpa [shown] using ih less

end SweepRule

end Unified2
