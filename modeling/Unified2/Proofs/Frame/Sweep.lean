import Unified2.Frame.Sweep
import Unified2.Proofs.Frame.Source

/-! A sweep over steady reads passes the frames of its content in order; how many of them depends
on their outcomes alone. -/

namespace Unified2

namespace Frame

/-- The kind of record that the body decodes to; a corrupt frame has none. -/
def kind? (frame : Frame) : Option RecordKind := frame.decode.toOption.map Record.kind

/-- The record of a known type that the body decodes to. -/
def known? (frame : Frame) : Option Record :=
  match frame.decode with
  | .ok (.unknown _) => none
  | .ok record => some record
  | .error _ => none

/-- The frames before the first corrupt one. -/
def beforeCorrupt (frames : List Frame) : List Frame := frames.takeWhile (·.kind? != none)

/-- What passing frames from an offset on shows. -/
def sightings : (offset : Nat) → List Frame → List Sighting
  | _, [] => []
  | offset, frame :: frames => ⟨offset, frame.decode⟩ :: sightings (offset + frame.size) frames

/-- More frames show what they show behind the frames before. -/
theorem sightings_append (offset : Nat) (frames more : List Frame) :
    sightings offset (frames ++ more) =
      sightings offset frames ++ sightings (offset + totalSize frames) more := by
  induction frames generalizing offset with
  | nil => rfl
  | cons frame frames ih =>
    rw [List.cons_append, sightings, sightings, ih, totalSize_cons, Nat.add_assoc]
    rfl

/-- A sighting is that of one frame, which stands behind those before it. -/
theorem mem_sightings_iff {offset : Nat} {frames : List Frame} {sighting : Sighting} :
    sighting ∈ sightings offset frames ↔
      ∃ before frame behind, frames = before ++ frame :: behind ∧
        sighting = ⟨offset + totalSize before, frame.decode⟩ := by
  constructor
  · -- The frame is the first one, or is found among the others.
    intro seen
    induction frames generalizing offset with
    | nil => cases seen
    | cons frame frames ih =>
      rcases List.mem_cons.mp seen with first | later
      · exact ⟨[], frame, frames, rfl, first⟩
      · obtain ⟨before, found, behind, same, shows⟩ := ih later
        refine ⟨frame :: before, found, behind, ?_, ?_⟩
        · rw [same, List.cons_append]
        · rw [shows, totalSize_cons, Nat.add_assoc]
  · rintro ⟨before, frame, behind, rfl, rfl⟩
    rw [sightings_append, sightings]
    exact List.mem_append_right _ List.mem_cons_self

/-- Every frame stands behind the ones before. -/
theorem pairwise_sightings (offset : Nat) (frames : List Frame) :
    (sightings offset frames).Pairwise (·.offset < ·.offset) := by
  induction frames generalizing offset with
  | nil => exact List.Pairwise.nil
  | cons frame frames ih =>
    refine List.Pairwise.cons ?_ (ih _)
    intro sighting later
    -- A frame has a header at least, so the next one stands at another offset.
    obtain ⟨before, found, behind, -, rfl⟩ := mem_sightings_iff.mp later
    have header := headerLength_le_size frame
    have some : 0 < headerLength := by decide
    simp only
    omega

/-- What is taken from outcomes alone is the same for sightings as for their frames. -/
theorem filterMap_sightings_eq {α : Type} {seen : Sighting → Option α} {shown : Frame → Option α}
    (same : ∀ offset frame, seen ⟨offset, frame.decode⟩ = shown frame) (offset : Nat)
    (frames : List Frame) : (sightings offset frames).filterMap seen = frames.filterMap shown := by
  -- Every frame stands behind the ones before, so the offset changes on the way.
  induction frames generalizing offset with
  | nil => rfl
  | cons frame frames ih => simp only [sightings, List.filterMap_cons, ih, same]

/-- Frames show the records that they decode to, wherever they stand. -/
@[simp] theorem filterMap_sightings (offset : Nat) (frames : List Frame) :
    (sightings offset frames).filterMap Sighting.known? = frames.filterMap known? :=
  filterMap_sightings_eq (fun _ _ => rfl) offset frames

/-- All records that frames show are those that they decode to, unknown ones among them. -/
theorem filterMap_outcome_sightings (offset : Nat) (frames : List Frame) :
    (sightings offset frames).filterMap (·.outcome.toOption) =
      frames.filterMap (·.decode.toOption) :=
  filterMap_sightings_eq (fun _ _ => rfl) offset frames

/-- Sightings are counted by what their frames decode to. -/
theorem countP_sightings {seen : Sighting → Bool} {test : Frame → Bool}
    (same : ∀ offset frame, seen ⟨offset, frame.decode⟩ = test frame) (offset : Nat)
    (frames : List Frame) : (sightings offset frames).countP seen = frames.countP test := by
  induction frames generalizing offset with
  | nil => rfl
  | cons frame frames ih => simp only [sightings, List.countP_cons, ih, same]

/-- The last of several frames stands behind the others. -/
theorem getLast?_sightings (offset : Nat) {frames : List Frame} (any : frames ≠ []) :
    (sightings offset frames).getLast?.map Sighting.offset =
      some (offset + totalSize frames.dropLast) := by
  induction frames generalizing offset with
  | nil => exact absurd rfl any
  | cons frame frames ih =>
    cases frames with
    | nil => simp [sightings]
    | cons next frames =>
      -- The last of the later frames is also the last of all.
      have later := ih (offset + frame.size) (List.cons_ne_nil _ _)
      rw [sightings, sightings, List.getLast?_cons_cons, ← sightings, later,
        List.dropLast_cons_cons, totalSize_cons, Nat.add_assoc]

end Frame

/-- A record of a known type was shown by the sighting as it is. -/
theorem Sighting.outcome_of_known? {sighting : Sighting} {record : Record}
    (shows : sighting.known? = some record) : sighting.outcome = .ok record := by
  unfold known? at shows
  cases outcome : sighting.outcome with
  | error error => simp [outcome] at shows
  | ok given => cases given <;> simp_all

/-- A record of a known type is what its frame decodes to. -/
theorem Frame.decode_of_known? {frame : Frame} {record : Record}
    (shows : frame.known? = some record) : frame.decode = .ok record :=
  Sighting.outcome_of_known? (show (⟨0, frame.decode⟩ : Sighting).known? = some record from shows)

namespace SweepRule

/-- How many of the frames a sweep passes, and why it ends before the next one, if it does. -/
def pass (rule : SweepRule) : (room : Option Nat) → List Frame → Nat × Option SweepEnd
  | room, [] => (0, if room = some 0 then some .full else none)
  | room, frame :: frames =>
    if room = some 0 then (0, some .full)
    else
      match frame.decode, rule.stopAtCorrupt with
      | .error error, true => (1, some (.corrupt error))
      | _, _ =>
        let room := if rule.counts ⟨0, frame.decode⟩ then room.map (· - 1) else room
        let (passed, ending) := rule.pass room frames
        (passed + 1, ending)

variable {rule : SweepRule}

/-- Without room nothing is passed. -/
@[simp] theorem pass_zero (frames : List Frame) : rule.pass (some 0) frames = (0, some .full) := by
  cases frames with
  | nil => rfl
  | cons frame frames => rw [pass, if_pos rfl]

/-- Whether a sighting counts does not depend on where it was made. -/
theorem counts_mk (offset : Nat) (outcome : Except BodyError Record) :
    rule.counts ⟨offset, outcome⟩ = rule.counts ⟨0, outcome⟩ := rfl

/-- A frame for which there is room ends a sweep that stops at it, or is passed like the others. -/
theorem pass_cons (rule : SweepRule) {room : Option Nat} (frame : Frame) (frames : List Frame)
    (open_ : room ≠ some 0) :
    (∃ error, rule.stopAtCorrupt = true ∧ frame.decode = .error error ∧
      rule.pass room (frame :: frames) = (1, some (.corrupt error))) ∨
    ((rule.stopAtCorrupt = true → frame.kind? ≠ none) ∧
      ∃ left, (left = if rule.counts ⟨0, frame.decode⟩ then room.map (· - 1) else room) ∧
        rule.pass room (frame :: frames) =
          ((rule.pass left frames).1 + 1, (rule.pass left frames).2)) := by
  rw [pass, if_neg open_]
  cases decoded : frame.decode with
  | ok record => exact .inr ⟨by simp [Frame.kind?, decoded, Except.toOption], _, rfl, rfl⟩
  | error error =>
    cases stops : rule.stopAtCorrupt with
    | false => exact .inr ⟨by simp, _, rfl, rfl⟩
    | true => exact .inl ⟨error, rfl, rfl, rfl⟩

/-- No more frames are passed than there are. -/
theorem pass_le (room : Option Nat) (frames : List Frame) :
    (rule.pass room frames).1 ≤ frames.length := by
  -- However it goes on, a frame is passed once.
  induction frames generalizing room with
  | nil => simp [pass]
  | cons frame frames ih =>
    by_cases closed : room = some 0
    · simp [closed]
    rcases rule.pass_cons frame frames closed with ⟨error, _, _, ends⟩ | ⟨_, left, _, goes⟩
    · simp [ends]
    · simpa [goes] using ih left

/-- A sweep with a reason of its own aside, all frames are passed. -/
theorem pass_eq_length {room : Option Nat} {frames : List Frame}
    (open_ : (rule.pass room frames).2 = none) : (rule.pass room frames).1 = frames.length := by
  -- To stop before a frame, or at one, would be such a reason.
  induction frames generalizing room with
  | nil => rfl
  | cons frame frames ih =>
    by_cases closed : room = some 0
    · simp [closed] at open_
    rcases rule.pass_cons frame frames closed with ⟨error, _, _, ends⟩ | ⟨_, left, _, goes⟩
    · simp [ends] at open_
    · rw [goes] at open_ ⊢
      exact congrArg (· + 1) (ih open_)

/-- With room for a record the first frame is passed, whatever it is. -/
theorem pass_pos {room : Option Nat} {frames : List Frame} (open_ : room ≠ some 0)
    (some : frames ≠ []) : 0 < (rule.pass room frames).1 := by
  cases frames with
  | nil => exact absurd rfl some
  | cons frame frames =>
    rcases rule.pass_cons frame frames open_ with ⟨error, _, _, ends⟩ | ⟨_, left, _, goes⟩
    · simp [ends]
    · simp [goes]

/-- Frames alone are no reason to say that there are none. -/
theorem pass_ne_shortfall (room : Option Nat) (frames : List Frame) (reason : Shortfall) :
    (rule.pass room frames).2 ≠ some (.shortfall reason) := by
  -- The reasons given are a full answer and a corrupt frame.
  induction frames generalizing room with
  | nil =>
    by_cases closed : room = some 0
    · simp [closed]
    · simp [pass, closed]
  | cons frame frames ih =>
    by_cases closed : room = some 0
    · simp [closed]
    rcases rule.pass_cons frame frames closed with ⟨error, _, _, ends⟩ | ⟨_, left, _, goes⟩
    · simp [ends]
    · rw [goes]
      exact ih left

open ByteSource in
/-- With enough reads a sweep passes the frames that its rule lets it pass, and ends as it says. -/
theorem sweepWithin_spec {σ : Type} [ByteSource σ] {backing : Backing σ}
    (steady : backing.Steady) {source : σ} (sound : backing.sound source)
    {frames : List Frame} {rest : Bytes}
    (split : Frame.Splits (backing.ahead source) frames rest)
    {reads : Nat} (enough : frames.length < reads) (room : Option Nat) (passed : List Sighting) :
    let count := (rule.pass room frames).1
    let sweep := rule.sweepWithin reads room source passed
    sweep.sightings =
        passed.reverse ++ Frame.sightings (position source) (frames.take count) ∧
      sweep.ending = (rule.pass room frames).2.getD (.shortfall (.ofRest rest)) ∧
      backing.Advanced source sweep.source (Frame.totalSize (frames.take count)) := by
  -- Every read but the last passes one of the frames.
  induction reads generalizing source frames room passed with
  | zero => omega
  | succ reads ih =>
    by_cases closed : room = some 0
    · simp [closed, sweepWithin, Frame.sightings, Backing.Advanced.refl sound]
    cases frames with
    | nil =>
      -- The last read finds no frame, and says why.
      have spent : Frame.first? (backing.ahead source) = none := by
        have whole := split.joined
        rw [List.flatMap_nil, List.nil_append] at whole
        exact whole ▸ split.first?_rest
      have same : backing.ahead source = rest := by simpa using split.joined
      obtain ⟨short, stayed⟩ := Backing.readFrame_of_first?_eq_none steady sound spent
      cases answered : readRecord source with
      | mk answer after =>
        have answerIs : answer = .error (.ofRest rest) := by
          have := congrArg Prod.fst answered
          simpa [short, same, Except.map, eq_comm] using this
        have afterIs : after = (readFrame source).2 := (congrArg Prod.snd answered).symm
        subst answerIs afterIs
        simp [sweepWithin, closed, answered, pass, Frame.sightings, stayed]
    | cons frame frames =>
      -- The read brings the frame in front, and the others are ahead of the source it leaves.
      obtain ⟨later, parts, splitLater⟩ := split.tail
      have found := Frame.first?_eq_some_iff.mpr parts
      obtain ⟨read, moved⟩ := Backing.readFrame_of_first? steady sound found
      have next : Frame.Splits (backing.ahead (readFrame source).2) frames rest := by
        rw [moved.ahead_eq, parts, List.drop_left' frame.length_encode]
        exact splitLater
      have answered : readRecord source = (.ok frame.decode, (readFrame source).2) := by
        rw [← readRecord_snd, ← Prod.eta (readRecord source), readRecord_fst, read]
        rfl
      rcases rule.pass_cons frame frames closed with
        ⟨error, stops, decoded, ends⟩ | ⟨passable, left, leftIs, goes⟩
      · -- The corrupt frame is passed as well, and is the last one.
        simp [sweepWithin, closed, answered, decoded, stops, ends, Frame.sightings, moved]
      · have step : rule.sweepWithin (reads + 1) room source passed =
            rule.sweepWithin reads left (readFrame source).2
              (⟨position source, frame.decode⟩ :: passed) := by
          rw [leftIs, ← counts_mk (position source)]
          cases decoded : frame.decode with
          | ok record => simp [sweepWithin, closed, answered, decoded]
          | error error =>
            have goesOn : rule.stopAtCorrupt = false := by
              simpa [Frame.kind?, decoded, Except.toOption] using passable
            simp [sweepWithin, closed, answered, decoded, goesOn]
        obtain ⟨shown, ended, advanced⟩ := ih moved.sound next
          (by simpa using enough) left (⟨position source, frame.decode⟩ :: passed)
        simp only [step, goes, List.take_succ_cons, Frame.totalSize_cons, Frame.sightings]
        refine ⟨?_, ended, moved.trans advanced⟩
        rw [shown, moved.position_eq]
        simp

open ByteSource in
/-- A sweep passes the frames that its rule lets it pass, and ends as it says. -/
theorem sweep_spec (rule : SweepRule) {σ : Type} [ByteSource σ] {backing : Backing σ}
    (steady : backing.Steady) {source : σ} (sound : backing.sound source)
    {frames : List Frame} {rest : Bytes}
    (split : Frame.Splits (backing.ahead source) frames rest) (limit : Option Int) :
    let passing := rule.pass (limit.map Int.toNat) frames
    let sweep := rule.sweep limit source
    sweep.sightings = Frame.sightings (position source) (frames.take passing.1) ∧
      sweep.ending = passing.2.getD (.shortfall (.ofRest rest)) ∧
      backing.Advanced source sweep.source (Frame.totalSize (frames.take passing.1)) := by
  -- Every frame takes one header at least, so there are no more of them than reads.
  have headers := Frame.length_mul_headerLength_le frames
  have lengths := split.length_eq
  have expected : (backing.ahead source).length ≤ remaining source :=
    backing.length_le_remaining source sound
  have enough : frames.length < remaining source / Frame.headerLength + 1 := by
    apply Nat.lt_succ_of_le
    apply (Nat.le_div_iff_mul_le (by decide)).mpr
    omega
  exact sweepWithin_spec steady sound split enough (limit.map Int.toNat) []

/-- Without a limit a sweep that passes corrupt frames passes all of them. -/
theorem pass_unlimited (goesOn : rule.stopAtCorrupt = false) (frames : List Frame) :
    rule.pass none frames = (frames.length, none) := by
  -- Counting takes nothing off a room without a bound.
  induction frames with
  | nil => rfl
  | cons frame frames ih =>
    rcases rule.pass_cons frame frames (show none ≠ some 0 by simp) with
      ⟨error, stops, _⟩ | ⟨_, left, leftIs, goes⟩
    · simp [goesOn] at stops
    · have same : left = none := by simpa using leftIs
      simp [goes, same, ih]

/-- Without a limit a sweep that stops at corrupt frames passes all before the first of them, and
that one too. -/
theorem pass_unlimited_stopping (stops : rule.stopAtCorrupt = true) (frames : List Frame) :
    match frames[(Frame.beforeCorrupt frames).length]? with
    | none => rule.pass none frames = ((Frame.beforeCorrupt frames).length, none)
    | some corrupt => ∃ error, corrupt.decode = .error error ∧
        rule.pass none frames =
          ((Frame.beforeCorrupt frames).length + 1, some (.corrupt error)) := by
  -- Either the first frame is the corrupt one, or it is before that one.
  induction frames with
  | nil => rfl
  | cons frame frames ih =>
    rcases rule.pass_cons frame frames (show none ≠ some 0 by simp) with
      ⟨error, _, decoded, ends⟩ | ⟨passable, left, leftIs, goes⟩
    · have corrupt : frame.kind? = none := by simp [Frame.kind?, decoded, Except.toOption]
      simp [Frame.beforeCorrupt, corrupt, decoded, ends]
    · -- The rest of the frames decides, one frame later.
      have same : left = none := by simpa using leftIs
      have more : Frame.beforeCorrupt (frame :: frames) = frame :: Frame.beforeCorrupt frames := by
        simp [Frame.beforeCorrupt, passable stops]
      rw [more, List.length_cons, List.getElem?_cons_succ, goes, same]
      cases next : frames[(Frame.beforeCorrupt frames).length]? with
      | none =>
        rw [next] at ih
        simp [ih]
      | some corrupt =>
        rw [next] at ih
        obtain ⟨error, decoded, ends⟩ := ih
        exact ⟨error, decoded, by rw [ends]⟩

/-- Where unknown records do not count, just the records of known types do. -/
theorem counts_eq (uncounted : rule.countUnknown = false) (sighting : Sighting) :
    rule.counts sighting = sighting.known?.isSome := by
  -- A corrupt frame counts under no rule.
  unfold counts Sighting.known?
  cases sighting.outcome with
  | error error => rfl
  | ok record => cases record <;> simp [uncounted]

/-- A frame counts where it would be seen to count. -/
theorem counts_frame (uncounted : rule.countUnknown = false) (frame : Frame) :
    rule.counts ⟨0, frame.decode⟩ = frame.known?.isSome :=
  counts_eq uncounted _

/-- A limited sweep that passes corrupt and unknown frames brings as many records as it may. -/
theorem pass_limited (goesOn : rule.stopAtCorrupt = false)
    (uncounted : rule.countUnknown = false) (room : Nat) (frames : List Frame) :
    (frames.take (rule.pass (some room) frames).1).filterMap Frame.known? =
        (frames.filterMap Frame.known?).take room ∧
      (rule.pass (some room) frames).2 =
        if room ≤ (frames.filterMap Frame.known?).length then some .full else none := by
  -- A frame with a record takes up room, any other frame is passed on the way.
  induction frames generalizing room with
  | nil => simp [pass]
  | cons frame frames ih =>
    by_cases closed : room = 0
    · simp [closed]
    have open_ : some room ≠ some 0 := by simpa using closed
    rcases rule.pass_cons frame frames open_ with ⟨error, stops, _⟩ | ⟨_, left, leftIs, goes⟩
    · simp [goesOn] at stops
    rw [counts_frame uncounted] at leftIs
    cases known : frame.known? with
    | none =>
      obtain ⟨records, ending⟩ := ih room
      have same : left = some room := by simpa [known] using leftIs
      simp [goes, same, known, records, ending]
    | some record =>
      obtain ⟨records, ending⟩ := ih (room - 1)
      have less : left = some (room - 1) := by simpa [known] using leftIs
      obtain ⟨before, rfl⟩ : ∃ before, room = before + 1 := ⟨room - 1, by omega⟩
      simp only [Nat.add_sub_cancel] at records ending less
      simp [goes, less, known, records, ending]

/-- Where unknown records do not count, a sweep brings no more records than it may, and it is full
exactly when it brings as many. -/
theorem pass_room (uncounted : rule.countUnknown = false) (room : Nat) (frames : List Frame) :
    let brought := (frames.take (rule.pass (some room) frames).1).filterMap Frame.known?
    brought.length ≤ room ∧
      ((rule.pass (some room) frames).2 = some .full ↔ brought.length = room) := by
  -- A frame with a record takes up room, and only those do.
  induction frames generalizing room with
  | nil => cases room <;> simp [pass]
  | cons frame frames ih =>
    by_cases closed : room = 0
    · simp [closed]
    have open_ : some room ≠ some 0 := by simpa using closed
    rcases rule.pass_cons frame frames open_ with
      ⟨error, _, decoded, ends⟩ | ⟨_, left, leftIs, goes⟩
    · -- A corrupt frame brings no record, so there is room still.
      simp [ends, Frame.known?, decoded, Ne.symm closed]
    rw [counts_frame uncounted] at leftIs
    cases known : frame.known? with
    | none =>
      have same : left = some room := by simpa [known] using leftIs
      simpa [goes, same, known] using ih room
    | some record =>
      obtain ⟨before, rfl⟩ : ∃ before, room = before + 1 := ⟨room - 1, by omega⟩
      have less : left = some before := by simpa [known] using leftIs
      simpa [goes, less, known] using ih before

/-- A sweep that stops at corrupt frames passes one exactly if that is why it ends. -/
theorem pass_corrupt (stops : rule.stopAtCorrupt = true) (room : Option Nat)
    (frames : List Frame) :
    (frames.take (rule.pass room frames).1).countP (·.kind? = none) =
      match (rule.pass room frames).2 with
      | some (.corrupt _) => 1
      | _ => 0 := by
  -- No frame before the last one passed is corrupt, for the sweep would have stopped there.
  induction frames generalizing room with
  | nil =>
    by_cases closed : room = some 0
    · simp [closed]
    · simp [pass, closed]
  | cons frame frames ih =>
    by_cases closed : room = some 0
    · simp [closed]
    rcases rule.pass_cons frame frames closed with
      ⟨error, _, decoded, ends⟩ | ⟨passable, left, _, goes⟩
    · simp [ends, Frame.kind?, decoded, Except.toOption]
    · simp [goes, passable stops, ih left]

/-- The corrupt frame that a sweep ends at is the last one passed, and the only corrupt one. -/
theorem pass_ends_corrupt (stops : rule.stopAtCorrupt = true) {room : Option Nat}
    {frames : List Frame} {error : BodyError}
    (ends : (rule.pass room frames).2 = some (.corrupt error)) :
    ∃ good bad, frames.take (rule.pass room frames).1 = good ++ [bad] ∧
      bad.decode = .error error ∧ ∀ frame ∈ good, frame.kind? ≠ none := by
  induction frames generalizing room with
  | nil =>
    by_cases closed : room = some 0
    · simp [closed] at ends
    · simp [pass, closed] at ends
  | cons frame frames ih =>
    by_cases closed : room = some 0
    · simp [closed] at ends
    rcases rule.pass_cons frame frames closed with
      ⟨other, _, decoded, stopped⟩ | ⟨passable, left, _, goes⟩
    · -- The first frame is the corrupt one.
      have same : other = error := by simpa [stopped] using ends
      exact ⟨[], frame, by simp [stopped], same ▸ decoded, by simp⟩
    · obtain ⟨good, bad, taken, decoded, sound⟩ := ih (show (rule.pass left frames).2 = _ by
        rwa [goes] at ends)
      refine ⟨frame :: good, bad, by simp [goes, taken], decoded, ?_⟩
      simpa using ⟨passable stops, sound⟩

end SweepRule

end Unified2
