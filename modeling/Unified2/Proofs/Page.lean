import Unified2.Page
import Unified2.Proofs.File.Reader

/-! A page holds what the frames show that it passes, and ends for a reason that they give. -/

namespace Unified2

/-- A corrupt frame of a file: where it starts, what is wrong with its body, and where it ends. -/
structure Corruption where
  start : Nat
  error : BodyError
  next : Nat
  deriving DecidableEq, Repr

namespace Frame

/-- The corrupt ones of frames that stand one after the other from an offset on. -/
def corruptions : (offset : Nat) → List Frame → List Corruption
  | _, [] => []
  | offset, frame :: frames =>
    match frame.decode with
    | .ok _ => corruptions (offset + frame.size) frames
    | .error error =>
      ⟨offset, error, offset + frame.size⟩ :: corruptions (offset + frame.size) frames

/-- The corrupt ones of more frames stand behind those of the frames before. -/
theorem corruptions_append (offset : Nat) (frames more : List Frame) :
    corruptions offset (frames ++ more) =
      corruptions offset frames ++ corruptions (offset + totalSize frames) more := by
  -- Every frame stands behind the ones before, so the offset changes on the way.
  induction frames generalizing offset with
  | nil => rfl
  | cons frame frames ih =>
    rw [List.cons_append, corruptions, corruptions, totalSize_cons, ← Nat.add_assoc, ih]
    cases frame.decode <;> rfl

/-- As many frames are corrupt as there are corruptions. -/
theorem length_corruptions (offset : Nat) (frames : List Frame) :
    (corruptions offset frames).length = frames.countP (·.kind? = none) := by
  induction frames generalizing offset with
  | nil => rfl
  | cons frame frames ih =>
    rw [corruptions, List.countP_cons, kind?]
    cases frame.decode with
    | ok record => simpa [Except.toOption] using ih _
    | error error => simpa [Except.toOption] using ih _

/-- Frames that are all sound have no corrupt ones. -/
theorem corruptions_eq_nil {frames : List Frame} (sound : ∀ frame ∈ frames, frame.kind? ≠ none)
    (offset : Nat) : corruptions offset frames = [] := by
  rw [← List.length_eq_zero_iff, length_corruptions, List.countP_eq_zero]
  simpa using sound

end Frame

namespace Page

/-- Whether a page stopped at a corrupt frame. -/
def isCorrupt (page : Page) : Bool :=
  match page.ending with
  | .corrupt _ _ => true
  | _ => false

/-- The corrupt frame that a page tells of. -/
def corruption? (page : Page) : Option Corruption :=
  match page.ending with
  | .corrupt offset error => some ⟨offset, error, page.nextOffset⟩
  | _ => none

/-- Where a page stopped: at the corrupt frame, although it goes on behind it, or where the next
page starts. -/
def stop (page : Page) : Nat :=
  match page.ending with
  | .corrupt offset _ => offset
  | _ => page.nextOffset

/-- The page tells what stands where it stopped. -/
inductive Finds (page : Page) (ahead : Bytes) : Prop
  /-- A complete frame that is corrupt, and the next page starts behind it. -/
  | corrupt (frame : Frame) (tail : Bytes) (error : BodyError)
      (stands : ahead = frame.encode ++ tail) (decoded : frame.decode = .error error)
      (ends : page.ending = .corrupt page.stop error)
      (next : page.nextOffset = page.stop + frame.size)
  /-- Some bytes, but no complete frame. -/
  | cut (any : ahead ≠ []) (stuck : ¬ ∃ frame tail, ahead = Frame.encode frame ++ tail)
      (ends : page.ending = .shortfall .incomplete)
  /-- Nothing at all. -/
  | nothing (none : ahead = []) (ends : page.ending = .shortfall .endOfStream)

/-- The page of a content ends for the right reason, and moves on where it has to. -/
structure Accurate (page : Page) (content : Bytes) (offset : Nat) (limit : Int) : Prop where
  full_iff : page.ending = .full ↔ limit ≤ page.records.length
  finds : (page.records.length : Int) < limit → page.Finds (content.drop page.stop)
  -- A header at least is passed by every page that stops at a corrupt frame, and by every page with
  -- room for a record that is full or starts at a complete frame.
  moves : (page.isCorrupt = true ∨ 1 ≤ limit ∧ (page.ending = .full ∨
      ∃ frame tail, content.drop offset = Frame.encode frame ++ tail)) →
    offset + Frame.headerLength ≤ page.nextOffset

/-- The page that passes these frames from an offset on, and ends before or with them. -/
def ofFrames (path : String) (offset : Nat) (frames : List Frame) (rest : Bytes)
    (ending : Option SweepEnd) : Page where
  path
  records := frames.filterMap Frame.known?
  skippedUnknown := frames.countP (·.kind? = some .unknown)
  nextOffset := offset + Frame.totalSize frames
  ending := match ending.getD (.shortfall (.ofRest rest)) with
    | .full => .full
    | .shortfall reason => .shortfall reason
    | .corrupt error => .corrupt (offset + Frame.totalSize frames.dropLast) error

end Page

namespace PageReader

variable {store : FileStore} {path : String} {number offset : Nat}

/-- The page that a sweep of its file makes. -/
def pageOf (path : String) (sweep : Sweep OpenFile) : Page where
  path
  records := sweep.sightings.filterMap Sighting.known?
  skippedUnknown := (sweep.sightings.filter fun sighting =>
    match sighting.outcome with
    | .ok (.unknown _) => true
    | _ => false).length
  nextOffset := sweep.source.reader.position
  ending := ending sweep

/-- A page whose file opens is one sweep of it. -/
theorem page_eq_pageOf {start : Int} {reader : FileReader}
    (opened : FileReader.openAt store path start = .ok reader) (limit : Int) :
    page store path start limit = .ok
      (pageOf path (rule.sweep (some limit) ⟨store.content reader.number, reader⟩)) := by
  simp only [page, opened]
  rfl

/-- A page of a file passes the frames that its rule lets it pass. -/
theorem page_eq_ok (found : store.fileNumber path = .ok number)
    (representable : (offset : Int) < FileReader.offsetLimit) {frames : List Frame} {rest : Bytes}
    (split : Frame.Splits ((store.content number).drop offset) frames rest) (limit : Int) :
    page store path offset limit = .ok (.ofFrames path offset
      (frames.take (rule.pass (some limit.toNat) frames).1) rest
      (rule.pass (some limit.toNat) frames).2) := by
  -- The page opens the file and sweeps it once.
  have opened := FileReader.openAt_eq_ok found representable
  have sound := OpenFile.sound_of_fresh (store.content number) number offset
  obtain ⟨shown, ended, -, stands⟩ := sound.sweep split rule (some limit)
  have corrupt := rule.pass_corrupt rfl (some limit.toNat) frames
  simp only [Option.map_some] at shown ended stands
  rw [page_eq_pageOf opened]
  simp only [pageOf, shown, stands, ending, ended, Frame.filterMap_sightings, Page.ofFrames]
  generalize passing : rule.pass (some limit.toNat) frames = pass at corrupt ⊢
  generalize frames.take pass.1 = passed at corrupt ⊢
  have stand : FileReader.position { number, fetched := offset } = offset := rfl
  rw [stand]
  refine congrArg Except.ok ((Page.mk.injEq ..).mpr ⟨rfl, rfl, ?_, rfl, ?_⟩)
  · -- A sighting is of an unknown record exactly if its frame is.
    rw [← List.countP_eq_length_filter]
    refine Frame.countP_sightings (fun offset frame => ?_) offset passed
    unfold Frame.kind?
    cases frame.decode with
    | error error => rfl
    | ok record => cases record <;> rfl
  · -- Only a page that stopped at a frame says where that one is, and it passed that frame last.
    rcases pass with ⟨count, _ | _ | reason | error⟩
    · rfl
    · rfl
    · rfl
    · -- One of the frames passed is corrupt, so there is a last one.
      have any : passed ≠ [] := by
        rintro rfl
        exact absurd corrupt (by simp)
      simp only [Option.getD_some, Frame.getLast?_sightings offset any]

/-- A page finds nothing more exactly if its rule passes all frames; it then tells what is left. -/
theorem ending_ofFrames {passed : List Frame} {rest : Bytes} {room : Option Nat}
    {frames : List Frame} {reason : Shortfall} :
    (Page.ofFrames path offset passed rest (rule.pass room frames).2).ending =
        .shortfall reason ↔
      (rule.pass room frames).2 = none ∧ reason = .ofRest rest := by
  -- No rule tells of a shortfall by itself, so the page took it from the rest.
  have unlike := rule.pass_ne_shortfall room frames
  generalize (rule.pass room frames).2 = ending at unlike ⊢
  unfold Page.ofFrames
  rcases ending with _ | _ | other | _
  · simp [eq_comm]
  · simp
  · exact absurd rfl (unlike other)
  · simp

/-- A page with room for a record that does not find the end passes a frame. -/
theorem pass_pos_of_goesOn {most : Nat} (room : 0 < most) {frames : List Frame}
    (goesOn : (rule.pass (some most) frames).2 ≠ none) :
    0 < (rule.pass (some most) frames).1 := by
  have open_ : some most ≠ some 0 := by simpa using Nat.ne_of_gt room
  -- Without a frame there is no reason to stop early.
  refine SweepRule.pass_pos open_ ?_
  rintro rfl
  exact goesOn (if_neg open_)

/-- A page stops at a corrupt frame exactly if it passes one. -/
theorem countP_isCorrupt_ofFrames (path : String) (offset : Nat) (rest : Bytes)
    (room : Option Nat) (frames : List Frame) :
    [Page.ofFrames path offset (frames.take (rule.pass room frames).1) rest
        (rule.pass room frames).2].countP Page.isCorrupt =
      (frames.take (rule.pass room frames).1).countP (·.kind? = none) := by
  -- The rule stops at the first corrupt frame, so it passes one at most.
  rw [rule.pass_corrupt rfl room frames]
  unfold Page.ofFrames
  rcases (rule.pass room frames).2 with _ | _ | _ | _ <;> rfl

/-- A page tells of exactly the corrupt frames that it passes. -/
theorem corruption?_ofFrames (path : String) (offset : Nat) (rest : Bytes) (room : Option Nat)
    (frames : List Frame) :
    (Page.ofFrames path offset (frames.take (rule.pass room frames).1) rest
        (rule.pass room frames).2).corruption?.toList =
      Frame.corruptions offset (frames.take (rule.pass room frames).1) := by
  -- One frame passed is corrupt if the page stops for it, and none if it ends for another reason.
  have count := rule.pass_corrupt rfl room frames
  rcases ends : (rule.pass room frames).2 with _ | _ | reason | error
  case some.corrupt =>
    -- The corrupt frame is the last one passed, and starts behind the others.
    obtain ⟨good, bad, taken, decoded, sound⟩ := rule.pass_ends_corrupt rfl ends
    rw [taken, Frame.corruptions_append, Frame.corruptions_eq_nil sound]
    simp [Page.ofFrames, Page.corruption?, Frame.corruptions, decoded, Nat.add_assoc]
  all_goals
    rw [ends, ← Frame.length_corruptions offset] at count
    rw [List.length_eq_zero_iff.mp count]
    rfl

/-- A page is full exactly if its rule says so. -/
theorem ending_ofFrames_eq_full {passed : List Frame} {rest : Bytes} {ending : Option SweepEnd} :
    (Page.ofFrames path offset passed rest ending).ending = .full ↔ ending = some .full := by
  unfold Page.ofFrames
  rcases ending with _ | _ | _ | _ <;> simp

/-- A page stopped at a corrupt frame exactly if its rule says so. -/
theorem isCorrupt_ofFrames {passed : List Frame} {rest : Bytes} {ending : Option SweepEnd} :
    (Page.ofFrames path offset passed rest ending).isCorrupt = true ↔
      ∃ error, ending = some (.corrupt error) := by
  unfold Page.ofFrames Page.isCorrupt
  rcases ending with _ | _ | _ | _ <;> simp

/-- A page that is not full finds a corrupt frame, a part of a frame, or nothing. -/
theorem finds_ofFrames {content rest : Bytes} {frames : List Frame} {room : Option Nat}
    (split : Frame.Splits (content.drop offset) frames rest)
    (goesOn : (rule.pass room frames).2 ≠ some .full) {page : Page}
    (same : page = .ofFrames path offset (frames.take (rule.pass room frames).1) rest
      (rule.pass room frames).2) :
    page.Finds (content.drop page.stop) := by
  rcases ends : (rule.pass room frames).2 with _ | _ | reason | error
  · -- All frames were passed, so the page stopped before the rest.
    have behind := split.drop_offset (rule.pass room frames).1
    rw [SweepRule.pass_eq_length ends] at same behind
    rw [ends] at same
    rw [List.drop_length] at behind
    have stop : page.stop = offset + Frame.totalSize frames := by
      simp [same, Page.ofFrames, Page.stop]
    have left : content.drop page.stop = rest := by
      rw [stop]
      simpa using behind.joined
    by_cases spent : rest = []
    · refine .nothing (left.trans spent) ?_
      simp [same, Page.ofFrames, Shortfall.ofRest, spent]
    · refine .cut (left ▸ spent) (left ▸ behind.stuck) ?_
      simp [same, Page.ofFrames, Shortfall.ofRest, spent]
  · exact absurd ends goesOn
  · exact absurd ends (SweepRule.pass_ne_shortfall room frames reason)
  · -- The last frame passed is corrupt, and stands where the page stopped.
    obtain ⟨good, bad, taken, decoded, -⟩ := SweepRule.pass_ends_corrupt rfl ends
    have parts : frames = good ++ bad :: frames.drop (rule.pass room frames).1 := by
      rw [List.append_cons, ← taken, List.take_append_drop]
    have stands := split.drop_offset good.length
    rw [parts, List.take_left' rfl, List.drop_left' rfl] at stands
    obtain ⟨tail, ahead, -⟩ := stands.tail
    rw [taken, ends] at same
    have stop : page.stop = offset + Frame.totalSize good := by
      simp [same, Page.ofFrames, Page.stop]
    refine .corrupt bad tail error (stop ▸ ahead) decoded ?_ ?_
    · rw [stop, same]
      simp [Page.ofFrames]
    · rw [stop, same]
      simp [Page.ofFrames, Nat.add_assoc]

/-- A page that stops at a corrupt frame, is full with a record at least, or starts at a frame and
has room for a record, passes a frame. -/
theorem pass_ne_nil {room : Nat} {frames : List Frame}
    (either : (∃ error, (rule.pass (some room) frames).2 = some (.corrupt error)) ∨
      0 < room ∧ ((rule.pass (some room) frames).2 = some .full ∨ frames ≠ [])) :
    frames.take (rule.pass (some room) frames).1 ≠ [] := by
  rcases either with ⟨error, ends⟩ | ⟨open_, full | any⟩
  · -- The corrupt frame was passed.
    obtain ⟨good, bad, taken, -⟩ := SweepRule.pass_ends_corrupt rfl ends
    simp [taken]
  · -- The records of a full page come from frames.
    have brought := (rule.pass_room rfl room frames).2.mp full
    intro none
    rw [none, List.filterMap_nil, List.length_nil] at brought
    omega
  · have moved := rule.pass_pos (show some room ≠ some 0 by simp; omega) any
    have there := List.length_pos_iff.mpr any
    rw [← List.length_pos_iff, List.length_take]
    omega

/-- A page that passes the frames its rule lets it pass tells the truth about the content. -/
theorem accurate_ofFrames {content rest : Bytes} {frames : List Frame} {limit : Int}
    (split : Frame.Splits (content.drop offset) frames rest) {page : Page}
    (same : page = .ofFrames path offset (frames.take (rule.pass (some limit.toNat) frames).1) rest
      (rule.pass (some limit.toNat) frames).2) :
    page.Accurate content offset limit := by
  obtain ⟨within, full⟩ := rule.pass_room rfl limit.toNat frames
  have fullToo : page.ending = .full ↔
      (rule.pass (some limit.toNat) frames).2 = some .full := by
    rw [same, ending_ofFrames_eq_full]
  have isFull : page.ending = .full ↔ limit ≤ page.records.length := by
    -- A limit below zero leaves as much room as zero.
    rw [fullToo, full, same]
    simp only [Page.ofFrames]
    omega
  refine ⟨isFull, ?_, ?_⟩
  · intro room
    apply finds_ofFrames split _ same
    rw [Ne, ← fullToo, isFull]
    omega
  · -- In all of these cases a frame was passed, and that takes a header at least.
    intro either
    have any : frames.take (rule.pass (some limit.toNat) frames).1 ≠ [] := by
      apply pass_ne_nil
      rcases either with stopped | ⟨room, ended | ⟨frame, tail, stands⟩⟩
      · exact .inl (isCorrupt_ofFrames.mp (same ▸ stopped))
      · exact .inr ⟨by omega, .inl (fullToo.mp ended)⟩
      · refine .inr ⟨by omega, .inr ?_⟩
        -- Without frames the content would be a rest, which starts with none.
        rintro rfl
        exact split.stuck ⟨frame, tail, by rw [← stands, split.joined]; rfl⟩
    have large := Frame.length_mul_headerLength_le
      (frames.take (rule.pass (some limit.toNat) frames).1)
    have one := List.length_pos_iff.mpr any
    have header := Nat.le_trans (Nat.le_mul_of_pos_left Frame.headerLength one) large
    rw [same, Page.ofFrames]
    exact Nat.add_le_add_left header offset

/-- A reader after one more call, by what came of it. -/
def counted (reader : PageReader) : Except FileError Page → PageReader
  | .error _ => { reader with calls := reader.calls + 1 }
  | .ok page =>
    { calls := reader.calls + 1
      records := reader.records + page.records.length
      errors := reader.errors + [page].countP Page.isCorrupt }

/-- To ask a reader for a page is to ask for that page, and to count what came. -/
theorem read_eq (reader : PageReader) (store : FileStore) (path : String) (offset limit : Int) :
    ∃ log, reader.read store path offset limit =
      (page store path offset limit, reader.counted (page store path offset limit), log) := by
  unfold read counted
  cases page store path offset limit with
  | error error => exact ⟨_, rfl⟩
  | ok page =>
    -- Only a corrupt frame is an error.
    refine ⟨notices page, ?_⟩
    rcases ending : page.ending with _ | _ | _ <;> simp [Page.isCorrupt, ending]

/-- An offset that no file has opens nothing. -/
theorem page_of_unrepresentable (far : FileReader.offsetLimit ≤ (offset : Int)) (limit : Int)
    {page : Page} : PageReader.page store path offset limit ≠ .ok page := by
  obtain ⟨error, refused⟩ := FileReader.openAt_of_outside store path (.inr far)
  simp [PageReader.page, refused, bind, Except.bind]

end PageReader

end Unified2
