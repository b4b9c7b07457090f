import Unified2.Frame.Source
import Unified2.Proofs.Frame.Grammar

/-! Reading frames from a content, however short the reads are: a frame is passed as a whole or not
at all. -/

namespace Unified2

/-- The shortfall that bytes without a complete frame come to. -/
def Shortfall.ofRest (rest : Bytes) : Shortfall :=
  -- Not one byte is the end; anything else may still become a frame.
  if rest = [] then .endOfStream else .incomplete

namespace ByteSource

variable {σ : Type} [ByteSource σ]

section Rounds

variable {source after : σ} {chunk : Bytes} {missing : Nat}

/-- With nothing missing no read is made. -/
@[simp] theorem gatherWithin_zero (reads : Nat) (source : σ) (gathered : Bytes) :
    gatherWithin reads 0 source gathered = (gathered.reverse, source) := by
  -- Neither the bound nor what is missing leaves room for one.
  cases reads <;> simp [gatherWithin]

/-- A read that gives nothing is the last one. -/
theorem gatherWithin_of_nothing (wanted : 0 < missing)
    (answered : read source missing = ([], after)) (reads : Nat) (gathered : Bytes) :
    gatherWithin (reads + 1) missing source gathered = (gathered.reverse, after) := by
  simp [gatherWithin, Nat.ne_of_gt wanted, answered]

/-- What a read gives is gathered, and that much less is missing. -/
theorem gatherWithin_of_chunk (wanted : 0 < missing)
    (answered : read source missing = (chunk, after)) (some : chunk ≠ []) (reads : Nat)
    (gathered : Bytes) :
    gatherWithin (reads + 1) missing source gathered =
      gatherWithin reads (missing - chunk.length) after (chunk.reverse ++ gathered) := by
  simp [gatherWithin, Nat.ne_of_gt wanted, answered, some]

end Rounds

section WaysOut

variable {source middle after : σ} {head body : Bytes}

/-- Without one byte of a header the source is at its end. -/
theorem readFrame_of_nothing (headRead : gather source Frame.headerLength = ([], middle)) :
    readFrame source = (.error .endOfStream, seek middle (position source)) := by
  simp [readFrame, headRead]

/-- With a part of a header the source goes back. -/
theorem readFrame_of_partial_header (headRead : gather source Frame.headerLength = (head, middle))
    (some : head ≠ []) (partly : head.length < Frame.headerLength) :
    readFrame source = (.error .incomplete, seek middle (position source)) := by
  simp [readFrame, headRead, some, partly]

/-- With a part of the body that the header declares the source goes back as well. -/
theorem readFrame_of_partial_body (headRead : gather source Frame.headerLength = (head, middle))
    (wide : Frame.headerLength ≤ head.length)
    (bodyRead : gather middle (Frame.headerBodyLength head).toNat = (body, after))
    (partly : body.length ≠ (Frame.headerBodyLength head).toNat) :
    readFrame source = (.error .incomplete, seek after (position source)) := by
  have some : head ≠ [] := List.ne_nil_of_length_pos (Nat.lt_of_lt_of_le (by decide) wide)
  simp [readFrame, headRead, some, Nat.not_lt.mpr wide, bodyRead, partly]

/-- With all of both there is a frame, and the source stays behind it. -/
theorem readFrame_of_whole (headRead : gather source Frame.headerLength = (head, middle))
    (wide : Frame.headerLength ≤ head.length)
    (bodyRead : gather middle (Frame.headerBodyLength head).toNat = (body, after))
    (whole : body.length = (Frame.headerBodyLength head).toNat) :
    readFrame source =
      (.ok ⟨Frame.headerTag head, body, whole ▸ UInt32.toNat_lt _⟩, after) := by
  have some : head ≠ [] := List.ne_nil_of_length_pos (Nat.lt_of_lt_of_le (by decide) wide)
  simp [readFrame, headRead, some, Nat.not_lt.mpr wide, bodyRead, whole]

/-- The ways out of reading a frame, each with what was gathered on it. -/
inductive ReadsFrame (source : σ) : Except Shortfall Frame × σ → Prop
  | nothing {middle : σ} (headRead : gather source Frame.headerLength = ([], middle)) :
      ReadsFrame source (.error .endOfStream, seek middle (position source))
  | partialHeader {head : Bytes} {middle : σ}
      (headRead : gather source Frame.headerLength = (head, middle)) (some : head ≠ [])
      (partly : head.length < Frame.headerLength) :
      ReadsFrame source (.error .incomplete, seek middle (position source))
  | partialBody {head body : Bytes} {middle after : σ}
      (headRead : gather source Frame.headerLength = (head, middle)) (some : head ≠ [])
      (wide : Frame.headerLength ≤ head.length)
      (bodyRead : gather middle (Frame.headerBodyLength head).toNat = (body, after))
      (partly : body.length ≠ (Frame.headerBodyLength head).toNat) :
      ReadsFrame source (.error .incomplete, seek after (position source))
  | whole {head body : Bytes} {middle after : σ}
      (headRead : gather source Frame.headerLength = (head, middle)) (some : head ≠ [])
      (wide : Frame.headerLength ≤ head.length)
      (bodyRead : gather middle (Frame.headerBodyLength head).toNat = (body, after))
      (whole : body.length = (Frame.headerBodyLength head).toNat) :
      ReadsFrame source (.ok ⟨Frame.headerTag head, body, whole ▸ UInt32.toNat_lt _⟩, after)

/-- Reading a frame takes one of these ways. -/
theorem readsFrame (source : σ) : ReadsFrame source (readFrame source) := by
  cases headRead : gather source Frame.headerLength with
  | mk head middle =>
    by_cases nothing : head = []
    · subst nothing
      rw [readFrame_of_nothing headRead]
      exact .nothing headRead
    by_cases partly : head.length < Frame.headerLength
    · rw [readFrame_of_partial_header headRead nothing partly]
      exact .partialHeader headRead nothing partly
    -- The header is there, so its declaration decides how much is gathered next.
    have wide := Nat.le_of_not_lt partly
    cases bodyRead : gather middle (Frame.headerBodyLength head).toNat with
    | mk body after =>
      by_cases whole : body.length = (Frame.headerBodyLength head).toNat
      · rw [readFrame_of_whole headRead wide bodyRead whole]
        exact .whole headRead nothing wide bodyRead whole
      · rw [readFrame_of_partial_body headRead wide bodyRead whole]
        exact .partialBody headRead nothing wide bodyRead whole

end WaysOut

/-- The content that stands behind a source, and the states of the source that are true to it. -/
structure Backing (σ : Type) [ByteSource σ] where
  content : σ → Bytes
  sound : σ → Prop
  /-- Reads give bytes that come next. -/
  read_begins : ∀ source asked, sound source →
    (read source asked).1 <+: (content source).drop (position source)
  /-- Reads give no more than they were asked for. -/
  length_read_le : ∀ source asked, sound source → (read source asked).1.length ≤ asked
  sound_read : ∀ source asked, sound source → sound (read source asked).2
  content_read : ∀ source asked, sound source →
    content (read source asked).2 = content source
  /-- The position moves by what was given. -/
  position_read : ∀ source asked, sound source →
    position (read source asked).2 = position source + (read source asked).1.length
  sound_seek : ∀ source offset, sound source → sound (seek source offset)
  content_seek : ∀ source offset, sound source → content (seek source offset) = content source
  position_seek : ∀ source offset, sound source → position (seek source offset) = offset
  /-- No more bytes come than the source expects. -/
  length_le_remaining : ∀ source, sound source →
    ((content source).drop (position source)).length ≤ remaining source

namespace Backing

variable (backing : Backing σ)

/-- The bytes from the position on. -/
def ahead (source : σ) : Bytes := (backing.content source).drop (position source)

/-- A source after it passed so many bytes of its content. -/
structure Advanced (source after : σ) (bytes : Nat) : Prop where
  sound : backing.sound after
  content_eq : backing.content after = backing.content source
  position_eq : position after = position source + bytes

/-- Reads give something as long as there is anything. -/
def Steady : Prop :=
  -- How much they give is left open.
  ∀ source asked, backing.sound source → 0 < asked → backing.ahead source ≠ [] →
    (read source asked).1 ≠ []

variable {backing}

namespace Advanced

/-- A sound source has passed nothing yet. -/
theorem refl {source : σ} (sound : backing.sound source) : backing.Advanced source source 0 :=
  ⟨sound, rfl, rfl⟩

/-- Bytes passed one after the other add up. -/
theorem trans {source middle after : σ} {first second : Nat}
    (former : backing.Advanced source middle first)
    (latter : backing.Advanced middle after second) :
    backing.Advanced source after (first + second) :=
  ⟨latter.sound, latter.content_eq.trans former.content_eq,
    by rw [latter.position_eq, former.position_eq, Nat.add_assoc]⟩

/-- What comes next is what came before without the bytes passed. -/
theorem ahead_eq {source after : σ} {bytes : Nat}
    (advanced : backing.Advanced source after bytes) :
    backing.ahead after = (backing.ahead source).drop bytes := by
  rw [ahead, ahead, advanced.content_eq, advanced.position_eq, List.drop_drop]

/-- Going back to where a source came from undoes the way forward. -/
theorem seek_start {source after : σ} {bytes : Nat}
    (advanced : backing.Advanced source after bytes) :
    backing.Advanced source (seek after (position source)) 0 :=
  ⟨backing.sound_seek _ _ advanced.sound,
    (backing.content_seek _ _ advanced.sound).trans advanced.content_eq,
    backing.position_seek _ _ advanced.sound⟩

end Advanced

/-- A read passes the bytes it gives. -/
theorem read_advanced {source : σ} (sound : backing.sound source) (asked : Nat) :
    backing.Advanced source (read source asked).2 (read source asked).1.length :=
  ⟨backing.sound_read _ _ sound, backing.content_read _ _ sound,
    backing.position_read _ _ sound⟩

/-- Gathering adds bytes that come next, no more than are missing, and passes just them. -/
theorem gatherWithin_spec {source : σ} (sound : backing.sound source) (reads missing : Nat)
    (gathered : Bytes) :
    ∃ chunk, (gatherWithin reads missing source gathered).1 = gathered.reverse ++ chunk ∧
      chunk <+: backing.ahead source ∧ chunk.length ≤ missing ∧
      backing.Advanced source (gatherWithin reads missing source gathered).2 chunk.length := by
  -- Every read takes some bytes off what is ahead, and off what is missing.
  induction reads generalizing source missing gathered with
  | zero => exact ⟨[], by simp [gatherWithin], by simp, by simp, .refl sound⟩
  | succ reads ih =>
    obtain rfl | wanted := Nat.eq_zero_or_pos missing
    · rw [gatherWithin_zero]
      exact ⟨[], by simp, by simp, by simp, .refl sound⟩
    have advanced := read_advanced sound missing
    have within := backing.length_read_le _ missing sound
    have next := backing.read_begins _ missing sound
    cases answered : read source missing with
    | mk chunk after =>
      simp only [answered] at advanced within next
      by_cases nothing : chunk = []
      · -- The read gave nothing, so this is all there will be.
        subst nothing
        rw [gatherWithin_of_nothing wanted answered]
        exact ⟨[], by simp, by simp, by simp, advanced⟩
      · rw [gatherWithin_of_chunk wanted answered nothing]
        obtain ⟨more, joined, moreNext, moreWithin, moreAdvanced⟩ :=
          ih advanced.sound (missing - chunk.length) (chunk.reverse ++ gathered)
        refine ⟨chunk ++ more, by simp [joined], ?_, ?_, ?_⟩
        · -- What the later reads give comes right behind this chunk.
          obtain ⟨rest, parts⟩ := next
          obtain ⟨left, moreParts⟩ := moreNext
          rw [advanced.ahead_eq, ahead, ← parts, List.drop_left' rfl] at moreParts
          exact ⟨left, by rw [ahead, ← parts, ← moreParts, List.append_assoc]⟩
        · rw [List.length_append]
          omega
        · rw [List.length_append]
          exact advanced.trans moreAdvanced

/-- What is gathered comes next. -/
theorem gather_begins {source : σ} (sound : backing.sound source) (size : Nat) :
    (gather source size).1 <+: backing.ahead source := by
  obtain ⟨chunk, joined, next, _, _⟩ := gatherWithin_spec sound size size []
  simpa [gather, joined] using next

/-- No more is gathered than was asked for. -/
theorem length_gather_le {source : σ} (sound : backing.sound source) (size : Nat) :
    (gather source size).1.length ≤ size := by
  obtain ⟨chunk, joined, _, within, _⟩ := gatherWithin_spec sound size size []
  simpa [gather, joined] using within

/-- Gathering passes what it gathers. -/
theorem gather_advanced {source : σ} (sound : backing.sound source) (size : Nat) :
    backing.Advanced source (gather source size).2 (gather source size).1.length := by
  obtain ⟨chunk, joined, _, _, advanced⟩ := gatherWithin_spec sound size size []
  simpa [gather, joined] using advanced

/-- A source from which bytes were gathered has passed them. -/
theorem advanced_of_gather {source after : σ} (sound : backing.sound source) {size : Nat}
    {bytes : Bytes} (gathered : gather source size = (bytes, after)) :
    backing.Advanced source after bytes.length := by
  have advanced := gather_advanced sound size
  rwa [gathered] at advanced

/-- Gathering stops only when nothing is missing any more or a read gives nothing. -/
theorem gatherWithin_stops {source : σ} (sound : backing.sound source) {reads missing : Nat}
    (enough : missing ≤ reads) (gathered : Bytes) :
    (gatherWithin reads missing source gathered).1.length = gathered.length + missing ∨
    ∃ before asked, backing.sound before ∧ 0 < asked ∧
      read before asked = ([], (gatherWithin reads missing source gathered).2) := by
  -- Every read that goes on brings one byte at least, so there are as many reads as it takes.
  induction reads generalizing source missing gathered with
  | zero => exact .inl (by simp [gatherWithin, Nat.le_zero.mp enough])
  | succ reads ih =>
    obtain rfl | wanted := Nat.eq_zero_or_pos missing
    · exact .inl (by simp)
    have advanced := read_advanced sound missing
    have within := backing.length_read_le _ missing sound
    cases answered : read source missing with
    | mk chunk after =>
      simp only [answered] at advanced within
      by_cases nothing : chunk = []
      · subst nothing
        rw [gatherWithin_of_nothing wanted answered]
        exact .inr ⟨source, missing, sound, wanted, answered⟩
      · have grows := List.length_pos_iff.mpr nothing
        rw [gatherWithin_of_chunk wanted answered nothing]
        rcases ih advanced.sound (show missing - chunk.length ≤ reads by omega)
          (chunk.reverse ++ gathered) with full | stopped
        · rw [List.length_append, List.length_reverse] at full
          exact .inl (by omega)
        · exact .inr stopped

/-- If a read gives nothing only where nothing is left, gathering gives all the bytes asked for that
there are. -/
theorem gather_eq_take_of_dry {source : σ} (sound : backing.sound source) (size : Nat)
    (dry : ∀ before asked, backing.sound before → 0 < asked →
      read before asked = ([], (gather source size).2) → backing.ahead before = []) :
    (gather source size).1 = (backing.ahead source).take size := by
  have begins := gather_begins sound size
  have passed := (gather_advanced sound size).ahead_eq
  have within := begins.length_le
  rw [List.prefix_iff_eq_take.mp begins]
  apply List.take_eq_take_iff.mpr
  rcases gatherWithin_stops sound (Nat.le_refl size) [] with
    full | ⟨before, asked, soundToo, some, given⟩
  · have all : (gather source size).1.length = size := by simpa [gather] using full
    omega
  · -- The read that gave nothing left its source where it was, at the end of the bytes.
    have spent := dry before asked soundToo some given
    have stayed := (read_advanced soundToo asked).ahead_eq
    rw [given, spent, List.drop_nil, show (gatherWithin size size source []).2 =
      (gather source size).2 from rfl, passed] at stayed
    have left := List.drop_eq_nil_iff.mp stayed
    have most := length_gather_le sound size
    omega

/-- Where reads are steady, gathering gives all the bytes asked for that there are. -/
theorem gather_eq_take {source : σ} (steady : backing.Steady) (sound : backing.sound source)
    (size : Nat) : (gather source size).1 = (backing.ahead source).take size := by
  -- A steady source gives nothing only if nothing is left.
  refine gather_eq_take_of_dry sound size fun before asked soundToo some given => ?_
  by_contra left
  exact steady before asked soundToo some left (congrArg Prod.fst given)

/-- Reading a frame passes a whole frame that comes next, or it goes back to where it began. -/
theorem readFrame_spec {source : σ} (sound : backing.sound source) :
    (∃ frame, (readFrame source).1 = .ok frame ∧ frame.encode <+: backing.ahead source ∧
      backing.Advanced source (readFrame source).2 frame.size) ∨
    (∃ reason, (readFrame source).1 = .error reason ∧
      (reason = .endOfStream ↔ (gather source Frame.headerLength).1 = []) ∧
      backing.Advanced source (readFrame source).2 0) := by
  -- There are three ways to stop short, and each one seeks back to where the read began.
  have ways := readsFrame source
  generalize readFrame source = outcome at ways
  cases ways with
  | nothing headRead =>
    have headPassed := advanced_of_gather sound headRead
    exact .inr ⟨.endOfStream, rfl, by simp [headRead], headPassed.seek_start⟩
  | partialHeader headRead some partly =>
    have headPassed := advanced_of_gather sound headRead
    exact .inr ⟨.incomplete, rfl, by simp [headRead, some], headPassed.seek_start⟩
  | partialBody headRead some wide bodyRead partly =>
    have headPassed := advanced_of_gather sound headRead
    have passed := headPassed.trans (advanced_of_gather headPassed.sound bodyRead)
    exact .inr ⟨.incomplete, rfl, by simp [headRead, some], passed.seek_start⟩
  | @whole head body middle after headRead some wide bodyRead whole =>
    have headPassed := advanced_of_gather sound headRead
    have bodyPassed := advanced_of_gather headPassed.sound bodyRead
    have headNext := gather_begins sound Frame.headerLength
    have headWithin := length_gather_le sound Frame.headerLength
    have bodyNext := gather_begins headPassed.sound (Frame.headerBodyLength head).toNat
    simp only [headRead, bodyRead] at headNext headWithin bodyNext
    have width : head.length = Frame.headerLength := by omega
    let frame : Frame := ⟨Frame.headerTag head, body, whole ▸ UInt32.toNat_lt _⟩
    have written : frame.header = head := Frame.header_eq width rfl whole
    refine .inl ⟨frame, rfl, ?_, ?_⟩
    · -- The body follows the header, as its bytes were the next ones then.
      obtain ⟨rest, parts⟩ := headNext
      rw [headPassed.ahead_eq, ← parts, List.drop_left' rfl] at bodyNext
      obtain ⟨left, bodyParts⟩ := bodyNext
      exact ⟨left, by rw [← parts, ← bodyParts, Frame.encode_eq, written, List.append_assoc]⟩
    · have size : frame.size = head.length + body.length := by rw [width, Frame.size]
      rw [size]
      exact headPassed.trans bodyPassed

/-- Where reads are steady, a whole header is as wide as a header is, and what is gathered after it
stands behind that width. -/
theorem body_eq_of_gather {source middle after : σ} {head body : Bytes} {declared : Nat}
    (steady : backing.Steady) (sound : backing.sound source)
    (headRead : gather source Frame.headerLength = (head, middle))
    (wide : Frame.headerLength ≤ head.length) (bodyRead : gather middle declared = (body, after)) :
    head.length = Frame.headerLength ∧
      body = ((backing.ahead source).drop Frame.headerLength).take declared := by
  have headPassed := advanced_of_gather sound headRead
  have within := length_gather_le sound Frame.headerLength
  rw [headRead] at within
  have width : head.length = Frame.headerLength := Nat.le_antisymm within wide
  -- The body begins where the header ended.
  have bodyIs := gather_eq_take steady headPassed.sound declared
  rw [bodyRead, headPassed.ahead_eq, width] at bodyIs
  exact ⟨width, bodyIs⟩

/-- Where reads are steady, the answer depends on nothing but the bytes ahead. -/
theorem readFrame_eq {source : σ} (steady : backing.Steady) (sound : backing.sound source) :
    (readFrame source).1 = match Frame.first? (backing.ahead source) with
      | some (frame, _) => .ok frame
      | none => .error (.ofRest (backing.ahead source)) := by
  -- What is gathered is what the bytes ahead begin with, just as for a frame found in them.
  have ways := readsFrame source
  have headIs := gather_eq_take steady sound Frame.headerLength
  have left : (gather source Frame.headerLength).1 ≠ [] → backing.ahead source ≠ [] :=
    fun some spent => some (by rw [headIs, spent, List.take_nil])
  generalize readFrame source = outcome at ways
  cases ways with
  | nothing headRead =>
    -- A beginning of some width is empty only if there is nothing at all.
    rw [headRead] at headIs
    have spent : backing.ahead source = [] := by
      simpa [Frame.headerLength, Block.frameHeader, Block.size] using headIs.symm
    simp [spent, Shortfall.ofRest]
  | partialHeader headRead some partly =>
    rw [headRead] at headIs left
    have narrow := Nat.ne_of_lt partly
    simp [Frame.first?, ← headIs, narrow, Shortfall.ofRest, left some]
  | partialBody headRead some wide bodyRead partly =>
    obtain ⟨width, bodyIs⟩ := body_eq_of_gather steady sound headRead wide bodyRead
    rw [headRead] at headIs left
    simp [Frame.first?, ← headIs, ← bodyIs, width, partly, Shortfall.ofRest, left some]
  | whole headRead some wide bodyRead whole =>
    obtain ⟨width, bodyIs⟩ := body_eq_of_gather steady sound headRead wide bodyRead
    rw [headRead] at headIs
    simp [Frame.first?, ← headIs, ← bodyIs, width, whole]

/-- Where reads are steady, the frame that comes next is read and passed. -/
theorem readFrame_of_first? {source : σ} {frame : Frame} {rest : Bytes}
    (steady : backing.Steady) (sound : backing.sound source)
    (found : Frame.first? (backing.ahead source) = some (frame, rest)) :
    (readFrame source).1 = .ok frame ∧
      backing.Advanced source (readFrame source).2 frame.size := by
  have answer := readFrame_eq steady sound
  simp only [found] at answer
  refine ⟨answer, ?_⟩
  -- No way out of a read but the one with this frame gives this answer.
  rcases readFrame_spec sound with ⟨other, same, _, advanced⟩ | ⟨reason, same, _⟩
  · rw [answer, Except.ok.injEq] at same
    exact same ▸ advanced
  · simp [answer] at same

/-- Where reads are steady and no frame comes next, the source stays where it is. -/
theorem readFrame_of_first?_eq_none {source : σ} (steady : backing.Steady)
    (sound : backing.sound source) (absent : Frame.first? (backing.ahead source) = none) :
    (readFrame source).1 = .error (.ofRest (backing.ahead source)) ∧
      backing.Advanced source (readFrame source).2 0 := by
  have answer := readFrame_eq steady sound
  simp only [absent] at answer
  refine ⟨answer, ?_⟩
  -- Without a frame a read goes back.
  rcases readFrame_spec sound with ⟨other, same, _⟩ | ⟨reason, same, _, advanced⟩
  · simp [answer] at same
  · exact advanced

end Backing

/-- Decoding what was read moves no position. -/
@[simp] theorem readRecord_snd (source : σ) : (readRecord source).2 = (readFrame source).2 := rfl

/-- What was read is decoded, and a shortfall stays one. -/
@[simp] theorem readRecord_fst (source : σ) :
    (readRecord source).1 = (readFrame source).1.map Frame.decode := rfl

end ByteSource

end Unified2
