import Unified2.Proofs.Record.Listing

/-! A body that does not decode is refused at the first block of its layout that does not fit into
it, and nothing but its length decides which block that is. -/

namespace Unified2

namespace Block

/-- Blocks and those behind them take as many bytes as all of them. -/
theorem totalSize_append (first second : List Block) :
    totalSize (first ++ second) = totalSize first + totalSize second := by
  -- The blocks in front are added up one by one.
  induction first with
  | nil => simp [totalSize]
  | cons block rest ih => rw [List.cons_append, totalSize, totalSize, ih, Nat.add_assoc]

/-- Where the block at an index starts if the blocks stand one after the other. -/
def startAt (blocks : List Block) (index : Nat) : Nat := totalSize (blocks.take index)

/-- One more block in front moves all others by its size. -/
theorem startAt_cons_succ (block : Block) (rest : List Block) (index : Nat) :
    startAt (block :: rest) (index + 1) = block.size + startAt rest index := rfl

/-- A block starts where the one before it ends. -/
theorem startAt_succ {blocks : List Block} {index : Nat} {block : Block}
    (stands : blocks[index]? = some block) :
    startAt blocks (index + 1) = startAt blocks index + block.size := by
  -- One more block stands in front, and it is this one.
  unfold startAt
  rw [List.take_add_one, stands, totalSize_append]
  rfl

/-- Blocks start in their order. -/
theorem startAt_mono (blocks : List Block) {earlier later : Nat} (order : earlier ≤ later) :
    startAt blocks earlier ≤ startAt blocks later := by
  -- In front of the later block are those in front of the earlier one, and perhaps more.
  obtain ⟨between, rfl⟩ := Nat.exists_eq_add_of_le order
  unfold startAt
  rw [List.take_add, totalSize_append]
  exact Nat.le_add_right ..

/-- Of the blocks one after the other this is the first one that does not fit into so many bytes. -/
structure Misfit (blocks : List Block) (available index : Nat) (block : Block) : Prop where
  stands : blocks[index]? = some block
  starts_within : startAt blocks index ≤ available
  ends_beyond : available < startAt blocks index + block.size
  /-- The blocks before it fit. -/
  before_fit : ∀ (earlier : Nat) (other : Block), earlier < index →
    blocks[earlier]? = some other → startAt blocks earlier + other.size ≤ available
  /-- No other block that starts within the bytes starts behind it. -/
  start_largest : ∀ other < blocks.length, startAt blocks other ≤ available →
    startAt blocks other ≤ startAt blocks index

/-- A block with bytes on both sides of the end of those available is the first one without room. -/
theorem Misfit.of_straddles {blocks : List Block} {available index : Nat} {block : Block}
    (stands : blocks[index]? = some block) (starts : startAt blocks index ≤ available)
    (ends : available < startAt blocks index + block.size) :
    Misfit blocks available index block := by
  refine ⟨stands, starts, ends, ?_, ?_⟩
  · intro earlier other before standsToo
    -- The earlier block ends before this one starts.
    have next := startAt_succ standsToo
    have order := startAt_mono blocks (show earlier + 1 ≤ index from before)
    omega
  · intro other _ startsToo
    by_contra behind
    -- A block further behind would start beyond the bytes, where this one ends or later.
    rcases Nat.lt_or_ge index other with later | notLater
    · have next := startAt_succ stands
      have order := startAt_mono blocks (show index + 1 ≤ other from later)
      omega
    · exact behind (startAt_mono blocks notLater)

/-- What is found is the start and the size of the first block that does not fit. -/
theorem misfit_of_firstMisfit {available offset start needed : Nat} {blocks : List Block}
    (within : offset ≤ available)
    (found : firstMisfit available offset blocks = some (start, needed)) :
    ∃ (index : Nat) (block : Block), blocks[index]? = some block ∧
      start = offset + startAt blocks index ∧ needed = block.size ∧
      start ≤ available ∧ available < start + needed := by
  -- The search reaches a block only if all in front of it fit, so it starts within the bytes.
  induction blocks generalizing offset with
  | nil => simp [firstMisfit] at found
  | cons block rest ih =>
    by_cases misfit : available < offset + block.size
    · -- The search stops at this block.
      simp only [firstMisfit, if_pos misfit, Option.some.injEq, Prod.mk.injEq] at found
      obtain ⟨rfl, rfl⟩ := found
      exact ⟨0, block, rfl, rfl, rfl, within, misfit⟩
    · -- The block fits, so the search goes on where it ends.
      simp only [firstMisfit, if_neg misfit] at found
      obtain ⟨index, other, stands, starts, size, inside, beyond⟩ :=
        ih (Nat.le_of_not_lt misfit) found
      refine ⟨index + 1, other, by simpa using stands, ?_, size, inside, beyond⟩
      rw [starts, startAt_cons_succ]
      omega

end Block

/-- A body is refused at the first block of its type that does not fit. -/
theorem RecordType.misfit_of_checkLength {type : RecordType} {body : Bytes} {error : BodyError}
    (refused : type.checkLength body = .error error) :
    ∃ (index : Nat) (block : Block), Block.Misfit type.blocks body.length index block ∧
      error = .bodyTooShort type block.size (Block.startAt type.blocks index) body.length := by
  -- Without a block that does not fit the body would pass.
  unfold checkLength at refused
  cases searched : Block.firstMisfit body.length 0 type.blocks with
  | none => simp [searched] at refused
  | some place =>
    obtain ⟨index, block, stands, starts, size, inside, beyond⟩ :=
      Block.misfit_of_firstMisfit (Nat.zero_le _) searched
    rw [Nat.zero_add] at starts
    simp only [searched, Except.error.injEq] at refused
    rw [starts, size] at refused
    exact ⟨index, block, .of_straddles stands (starts ▸ inside) (size ▸ starts ▸ beyond),
      refused.symm⟩

/-- The check looks at the length of a body alone. -/
theorem RecordType.checkLength_congr (type : RecordType) {first second : Bytes}
    (lengths : first.length = second.length) :
    type.checkLength first = type.checkLength second := by
  unfold checkLength
  rw [lengths]

/-- By the tag of a type a body fails to decode exactly if the check of its length refuses it. -/
theorem Record.decode_tag_eq_error_iff {type : RecordType} {body : Bytes} {error : BodyError} :
    decode type.tag body = .error error ↔ type.checkLength body = .error error := by
  -- What a body that passes the check decodes to is a record, whatever it is.
  obtain ⟨record, decoded, -⟩ := exists_decode_eq type body
  rw [decoded]
  cases type.checkLength body <;> simp

/-- A tag that names no event is refused with every body. -/
theorem Event.decode_of_not_isEvent {tag : Int}
    (other : ∀ type : RecordType, type.isEvent = true → (type.tag : Int) ≠ tag) (body : Bytes) :
    Event.decode tag body = .error (.notAnEventType tag) := by
  unfold Event.decode
  cases named : RecordType.ofTag? tag with
  | none => rfl
  | some type =>
    -- The type that the tag names is that of a packet or of extra data.
    have isOther : ¬ type.isEvent = true := fun isEvent =>
      other type isEvent (RecordType.ofTag?_eq_some_iff.mp named)
    simp only [isOther, Bool.false_eq_true, if_false]

/-- Every record type has its blocks: a packet and extra data one header, an event the preamble, the
addresses, the transport and, in the second version, the labels. What a body fails with by the tag
of a type names this tag and the first of these blocks that does not fit, and every other body of
the length fails with the same. A tag of no event fails as an event with all bodies alike, at no
offset. -/
theorem Record.failure_names_first_misfit :
    (∀ type : RecordType, type.blocks.map Block.size =
      match type.kind with
      | .packet => [28]
      | .extraData => [32]
      | _ => [36, if type.isIp6 then 32 else 8, 8] ++ if type.isV2 then [6] else []) ∧
    (∀ (type : RecordType) (body : Bytes) (error : BodyError),
      decode type.tag body = .error error →
      (∃ (index start size : Nat) (block : Block),
        Block.Misfit type.blocks body.length index block ∧
        start = Block.startAt type.blocks index ∧ size = block.size ∧
        error.recordType = type.tag ∧ error.offset = some start ∧ error.message =
          s!"record type {type.tag}: need {size} bytes at offset {start}, body has {body.length}") ∧
      ∀ other : Bytes, other.length = body.length → decode type.tag other = .error error) ∧
    ∀ tag : Int, tag ∉ [(7 : Int), 72, 104, 105] → ∃ error : BodyError,
      error.recordType = tag ∧ error.offset = none ∧
        ∀ body : Bytes, Event.decode tag body = .error error := by
  refine ⟨?_, ?_, ?_⟩
  · intro type
    cases type <;> rfl
  · intro type body error failed
    have refused := decode_tag_eq_error_iff.mp failed
    obtain ⟨index, block, misfit, rfl⟩ := type.misfit_of_checkLength refused
    refine ⟨⟨index, _, _, block, misfit, rfl, rfl, rfl, rfl, rfl⟩, ?_⟩
    intro other lengths
    -- The check cannot tell the two bodies apart.
    rw [decode_tag_eq_error_iff, type.checkLength_congr lengths]
    exact refused
  · intro tag unnamed
    refine ⟨.notAnEventType tag, rfl, rfl, fun body => Event.decode_of_not_isEvent ?_ body⟩
    rintro type isEvent rfl
    -- The four tags are those of the event types.
    revert unnamed isEvent
    cases type <;> decide

/-- A body that ends with its preamble fails at the addresses, which need thirty-two bytes there. -/
theorem Record.failure_names_first_misfit_of_preamble_only :
    let body : Bytes := List.replicate 36 7
    ∃ error : BodyError, decode 105 body = .error error ∧ error.offset = some 36 ∧
      error.message = "record type 105: need 32 bytes at offset 36, body has 36" ∧
      decode 105 (List.replicate 36 0) = .error error := by
  intro body
  have failed : decode (RecordType.eventIp6V2.tag : Int) body =
      .error (.bodyTooShort .eventIp6V2 32 36 36) := by decide
  obtain ⟨-, sameLength⟩ := failure_names_first_misfit.2.1 .eventIp6V2 body _ failed
  exact ⟨_, failed, rfl, by decide, sameLength (List.replicate 36 0) rfl⟩

end Unified2
