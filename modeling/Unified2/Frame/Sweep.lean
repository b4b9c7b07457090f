import Unified2.Frame.Source

/-! Reading loops: frame after frame until there is enough, until they run out, or until one is
corrupt. -/

namespace Unified2

/-- A frame that was passed: where its header starts and what its body turned out to be. -/
structure Sighting where
  offset : Nat
  outcome : Except BodyError Record

/-- The record that was seen, if it is of a known type. -/
def Sighting.known? (sighting : Sighting) : Option Record :=
  match sighting.outcome with
  | .ok (.unknown _) => none
  | .ok record => some record
  | .error _ => none

/-- What decides when a sweep is over. -/
structure SweepRule where
  /-- A corrupt frame is the last one. -/
  stopAtCorrupt : Bool
  /-- Unknown records count like the others. -/
  countUnknown : Bool
  deriving DecidableEq, Repr

/-- Whether a sighting counts against the number of records asked for. -/
def SweepRule.counts (rule : SweepRule) (sighting : Sighting) : Bool :=
  match sighting.outcome with
  | .ok (.unknown _) => rule.countUnknown
  | .ok _ => true
  | .error _ => false

/-- Why a sweep is over. -/
inductive SweepEnd
  /-- As many records came as were asked for. -/
  | full
  /-- No further frame could be read. -/
  | shortfall (reason : Shortfall)
  /-- The last frame was corrupt. -/
  | corrupt (error : BodyError)
  deriving DecidableEq, Repr

/-- What a sweep passed, why it is over, and where it left its source. -/
structure Sweep (σ : Type) where
  sightings : List Sighting
  ending : SweepEnd
  source : σ

/-- All records that were decoded, those of unknown type among them. -/
def Sweep.records {σ : Type} (sweep : Sweep σ) : List Record :=
  sweep.sightings.filterMap fun sighting => sighting.outcome.toOption

namespace SweepRule

/-- The rule of taking frames as they come: everything counts, and a corrupt frame ends it. -/
def plain : SweepRule := { stopAtCorrupt := true, countUnknown := true }

variable {σ : Type} [ByteSource σ]

/-- Reads at most so many frames, as long as there is room for another record; without a limit
there always is. The frames passed so far are kept with the last one first. -/
def sweepWithin (rule : SweepRule) :
    (frames : Nat) → (room : Option Nat) → σ → (passed : List Sighting) → Sweep σ
  -- No source has as many frames as a sweep has tries, so none ends here.
  | 0, _, source, passed => ⟨passed.reverse, .full, source⟩
  | frames + 1, room, source, passed =>
    if room = some 0 then ⟨passed.reverse, .full, source⟩
    else
      -- The offset is that of the header, which a corrupt frame has like any other.
      let offset := ByteSource.position source
      match ByteSource.readRecord source with
      | (.error reason, source) => ⟨passed.reverse, .shortfall reason, source⟩
      | (.ok outcome, source) =>
        let sighting : Sighting := ⟨offset, outcome⟩
        -- A corrupt frame was passed all the same, so it is a sighting even if it is the last.
        match outcome, rule.stopAtCorrupt with
        | .error error, true => ⟨(sighting :: passed).reverse, .corrupt error, source⟩
        | _, _ =>
          -- What does not count takes no room, however many there are.
          let room := if rule.counts sighting then room.map (· - 1) else room
          sweepWithin rule frames room source (sighting :: passed)

/-- Reads frames until the rule or the limit ends it; every frame takes a header at least, so one
read more than there are headers is enough. -/
def sweep (rule : SweepRule) (limit : Option Int) (source : σ) : Sweep σ :=
  rule.sweepWithin (ByteSource.remaining source / Frame.headerLength + 1)
    (limit.map Int.toNat) source []

end SweepRule

end Unified2
