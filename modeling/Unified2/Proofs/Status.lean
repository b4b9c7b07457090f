import Mathlib
import Unified2.Collector
import Unified2.Page

/-! What a reader, a cursor and a collector tell about themselves: each figure under a name of its
own, and enough of them to tell one state from another. -/

namespace Unified2

/-- A text that may be missing can be read off its field. -/
theorem FieldValue.ofText_inj {one other : Option String} :
    ofText one = ofText other ↔ one = other := by
  cases one <;> cases other <;> simp [ofText]

/-- The two ways to stop short have different names. -/
theorem Shortfall.name_inj {one other : Shortfall} : one.name = other.name ↔ one = other := by
  cases one <;> cases other <;> simp [name]

/-- A count of each kind determines the tally. -/
theorem Tally.fieldList_inj {one other : Tally} :
    one.fieldList = other.fieldList ↔ one = other := by
  cases one
  cases other
  simp [fieldList]

/-- Two cursors tell the same exactly if they stand at the same offset of the same path, stopped
short alike and counted alike. -/
theorem Tail.stats_eq_iff {one other : Tail} :
    one.stats = other.stats ↔ one.path = other.path ∧ one.offset = other.offset ∧
      one.shortfall = other.shortfall ∧ one.tally = other.tally := by
  -- A shortfall is told by its name, which is one of two.
  have shortfalls : one.shortfall.map Shortfall.name = other.shortfall.map Shortfall.name ↔
      one.shortfall = other.shortfall :=
    (Option.map_injective fun _ _ => Shortfall.name_inj.mp).eq_iff
  simp [stats, FieldValue.ofText_inj, shortfalls, Tally.fieldList_inj]

/-- That its file is closed does not show in what a cursor tells. -/
@[simp] theorem Tail.stats_close (tail : Tail) : tail.close.stats = tail.stats := rfl

namespace Collector

variable {one other : Collector}

/-- The figures of the cursor have names that none of the collector's own figures has. -/
theorem nodup_names_status (collector : Collector) : (collector.status.map Prod.fst).Nodup := by
  cases has : collector.tail <;> simp [status, has, Tail.stats, Tally.fieldList]

/-- Two collectors tell the same exactly if they agree in all of this, whatever is in the queue. -/
theorem status_eq_iff : one.status = other.status ↔
    one.running = other.running ∧ one.ingested = other.ingested ∧
      one.queue.size = other.queue.size ∧ one.queue.dropped = other.queue.dropped ∧
      one.lastError = other.lastError ∧ one.tail.map Tail.stats = other.tail.map Tail.stats := by
  -- A cursor always has figures, so having none is told from having one.
  cases has : one.tail <;> cases hasToo : other.tail <;>
    simp [status, has, hasToo, FieldValue.ofText_inj, Tail.stats]

/-- The offset that is told is that of the cursor. -/
theorem lookup_offset_status (collector : Collector) :
    collector.status.lookup "offset" =
      collector.tail.map fun tail => FieldValue.number tail.offset := by
  cases has : collector.tail <;> simp [status, has, Tail.stats, List.lookup]

/-- A figure is the same for collectors that agree in all of this, unless it is how many records
wait, or whether they run and only one of them does. -/
theorem lookup_status_eq (ingested : one.ingested = other.ingested)
    (dropped : one.queue.dropped = other.queue.dropped)
    (lastError : one.lastError = other.lastError)
    (stats : one.tail.map Tail.stats = other.tail.map Tail.stats) {figure : String}
    (running : figure = "running" → one.running = other.running) (notPending : figure ≠ "pending") :
    one.status.lookup figure = other.status.lookup figure := by
  -- The figures are looked up in a list whose order is fixed, past those that may differ.
  have different : (figure == "pending") = false := by simpa using notPending
  by_cases asked : figure = "running"
  · simp [status, List.lookup, running asked, ingested, dropped, lastError, stats, different]
  · have other : (figure == "running") = false := by simpa using asked
    simp [status, List.lookup, ingested, dropped, lastError, stats, different, other]

end Collector

/-- A reader tells all that it counted. -/
theorem PageReader.status_inj {one other : PageReader} :
    one.status = other.status ↔ one = other := by
  cases one
  cases other
  simp [status]

/-- A page of records that were decoded is answered: with the number of those on it, and with a
message exactly if a corrupt frame ends it. -/
theorem Page.exists_answer {page : Page} {lists : List FieldList}
    (shown : page.records.mapM Record.fieldList = .ok lists) :
    ∃ members, page.answer = .ok (.members members) ∧ (members.map Prod.fst).Nodup ∧
      members.lookup "count" = some (.number page.records.length) ∧
      ((members.lookup "message").isSome ↔
        ∃ offset error, page.ending = .corrupt offset error) := by
  -- Every record has its fields, so only the end of the page decides which members there are.
  refine ⟨_, by rw [answer, shown]; rfl, ?_⟩
  cases ends : page.ending <;> simp [PageEnd.fieldList, List.lookup]

end Unified2
