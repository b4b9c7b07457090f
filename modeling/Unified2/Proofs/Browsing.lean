import Mathlib.Logic.Relation
import Unified2.Proofs.File.Store
import Unified2.Proofs.Page
import Unified2.Proofs.Record.Fields

/-! Pages of a file that only grows, each from where the one before ended, miss no record and bring
none twice. -/

namespace Unified2

/-- A page that came: what the files were at that time, and what was asked for. -/
structure Visit where
  files : FileStore
  offset : Nat
  limit : Int
  page : Page

/-- A caller that keeps the cursor while it reads the file at a path page by page. -/
structure Browsing where
  files : FileStore
  path : String
  reader : PageReader := {}
  offset : Nat
  -- The pages in the order they came.
  visits : List Visit := []

namespace Browsing

/-- A caller that is about to read from an offset on. -/
def new (files : FileStore) (path : String) (start : Nat) : Browsing :=
  { files, path, offset := start }

/-- Reads one more page from where the last one ended. -/
def read (browsing : Browsing) (limit : Int) : Browsing :=
  match browsing.reader.read browsing.files browsing.path browsing.offset limit with
  -- Without a page the cursor stays where it is.
  | (.error _, reader, _) => { browsing with reader }
  | (.ok page, reader, _) =>
    { browsing with
      reader, offset := page.nextOffset
      visits := browsing.visits ++ [⟨browsing.files, browsing.offset, limit, page⟩] }

/-- The records of all pages, in the order they came. -/
def records (browsing : Browsing) : List Record := browsing.visits.flatMap (·.page.records)

/-- The corrupt frames that the pages told of, in the order they came. -/
def corruptions (browsing : Browsing) : List Corruption :=
  browsing.visits.filterMap (·.page.corruption?)

/-- How many unknown records the pages passed over. -/
def skippedUnknown (browsing : Browsing) : Nat :=
  (browsing.visits.map (·.page.skippedUnknown)).sum

/-- What can happen while a caller reads the file with a number. -/
inductive Step (number : Nat) : Browsing → Browsing → Prop
  /-- The file gains bytes, and whatever else changes keeps it at its path. -/
  | append (browsing : Browsing) (files : FileStore) (bytes : Bytes)
      (leads : files.fileNumber browsing.path = .ok number)
      (gains : files.content number = browsing.files.content number ++ bytes) :
      Step number browsing { browsing with files }
  | read (browsing : Browsing) (limit : Int) : Step number browsing (browsing.read limit)

/-- Everything that happens in some order, any number of times. -/
abbrev Run (number : Nat) : Browsing → Browsing → Prop := Relation.ReflTransGen (Step number)

/-- Appending at any path that leads to the file is one of the things that can happen. -/
theorem Step.of_append {browsing : Browsing} {number : Nat} {path : String} {bytes : Bytes}
    (reads : browsing.files.fileNumber browsing.path = .ok number)
    (leads : browsing.files.fileNumber path = .ok number)
    (held : number < browsing.files.contents.length) :
    ∃ files, browsing.files.append path bytes = .ok files ∧
      Step number browsing { browsing with files } := by
  obtain ⟨files, appended, gains, same⟩ := FileStore.exists_append leads held bytes
  exact ⟨files, appended, .append browsing files bytes ((same _).trans reads) gains⟩

/-- The pages passed some of the frames, and told all that these show. -/
structure Exact (browsing : Browsing) (number start : Nat) (passed later : List Frame)
    (rest : Bytes) : Prop where
  leads : browsing.files.fileNumber browsing.path = .ok number
  split : Frame.Splits ((browsing.files.content number).drop start) (passed ++ later) rest
  offset_eq : browsing.offset = start + Frame.totalSize passed
  records_eq : browsing.records = passed.filterMap Frame.known?
  corruptions_eq : browsing.corruptions = Frame.corruptions start passed
  unknown_eq : browsing.skippedUnknown = passed.countP (·.kind? = some .unknown)
  accurate : ∀ visit ∈ browsing.visits,
    visit.page.Accurate (visit.files.content number) visit.offset visit.limit

variable {browsing : Browsing} {number start : Nat} {passed later : List Frame} {rest : Bytes}

/-- Before anything happens nothing was passed. -/
theorem exact_new {files : FileStore} {path : String}
    (found : files.fileNumber path = .ok number)
    (split : Frame.Splits ((files.content number).drop start) later rest) :
    (new files path start).Exact number start [] later rest :=
  ⟨found, split, rfl, rfl, rfl, rfl, fun _ => (nomatch ·)⟩

/-- What the file gains is behind what the pages have passed. -/
theorem Exact.append (exact : browsing.Exact number start passed later rest) {files : FileStore}
    {bytes : Bytes} (leads : files.fileNumber browsing.path = .ok number)
    (gains : files.content number = browsing.files.content number ++ bytes) :
    ∃ more left, Exact { browsing with files } number start passed (later ++ more) left := by
  -- What was passed stays where it was, and no page changes any more.
  have begins : browsing.files.content number <+: files.content number :=
    gains ▸ List.prefix_append ..
  obtain ⟨more, left, split⟩ := exact.split.grow begins
  rw [List.append_assoc] at split
  exact ⟨more, left, leads, split, exact.offset_eq, exact.records_eq, exact.corruptions_eq,
    exact.unknown_eq, exact.accurate⟩

/-- The later frames are those from where the cursor stands on. -/
theorem Exact.ahead (exact : browsing.Exact number start passed later rest) :
    Frame.Splits ((browsing.files.content number).drop browsing.offset) later rest := by
  have behind := exact.split.drop_offset passed.length
  rw [List.take_left' rfl, List.drop_left' rfl] at behind
  exact exact.offset_eq ▸ behind

/-- A page that is read moves the cursor to its end and comes after the others; one that cannot be
read is just counted. -/
theorem read_eq (browsing : Browsing) (limit : Int) :
    browsing.read limit =
      let answer := PageReader.page browsing.files browsing.path browsing.offset limit
      let reader := browsing.reader.counted answer
      match answer with
      | .error _ => { browsing with reader }
      | .ok page =>
        { browsing with
          reader, offset := page.nextOffset
          visits := browsing.visits ++ [⟨browsing.files, browsing.offset, limit, page⟩] } := by
  obtain ⟨log, answered⟩ :=
    browsing.reader.read_eq browsing.files browsing.path browsing.offset limit
  rw [read, answered]
  cases PageReader.page browsing.files browsing.path browsing.offset limit <;> rfl

/-- One more page tells what the frames show that it passes, behind those of the pages before. -/
theorem Exact.visited (exact : browsing.Exact number start passed later rest) {page : Page}
    {count : Nat} {limit : Int} {ending : Option SweepEnd} (reader : PageReader)
    (pageIs : page = .ofFrames browsing.path browsing.offset (later.take count) rest ending)
    (told : page.corruption?.toList = Frame.corruptions browsing.offset (later.take count))
    (accurate : page.Accurate (browsing.files.content number) browsing.offset limit) :
    Exact { browsing with
      reader, offset := page.nextOffset
      visits := browsing.visits ++ [⟨browsing.files, browsing.offset, limit, page⟩] }
      number start (passed ++ later.take count) (later.drop count) rest where
  leads := exact.leads
  split := by
    rw [List.append_assoc, List.take_append_drop]
    exact exact.split
  offset_eq := by
    rw [Frame.totalSize_append, ← Nat.add_assoc, ← exact.offset_eq, pageIs]
    rfl
  records_eq := by
    rw [List.filterMap_append, ← exact.records_eq]
    simp [records, pageIs, Page.ofFrames]
  corruptions_eq := by
    rw [Frame.corruptions_append, ← exact.corruptions_eq, ← exact.offset_eq, ← told]
    simp only [corruptions, List.filterMap_append, List.filterMap_cons, List.filterMap_nil]
    cases page.corruption? <;> rfl
  unknown_eq := by
    rw [List.countP_append, ← exact.unknown_eq]
    simp [skippedUnknown, pageIs, Page.ofFrames]
  accurate := by
    intro visit member
    rcases List.mem_append.mp member with before | last
    · exact exact.accurate visit before
    · rw [List.mem_singleton.mp last]
      exact accurate

/-- To read a page passes some of the frames ahead, and the pages tell all that these show. -/
theorem Exact.read (exact : browsing.Exact number start passed later rest) (limit : Int) :
    ∃ more left, (browsing.read limit).Exact number start (passed ++ more) left rest := by
  rw [read_eq]
  cases paged : PageReader.page browsing.files browsing.path browsing.offset limit with
  | error error =>
    -- Without a page nothing is passed.
    refine ⟨[], later, ?_⟩
    rw [List.append_nil]
    exact ⟨exact.leads, exact.split, exact.offset_eq, exact.records_eq, exact.corruptions_eq,
      exact.unknown_eq, exact.accurate⟩
  | ok page =>
    -- The page passes the frames that its rule lets it pass.
    have near : (browsing.offset : Int) < FileReader.offsetLimit := by
      apply Int.not_le.mp
      intro far
      exact PageReader.page_of_unrepresentable far limit paged
    have pageIs := Except.ok.inj
      (paged.symm.trans (PageReader.page_eq_ok exact.leads near exact.ahead limit))
    have told := PageReader.corruption?_ofFrames browsing.path browsing.offset rest
      (some limit.toNat) later
    rw [← pageIs] at told
    exact ⟨_, _, exact.visited _ pageIs told (PageReader.accurate_ofFrames exact.ahead pageIs)⟩

/-- Whatever happens, the pages tell all that the frames show that they passed. -/
theorem Exact.step (exact : browsing.Exact number start passed later rest) {next : Browsing}
    (step : Step number browsing next) :
    ∃ passed later rest, next.Exact number start passed later rest := by
  -- Bytes that come make later frames, and a page passes some of these.
  cases step with
  | append files bytes leads gains =>
    obtain ⟨more, left, grown⟩ := exact.append leads gains
    exact ⟨_, _, _, grown⟩
  | read limit =>
    obtain ⟨more, left, further⟩ := exact.read limit
    exact ⟨_, _, _, further⟩

/-- However long it goes on, the pages tell all that the frames show that they passed. -/
theorem Exact.run (exact : browsing.Exact number start passed later rest) {next : Browsing}
    (run : Run number browsing next) :
    ∃ passed later rest, next.Exact number start passed later rest := by
  -- Each step keeps the pages exact, for some way to tell passed frames from later ones.
  induction run with
  | refl => exact ⟨_, _, _, exact⟩
  | tail _ step ih =>
    obtain ⟨_, _, _, before⟩ := ih
    exact before.step step

/-- The records of the pages can be shown. -/
theorem Exact.exists_fieldLists (exact : browsing.Exact number start passed later rest) :
    ∃ lists, browsing.records.mapM Record.fieldList = .ok lists := by
  have decoded : ∀ record ∈ browsing.records, ∃ tag body, Record.decode tag body = .ok record := by
    rw [exact.records_eq]
    intro record member
    obtain ⟨frame, -, shows⟩ := List.mem_filterMap.mp member
    exact ⟨frame.tag.toNat, frame.body, Frame.decode_of_known? shows⟩
  obtain ⟨lists, shown, -⟩ := Record.exists_mapM_fieldList decoded
  exact ⟨lists, shown⟩

/-- In a file whose offsets all fit, another page can be read. -/
theorem Exact.exists_page (exact : browsing.Exact number start passed later rest)
    (representable : (start : Int) < FileReader.offsetLimit)
    (fits : ((browsing.files.content number).length : Int) < FileReader.offsetLimit)
    (limit : Int) :
    ∃ page,
      (browsing.reader.read browsing.files browsing.path browsing.offset limit).1 = .ok page := by
  -- The cursor stands in the file or where it started, so the file opens there.
  have within := exact.split.offset_le
  rw [← exact.offset_eq] at within
  have stands : (browsing.offset : Int) < FileReader.offsetLimit := by omega
  obtain ⟨log, answered⟩ :=
    browsing.reader.read_eq browsing.files browsing.path browsing.offset limit
  rw [answered]
  exact ⟨_, PageReader.page_eq_ok exact.leads stands exact.ahead limit⟩

/-- Whatever limits are given and whatever the file gains in between, the pages of a file pass the
frames from where they started to where the next page will start. Together they bring the known
records of these frames, which can all be shown, tell of the corrupt ones, where each starts and
where it ends, and count the unknown ones; and each page says truly why it ended, and moved on
where it had to. A page can always be read, as long as the file has no more bytes than offsets. -/
theorem browsing_is_exact {files : FileStore} {path : String} {number start : Nat}
    (found : files.fileNumber path = .ok number)
    (representable : (start : Int) < FileReader.offsetLimit) {browsing : Browsing}
    (run : Run number (new files path start) browsing) :
    ∃ passed later rest,
      Frame.Splits ((browsing.files.content number).drop start) (passed ++ later) rest ∧
      browsing.offset = start + Frame.totalSize passed ∧
      browsing.records = passed.filterMap Frame.known? ∧
      (∃ lists, browsing.records.mapM Record.fieldList = .ok lists) ∧
      browsing.corruptions = Frame.corruptions start passed ∧
      browsing.skippedUnknown = passed.countP (·.kind? = some .unknown) ∧
      (∀ visit ∈ browsing.visits,
        visit.page.Accurate (visit.files.content number) visit.offset visit.limit) ∧
      (((browsing.files.content number).length : Int) < FileReader.offsetLimit → ∀ limit,
        ∃ page, (browsing.reader.read browsing.files browsing.path browsing.offset limit).1 =
          .ok page) := by
  -- At first no frame was passed, and the run keeps the pages exact.
  obtain ⟨frames, left, split⟩ := Frame.exists_splits ((files.content number).drop start)
  obtain ⟨passed, later, rest, exact⟩ := (exact_new found split).run run
  exact ⟨passed, later, rest, exact.split, exact.offset_eq, exact.records_eq,
    exact.exists_fieldLists, exact.corruptions_eq, exact.unknown_eq, exact.accurate,
    exact.exists_page representable⟩

/-- A full page, one that stops at a corrupt frame, one that waits, and one that has the rest. -/
theorem browsing_is_exact_of_cut_packet :
    let packet : Bytes := Frame.encode ⟨2, List.replicate 28 7, by decide⟩
    let corrupt : Bytes := Frame.encode ⟨2, [7], by decide⟩
    let before : FileStore :=
      { nodes := [(["log"], .file 0)], contents := [packet ++ corrupt ++ packet.take 20] }
    let after : FileStore := { before with contents := [packet ++ corrupt ++ packet] }
    let waiting := (((new before "log" 0).read 1).read 5).read 5
    let browsing := { waiting with files := after }.read 5
    Run 0 (new before "log" 0) browsing ∧
      browsing.visits.map (·.page.ending.name) =
        ["limit", "decoding_error", "incomplete", "end_of_stream"] ∧
      browsing.corruptions.map (fun corruption => (corruption.start, corruption.next)) =
        [(36, 45)] ∧
      browsing.records.length = 2 ∧
      ∃ passed later rest,
        Frame.Splits ((browsing.files.content 0).drop 0) (passed ++ later) rest ∧
        browsing.offset = 0 + Frame.totalSize passed ∧
        browsing.records = passed.filterMap Frame.known? := by
  intro packet corrupt before after waiting browsing
  have leads : after.fileNumber waiting.path = .ok 0 := by
    simp only [waiting, read_eq]
    cbv
  have gains : after.content 0 = waiting.files.content 0 ++ packet.drop 20 := by
    simp only [waiting, read_eq]
    cbv
  -- Three pages, the rest of the packet, and one more page.
  have run : Run 0 (new before "log" 0) browsing :=
    ((((Relation.ReflTransGen.single (.read _ 1)).tail (.read _ 5)).tail (.read _ 5)).tail
      (.append waiting after (packet.drop 20) leads gains)).tail (.read _ 5)
  obtain ⟨passed, later, rest, split, stands, records, -⟩ :=
    browsing_is_exact (show before.fileNumber "log" = .ok 0 by cbv) (by decide) run
  refine ⟨run, ?_, ?_, ?_, passed, later, rest, split, stands, records⟩
  all_goals
    simp only [browsing, waiting, read_eq]
    cbv

end Browsing

end Unified2
