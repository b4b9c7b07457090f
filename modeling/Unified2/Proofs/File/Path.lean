import Unified2.Proofs.File.Store

/-! The normal spelling of a path leads to the same file. -/

namespace Unified2

namespace FilePath

/-- What stands between two slashes holds none, and nothing that the path does not hold. -/
theorem of_mem_steps {path step : String} (member : step ∈ steps path) :
    '/' ∉ step.toList ∧ ∀ char ∈ step.toList, char ∈ path.toList := by
  -- A character of the path starts a step or goes to the front of the one that follows.
  have general : ∀ chars : List Char, ∀ piece ∈ chars.splitOn '/',
      '/' ∉ piece ∧ ∀ char ∈ piece, char ∈ chars := by
    intro chars
    induction chars with
    | nil => simp
    | cons first chars ih =>
      intro piece inSplit
      rw [List.splitOn_cons_eq_if_modifyHead] at inSplit
      by_cases slash : first = '/'
      · rw [if_pos (beq_iff_eq.mpr slash)] at inSplit
        rcases List.mem_cons.mp inSplit with same | later
        · simp [same]
        · exact ⟨(ih piece later).1, fun char here => .tail _ ((ih piece later).2 char here)⟩
      · rw [if_neg (mt beq_iff_eq.mp slash)] at inSplit
        cases pieces : chars.splitOn '/' with
        | nil => exact absurd pieces (List.splitOn_ne_nil _ _)
        | cons head rest =>
          rw [pieces] at inSplit ih
          rcases List.mem_cons.mp inSplit with same | later
          · obtain ⟨clean, within⟩ := ih head List.mem_cons_self
            subst same
            refine ⟨by simp [clean, Ne.symm slash], fun char here => ?_⟩
            rcases List.mem_cons.mp here with same | behind
            · exact same ▸ List.mem_cons_self
            · exact .tail _ (within char behind)
          · obtain ⟨clean, within⟩ := ih piece (.tail _ later)
            exact ⟨clean, fun char here => .tail _ (within char here)⟩
  obtain ⟨piece, inSplit, rfl⟩ := List.mem_map.mp member
  simpa only [String.toList_ofList] using general path.toList piece inSplit

/-- A path is its steps with slashes between them. -/
theorem intercalate_steps (path : String) : "/".intercalate (steps path) = path := by
  apply String.toList_injective
  simp only [String.toList_intercalate, steps, List.map_map, Function.comp_def,
    String.toList_ofList, List.map_id']
  exact List.intercalate_splitOn '/'

/-- Steps without slashes are those of the path that they make up. -/
theorem steps_intercalate {names : List String} (any : names ≠ [])
    (clean : ∀ name ∈ names, '/' ∉ name.toList) : steps ("/".intercalate names) = names := by
  -- The slashes between the steps are the only places to cut.
  have split : (['/'].intercalate (names.map String.toList)).splitOn '/' =
      names.map String.toList := by
    apply List.splitOn_intercalate
    · intro piece inMap
      obtain ⟨name, member, rfl⟩ := List.mem_map.mp inMap
      exact clean name member
    · simpa using any
  have slash : "/".toList = ['/'] := by decide
  rw [steps, String.toList_intercalate, slash, split, List.map_map]
  simp [Function.comp_def]

/-- A slash at the front is behind a blank step. -/
theorem steps_slash (rest : String) : steps ("/" ++ rest) = "" :: steps rest := by
  have front : ("/" ++ rest).toList = '/' :: rest.toList := by simp
  rw [steps, front, List.splitOn_cons_eq_if_modifyHead, if_pos (by simp)]
  rfl

/-- A path of steps starts with the first of them. -/
theorem exists_append_intercalate (name : String) (names : List String) :
    ∃ behind, "/".intercalate (name :: names) = name ++ behind := by
  -- No slash stands behind a name that is the only one.
  by_cases only : names = []
  · exact ⟨"", by simp [only]⟩
  · exact ⟨"/" ++ "/".intercalate names, by
      rw [String.intercalate_cons_of_ne_nil only, String.append_assoc]⟩

/-- A path of steps ends with the last of them. -/
theorem exists_intercalate_append (names : List String) (name : String) :
    ∃ front, "/".intercalate (names ++ [name]) = front ++ name := by
  by_cases only : names = []
  · exact ⟨"", by simp [only]⟩
  · refine ⟨"/".intercalate names ++ "/", ?_⟩
    rw [String.intercalate_append_of_ne_nil only (List.cons_ne_nil _ _),
      String.intercalate_singleton]

/-- A path of steps holds nothing but them and slashes. -/
theorem mem_intercalate {names : List String} {char : Char}
    (member : char ∈ ("/".intercalate names).toList) :
    char = '/' ∨ ∃ name ∈ names, char ∈ name.toList := by
  -- The slash belongs to the name in front of it, and the last name has none.
  induction names with
  | nil => simp at member
  | cons name names ih =>
    by_cases only : names = []
    · subst only
      rw [String.intercalate_singleton] at member
      exact .inr ⟨name, List.mem_cons_self, member⟩
    · rw [String.intercalate_cons_of_ne_nil only] at member
      simp only [String.toList_append, List.mem_append] at member
      rcases member with (here | slash) | behind
      · exact .inr ⟨name, List.mem_cons_self, here⟩
      · exact .inl (by simpa using slash)
      · rcases ih behind with slash | ⟨other, named, here⟩
        · exact .inl slash
        · exact .inr ⟨other, .tail _ named, here⟩

/-- Fewer steps make no longer path. -/
theorem size_intercalate_le {few many : List String} (fewer : few.Sublist many) :
    ("/".intercalate few).utf8ByteSize ≤ ("/".intercalate many).utf8ByteSize := by
  -- A step left out takes its slash with it.
  induction fewer with
  | slnil => exact Nat.le_refl _
  | @cons few many step fewer ih =>
    by_cases last : many = []
    · subst last
      rw [List.sublist_nil.mp fewer, String.intercalate_nil]
      exact Nat.zero_le _
    · rw [String.intercalate_cons_of_ne_nil last, String.utf8ByteSize_append]
      omega
  | @cons_cons few many step fewer ih =>
    by_cases last : few = []
    · subst last
      by_cases same : many = []
      · subst same
        exact Nat.le_refl _
      · rw [String.intercalate_singleton, String.intercalate_cons_of_ne_nil same,
          String.utf8ByteSize_append, String.utf8ByteSize_append]
        omega
    · have more : many ≠ [] := fun none => last (List.sublist_nil.mp (none ▸ fewer))
      simp only [String.intercalate_cons_of_ne_nil last,
        String.intercalate_cons_of_ne_nil more, String.utf8ByteSize_append]
      omega

/-- A text that starts with another one goes on behind it. -/
theorem exists_append_of_startsWith {text start : String} (starts : text.startsWith start = true) :
    ∃ rest, text = start ++ rest := by
  obtain ⟨rest, joined⟩ := String.startsWith_string_iff.mp starts
  exact ⟨String.ofList rest, String.toList_injective (by simpa using joined.symm)⟩

/-- A slash at the front is what the path starts with. -/
theorem startsWith_slash (rest : String) : ("/" ++ rest).startsWith "/" = true := by
  rw [String.startsWith_string_iff, String.toList_append]
  exact List.prefix_append ..

/-- The slashes at the front of a normal path are at the front of the path. -/
theorem root_cases (path : String) :
    (root path = "" ∧ path.startsWith "/" = false) ∨
    (root path = "/" ∧ ∃ rest, path = "/" ++ rest) ∨
    (root path = "//" ∧ ∃ rest, path = "/" ++ ("/" ++ rest)) := by
  -- Three slashes or more count as one, while two stay two.
  unfold root
  by_cases three : path.startsWith "///" = true
  · rw [if_pos three]
    obtain ⟨rest, rfl⟩ := exists_append_of_startsWith three
    exact .inr (.inl ⟨rfl, "//" ++ rest, String.toList_injective (by simp)⟩)
  · rw [if_neg three]
    by_cases two : path.startsWith "//" = true
    · rw [if_pos two]
      obtain ⟨rest, rfl⟩ := exists_append_of_startsWith two
      exact .inr (.inr ⟨rfl, rest, String.toList_injective (by simp)⟩)
    · rw [if_neg two]
      by_cases one : path.startsWith "/" = true
      · rw [if_pos one]
        exact .inr (.inl ⟨rfl, exists_append_of_startsWith one⟩)
      · rw [if_neg one]
        exact .inl ⟨rfl, Bool.not_eq_true _ ▸ one⟩

/-- Behind the slashes at its front a path has the same names. -/
theorem exists_behind_root (path : String) :
    ∃ rest, path = root path ++ rest ∧ names path = names rest := by
  rcases root_cases path with ⟨none, -⟩ | ⟨one, rest, same⟩ | ⟨two, rest, same⟩
  · exact ⟨path, by simp [none], rfl⟩
  · refine ⟨rest, one ▸ same, ?_⟩
    simp [same, names, steps_slash]
  · refine ⟨rest, ?_, ?_⟩
    · rw [two]
      exact same.trans (String.toList_injective (by simp))
    · simp [same, names, steps_slash]

/-- A name is a step that is neither blank nor the directory it is taken in. -/
theorem of_mem_names {path name : String} (member : name ∈ names path) :
    name ∈ steps path ∧ name ≠ "" ∧ name ≠ "." := by
  simpa [names, and_assoc] using member

section Normalize

variable {path : String}

/-- A path with names in it is spelled by its front and them. -/
theorem normalize_eq (any : names path ≠ []) :
    normalize path = root path ++ "/".intercalate (names path) := by
  refine if_neg fun blank => ?_
  -- Blank names would be all there are.
  have none : "/".intercalate (names path) = "" := (String.append_eq_empty_iff.mp blank).2
  have same := steps_intercalate any fun name member => (of_mem_steps (of_mem_names member).1).1
  rw [none] at same
  have blankName : "" ∈ names path := same ▸ List.mem_singleton_self ""
  exact (of_mem_names blankName).2.1 rfl

/-- The normal spelling takes the steps of the path that lead anywhere. -/
theorem steps_normalize (any : names path ≠ []) :
    (steps (normalize path)).filter (· != "") = names path := by
  -- The slashes in front give blank steps, and no name is blank.
  have same := steps_intercalate any fun name member => (of_mem_steps (of_mem_names member).1).1
  have named : (names path).filter (· != "") = names path :=
    List.filter_eq_self.mpr fun name member => by simp [(of_mem_names member).2.1]
  rw [normalize_eq any]
  rcases root_cases path with ⟨front, -⟩ | ⟨front, -⟩ | ⟨front, -⟩
  · rw [front, String.empty_append, same, named]
  · rw [front, steps_slash, same]
    simpa using named
  · have two : ("//" : String) = "/" ++ "/" := by decide
    rw [front, two, String.append_assoc, steps_slash, steps_slash, same]
    simpa using named

/-- The normal spelling is no longer than the path. -/
theorem size_normalize_le (any : names path ≠ []) :
    (normalize path).utf8ByteSize ≤ path.utf8ByteSize := by
  -- The front stays, and what follows it loses steps at most.
  obtain ⟨rest, whole, same⟩ := exists_behind_root path
  have fewer := size_intercalate_le
    (show (names rest).Sublist (steps rest) from List.filter_sublist)
  rw [intercalate_steps] at fewer
  have sizes := congrArg String.utf8ByteSize whole
  rw [String.utf8ByteSize_append] at sizes
  rw [normalize_eq any, same, String.utf8ByteSize_append]
  omega

/-- Every character of the normal spelling is a slash or one of the path. -/
theorem mem_normalize (any : names path ≠ []) {char : Char}
    (member : char ∈ (normalize path).toList) : char = '/' ∨ char ∈ path.toList := by
  obtain ⟨rest, whole, -⟩ := exists_behind_root path
  rw [normalize_eq any, String.toList_append, List.mem_append] at member
  rcases member with front | behind
  · rw [whole, String.toList_append]
    exact .inr (List.mem_append_left _ front)
  · rcases mem_intercalate behind with slash | ⟨name, named, here⟩
    · exact .inl slash
    · exact .inr ((of_mem_steps (of_mem_names named).1).2 char here)

/-- The normal spelling starts from the top if the path does. -/
theorem startsWith_normalize (any : names path ≠ []) :
    (normalize path).startsWith "/" = path.startsWith "/" := by
  rw [normalize_eq any]
  rcases root_cases path with ⟨front, relative⟩ | ⟨front, rest, same⟩ | ⟨front, rest, same⟩
  · -- The first name is not blank and holds no slash.
    rw [front, relative, String.empty_append]
    obtain ⟨name, more, first⟩ := List.exists_cons_of_ne_nil any
    have named := of_mem_names (first ▸ List.mem_cons_self : name ∈ names path)
    have clean := (of_mem_steps named.1).1
    obtain ⟨behind, joined⟩ := exists_append_intercalate name more
    rw [first, joined, String.startsWith_string_eq_false_iff, String.toList_append]
    cases chars : name.toList with
    | nil => exact absurd (String.toList_eq_nil_iff.mp chars) named.2.1
    | cons char chars =>
      rw [chars] at clean
      rintro ⟨rest, joined⟩
      have slash : '/' = char := (List.cons.inj joined).1
      exact clean (slash ▸ List.mem_cons_self)
  · rw [front, same, startsWith_slash, startsWith_slash]
  · -- Of the two slashes in front the first one is enough.
    have two : ("//" : String) = "/" ++ "/" := by decide
    rw [front, same, two, String.append_assoc, startsWith_slash, startsWith_slash]

/-- The normal spelling has no slash at its end. -/
theorem endsWith_normalize (any : names path ≠ []) :
    (normalize path).endsWith "/" = false := by
  obtain ⟨before, name, last⟩ := List.eq_nil_or_concat (names path) |>.resolve_left any
  rw [List.concat_eq_append] at last
  have named := of_mem_names (last ▸ List.mem_append_right _ List.mem_cons_self : name ∈ names path)
  have clean := (of_mem_steps named.1).1
  obtain ⟨front, joined⟩ := exists_intercalate_append before name
  rw [normalize_eq any, last, joined, ← String.endsWith_toSlice,
    String.Slice.endsWith_string_eq_false_iff, String.copy_toSlice]
  -- The path would end with a slash exactly if its last name did.
  rintro ⟨rest, same⟩
  have ends := congrArg List.getLast? same
  cases chars : name.toList.getLast? with
  | none => exact named.2.1 (String.toList_eq_nil_iff.mp (List.getLast?_eq_none_iff.mp chars))
  | some char =>
    simp only [String.toList_append, List.getLast?_append, chars] at ends
    have slash : '/' = char := by simpa using ends
    exact clean (slash ▸ List.mem_of_getLast? chars)

end Normalize

end FilePath

namespace FileStore

variable {store : FileStore} {path : String}

/-- Steps that lead nowhere may be left out. -/
theorem follow_filter (store : FileStore) (location : Location) (steps : List String) :
    store.follow location (steps.filter (· != ".")) = store.follow location steps := by
  -- Such a step comes back to the directory it is taken in.
  induction steps generalizing location with
  | nil => rfl
  | cons step rest ih =>
    by_cases nowhere : step = "."
    · simp only [nowhere, follow]
      exact ih location
    · rw [List.filter_cons_of_pos (by simpa using nowhere)]
      simp only [follow, ih]

/-- A path ends at a name in a directory exactly if it is one, its last step is the name, and the
others lead to the directory. -/
theorem arrive_eq_entry_iff {directory : Location} {name : String} {slash : Bool} :
    store.arrive path = .ok (.entry directory name slash) ↔
      path ≠ "" ∧ path.utf8ByteSize < 4096 ∧ path.endsWith "/" = slash ∧
        name ≠ "." ∧ name ≠ ".." ∧
        ∃ before, (FilePath.steps path).filter (· != "") = before ++ [name] ∧
          store.follow (if path.startsWith "/" then ["/"] else []) before = .ok directory := by
  generalize top : (if path.startsWith "/" then ["/"] else []) = start
  unfold arrive
  rw [top]
  by_cases blank : path = ""
  · simp [blank]
  by_cases long : 4096 ≤ path.utf8ByteSize
  · have notShort : ¬ path.utf8ByteSize < 4096 := Nat.not_lt.mpr long
    simp [blank, long, notShort]
  have short := Nat.lt_of_not_le long
  simp only [if_neg blank, if_neg long]
  rcases List.eq_nil_or_concat ((FilePath.steps path).filter (· != "")) with none | last
  · -- A path of nothing but slashes names nothing.
    simp [none, follow, bind, Except.bind, pure, Except.pure]
  · obtain ⟨before, last, split⟩ := last
    rw [List.concat_eq_append] at split
    rw [split, List.dropLast_concat, List.getLast?_concat]
    constructor
    · intro arrived
      cases followed : store.follow start before with
      | error fault => simp [followed, bind, Except.bind] at arrived
      | ok there =>
        -- Of the ways to end only a name ends in an entry.
        simp only [followed, bind, Except.bind, pure, Except.pure] at arrived
        split at arrived
        · simp at arrived
        · simp at arrived
        · simp at arrived
        · rename_i step noDot noParent ends
          cases ends
          cases arrived
          exact ⟨blank, short, rfl, noDot, noParent, before, rfl, followed⟩
    · rintro ⟨-, -, ends, noDot, noParent, others, same, followed⟩
      obtain ⟨rfl, only⟩ := List.append_inj' same rfl
      cases only
      simp only [followed, bind, Except.bind, pure, Except.pure, ends]

/-- The normal spelling of a path to a file leads to the same file. -/
theorem fileNumber_normalize {number : Nat} (found : store.fileNumber path = .ok number) :
    store.fileNumber (FilePath.normalize path) = .ok number := by
  -- The path leads there by its steps, of which its normal spelling keeps those that lead anywhere.
  obtain ⟨noNul, foundAt⟩ := fileNumber_eq_ok_iff.mp found
  obtain ⟨directory, name, arrived, there⟩ := fileNumberAt_eq_ok_iff.mp foundAt
  obtain ⟨-, short, -, noDot, noParent, before, split, leads⟩ := arrive_eq_entry_iff.mp arrived
  have names : FilePath.names path = before.filter (· != ".") ++ [name] := by
    have both : FilePath.names path =
        ((FilePath.steps path).filter (· != "")).filter (· != ".") := by
      simp [FilePath.names, List.filter_filter, Bool.and_comm]
    rw [both, split, List.filter_append]
    simp [noDot]
  have any : FilePath.names path ≠ [] := by simp [names]
  have arrives : store.arrive (FilePath.normalize path) = .ok (.entry directory name false) := by
    refine arrive_eq_entry_iff.mpr ⟨?_, ?_, FilePath.endsWith_normalize any, noDot, noParent,
      before.filter (· != "."), (FilePath.steps_normalize any).trans names, ?_⟩
    · -- The name of the file is in the spelling, so it is not blank.
      intro blank
      have steps := FilePath.steps_normalize any
      rw [blank, names] at steps
      simp [FilePath.steps] at steps
    · exact Nat.lt_of_le_of_lt (FilePath.size_normalize_le any) short
    · rw [FilePath.startsWith_normalize any, follow_filter]
      exact leads
  refine fileNumber_eq_ok_iff.mpr ⟨?_, fileNumberAt_eq_ok_iff.mpr ⟨directory, name, arrives, there⟩⟩
  -- A zero in the spelling would be one in the path.
  rw [String.contains_char_eq, decide_eq_false_iff_not] at noNul ⊢
  intro nul
  rcases FilePath.mem_normalize any nul with slash | inPath
  · exact absurd slash (by decide)
  · exact noNul inPath

end FileStore

end Unified2
