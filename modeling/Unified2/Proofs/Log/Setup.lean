import Unified2.Log.Record

/-! What a log writes of the records that it is told: those of the root and its parts that are
severe enough, in order, once for each writer. -/

namespace Unified2

namespace LogSetup

variable {setup : LogSetup} {component : String}

/-- A component that is the root, or whose name goes on behind that of the root with one dot. -/
def IsPart (component : String) : Prop :=
  -- Behind two dots side by side it depends on which other components are known.
  component = root ∨
    (component.startsWith (root ++ ".") = true ∧ component.startsWith (root ++ "..") = false)

instance (component : String) : Decidable (IsPart component) :=
  inferInstanceAs (Decidable (_ ∨ _))

/-- The root, a dot and anything that does not begin with another dot is a part of the root. -/
theorem isPart_of_toList {more : List Char} (joined : component.toList = root.toList ++ '.' :: more)
    (single : more.head? ≠ some '.') : IsPart component := by
  refine .inr ⟨String.startsWith_string_iff.mpr ⟨more, ?_⟩, Bool.eq_false_iff.mpr fun dots => ?_⟩
  · rw [String.toList_append, joined, List.append_assoc]
    rfl
  · -- Then the second dot would be the first character behind the first one.
    obtain ⟨rest, twice⟩ := String.startsWith_string_iff.mp dots
    rw [joined, String.toList_append, List.append_assoc, List.append_cancel_left_eq] at twice
    exact single (by rw [← (List.cons.inj twice).2]; rfl)

/-- A character that is no dot leads up to nothing. -/
theorem leadsToRoot_cons_of_ne (known : List String) {char : Char} (noDot : char ≠ '.')
    (rest : List Char) : leadsToRoot known (char :: rest) = leadsToRoot known rest := by
  rw [leadsToRoot]
  intro _ _ dot
  exact absurd dot noDot

/-- What ends in no dot ends in none without its first character. -/
theorem getLast?_ne_dot_of_cons {first : Char} {rest : List Char}
    (noDot : (first :: rest).getLast? ≠ some '.') : rest.getLast? ≠ some '.' := by
  cases rest with
  | nil => simp
  | cons _ _ => rwa [List.getLast?_cons_cons] at noDot

/-- Up from a name that stands right behind the root and one dot there is the root, whatever is
known. -/
theorem leadsToRoot_append (known : List String) {tail : List Char}
    (noDot : tail.getLast? ≠ some '.') :
    leadsToRoot known (tail ++ '.' :: root.toList.reverse) = true := by
  -- Every way up drops characters of the tail and keeps its last one, or drops the whole tail.
  induction size : tail.length using Nat.strongRecOn generalizing tail with
  | ind length ih =>
    cases tail with
    | nil => rfl
    | cons first rest =>
      by_cases dot : first = '.'
      · subst dot
        cases rest with
        | nil => simp at noDot
        | cons next rest =>
          simp only [List.length_cons] at size
          -- Either what stands before the dot is known, or the dot right beside it is left out.
          have nearEnd := getLast?_ne_dot_of_cons noDot
          have near := ih (next :: rest).length (by simp only [List.length_cons]; omega) nearEnd rfl
          have far := ih rest.length (by omega) (getLast?_ne_dot_of_cons nearEnd) rfl
          simp only [List.cons_append, leadsToRoot] at near ⊢
          rw [near, far]
          simp
      · rw [List.cons_append, leadsToRoot_cons_of_ne known dot]
        simp only [List.length_cons] at size
        exact ih rest.length (by omega) (getLast?_ne_dot_of_cons noDot) rfl

/-- Only names that go on behind the root with a dot lead up to it. -/
theorem exists_of_leadsToRoot {known : List String} {chars : List Char}
    (leads : leadsToRoot known chars = true) :
    ∃ tail, chars = tail ++ '.' :: root.toList.reverse := by
  -- Whichever way the walk goes on, the characters that it drops are put back in front of the tail.
  fun_induction leadsToRoot known chars with
  | case1 char rest above same =>
    have whole : char :: rest = root.toList.reverse := by
      rw [← same, String.toList_ofList, List.reverse_reverse]
    exact ⟨[], by rw [whole, List.nil_append]⟩
  | case2 char rest above _ _ ih =>
    obtain ⟨tail, joined⟩ := ih leads
    exact ⟨'.' :: tail, by rw [joined, List.cons_append]⟩
  | case3 char rest above _ _ ih =>
    obtain ⟨tail, joined⟩ := ih leads
    exact ⟨'.' :: char :: tail, by rw [joined, List.cons_append, List.cons_append]⟩
  | case4 char rest _ ih =>
    obtain ⟨tail, joined⟩ := ih leads
    exact ⟨char :: tail, by rw [joined, List.cons_append]⟩
  | case5 => exact absurd leads Bool.false_ne_true

/-- A part of the root is covered, whatever is known. -/
theorem covers_of_isPart (part : IsPart component) : setup.covers component = true := by
  rcases part with rfl | ⟨dot, dots⟩
  · simp [covers]
  · -- The name is the root, a dot, and more that does not begin with another dot.
    obtain ⟨more, joined⟩ := String.startsWith_string_iff.mp dot
    rw [String.toList_append, show ".".toList = ['.'] from rfl, List.append_assoc,
      List.singleton_append] at joined
    have single : more.reverse.getLast? ≠ some '.' := by
      rw [List.getLast?_reverse]
      intro second
      obtain ⟨rest, rfl⟩ := List.head?_eq_some_iff.mp second
      have twice : component.startsWith (root ++ "..") = true := by
        rw [String.startsWith_string_iff, String.toList_append, ← joined]
        exact ⟨rest, by simp⟩
      exact Bool.false_ne_true (dots.symm.trans twice)
    rw [covers, ← joined, List.reverse_append, List.reverse_cons, List.append_assoc,
      List.singleton_append, leadsToRoot_append _ single, Bool.or_true]

/-- Only the root and names that go on behind it with a dot are covered. -/
theorem eq_root_or_startsWith_of_covers (covered : setup.covers component = true) :
    component = root ∨ component.startsWith (root ++ ".") = true := by
  rw [covers, Bool.or_eq_true, beq_iff_eq] at covered
  refine covered.imp_right fun leads => ?_
  obtain ⟨tail, joined⟩ := exists_of_leadsToRoot leads
  rw [String.startsWith_string_iff, ← List.reverse_reverse component.toList, joined]
  exact ⟨tail.reverse, by simp⟩

/-- Whatever was decided about parts of the root fits what counts for it. -/
def Consistent (setup : LogSetup) : Prop :=
  ∀ component level decision, ((component, level), decision) ∈ setup.decided → IsPart component →
    decision = decide (setup.least ≤ level.severity)

/-- Everything is decided anew after a setup. -/
theorem consistent_heed (setup : LogSetup) (severity : Nat) : (setup.heed severity).Consistent := by
  intro _ _ _ decided
  exact absurd decided List.not_mem_nil

/-- A part of the root heeds the levels that are severe enough for the root. -/
theorem heeds_of_isPart (consistent : setup.Consistent) (part : IsPart component)
    (level : LogLevel) :
    setup.heeds component level = decide (setup.least ≤ level.severity) := by
  unfold heeds
  cases found : setup.decided.lookup (component, level) with
  | none => rw [Option.getD_none, covers_of_isPart part, if_pos rfl]
  | some decision =>
    -- It was decided before, when the same counted as now.
    obtain ⟨_, _, split, -⟩ := List.lookup_eq_some_iff.mp found
    exact consistent component level decision (by simp [split]) part

/-- A record changes nothing about what counts. -/
theorem Consistent.after_record (consistent : setup.Consistent) (record : LogRecord) :
    (setup.after (.record record)).Consistent := by
  intro component level decision decided part
  rcases List.mem_cons.mp decided with same | before
  · -- The newest decision is the one for this record, and those before it fit already.
    simp only [Prod.mk.injEq] at same
    obtain ⟨⟨rfl, rfl⟩, rfl⟩ := same
    exact heeds_of_isPart consistent part record.level
  · exact consistent component level decision before part

/-- One writer writes a record of a part of the root once, if it is severe enough. -/
theorem write_of_isPart (one : setup.writers = 1) (consistent : setup.Consistent)
    {record : LogRecord} (part : IsPart record.component) (timestamp : String) :
    setup.write timestamp (.record record) =
      if setup.least ≤ record.level.severity then [record.line timestamp] else [] := by
  simp only [write, admits, covers_of_isPart part, heeds_of_isPart consistent part, one,
    Bool.true_and, decide_eq_true_eq, List.replicate_one]

/-- A record of a component that is neither the root nor named after it is not written. -/
theorem write_of_stranger {record : LogRecord} (unlike : record.component ≠ root)
    (noDot : record.component.startsWith (root ++ ".") = false) (timestamp : String) :
    setup.write timestamp (.record record) = [] := by
  have outside : setup.covers record.component = false := by
    rw [Bool.eq_false_iff]
    intro covered
    rcases eq_root_or_startsWith_of_covers covered with same | dot
    · exact unlike same
    · exact Bool.false_ne_true (noDot.symm.trans dot)
  simp [write, admits, outside]

/-- The lines of the first record stand before those of the records behind it. -/
theorem lines_cons (setup : LogSetup) (timestamp : String) (record : LogRecord)
    (records : List LogRecord) :
    setup.lines timestamp (record :: records) =
      setup.write timestamp (.record record) ++
        (setup.after (.record record)).lines timestamp records := rfl

/-- One writer writes the records of parts of the root that are severe enough, each of them once. -/
theorem lines_of_isPart (one : setup.writers = 1) (consistent : setup.Consistent)
    {records : List LogRecord} (parts : ∀ record ∈ records, IsPart record.component)
    (timestamp : String) :
    setup.lines timestamp records =
      (records.filter fun record => setup.least ≤ record.level.severity).map
        (LogRecord.line timestamp) := by
  induction records generalizing setup with
  | nil => rfl
  | cons record records ih =>
    have first := write_of_isPart one consistent (parts record List.mem_cons_self) timestamp
    have stillOne : (setup.after (.record record)).writers = 1 := one
    have later := ih stillOne (consistent.after_record record) fun other isIn =>
      parts other (List.mem_cons_of_mem _ isIn)
    rw [lines_cons, first, later]
    -- What counts is the same for the records behind this one.
    have same : (setup.after (.record record)).least = setup.least := rfl
    by_cases severe : setup.least ≤ record.level.severity <;> simp [same, severe]

/-- One writer writes all records of parts of the root that are severe enough. -/
theorem lines_eq_map (one : setup.writers = 1) (consistent : setup.Consistent)
    {records : List LogRecord}
    (told : ∀ record ∈ records, IsPart record.component ∧ setup.least ≤ record.level.severity)
    (timestamp : String) :
    setup.lines timestamp records = records.map (LogRecord.line timestamp) := by
  rw [lines_of_isPart one consistent fun record isIn => (told record isIn).1,
    List.filter_eq_self.mpr fun record isIn => decide_eq_true (told record isIn).2]

end LogSetup

end Unified2
