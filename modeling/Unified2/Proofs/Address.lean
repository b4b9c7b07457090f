import Unified2.Address
import Unified2.Proofs.BigEndian
import Unified2.Proofs.Text.Numeral

/-! The text of an address is read back as the address. -/

namespace Unified2

namespace Address

/-- The bytes of an address. -/
def bytes : Address → Bytes
  | ip4 bytes => bytes
  | ip6 bytes => bytes

/-- What stands before and behind the first double colon. -/
def cutAtGap : List Char → Option (List Char × List Char)
  | [] => none
  | ':' :: ':' :: behind => some ([], behind)
  -- A single colon is a character like any other.
  | char :: rest => (cutAtGap rest).map fun (before, behind) => (char :: before, behind)

/-- The groups of a text without a double colon; an empty text has none. -/
def readGroups? (chars : List Char) : Option (List Nat) :=
  if chars = [] then some [] else Numeral.readList? ':' 16 65536 chars

/-- The eight groups of a text, with zeros in place of a double colon. -/
def readIp6? (chars : List Char) : Option (List Nat) :=
  match cutAtGap chars with
  | none => (readGroups? chars).filter (·.length = 8)
  | some (before, behind) => do
    let first ← readGroups? before
    let last ← readGroups? behind
    -- The gap has to stand for one group at least.
    if first.length + last.length < 8 then
      return first ++ List.replicate (8 - (first.length + last.length)) 0 ++ last
    else none

/-- The address that a text writes; only the longer ones have colons. -/
def ofChars? (chars : List Char) : Option Address :=
  if ':' ∈ chars then
    (readIp6? chars).map fun groups => ip6 (groups.flatMap (BigEndian.encode 2))
  else
    ((Numeral.readList? '.' 10 256 chars).filter (·.length = 4)).map fun numbers =>
      ip4 (numbers.map UInt8.ofNat)

section Groups

/-- The zeros counted first are the groups that come first. -/
theorem eq_leadingZeros (groups : List Nat) :
    groups = List.replicate (leadingZeros groups) 0 ++ groups.drop (leadingZeros groups) := by
  -- A zero in front is one more of them.
  induction groups with
  | nil => rfl
  | cons group rest ih =>
    by_cases zero : group = 0
    · subst zero
      have more : leadingZeros (0 :: rest) = leadingZeros rest + 1 := by simp [leadingZeros]
      rw [more, List.replicate_succ, List.cons_append, List.drop_succ_cons, ← ih]
    · -- Any other group in front ends the count at once.
      have none : leadingZeros (group :: rest) = 0 := by simp [leadingZeros, zero]
      rw [none]
      rfl

/-- The longest run of zeros is a run of zeros. -/
theorem eq_longestZeroRun (groups : List Nat) :
    groups = groups.take (longestZeroRun groups).1 ++
      (List.replicate (longestZeroRun groups).2 0 ++
        groups.drop ((longestZeroRun groups).1 + (longestZeroRun groups).2)) := by
  induction groups with
  | nil => rfl
  | cons group rest ih =>
    by_cases here : (longestZeroRun rest).2 ≤ leadingZeros (group :: rest)
    · -- The run in front is the longest one.
      have run : longestZeroRun (group :: rest) = (0, leadingZeros (group :: rest)) := by
        rw [longestZeroRun, if_pos here]
      rw [run, List.take_zero, List.nil_append, Nat.zero_add]
      exact eq_leadingZeros _
    · -- The longest run is one of those behind the first group.
      have run : longestZeroRun (group :: rest) =
          ((longestZeroRun rest).1 + 1, (longestZeroRun rest).2) := by
        rw [longestZeroRun, if_neg here]
      rw [run, List.take_succ_cons, List.cons_append, Nat.add_right_comm, List.drop_succ_cons, ← ih]

/-- Every group holds two bytes. -/
theorem lt_of_mem_groups {bytes : Bytes} {group : Nat} (member : group ∈ groups bytes) :
    group < 65536 := by
  induction bytes using groups.induct with
  | case1 high low rest ih =>
    rcases List.mem_cons.mp member with rfl | later
    · -- A group is its high byte times 256 and its low byte.
      have upper := high.toNat_lt
      have lower := low.toNat_lt
      omega
    · exact ih later
  | case2 bytes short => simp [groups] at member

/-- As many pairs of bytes are as many groups, which hold all of them. -/
theorem flatMap_groups {count : Nat} {bytes : Bytes} (even : bytes.length = 2 * count) :
    (groups bytes).length = count ∧ (groups bytes).flatMap (BigEndian.encode 2) = bytes := by
  induction count generalizing bytes with
  | zero =>
    obtain rfl := List.eq_nil_of_length_eq_zero even
    exact ⟨rfl, rfl⟩
  | succ count ih =>
    -- Two bytes are taken off, as the groups take them.
    match bytes, even with
    | high :: low :: rest, even =>
      obtain ⟨many, whole⟩ := ih (show rest.length = 2 * count by simp at even; omega)
      -- Both bytes come back when their group is written.
      have pair := BigEndian.encode_decode [high, low]
      simp only [BigEndian.decode, List.foldl_cons, List.foldl_nil, Nat.zero_mul, Nat.zero_add,
        List.length_cons, List.length_nil] at pair
      rw [groups, List.length_cons, List.flatMap_cons, many, whole, pair]
      exact ⟨rfl, rfl⟩

end Groups

section Text

/-- No digit is a colon. -/
theorem digitChar_ne_colon (value : Nat) : Nat.digitChar value ≠ ':' := Nat.digitChar_ne ':' rfl

/-- No digit is a dot. -/
theorem digitChar_ne_dot (value : Nat) : Nat.digitChar value ≠ '.' := Nat.digitChar_ne '.' rfl

/-- No group is written with a colon. -/
theorem colon_not_mem_toDigits (group : Nat) : ':' ∉ Nat.toDigits 16 group :=
  Numeral.not_mem_toDigits (by decide) digitChar_ne_colon group

/-- A double colon starts with a colon, so any other character stands before it. -/
theorem cutAtGap_cons {char : Char} (other : char ≠ ':') (rest : List Char) :
    cutAtGap (char :: rest) = (cutAtGap rest).map fun cut => (char :: cut.1, cut.2) := by
  rw [cutAtGap]
  rintro behind rfl
  exact absurd rfl other

/-- A colon before another character stands before the double colon too. -/
theorem cutAtGap_colon {char : Char} (other : char ≠ ':') (rest : List Char) :
    cutAtGap (':' :: char :: rest) =
      (cutAtGap (char :: rest)).map fun cut => (':' :: cut.1, cut.2) := by
  rw [cutAtGap]
  rintro behind - same
  exact absurd (List.cons.inj same).1 other

/-- Digits stand before the double colon. -/
theorem cutAtGap_append {digits : List Char} (clean : ':' ∉ digits) (rest : List Char) :
    cutAtGap (digits ++ rest) = (cutAtGap rest).map fun cut => (digits ++ cut.1, cut.2) := by
  induction digits with
  | nil => simp
  | cons digit digits ih =>
    have other : digit ≠ ':' := fun same => clean (same ▸ List.mem_cons_self)
    have cleanRest : ':' ∉ digits := fun member => clean (List.mem_cons_of_mem _ member)
    -- The digit joins what stands before the gap of the others.
    rw [List.cons_append, cutAtGap_cons other, ih cleanRest, Option.map_map]
    rfl

/-- Groups are written one after the other with a colon between two of them. -/
theorem groupsText_cons_cons (first second : Nat) (rest : List Nat) :
    groupsText (first :: second :: rest) =
      Nat.toDigits 16 first ++ ':' :: groupsText (second :: rest) := by
  simp [groupsText, List.intercalate]

/-- The text of a group does not start with a colon. -/
theorem exists_groupsText_cons (group : Nat) (rest : List Nat) :
    ∃ char chars, char ≠ ':' ∧ groupsText (group :: rest) = char :: chars := by
  have clean := colon_not_mem_toDigits group
  -- A group has a digit at least, and that is no colon.
  cases written : Nat.toDigits 16 group with
  | nil => exact absurd written Nat.toDigits_ne_nil
  | cons digit digits =>
    rw [written] at clean
    have other : digit ≠ ':' := fun same => clean (same ▸ List.mem_cons_self)
    cases rest with
    | nil => exact ⟨digit, digits, other, by simp [groupsText, List.intercalate, written]⟩
    | cons next rest =>
      exact ⟨digit, _, other, by rw [groupsText_cons_cons, written, List.cons_append]⟩

/-- Groups stand before the double colon. -/
theorem cutAtGap_groupsText (groups : List Nat) (rest : List Char) :
    cutAtGap (groupsText groups ++ rest) =
      (cutAtGap rest).map fun cut => (groupsText groups ++ cut.1, cut.2) := by
  have clean := colon_not_mem_toDigits
  -- A single colon between two groups is followed by a digit.
  induction groups with
  | nil => simp [groupsText, List.intercalate]
  | cons group groups ih =>
    cases groups with
    | nil =>
      have alone : groupsText [group] = Nat.toDigits 16 group := by
        simp [groupsText, List.intercalate]
      rw [alone, cutAtGap_append (clean group)]
    | cons next groups =>
      obtain ⟨char, chars, other, written⟩ := exists_groupsText_cons next groups
      have step : cutAtGap (':' :: (groupsText (next :: groups) ++ rest)) =
          (cutAtGap (groupsText (next :: groups) ++ rest)).map fun cut =>
            (':' :: cut.1, cut.2) := by
        rw [written, List.cons_append]
        exact cutAtGap_colon other _
      rw [groupsText_cons_cons, List.append_assoc, List.cons_append, cutAtGap_append (clean group),
        step, ih, Option.map_map, Option.map_map]
      simp [Function.comp_def]

/-- Groups are read back from their text. -/
theorem readGroups?_groupsText {groups : List Nat} (small : ∀ group ∈ groups, group < 65536) :
    readGroups? (groupsText groups) = some groups := by
  cases groups with
  | nil => rfl
  | cons group rest =>
    obtain ⟨char, chars, -, written⟩ := exists_groupsText_cons group rest
    -- A text that begins with a character is not the empty one.
    rw [readGroups?, if_neg (by simp [written]), groupsText]
    exact Numeral.readList?_intercalate digitChar_ne_colon (by decide) (by decide) (by simp) small

/-- Eight groups are read back from their text, whichever zeros it leaves out. -/
theorem readIp6?_ip6Text {groups : List Nat} (eight : groups.length = 8)
    (small : ∀ group ∈ groups, group < 65536) : readIp6? (ip6Text groups) = some groups := by
  by_cases short : (longestZeroRun groups).2 < 2
  · -- No zeros are left out, so there is no double colon.
    have whole := cutAtGap_groupsText groups []
    rw [List.append_nil] at whole
    rw [ip6Text, if_pos short, readIp6?, whole, cutAtGap, Option.map_none]
    simp [readGroups?_groupsText small, Option.filter, eight]
  · -- What is missing to eight groups are the zeros left out.
    have parts := eq_longestZeroRun groups
    have cut := cutAtGap_groupsText (groups.take (longestZeroRun groups).1) (':' :: ':' ::
      groupsText (groups.drop ((longestZeroRun groups).1 + (longestZeroRun groups).2)))
    have double : ∀ behind, cutAtGap (':' :: ':' :: behind) = some ([], behind) := fun _ => rfl
    rw [double, Option.map_some, List.append_nil] at cut
    rw [ip6Text, if_neg short, List.append_assoc, List.cons_append, List.cons_append,
      List.nil_append, readIp6?, cut]
    generalize longestZeroRun groups = run at parts short
    have first := readGroups?_groupsText fun group member =>
      small group (List.mem_of_mem_take (i := run.1) member)
    have last := readGroups?_groupsText fun group member =>
      small group (List.mem_of_mem_drop (i := run.1 + run.2) member)
    -- The lengths of the three parts add up to eight, so the gap is as long as the run.
    have lengths := congrArg List.length parts
    rw [List.length_append, List.length_append, List.length_replicate, eight] at lengths
    have fewer : (groups.take run.1).length + (groups.drop (run.1 + run.2)).length < 8 := by omega
    have missing : 8 - ((groups.take run.1).length + (groups.drop (run.1 + run.2)).length) =
        run.2 := by omega
    simp only [first, last, Option.bind_eq_bind, Option.bind_some, if_pos fewer, missing]
    rw [List.append_assoc, ← parts]
    rfl

/-- The text of eight groups has a colon. -/
theorem colon_mem_ip6Text {groups : List Nat} (eight : groups.length = 8) :
    ':' ∈ ip6Text groups := by
  unfold ip6Text
  by_cases short : (longestZeroRun groups).2 < 2
  · rw [if_pos short]
    match groups, eight with
    -- Between two of the groups stands a colon.
    | first :: second :: rest, _ => simp [groupsText_cons_cons]
  · rw [if_neg short]
    simp

/-- Four bytes are written as their numbers with dots between them. -/
theorem ip4Text_eq (bytes : Bytes) :
    ip4Text bytes = List.intercalate ['.'] ((bytes.map UInt8.toNat).map (Nat.toDigits 10)) := by
  rw [List.map_map]
  rfl

/-- Four bytes are read back from their text, which has no colon. -/
theorem readList?_ip4Text {bytes : Bytes} (any : bytes ≠ []) :
    ':' ∉ ip4Text bytes ∧
      Numeral.readList? '.' 10 256 (ip4Text bytes) = some (bytes.map UInt8.toNat) := by
  rw [ip4Text_eq]
  refine ⟨Numeral.not_mem_intercalate (by decide) digitChar_ne_colon (by decide) _, ?_⟩
  refine Numeral.readList?_intercalate digitChar_ne_dot (by decide) (by decide) (by simpa) ?_
  intro number member
  obtain ⟨byte, -, rfl⟩ := List.mem_map.mp member
  exact byte.toNat_lt

/-- Bytes of either width are an address. -/
theorem exists_ofBytes {bytes : Bytes} (width : bytes.length = 4 ∨ bytes.length = 16) :
    ∃ address, ofBytes bytes = .ok address := by
  rcases width with four | sixteen
  · exact ⟨.ip4 bytes, by simp [ofBytes, four]⟩
  · exact ⟨.ip6 bytes, by simp [ofBytes, sixteen]⟩

/-- An address is read back from its text. -/
theorem ofChars?_chars {bytes : Bytes} {address : Address} (made : ofBytes bytes = .ok address) :
    ofChars? address.chars = some address ∧ address.bytes = bytes := by
  unfold ofBytes at made
  split at made
  · rename_i four
    cases made
    refine ⟨?_, rfl⟩
    show ofChars? (ip4Text bytes) = _
    -- Without a colon the text is read as four numbers.
    obtain ⟨noColon, numbers⟩ := readList?_ip4Text (show bytes ≠ [] by rintro rfl; cases four)
    have back : (bytes.map UInt8.toNat).map UInt8.ofNat = bytes := by
      simp [List.map_map, Function.comp_def]
    have kept : (some (bytes.map UInt8.toNat)).filter (·.length = 4) =
        some (bytes.map UInt8.toNat) := by
      simp [Option.filter, four]
    rw [ofChars?, if_neg noColon, numbers, kept, Option.map_some, back]
  · split at made
    · rename_i _ sixteen
      cases made
      refine ⟨?_, rfl⟩
      show ofChars? (ip6Text (groups bytes)) = _
      -- With a colon it is read as eight groups, whose bytes are those of the address.
      obtain ⟨eight, whole⟩ := flatMap_groups (show bytes.length = 2 * 8 from sixteen)
      rw [ofChars?, if_pos (colon_mem_ip6Text eight),
        readIp6?_ip6Text eight fun _ => lt_of_mem_groups, Option.map_some, whole]
    · cases made

end Text

end Address

end Unified2
