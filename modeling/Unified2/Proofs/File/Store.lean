import Mathlib
import Unified2.File.Store

/-! A file that a path leads to, and what appending to it changes. -/

namespace Unified2

namespace FileStore

/-- A path leads to a file exactly if its last step names one and no slash follows. -/
theorem fileNumberAt_eq_ok_iff {store : FileStore} {path : String} {number : Nat} :
    store.fileNumberAt path = .ok number ↔
      ∃ directory name, store.arrive path = .ok (.entry directory name false) ∧
        store.entry? directory name = .ok (some (.file number)) := by
  unfold fileNumberAt
  cases arrived : store.arrive path with
  | error fault => simp [bind, Except.bind]
  | ok arrival =>
    cases arrival with
    | directory => simp [bind, Except.bind]
    | entry directory name slash =>
      simp only [bind, Except.bind]
      constructor
      · intro found
        -- Only a file without a slash behind it gets past every branch.
        cases there : store.entry? directory name with
        | error fault => simp [there] at found
        | ok node =>
          rcases node with _ | _ | other
          · simp [there] at found
          · simp [there] at found
          · cases slash with
            | true => simp [there] at found
            | false =>
              have same : other = number := by simpa [there, pure, Except.pure] using found
              exact ⟨directory, name, rfl, same ▸ there⟩
      · rintro ⟨directory, name, same, there⟩
        cases same
        simp [there, pure, Except.pure]

/-- A path leads to a file exactly if it is a path at all and its steps lead there. -/
theorem fileNumber_eq_ok_iff {store : FileStore} {path : String} {number : Nat} :
    store.fileNumber path = .ok number ↔
      path.contains '\x00' = false ∧ store.fileNumberAt path = .ok number := by
  -- A zero in the path is refused before any step is taken.
  unfold fileNumber
  cases path.contains '\x00' with
  | true => simp
  | false =>
    cases store.fileNumberAt path with
    | error fault => simp [Except.mapError]
    | ok other => simp [Except.mapError]

/-- Where a file is found the path is one that the system could be asked about. -/
theorem noNul_of_isFile {store : FileStore} {path : String}
    (there : store.isFile path = .ok true) : path.contains '\x00' = false := by
  unfold isFile at there
  cases found : store.fileNumber path with
  | ok number => exact (fileNumber_eq_ok_iff.mp found).1
  | error error =>
    -- A path that leads to no file is told apart from one that does.
    simp only [found] at there
    split at there <;> cases there

/-- Following steps looks at no content. -/
theorem follow_contents (nodes : List (Location × FileNode)) (contents others : List Bytes)
    (location : Location) (steps : List String) :
    follow { nodes, contents } location steps =
      follow { nodes, contents := others } location steps := by
  induction steps generalizing location with
  | nil => rfl
  | cons step rest ih =>
    have same : entry? { nodes, contents } location step =
      entry? { nodes, contents := others } location step := rfl
    simp only [follow, ih, same]

/-- Where a path ends does not depend on any content. -/
theorem arrive_contents (nodes : List (Location × FileNode)) (contents others : List Bytes)
    (path : String) :
    arrive { nodes, contents } path = arrive { nodes, contents := others } path := by
  simp only [arrive, follow_contents nodes contents others]

/-- A path leads to the same file whatever the contents are. -/
theorem fileNumber_contents (store : FileStore) (contents : List Bytes) (path : String) :
    fileNumber { store with contents } path = store.fileNumber path := by
  have same : ∀ directory name, entry? { store with contents } directory name =
    store.entry? directory name := fun _ _ => rfl
  simp only [fileNumber, fileNumberAt, arrive_contents store.nodes contents store.contents, same]

/-- Appending at a path that leads to a file changes the content of this file. -/
theorem append_eq_ok {store : FileStore} {path : String} {number : Nat}
    (found : store.fileNumber path = .ok number) (bytes : Bytes) :
    store.append path bytes =
      .ok { store with contents := store.contents.modify number (· ++ bytes) } := by
  -- The file is looked up in the same way as for reading, and is there already.
  obtain ⟨noNul, foundAt⟩ := fileNumber_eq_ok_iff.mp found
  obtain ⟨directory, name, arrived, there⟩ := fileNumberAt_eq_ok_iff.mp foundAt
  simp only [append, modify, noNul, modifyAt, arrived, there, bind, Except.bind, pure,
    Except.pure, Except.mapError]
  rfl

/-- A file that has a content has more of it after bytes were appended. -/
theorem content_modify_append {store : FileStore} {number : Nat}
    (held : number < store.contents.length) (bytes : Bytes) :
    content { store with contents := store.contents.modify number (· ++ bytes) } number =
      store.content number ++ bytes := by
  simp [content, List.getElem?_eq_getElem held]

/-- Appending at a path that leads to a file adds to its content, and leaves every path as it is. -/
theorem exists_append {store : FileStore} {path : String} {number : Nat}
    (leads : store.fileNumber path = .ok number) (held : number < store.contents.length)
    (bytes : Bytes) :
    ∃ files, store.append path bytes = .ok files ∧
      files.content number = store.content number ++ bytes ∧
      ∀ other, files.fileNumber other = store.fileNumber other :=
  ⟨_, append_eq_ok leads bytes, content_modify_append held bytes, fileNumber_contents store _⟩

/-- A file can have any content. -/
theorem exists_contents (store : FileStore) (number : Nat) (bytes : Bytes) :
    ∃ contents, content { store with contents } number = bytes :=
  ⟨List.replicate number [] ++ [bytes], by simp [content]⟩

end FileStore

end Unified2
