import SentenceSampler.File.Disk

/-!
What a write to a disk leads to. Main statements: the text that was written is read back along the same path,
and along any other path that text is read which was read before, unless the path leads to the same place.
-/
namespace SentenceSampler.Disk

variable {disk saved : Disk} {place place' start next : Place} {path other name text contents : String}
variable {names : List String} {bytes : ByteArray}

/-! Folders -/

theorem isFolder_iff :
    disk.isFolder place = true ↔
      place = [] ∨ ∃ folder ∈ disk.current :: disk.folders ++ disk.files.map (·.1.dropLast), place <+: folder := by
  simp only [isFolder, Bool.or_eq_true, List.isEmpty_iff, List.any_eq_true, List.isPrefixOf_iff_prefix]

theorem isFolder_of_prefix (above : place <+: place') (folder : disk.isFolder place' = true) :
    disk.isFolder place = true := by
  rw [isFolder_iff] at folder ⊢
  obtain rfl | ⟨listed, member, inside⟩ := folder
  · exact .inl (List.prefix_nil.mp above)
  · exact .inr ⟨listed, member, above.trans inside⟩

theorem isFolder_dropLast (folder : disk.isFolder place = true) : disk.isFolder place.dropLast = true :=
  isFolder_of_prefix (List.dropLast_prefix place) folder

/-- A file in a folder makes no other folders. -/
theorem isFolder_put (folder : disk.isFolder place.dropLast = true) (bytes : ByteArray) (other : Place) :
    (disk.put place bytes).isFolder other = disk.isFolder other := by
  rw [Bool.eq_iff_iff]
  constructor
  · intro found
    rw [isFolder_iff] at found
    obtain rfl | ⟨listed, member, inside⟩ := found
    · exact isFolder_iff.mpr (.inl rfl)
    · by_cases new : listed = place.dropLast
      · exact isFolder_of_prefix (new ▸ inside) folder
      · exact isFolder_iff.mpr (.inr ⟨listed, by simpa [put, new] using member, inside⟩)
  · intro found
    rw [isFolder_iff] at found ⊢
    refine found.imp_right ?_
    rintro ⟨listed, member, inside⟩
    refine ⟨listed, ?_, inside⟩
    simp only [put, List.map_cons, List.mem_append, List.mem_cons] at member ⊢
    exact member.imp_right .inr

/-! Steps -/

theorem step_eq_ok_iff :
    disk.step place name = .ok next ↔
      disk.isFolder place = true ∧ name.utf8ByteSize ≤ longestName ∧
        next = if name = "." then place else if name = ".." then place.dropLast else place ++ [name] := by
  unfold step
  by_cases folder : disk.isFolder place = true
  · by_cases long : longestName < name.utf8ByteSize
    · simp [folder, long, Nat.not_le_of_lt long]
    · simp [folder, long, Nat.le_of_not_lt long, eq_comm]
  · simp [folder]

theorem isFolder_dropLast_of_step (stepped : disk.step place name = .ok next) :
    disk.isFolder next.dropLast = true := by
  obtain ⟨folder, -, rfl⟩ := step_eq_ok_iff.mp stepped
  split
  · exact isFolder_dropLast folder
  · split
    · exact isFolder_dropLast (isFolder_dropLast folder)
    · rwa [List.dropLast_concat]

theorem steps_cons_eq_ok_iff :
    (name :: names).foldlM disk.step start = .ok place ↔
      ∃ next, disk.step start name = .ok next ∧ names.foldlM disk.step next = .ok place := by
  rw [List.foldlM_cons]
  cases disk.step start name <;> simp [bind, Except.bind]

theorem isFolder_dropLast_of_steps (folder : disk.isFolder start.dropLast = true)
    (stepped : names.foldlM disk.step start = .ok place) : disk.isFolder place.dropLast = true := by
  induction names generalizing start with
  | nil =>
    cases stepped
    exact folder
  | cons name later ih =>
    obtain ⟨next, first, rest⟩ := steps_cons_eq_ok_iff.mp stepped
    exact ih (isFolder_dropLast_of_step first) rest

theorem steps_put (folder : disk.isFolder place.dropLast = true) (bytes : ByteArray) :
    names.foldlM (disk.put place bytes).step start = .ok next ↔ names.foldlM disk.step start = .ok next := by
  induction names generalizing start with
  | nil => exact Iff.rfl
  | cons name later ih =>
    simp only [steps_cons_eq_ok_iff, step_eq_ok_iff, isFolder_put folder, ih]

/-! Walks -/

theorem walk_eq_ok_iff :
    disk.walk path names = .ok place ↔
      ('\x00' ∉ path.toList ∧ path ≠ "" ∧ path.utf8ByteSize ≤ longestPath) ∧
        names.foldlM disk.step (if Path.isAbsolute path then [] else disk.current) = .ok place := by
  unfold walk
  by_cases nul : '\x00' ∈ path.toList
  · simp [nul]
  · by_cases empty : path = ""
    · simp [empty]
    · by_cases long : longestPath < path.utf8ByteSize
      · simp [nul, empty, long, Nat.not_le_of_lt long]
      · simp [nul, empty, long, Nat.le_of_not_lt long]

theorem isFolder_dropLast_of_walk (reached : disk.walk path names = .ok place) :
    disk.isFolder place.dropLast = true := by
  refine isFolder_dropLast_of_steps ?_ (walk_eq_ok_iff.mp reached).2
  split
  · exact isFolder_iff.mpr (.inl rfl)
  · exact isFolder_iff.mpr (.inr ⟨disk.current, by simp, List.dropLast_prefix _⟩)

theorem walk_put (folder : disk.isFolder place.dropLast = true) (bytes : ByteArray) :
    (disk.put place bytes).walk path names = .ok next ↔ disk.walk path names = .ok next := by
  rw [walk_eq_ok_iff, walk_eq_ok_iff, steps_put folder]
  rfl

/-! Reading and writing -/

theorem file?_put_self : (disk.put place bytes).file? place = some bytes := by
  simp [file?, put]

theorem file?_put_of_ne (different : place' ≠ place) : (disk.put place bytes).file? place' = disk.file? place' := by
  have unequal : (place' == place) = false := by simp [different]
  simp only [file?, put, List.lookup_cons, unequal]

theorem load_eq_ok_iff :
    disk.load path = .ok text ↔
      ∃ place bytes, disk.walk path (readingNames path) = .ok place ∧ disk.isFolder place = false ∧
        disk.file? place = some bytes ∧ String.fromUTF8? bytes = some text := by
  unfold load
  cases disk.walk path (readingNames path) with
  | error fault => simp
  | ok place =>
    by_cases folder : disk.isFolder place = true
    · simp [folder]
    · cases found : disk.file? place with
      | none => simp [folder, found]
      | some bytes => cases decoded : String.fromUTF8? bytes <;> simp [folder, found, decoded]

theorem destination_eq_ok_iff :
    disk.destination path = .ok place ↔
      disk.walk path (writingNames path) = .ok place ∧ disk.isFolder place = false := by
  unfold destination
  cases disk.walk path (writingNames path) with
  | error fault => simp
  | ok place' =>
    by_cases folder : disk.isFolder place' = true
    · simp only [folder]
      grind
    · simp only [folder]
      grind

/-- A point at the end leads to the folder that it is looked up in. -/
theorem isFolder_of_steps_point (stepped : (names ++ ["."]).foldlM disk.step start = .ok place) :
    disk.isFolder place = true := by
  induction names generalizing start with
  | nil =>
    obtain ⟨next, first, rest⟩ := steps_cons_eq_ok_iff.mp stepped
    cases rest
    obtain ⟨folder, -, rfl⟩ := step_eq_ok_iff.mp first
    exact folder
  | cons name later ih =>
    obtain ⟨next, -, rest⟩ := steps_cons_eq_ok_iff.mp stepped
    exact ih rest

/-- Where a path can be written to, it is read by the same names. -/
theorem readingNames_eq_writingNames (reached : disk.destination path = .ok place) :
    readingNames path = writingNames path := by
  obtain ⟨walked, file⟩ := destination_eq_ok_iff.mp reached
  by_cases slash : Path.endsInSlash path = true
  · rw [writingNames, if_pos slash] at walked
    rw [isFolder_of_steps_point (walk_eq_ok_iff.mp walked).2] at file
    cases file
  · simp [readingNames, writingNames, slash]

theorem save_eq_ok_iff :
    disk.save path text = .ok saved ↔
      ∃ place, disk.destination path = .ok place ∧ saved = disk.put place text.toUTF8 := by
  unfold save
  cases disk.destination path <;> simp [eq_comm]

theorem save_eq_error_iff {fault : FileFault} :
    disk.save path text = .error fault ↔ disk.destination path = .error fault := by
  unfold save
  cases disk.destination path <;> simp

theorem fromUTF8?_toUTF8 (text : String) : String.fromUTF8? text.toUTF8 = some text :=
  dif_pos text.isValidUTF8

/-- What was written to a path is read along it. -/
theorem load_of_save (written : disk.save path text = .ok saved) : saved.load path = .ok text := by
  obtain ⟨place, reached, rfl⟩ := save_eq_ok_iff.mp written
  obtain ⟨walked, file⟩ := destination_eq_ok_iff.mp reached
  have folder := isFolder_dropLast_of_walk walked
  refine load_eq_ok_iff.mpr ⟨place, text.toUTF8, ?_, ?_, ?_, fromUTF8?_toUTF8 text⟩
  · rw [readingNames_eq_writingNames reached]
    exact (walk_put folder _).mpr walked
  · rw [isFolder_put folder, file]
  · exact file?_put_self

/-- A text that was there before is kept, unless it is at the place that was written to. -/
theorem load_of_save_of_load (written : disk.save path text = .ok saved)
    (held : disk.load other = .ok contents) :
    ∃ place place', disk.destination path = .ok place ∧ disk.walk other (readingNames other) = .ok place' ∧
      saved.load other = .ok (if place' = place then text else contents) := by
  obtain ⟨place, reached, rfl⟩ := save_eq_ok_iff.mp written
  obtain ⟨place', bytes, walked, file, found, decoded⟩ := load_eq_ok_iff.mp held
  have folder := isFolder_dropLast_of_walk (destination_eq_ok_iff.mp reached).1
  refine ⟨place, place', reached, walked, load_eq_ok_iff.mpr ⟨place', ?_⟩⟩
  by_cases same : place' = place
  · subst same
    refine ⟨text.toUTF8, (walk_put folder _).mpr walked, by rwa [isFolder_put folder], file?_put_self, ?_⟩
    rw [if_pos rfl, fromUTF8?_toUTF8]
  · refine ⟨bytes, (walk_put folder _).mpr walked, by rwa [isFolder_put folder], ?_, by rwa [if_neg same]⟩
    rwa [file?_put_of_ne same]

end SentenceSampler.Disk
