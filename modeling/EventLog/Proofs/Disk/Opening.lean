import EventLog.Proofs.Disk.Naming

/-! Opening and removing the file at a path. A path can be opened for appending when it ends with a
name of a directory that is there and no directory has that name. -/
namespace EventLog.Disk

theorem Reaches.enter_ok {d : Disk} {route : Route} {trail : Trail} {name : String}
    {found : Option Entry} (walked : d.walk [] route.steps = .ok ⟨trail, some name, found⟩) :
    d.enter route.steps.dropLast = .ok trail := by
  obtain ⟨way, steps, through⟩ := walk_through walked
  have inside := through [.here] (by simp)
  rw [steps, List.dropLast_concat, enter, inside]
  rfl

theorem openForAppending_of_file {d : Disk} {path : String} {place : Place} {id : Nat}
    (h : d.Reaches path place) (entry : d.find? place = some (.file id)) :
    d.openForAppending path = (.ok id, d) := by
  obtain ⟨route, trail, parsed, named, last, walked⟩ := h
  rw [entry] at walked
  simp [openForAppending, parsed, Reaches.enter_ok walked, named, walked]

theorem openForAppending_of_lookup {d : Disk} {path : String} {id : Nat}
    (h : d.lookup path = .ok (.file id)) : d.openForAppending path = (.ok id, d) := by
  obtain ⟨place, reaches, entry⟩ := lookup_eq_file_iff.1 h
  exact openForAppending_of_file reaches entry

theorem openForAppending_of_free {d : Disk} {path : String} {place : Place}
    (h : d.Reaches path place) (free : d.find? place = none) :
    d.openForAppending path = (.ok d.files.length, (d.create place).2) := by
  obtain ⟨route, trail, parsed, named, last, walked⟩ := h
  rw [free] at walked
  simp [openForAppending, parsed, Reaches.enter_ok walked, named, walked, last, create]

/-- The two ways in which opening succeeds. -/
theorem reaches_of_openForAppending {d d' : Disk} {path : String} {id : Nat}
    (h : d.openForAppending path = (.ok id, d')) :
    ∃ place, d.Reaches path place ∧
      (d.find? place = some (.file id) ∧ d' = d ∨
        d.find? place = none ∧ id = d.files.length ∧ d' = (d.create place).2) := by
  unfold openForAppending at h
  split at h
  · cases h
  · rename_i route parsed
    split at h
    · cases h
    · split at h
      · cases h
      · rename_i named
        have unslashed : route.slashed = false := by simpa using named
        split at h
        · cases h
        · rename_i trail name walked
          have free := found_of_walk walked
          cases h
          exact ⟨_, reaches_of_walk parsed unslashed walked, .inr ⟨free.symm, rfl, rfl⟩⟩
        · rename_i trail name id' walked
          cases h
          cases name with
          | none =>
            have directory := found_of_walk_unnamed walked
            cases directory
          | some name =>
            have entry := found_of_walk walked
            exact ⟨_, reaches_of_walk parsed unslashed walked, .inl ⟨entry.symm, rfl⟩⟩
        · cases h

theorem keepsDirectories_create {d : Disk} {place : Place}
    (free : ∀ id, d.find? place ≠ some (.directory id)) : KeepsDirectories d (d.create place).2 := by
  intro other id inside
  rw [find?_create]
  by_cases same : other = place
  · subst same
    exact absurd inside (free id)
  · simpa [same] using inside

theorem keepsDirectories_unbind {d : Disk} {place : Place}
    (free : ∀ id, d.find? place ≠ some (.directory id)) : KeepsDirectories d (d.unbind place) := by
  intro other id inside
  rw [find?_unbind]
  by_cases same : other = place
  · subst same
    exact absurd inside (free id)
  · simpa [same] using inside

/-- A file that was opened stands at its path. -/
theorem lookup_of_openForAppending {d d' : Disk} {path : String} {id : Nat}
    (h : d.openForAppending path = (.ok id, d')) : d'.lookup path = .ok (.file id) := by
  obtain ⟨place, reaches, opened⟩ := reaches_of_openForAppending h
  apply lookup_eq_file_iff.2
  rcases opened with ⟨entry, rfl⟩ | ⟨free, rfl, rfl⟩
  · exact ⟨place, reaches, entry⟩
  · have keeps := @keepsDirectories_create d place (by simp [free])
    exact ⟨place, reaches.of_keeps keeps, by simp [find?_create]⟩

theorem openForAppending_error {d d' : Disk} {path : String} {fault : DiskFault}
    (h : d.openForAppending path = (.error fault, d')) : d' = d := by
  unfold openForAppending at h
  repeat' split at h
  all_goals simp_all

/-! Removal. -/

theorem removeFile_of_file {d : Disk} {path : String} {place : Place} {id : Nat}
    (h : d.Reaches path place) (entry : d.find? place = some (.file id)) :
    d.removeFile path = (.ok (), d.unbind place) := by
  obtain ⟨route, trail, parsed, named, last, walked⟩ := h
  have unslashed : path.toList.getLast? ≠ some '/' := by
    unfold Route.parse at parsed
    repeat' split at parsed
    all_goals try cases parsed
    simpa [Route.read] using named
  rw [entry] at walked
  simp [removeFile, spot, parsed, walked, Bind.bind, Except.bind, unslashed, last]

theorem removeFile_of_free {d : Disk} {path : String} {place : Place}
    (h : d.Reaches path place) (free : d.find? place = none) :
    d.removeFile path = (.error .missing, d) := by
  obtain ⟨route, trail, parsed, named, last, walked⟩ := h
  rw [free] at walked
  simp [removeFile, spot, parsed, walked, Bind.bind, Except.bind]

/-- Removing changes no more than the name of the file. -/
theorem removeFile_cases (d : Disk) (path : String) :
    (∃ fault, d.removeFile path = (.error fault, d)) ∨
      ∃ place id, d.find? place = some (.file id) ∧ d.removeFile path = (.ok (), d.unbind place) := by
  unfold removeFile
  split
  · exact .inl ⟨_, rfl⟩
  · exact .inl ⟨_, rfl⟩
  · rename_i trail name id spotted
    split
    · exact .inl ⟨_, rfl⟩
    · refine .inr ⟨_, id, ?_, rfl⟩
      unfold spot at spotted
      cases parsed : Route.parse path with
      | error fault => simp [parsed, Bind.bind, Except.bind] at spotted
      | ok route =>
        simp only [parsed, Bind.bind, Except.bind] at spotted
        exact (found_of_walk spotted).symm
  · exact .inl ⟨_, rfl⟩

end EventLog.Disk
