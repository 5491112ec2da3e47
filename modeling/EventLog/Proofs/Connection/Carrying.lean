import EventLog.Proofs.Connection.Opening

/-! A path that can be opened for writing, and the bytes of its file. Removing the file leaves such a
path with no bytes. -/
namespace EventLog.Disk

/-- A walk on the disk before directories were added: it goes the same way or meets one that was
missing. -/
theorem walk_before {d d' : Disk} (grown : d.Extends d') {trail t : Trail} {steps : List Step}
    {name : String} {found : Option Entry}
    (h : d'.walk trail steps = .ok ⟨t, some name, found⟩) :
    d.walk trail steps = .ok ⟨t, some name, d.find? ⟨t.last, name⟩⟩ ∨
      d.walk trail steps = .error .missing := by
  fun_induction walk d' trail steps with
  | case1 trail => cases h
  | case2 trail rest ih =>
    rw [walk]
    exact ih h
  | case3 trail rest ih =>
    rw [walk]
    exact ih h
  | case4 => cases h
  | case5 trail name' rest short found' last =>
    simp only [Except.ok.injEq, Spot.mk.injEq, Option.some.injEq] at h
    obtain ⟨rfl, rfl, -⟩ := h
    have nothing : rest = [] := List.isEmpty_iff.1 last
    subst nothing
    exact .inl (walk_into_last d (Nat.not_lt.1 short))
  | case6 trail name' rest short found' more id inside ih =>
    have there : d'.find? ⟨trail.last, name'⟩ = some (.directory id) := inside
    rw [walk]
    cases before : d.find? ⟨trail.last, name'⟩ with
    | none => simp [short, more]
    | some e =>
      have kept := grown.keeps _ e before
      rw [there] at kept
      cases kept
      simp only [short, more, if_false, Bool.false_eq_true]
      exact ih h
  | case7 => cases h
  | case8 => cases h

/-- The path can be opened for writing, and its file holds these bytes, before and after its
directories are made. No file holds no bytes. -/
structure Carries (s : Settings) (path : String) (d : Disk) (bytes : List UInt8) : Prop where
  opens : ∃ id d₁, d.openPrepared s path = (.ok id, d₁)
  now : d.bytesAt path = bytes
  prepared : (d.prepare s path).2.bytesAt path = bytes

variable {s : Settings} {path : String} {d : Disk} {bytes : List UInt8}

theorem carries_of_bytesAt? (h : d.bytesAt? path = some bytes) : Carries s path d bytes := by
  unfold bytesAt? at h
  split at h
  · rename_i id found
    obtain ⟨place, reaches, -⟩ := lookup_eq_file_iff.1 found
    have now : d.bytesAt path = bytes := by
      rw [bytesAt, bytesAt?_of_lookup found]
      exact Option.some.inj h
    refine ⟨⟨id, d, openPrepared_of_lookup found s⟩, now, ?_⟩
    rw [prepare_of_reaches reaches]
    exact now
  · cases h

theorem carries_of_missing (opens : ∃ id d₁, d.openPrepared s path = (.ok id, d₁))
    (missing : (d.prepare s path).2.bytesAt? path = none) : Carries s path d [] := by
  have before : d.bytesAt? path = none := by
    apply bytesAt?_eq_none_iff.2
    intro id found
    obtain ⟨place, reaches, -⟩ := lookup_eq_file_iff.1 found
    rw [prepare_of_reaches reaches, bytesAt?_of_lookup found] at missing
    cases missing
  refine ⟨opens, ?_, ?_⟩
  · rw [bytesAt, before]
    rfl
  · rw [bytesAt, missing]
    rfl

/-- A path that can be opened ends with a name that is free or that of a file, once its directories
are there. -/
theorem reaches_of_openPrepared {d' : Disk} {id : Nat} (h : d.openPrepared s path = (.ok id, d')) :
    ∃ place, (d.prepare s path).2.Reaches path place ∧
      ((d.prepare s path).2.find? place = some (.file id) ∨
        (d.prepare s path).2.find? place = none) := by
  unfold openPrepared at h
  cases prepared : d.prepare s path with
  | mk made d₁ =>
    rw [prepared] at h
    cases made with
    | error fault => cases h
    | ok _ =>
      obtain ⟨place, reaches, opened⟩ := reaches_of_openForAppending h
      refine ⟨place, reaches, ?_⟩
      rcases opened with ⟨entry, -⟩ | ⟨free, -, -⟩
      · exact .inl entry
      · exact .inr free

theorem removeFile_of_lookup {id : Nat} (found : d.lookup path = .ok (.file id)) :
    (d.removeFile path).1 = .ok () ∧ Carries s path (d.removeFile path).2 [] := by
  obtain ⟨place, reaches, entry⟩ := lookup_eq_file_iff.1 found
  rw [removeFile_of_file reaches entry]
  have kept : (d.unbind place).Reaches path place :=
    reaches.of_keeps (keepsDirectories_unbind (by simp [entry]))
  have free : (d.unbind place).find? place = none := by simp [find?_unbind]
  have prepared := prepare_of_reaches kept s
  have missing : (d.unbind place).bytesAt? path = none := by
    apply bytesAt?_eq_none_iff.2
    intro other there
    obtain ⟨place', reaches', entry'⟩ := lookup_eq_file_iff.1 there
    rw [← kept.unique reaches', free] at entry'
    cases entry'
  have opens : (d.unbind place).openPrepared s path =
      (.ok (d.unbind place).files.length, ((d.unbind place).create place).2) := by
    rw [openPrepared, prepared]
    exact openForAppending_of_free kept free
  exact ⟨rfl, carries_of_missing ⟨_, _, opens⟩ (by rw [prepared]; exact missing)⟩

/-- Where a file can be opened and none is, there is nothing to remove. -/
theorem removeFile_of_missing (opens : ∃ id d₁, d.openPrepared s path = (.ok id, d₁))
    (missing : d.bytesAt? path = none) : d.removeFile path = (.error .missing, d) := by
  obtain ⟨id, d₁, opened⟩ := opens
  obtain ⟨place, reaches, opening⟩ := reaches_of_openPrepared opened
  have grown := extends_prepare s d path
  obtain ⟨route, trail, parsed, named, last, walked⟩ := reaches
  rcases walk_before grown walked with same | lacking
  · -- The directories were there, so what the name is bound to has not changed.
    have before := reaches_of_walk parsed named same
    have there : (⟨trail.last, place.name⟩ : Place) = place := by rw [last]
    rw [there] at before
    refine removeFile_of_free before ?_
    cases entry : d.find? place with
    | none => rfl
    | some e =>
      have kept := grown.keeps place e entry
      rcases opening with file | free
      · rw [file] at kept
        cases kept
        rw [bytesAt?_of_lookup (lookup_eq_file_iff.2 ⟨place, before, entry⟩)] at missing
        cases missing
      · rw [free] at kept
        cases kept
  · simp [removeFile, spot, parsed, lacking, Bind.bind, Except.bind]

/-- Removing the file of a path leaves a path that can be opened and holds nothing. -/
theorem Carries.removeFile (h : Carries s path d bytes) :
    ((d.removeFile path).1 = .ok () ∨ (d.removeFile path).1 = .error .missing) ∧
      Carries s path (d.removeFile path).2 [] := by
  by_cases file : ∃ id, d.lookup path = .ok (.file id)
  · obtain ⟨id, found⟩ := file
    obtain ⟨removed, after⟩ := @removeFile_of_lookup s path d id found
    exact ⟨.inl removed, after⟩
  · have missing : d.bytesAt? path = none :=
      bytesAt?_eq_none_iff.2 fun id found => file ⟨id, found⟩
    have nothing : bytes = [] := by
      rw [← h.now, bytesAt, missing]
      rfl
    rw [removeFile_of_missing h.opens missing]
    exact ⟨.inr rfl, nothing ▸ h⟩

end EventLog.Disk
