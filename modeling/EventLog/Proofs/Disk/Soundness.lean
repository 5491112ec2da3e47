import EventLog.Disk.Edit
import EventLog.Proofs.Disk.Parents

/-! Disks as they can come about: names lead to what exists, and all stamps are in the past. Every
change keeps this. Main statement: as long as each change gives a stamp never seen before, no two files
come to have one fingerprint. -/
namespace EventLog.Disk

/-- Names lead to what exists, and the stamps of files are in the past. -/
structure Sound (d : Disk) : Prop where
  root_lt : root < d.directories
  place_lt : ∀ place e, d.find? place = some e → place.directory < d.directories
  directory_lt : ∀ place id, d.find? place = some (.directory id) → id < d.directories
  file_lt : ∀ place id, d.find? place = some (.file id) → id < d.files.length
  stamp_lt : ∀ id < d.files.length, (d.file id).stamp < d.clock

theorem sound_empty : Sound {} where
  root_lt := by decide
  place_lt _ _ h := by cases h
  directory_lt _ _ h := by cases h
  file_lt _ _ h := by cases h
  stamp_lt _ h := absurd h (Nat.not_lt_zero _)

/-- No two files have one length and stamp. -/
def Distinct (d : Disk) : Prop :=
  ∀ i < d.files.length, ∀ j < d.files.length, d.fingerprint i = d.fingerprint j → i = j

theorem distinct_empty : Distinct {} := fun _ h => absurd h (Nat.not_lt_zero _)

/-! Files after a change. -/

theorem bytes_of_beyond {d : Disk} {id : Nat} (beyond : d.files.length ≤ id) : d.bytes id = [] := by
  rw [bytes, file, List.getElem?_eq_none beyond]
  rfl

@[simp] theorem length_put (d : Disk) (id : Nat) (bytes : List UInt8) (keep : Bool) :
    (d.put id bytes keep).files.length = d.files.length := by simp [put]

theorem file_put (d : Disk) (id other : Nat) (bytes : List UInt8) (keep : Bool) :
    (d.put id bytes keep).file other = if other = id ∧ id < d.files.length then
      ⟨bytes, if keep then (d.file id).stamp else d.clock⟩ else d.file other := by
  by_cases same : other = id
  · subst same
    by_cases there : other < d.files.length
    · simp [file, put, there]
    · simp [file, put, there]
  · simp [file, put, same, Ne.symm same]

theorem file_create (d : Disk) (place : Place) (other : Nat) :
    (d.create place).2.file other =
      if other = d.files.length then ⟨[], d.clock⟩ else d.file other := by
  simp only [file, create, List.getElem?_append]
  by_cases old : other < d.files.length
  · simp [old, Nat.ne_of_lt old]
  · by_cases new : other = d.files.length
    · simp [new]
    · have beyond : ¬ other - d.files.length = 0 := by omega
      simp [old, new, beyond]

@[simp] theorem length_restamp (d : Disk) (id stamp : Nat) :
    (d.restamp id stamp).files.length = d.files.length := by simp [restamp]

theorem file_restamp (d : Disk) (id stamp other : Nat) :
    (d.restamp id stamp).file other =
      if other = id ∧ id < d.files.length then ⟨d.bytes id, stamp⟩ else d.file other := by
  by_cases same : other = id
  · subst same
    by_cases there : other < d.files.length
    · simp [file, restamp, there]
    · simp [file, restamp, there]
  · simp [file, restamp, same, Ne.symm same]

/-! What becomes of stamps. -/

/-- The second disk comes from the first. -/
structure Evolves (d d' : Disk) : Prop where
  clock : d.clock ≤ d'.clock
  length : d.files.length ≤ d'.files.length

/-- The file is as it was before. -/
def Kept (d d' : Disk) (id : Nat) : Prop := id < d.files.length ∧ d'.file id = d.file id

/-- The second disk comes from the first, and every file that changed has a stamp of its own, which
was not seen before. -/
structure Advances (d d' : Disk) : Prop extends d.Evolves d' where
  stamped : ∀ id < d'.files.length, d.Kept d' id ∨ d.clock ≤ (d'.file id).stamp
  apart : ∀ i < d'.files.length, ∀ j < d'.files.length,
    (d'.file i).stamp = (d'.file j).stamp → d.Kept d' i ∨ i = j

theorem Evolves.refl (d : Disk) : d.Evolves d := ⟨Nat.le_refl _, Nat.le_refl _⟩

theorem Evolves.trans {d₁ d₂ d₃ : Disk} (h : d₁.Evolves d₂) (h' : d₂.Evolves d₃) :
    d₁.Evolves d₃ := ⟨Nat.le_trans h.clock h'.clock, Nat.le_trans h.length h'.length⟩

theorem Kept.trans {d₁ d₂ d₃ : Disk} {id : Nat} (h : d₁.Kept d₂ id) (h' : d₂.Kept d₃ id) :
    d₁.Kept d₃ id := ⟨h.1, h'.2.trans h.2⟩

theorem Advances.refl (d : Disk) : d.Advances d where
  toEvolves := .refl d
  stamped _ there := .inl ⟨there, rfl⟩
  apart _ there _ _ _ := .inl ⟨there, rfl⟩

theorem Advances.trans {d₁ d₂ d₃ : Disk} (h : d₁.Advances d₂) (h' : d₂.Advances d₃) :
    d₁.Advances d₃ where
  toEvolves := h.toEvolves.trans h'.toEvolves
  stamped id there := by
    rcases h'.stamped id there with kept | new
    · rcases h.stamped id kept.1 with before | new
      · exact .inl (before.trans kept)
      · rw [← kept.2] at new
        exact .inr new
    · exact .inr (Nat.le_trans h.clock new)
  apart i hi j hj same := by
    rcases h'.apart i hi j hj same with keptI | equal
    · rcases h'.apart j hj i hi same.symm with keptJ | equal
      · rw [keptI.2, keptJ.2] at same
        exact (h.apart i keptI.1 j keptJ.1 same).imp_left fun before => before.trans keptI
      · exact .inr equal.symm
    · exact .inr equal

/-- New stamps keep files apart that were apart before. -/
theorem Advances.distinct {d d' : Disk} (h : d.Advances d') (before : d.Distinct) :
    d'.Distinct := by
  intro i hi j hj same
  have stamps : (d'.file i).stamp = (d'.file j).stamp := congrArg Fingerprint.stamp same
  rcases h.apart i hi j hj stamps with keptI | equal
  · rcases h.apart j hj i hi stamps.symm with keptJ | equal
    · rw [fingerprint, fingerprint, keptI.2, keptJ.2] at same
      exact before i keptI.1 j keptJ.1 same
    · exact equal.symm
  · exact equal

theorem advances_of_files {d d' : Disk} (files : d'.files = d.files) (clock : d'.clock = d.clock) :
    d.Advances d' := by
  have kept : ∀ id < d'.files.length, d.Kept d' id := by
    intro id there
    rw [files] at there
    exact ⟨there, by simp [file, files]⟩
  exact {
    clock := Nat.le_of_eq clock.symm
    length := Nat.le_of_eq (congrArg List.length files.symm)
    stamped := fun id there => .inl (kept id there)
    apart := fun i hi _ _ _ => .inl (kept i hi) }

theorem Extends.advances {d d' : Disk} (h : d.Extends d') : d.Advances d' :=
  advances_of_files h.files h.clock

/-- One file changes and takes the next stamp. -/
theorem Sound.advances_of_one {d d' : Disk} (h : d.Sound) (id : Nat) (clock : d.clock ≤ d'.clock)
    (length : d.files.length ≤ d'.files.length) (stamp : (d'.file id).stamp = d.clock)
    (others : ∀ other < d'.files.length, other ≠ id → d.Kept d' other) : d.Advances d' where
  clock := clock
  length := length
  stamped other there := by
    by_cases changed : other = id
    · exact .inr (Nat.le_of_eq (by rw [changed, stamp]))
    · exact .inl (others other there changed)
  apart i hi j hj same := by
    by_cases changed : i = id
    · rcases Decidable.em (j = id) with equal | other
      · exact .inr (changed.trans equal.symm)
      · have kept := others j hj other
        have past := h.stamp_lt j kept.1
        rw [changed, stamp, kept.2] at same
        omega
    · exact .inl (others i hi changed)

theorem Sound.advances_create {d : Disk} (h : d.Sound) (place : Place) :
    d.Advances (d.create place).2 := by
  refine h.advances_of_one d.files.length (Nat.le_succ _) (by simp [Disk.create])
    (by rw [file_create, if_pos rfl]) fun other there changed => ?_
  simp only [Disk.create, List.length_append, List.length_singleton] at there
  exact ⟨by omega, by rw [file_create, if_neg changed]⟩

theorem Sound.advances_put {d : Disk} (h : d.Sound) (id : Nat) (bytes : List UInt8) :
    d.Advances (d.put id bytes) := by
  by_cases there : id < d.files.length
  · refine h.advances_of_one id (Nat.le_succ _) (by simp) (by simp [file_put, there])
      fun other there' changed => ?_
    rw [length_put] at there'
    exact ⟨there', by simp [file_put, changed]⟩
  · have kept : ∀ other < (d.put id bytes).files.length, d.Kept (d.put id bytes) other := by
      intro other there'
      rw [length_put] at there'
      exact ⟨there', by simp [file_put, there]⟩
    exact {
      clock := Nat.le_succ _
      length := by simp
      stamped := fun other there' => .inl (kept other there')
      apart := fun i hi _ _ _ => .inl (kept i hi) }

theorem evolves_put (d : Disk) (id : Nat) (bytes : List UInt8) (keep : Bool) :
    d.Evolves (d.put id bytes keep) := ⟨Nat.le_succ _, by simp⟩

theorem evolves_restamp (d : Disk) (id stamp : Nat) : d.Evolves (d.restamp id stamp) :=
  ⟨Nat.le_max_left _ _, by simp⟩

/-! Soundness after a change. -/

theorem Sound.put {d : Disk} (h : d.Sound) (id : Nat) (bytes : List UInt8) (keep : Bool) :
    (d.put id bytes keep).Sound where
  root_lt := h.root_lt
  place_lt := h.place_lt
  directory_lt := h.directory_lt
  file_lt place other there := by simpa using h.file_lt place other there
  stamp_lt other there := by
    rw [length_put] at there
    have past := h.stamp_lt other there
    have clock : (d.put id bytes keep).clock = d.clock + 1 := rfl
    rw [file_put, clock]
    by_cases changed : other = id ∧ id < d.files.length
    · obtain ⟨rfl, -⟩ := changed
      cases keep with
      | true =>
        simp [there]
        omega
      | false => simp [there]
    · simp only [changed, if_false]
      omega

theorem Sound.restamp {d : Disk} (h : d.Sound) (id stamp : Nat) : (d.restamp id stamp).Sound where
  root_lt := h.root_lt
  place_lt := h.place_lt
  directory_lt := h.directory_lt
  file_lt place other there := by simpa using h.file_lt place other there
  stamp_lt other there := by
    rw [length_restamp] at there
    have past := h.stamp_lt other there
    have clock : (d.restamp id stamp).clock = max d.clock (stamp + 1) := rfl
    rw [file_restamp, clock]
    by_cases changed : other = id ∧ id < d.files.length
    · rw [if_pos changed]
      exact Nat.le_max_right _ _
    · rw [if_neg changed]
      exact Nat.lt_of_lt_of_le past (Nat.le_max_left _ _)

theorem Sound.unbind {d : Disk} (h : d.Sound) (place : Place) : (d.unbind place).Sound := by
  have before : ∀ other e, (d.unbind place).find? other = some e → d.find? other = some e := by
    intro other e there
    rw [find?_unbind] at there
    by_cases same : other = place
    · rw [if_pos same] at there
      cases there
    · rwa [if_neg same] at there
  exact {
    root_lt := h.root_lt
    place_lt := fun other e there => h.place_lt other e (before other e there)
    directory_lt := fun other id there => h.directory_lt other id (before other _ there)
    file_lt := fun other id there => h.file_lt other id (before other _ there)
    stamp_lt := h.stamp_lt }

/-- An entry that exists takes another place. -/
theorem Sound.bind {d : Disk} (h : d.Sound) {place : Place} {e : Entry}
    (place_lt : place.directory < d.directories)
    (directory_lt : ∀ id, e = .directory id → id < d.directories)
    (file_lt : ∀ id, e = .file id → id < d.files.length) : (d.bind place e).Sound where
  root_lt := h.root_lt
  place_lt other e' there := by
    rw [find?_bind] at there
    by_cases same : other = place
    · rw [same]
      exact place_lt
    · rw [if_neg same] at there
      exact h.place_lt other e' there
  directory_lt other id there := by
    rw [find?_bind] at there
    by_cases same : other = place
    · rw [if_pos same] at there
      exact directory_lt id (Option.some.inj there)
    · rw [if_neg same] at there
      exact h.directory_lt other id there
  file_lt other id there := by
    rw [find?_bind] at there
    by_cases same : other = place
    · rw [if_pos same] at there
      exact file_lt id (Option.some.inj there)
    · rw [if_neg same] at there
      exact h.file_lt other id there
  stamp_lt := h.stamp_lt

end EventLog.Disk
