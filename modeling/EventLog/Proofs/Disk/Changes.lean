import EventLog.Proofs.Disk.Soundness
import Mathlib.Tactic.SplitIfs

/-! Every operation on a disk keeps it sound, and all operations of a log give a stamp never seen before
to what they change. Only an edit from outside can leave a file with a stamp that was seen. -/
namespace EventLog.Disk

/-! Walks on a sound disk. -/

/-- All directories of a trail exist. -/
def Trail.Within (trail : Trail) (d : Disk) : Prop := ∀ id ∈ trail, id < d.directories

theorem Trail.Within.last_lt {trail : Trail} {d : Disk} (h : trail.Within d) (sound : d.Sound) :
    trail.last < d.directories := by
  cases trail with
  | nil => exact sound.root_lt
  | cons id outer => exact h id (by simp)

theorem Trail.Within.tail {trail : Trail} {d : Disk} (h : trail.Within d) :
    Trail.Within trail.tail d := fun id inside => h id (List.mem_of_mem_tail inside)

theorem Trail.Within.cons {trail : Trail} {d : Disk} {id : Nat} (h : trail.Within d)
    (there : id < d.directories) : Trail.Within (id :: trail) d := by
  intro other inside
  rcases List.mem_cons.1 inside with rfl | outer
  · exact there
  · exact h other outer

theorem Trail.within_nil (d : Disk) : Trail.Within [] d := fun _ inside => by cases inside

theorem within_of_walk {d : Disk} (sound : d.Sound) {trail : Trail} {steps : List Step}
    {spot : Spot} (within : trail.Within d) (h : d.walk trail steps = .ok spot) :
    spot.trail.Within d := by
  fun_induction walk d trail steps with
  | case1 trail =>
    cases h
    exact within
  | case2 trail rest ih => exact ih within h
  | case3 trail rest ih => exact ih within.tail h
  | case4 => cases h
  | case5 trail name rest short found last =>
    cases h
    exact within
  | case6 trail name rest short found more id inside ih =>
    exact ih (within.cons (sound.directory_lt _ id inside)) h
  | case7 => cases h
  | case8 => cases h

theorem spot_of_reaches_lt {d : Disk} (sound : d.Sound) {path : String} {place : Place}
    (h : d.Reaches path place) : place.directory < d.directories := by
  obtain ⟨route, trail, -, -, last, walked⟩ := h
  have within := within_of_walk sound (Trail.within_nil d) walked
  rw [← last]
  exact within.last_lt sound

/-! New files and directories. -/

theorem Sound.create {d : Disk} (h : d.Sound) {place : Place}
    (place_lt : place.directory < d.directories) : (d.create place).2.Sound where
  root_lt := h.root_lt
  place_lt other e there := by
    rw [find?_create] at there
    by_cases same : other = place
    · rw [same]
      exact place_lt
    · rw [if_neg same] at there
      exact h.place_lt other e there
  directory_lt other id there := by
    rw [find?_create] at there
    by_cases same : other = place
    · rw [if_pos same] at there
      cases there
    · rw [if_neg same] at there
      exact h.directory_lt other id there
  file_lt other id there := by
    have length : (d.create place).2.files.length = d.files.length + 1 := by simp [Disk.create]
    rw [find?_create] at there
    by_cases same : other = place
    · rw [if_pos same] at there
      cases there
      omega
    · rw [if_neg same] at there
      have before := h.file_lt other id there
      omega
  stamp_lt id there := by
    have length : (d.create place).2.files.length = d.files.length + 1 := by simp [Disk.create]
    have clock : (d.create place).2.clock = d.clock + 1 := rfl
    rw [file_create, clock]
    by_cases new : id = d.files.length
    · simp [new]
    · have before := h.stamp_lt id (by omega)
      simp only [new, if_false]
      omega

theorem Sound.createDirectory {d : Disk} (h : d.Sound) {place : Place}
    (place_lt : place.directory < d.directories) : (d.createDirectory place).2.Sound := by
  have directories : (d.createDirectory place).2.directories = d.directories + 1 := rfl
  exact {
    root_lt := Nat.lt_succ_of_lt h.root_lt
    place_lt := fun other e there => by
      rw [find?_createDirectory] at there
      by_cases same : other = place
      · rw [same]
        exact Nat.lt_succ_of_lt place_lt
      · rw [if_neg same] at there
        exact Nat.lt_succ_of_lt (h.place_lt other e there)
    directory_lt := fun other id there => by
      rw [find?_createDirectory] at there
      by_cases same : other = place
      · rw [if_pos same] at there
        cases there
        omega
      · rw [if_neg same] at there
        exact Nat.lt_succ_of_lt (h.directory_lt other id there)
    file_lt := fun other id there => by
      rw [find?_createDirectory] at there
      by_cases same : other = place
      · rw [if_pos same] at there
        cases there
      · rw [if_neg same] at there
        exact h.file_lt other id there
    stamp_lt := h.stamp_lt }

/-- The next directory on a way that is there. -/
theorem Sound.createDirectory_within {d d' : Disk} (h : d.Sound) {trail : Trail}
    (within : trail.Within d) {name : String} {id : Nat}
    (created : d.createDirectory ⟨trail.last, name⟩ = (id, d')) :
    d'.Sound ∧ Trail.Within (id :: trail) d' := by
  have next : (d.createDirectory ⟨trail.last, name⟩).2.Sound := h.createDirectory (within.last_lt h)
  rw [created] at next
  obtain ⟨new, directories⟩ : id = d.directories ∧ d'.directories = d.directories + 1 := by
    cases created
    exact ⟨rfl, rfl⟩
  have outer : trail.Within d' := by
    intro other inside
    have before := within other inside
    omega
  exact ⟨next, outer.cons (by omega)⟩

theorem Sound.makeAlong {d : Disk} (h : d.Sound) (made : Bool) {trail : Trail}
    (within : trail.Within d) (steps : List Step) : (d.makeAlong made trail steps).2.Sound := by
  fun_induction Disk.makeAlong d made trail steps with
  | case1 d => exact h
  | case2 d made trail rest ih => exact ih h within
  | case3 d made trail rest ih => exact ih h within.tail
  | case4 d => exact h
  | case5 d made trail name rest short id inside ih =>
    exact ih h (within.cons (h.directory_lt _ id inside))
  | case6 d => exact h
  | case7 d => exact h
  | case8 d made trail name rest dots short free goesOn id d₁ created ih =>
    obtain ⟨next, outer⟩ := h.createDirectory_within within created
    exact ih next outer

theorem Sound.makeSome {d : Disk} (h : d.Sound) (count : Nat) {trail : Trail}
    (within : trail.Within d) (steps : List Step) : (d.makeSome count trail steps).Sound := by
  fun_induction Disk.makeSome d count trail steps with
  | case1 | case2 => exact h
  | case3 d count trail rest _ ih => exact ih h within
  | case4 d count trail rest _ ih => exact ih h within.tail
  | case5 d => exact h
  | case6 d count trail name rest short id inside ih =>
    exact ih h (within.cons (h.directory_lt _ id inside))
  | case7 d => exact h
  | case8 d => exact h
  | case9 d count trail name rest dots short free goesOn id d₁ created ih =>
    obtain ⟨next, outer⟩ := h.createDirectory_within within created
    exact ih next outer

theorem Sound.makeDirectories {d : Disk} (h : d.Sound) (path : String) :
    (d.makeDirectories path).2.Sound := by
  unfold Disk.makeDirectories
  split
  · exact h
  · split
    · exact h.makeAlong false (Trail.within_nil d) _
    · exact h

theorem Sound.makeParents {d : Disk} (h : d.Sound) (path : String) :
    (d.makeParents path).2.Sound := h.makeDirectories _

theorem Sound.makeSomeParents {d : Disk} (h : d.Sound) (path : String) (count : Nat) :
    (d.makeSomeParents path count).Sound := by
  unfold Disk.makeSomeParents
  dsimp only
  split
  · exact h
  · split
    · exact h.makeSome count (Trail.within_nil d) _
    · exact h

/-! Opening and removing. -/

theorem Sound.advances_openForAppending {d : Disk} (h : d.Sound) (path : String) :
    d.Advances (d.openForAppending path).2 := by
  cases opened : d.openForAppending path with
  | mk result d' =>
    cases result with
    | error fault =>
      have same := openForAppending_error opened
      rw [same]
      exact .refl d
    | ok id =>
      obtain ⟨place, -, ⟨-, rfl⟩ | ⟨-, -, rfl⟩⟩ := reaches_of_openForAppending opened
      · exact .refl _
      · exact h.advances_create place

theorem Sound.openForAppending {d : Disk} (h : d.Sound) (path : String) :
    (d.openForAppending path).2.Sound := by
  cases opened : d.openForAppending path with
  | mk result d' =>
    cases result with
    | error fault =>
      have same := openForAppending_error opened
      rw [same]
      exact h
    | ok id =>
      obtain ⟨place, reaches, ⟨-, rfl⟩ | ⟨-, -, rfl⟩⟩ := reaches_of_openForAppending opened
      · exact h
      · exact h.create (spot_of_reaches_lt h reaches)

theorem advances_unbind (d : Disk) (place : Place) : d.Advances (d.unbind place) :=
  advances_of_files rfl rfl

theorem advances_removeFile (d : Disk) (path : String) : d.Advances (d.removeFile path).2 := by
  rcases removeFile_cases d path with ⟨fault, kept⟩ | ⟨place, id, -, removed⟩
  · rw [kept]
    exact .refl d
  · rw [removed]
    exact advances_unbind d place

theorem Sound.removeFile {d : Disk} (h : d.Sound) (path : String) :
    (d.removeFile path).2.Sound := by
  rcases removeFile_cases d path with ⟨fault, kept⟩ | ⟨place, id, -, removed⟩
  · rw [kept]
    exact h
  · rw [removed]
    exact h.unbind place

theorem lookup_file_lt {d : Disk} (h : d.Sound) {path : String} {id : Nat}
    (found : d.lookup path = .ok (.file id)) : id < d.files.length := by
  obtain ⟨place, -, entry⟩ := lookup_eq_file_iff.1 found
  exact h.file_lt place id entry

/-! Edits from outside. -/

theorem Sound.evolves_overwrite {d : Disk} (h : d.Sound) (path : String) (keep : Bool)
    (change : List UInt8 → List UInt8) : d.Evolves (d.overwrite path keep change).2 := by
  have opened := (h.advances_openForAppending path).toEvolves
  unfold overwrite
  split
  · rename_i id d₁ result
    rw [result] at opened
    exact opened.trans (evolves_put d₁ id _ _)
  · rename_i fault d₁ result
    rw [result] at opened
    exact opened

theorem Sound.overwrite {d : Disk} (h : d.Sound) (path : String) (keep : Bool)
    (change : List UInt8 → List UInt8) : (d.overwrite path keep change).2.Sound := by
  have opened := h.openForAppending path
  unfold Disk.overwrite
  split
  · rename_i id d₁ result
    rw [result] at opened
    exact opened.put id _ _
  · rename_i fault d₁ result
    rw [result] at opened
    exact opened

theorem evolves_revise (d : Disk) (path : String) (keep : Bool)
    (change : List UInt8 → Option (List UInt8)) : d.Evolves (d.revise path keep change).2 := by
  unfold revise
  split
  · split
    · exact evolves_put d _ _ _
    · exact .refl d
  · exact .refl d

theorem Sound.revise {d : Disk} (h : d.Sound) (path : String) (keep : Bool)
    (change : List UInt8 → Option (List UInt8)) : (d.revise path keep change).2.Sound := by
  unfold Disk.revise
  split
  · split
    · exact h.put _ _ _
    · exact h
  · exact h

theorem within_of_spot {d : Disk} (sound : d.Sound) {path : String} {spot : Spot}
    (h : d.spot path = .ok spot) : spot.trail.Within d := by
  unfold Disk.spot at h
  cases parsed : Route.parse path with
  | error fault => simp [parsed, Bind.bind, Except.bind] at h
  | ok route =>
    simp only [parsed, Bind.bind, Except.bind] at h
    exact within_of_walk sound (Trail.within_nil d) h

theorem found_of_spot {d : Disk} {path name : String} {trail : Trail} {found : Option Entry}
    (h : d.spot path = .ok ⟨trail, some name, found⟩) : found = d.find? ⟨trail.last, name⟩ := by
  unfold Disk.spot at h
  cases parsed : Route.parse path with
  | error fault => simp [parsed, Bind.bind, Except.bind] at h
  | ok route =>
    simp only [parsed, Bind.bind, Except.bind] at h
    exact found_of_walk h

theorem rename_cases (d : Disk) (path destination : String) :
    (∃ done, d.rename path destination = (done, d)) ∨
      ∃ trail old moved goal new found, d.spot path = .ok ⟨trail, some old, some moved⟩ ∧
        d.spot destination = .ok ⟨goal, some new, found⟩ ∧ d.rename path destination =
          (true, (d.unbind ⟨trail.last, old⟩).bind ⟨goal.last, new⟩ moved) := by
  unfold rename
  split
  · rename_i trail old moved goal new found there target
    dsimp only
    split_ifs
    · exact .inl ⟨_, rfl⟩
    · exact .inl ⟨_, rfl⟩
    · exact .inr ⟨trail, old, moved, goal, new, found, there, target, rfl⟩
  · exact .inl ⟨_, rfl⟩

theorem advances_rename (d : Disk) (path destination : String) :
    d.Advances (d.rename path destination).2 := by
  rcases rename_cases d path destination with ⟨done, kept⟩ | ⟨_, _, _, _, _, _, _, _, moved⟩
  · rw [kept]
    exact .refl d
  · rw [moved]
    exact advances_of_files rfl rfl

theorem Sound.rename {d : Disk} (h : d.Sound) (path destination : String) :
    (d.rename path destination).2.Sound := by
  rcases rename_cases d path destination with
    ⟨done, kept⟩ | ⟨trail, old, moved, goal, new, found, there, target, done⟩
  · rw [kept]
    exact h
  · rw [done]
    have entry := found_of_spot there
    refine (h.unbind ⟨trail.last, old⟩).bind ((within_of_spot h target).last_lt h) ?_ ?_
    · rintro id rfl
      exact h.directory_lt _ id entry.symm
    · rintro id rfl
      exact h.file_lt _ id entry.symm

theorem evolves_restampAt (d : Disk) (path : String) (stamp : Nat) :
    d.Evolves (d.restampAt path stamp).2 := by
  unfold restampAt
  split
  · exact evolves_restamp d _ stamp
  · exact .refl d

theorem Sound.restampAt {d : Disk} (h : d.Sound) (path : String) (stamp : Nat) :
    (d.restampAt path stamp).2.Sound := by
  unfold Disk.restampAt
  split
  · exact h.restamp _ stamp
  · exact h

theorem Sound.evolves_edit {d : Disk} (h : d.Sound) (e : Edit) : d.Evolves (d.edit e).2 := by
  cases e with
  | write path bytes keep =>
    have grown := (extends_makeParents d path).advances.toEvolves
    have sound := h.makeParents path
    simp only [edit]
    split
    · rename_i d₁ made
      rw [made] at grown sound
      exact grown.trans (sound.evolves_overwrite path keep _)
    · rename_i fault d₁ made
      rw [made] at grown
      exact grown
  | append path bytes keep => exact h.evolves_overwrite path keep _
  | truncate path length keep => exact evolves_revise d path keep _
  | poke path offset patch keep => exact evolves_revise d path keep _
  | touch path keep =>
    change d.Evolves (d.touch path keep).2
    unfold touch
    split
    · exact .refl d
    · exact evolves_revise d path keep _
  | delete path => exact (advances_removeFile d path).toEvolves
  | makeDirectory path => exact (extends_makeDirectories d path).advances.toEvolves
  | removeDirectory path =>
    change d.Evolves (d.removeDirectory path).2
    unfold removeDirectory
    split
    · split
      · exact (advances_unbind d _).toEvolves
      · exact .refl d
    · exact .refl d
  | rename path destination => exact (advances_rename d path destination).toEvolves
  | restamp path stamp => exact evolves_restampAt d path stamp

/-- Whether an edit may leave a file that it changes with a stamp that was seen before. -/
def Edit.keeps : Edit → Bool
  | .write _ _ keep => keep
  | .append _ _ keep => keep
  | .truncate _ _ keep => keep
  | .poke _ _ _ keep => keep
  | .touch _ keep => keep
  | .restamp .. => true
  | _ => false

theorem Sound.advances_overwrite {d : Disk} (h : d.Sound) (path : String)
    (change : List UInt8 → List UInt8) : d.Advances (d.overwrite path false change).2 := by
  have opened := h.advances_openForAppending path
  have sound := h.openForAppending path
  unfold Disk.overwrite
  split
  · rename_i id d₁ result
    rw [result] at opened sound
    exact opened.trans (sound.advances_put id _)
  · rename_i fault d₁ result
    rw [result] at opened
    exact opened

theorem Sound.advances_revise {d : Disk} (h : d.Sound) (path : String)
    (change : List UInt8 → Option (List UInt8)) : d.Advances (d.revise path false change).2 := by
  unfold Disk.revise
  split
  · split
    · exact h.advances_put _ _
    · exact .refl d
  · exact .refl d

/-- An edit that keeps no stamp gives every file that it changes a new one. -/
theorem Sound.advances_edit {d : Disk} (h : d.Sound) {e : Edit} (fresh : e.keeps = false) :
    d.Advances (d.edit e).2 := by
  cases e with
  | write path bytes keep =>
    have grown := (extends_makeParents d path).advances
    have sound := h.makeParents path
    cases fresh
    simp only [Disk.edit]
    split
    · rename_i d₁ made
      rw [made] at grown sound
      exact grown.trans (sound.advances_overwrite path _)
    · rename_i fault d₁ made
      rw [made] at grown
      exact grown
  | append path bytes keep =>
    cases fresh
    exact h.advances_overwrite path _
  | truncate path length keep =>
    cases fresh
    exact h.advances_revise path _
  | poke path offset patch keep =>
    cases fresh
    exact h.advances_revise path _
  | touch path keep =>
    cases fresh
    change d.Advances (d.touch path false).2
    unfold touch
    split
    · exact .refl d
    · exact h.advances_revise path _
  | delete path => exact advances_removeFile d path
  | makeDirectory path => exact (extends_makeDirectories d path).advances
  | removeDirectory path =>
    change d.Advances (d.removeDirectory path).2
    unfold removeDirectory
    split
    · split
      · exact advances_unbind d _
      · exact .refl d
    · exact .refl d
  | rename path destination => exact advances_rename d path destination
  | restamp path stamp => cases fresh

theorem Sound.edit {d : Disk} (h : d.Sound) (e : Edit) : (d.edit e).2.Sound := by
  cases e with
  | write path bytes keep =>
    have grown := h.makeParents path
    simp only [Disk.edit]
    split
    · rename_i d₁ made
      rw [made] at grown
      exact grown.overwrite path keep _
    · rename_i fault d₁ made
      rw [made] at grown
      exact grown
  | append path bytes keep => exact h.overwrite path keep _
  | truncate path length keep => exact h.revise path keep _
  | poke path offset patch keep => exact h.revise path keep _
  | touch path keep =>
    change (d.touch path keep).2.Sound
    unfold touch
    split
    · exact h
    · exact h.revise path keep _
  | delete path => exact h.removeFile path
  | makeDirectory path => exact h.makeDirectories path
  | removeDirectory path =>
    change (d.removeDirectory path).2.Sound
    unfold removeDirectory
    split
    · split
      · exact h.unbind _
      · exact h
    · exact h
  | rename path destination => exact h.rename path destination
  | restamp path stamp => exact h.restampAt path stamp

/-! Paths that do not turn back. -/

/-- New directories lead to no file: what is in them is new as well. -/
theorem no_file_inside_new {d d' : Disk} (sound : d.Sound) (grown : d.Extends d') {trail t : Trail}
    {steps : List Step} {name : String} {id : Nat} (new : d.directories ≤ trail.last)
    (straight : Step.up ∉ steps) :
    d'.walk trail steps ≠ .ok ⟨t, some name, some (.file id)⟩ := by
  have entries : ∀ directory name e, d.directories ≤ directory →
      d'.find? ⟨directory, name⟩ = some e → ∃ id, e = .directory id ∧ d.directories ≤ id := by
    intro directory name e beyond there
    rcases grown.fresh _ e there with before | made
    · have old := sound.place_lt _ e before
      exact absurd old (Nat.not_lt.2 beyond)
    · exact made
  intro h
  fun_induction walk d' trail steps with
  | case1 trail => cases h
  | case2 trail rest ih => exact ih new (fun up => straight (by simp [up])) h
  | case3 trail rest ih => exact straight (by simp)
  | case4 => cases h
  | case5 trail name' rest short found last =>
    simp only [Except.ok.injEq, Spot.mk.injEq] at h
    obtain ⟨-, -, entry⟩ := h
    obtain ⟨other, directory, -⟩ := entries trail.last name' _ new entry
    cases directory
  | case6 trail name' rest short found more id' inside ih =>
    obtain ⟨other, directory, beyond⟩ := entries trail.last name' _ new inside
    cases directory
    exact ih beyond (fun up => straight (by simp [up])) h
  | case7 => cases h
  | case8 => cases h

/-- Making directories reveals no file at the end of a walk that does not turn back. -/
theorem walk_of_extends {d d' : Disk} (sound : d.Sound) (grown : d.Extends d') {trail t : Trail}
    {steps : List Step} {name : String} {id : Nat} (straight : Step.up ∉ steps)
    (h : d'.walk trail steps = .ok ⟨t, some name, some (.file id)⟩) :
    d.walk trail steps = .ok ⟨t, some name, some (.file id)⟩ := by
  fun_induction walk d' trail steps with
  | case1 trail => cases h
  | case2 trail rest ih =>
    rw [walk]
    exact ih (fun up => straight (by simp [up])) h
  | case3 trail rest ih => exact absurd (by simp) straight
  | case4 => cases h
  | case5 trail name' rest short found last =>
    simp only [Except.ok.injEq, Spot.mk.injEq, Option.some.injEq] at h
    obtain ⟨rfl, rfl, entry⟩ := h
    have nothing : rest = [] := List.isEmpty_iff.1 last
    subst nothing
    rw [walk_into_last d (Nat.not_lt.1 short)]
    rcases grown.fresh _ _ entry with before | ⟨other, directory, -⟩
    · rw [before]
    · cases directory
  | case6 trail name' rest short found more id' inside ih =>
    have later : Step.up ∉ rest := fun up => straight (by simp [up])
    rcases grown.fresh _ _ inside with before | ⟨other, directory, beyond⟩
    · rw [walk]
      simp only [short, more, before, if_false, Bool.false_eq_true]
      exact ih later h
    · cases directory
      exact absurd h (no_file_inside_new sound grown beyond later)
  | case7 => cases h
  | case8 => cases h

theorem bytesAt?_of_extends {d d' : Disk} (sound : d.Sound) (grown : d.Extends d') {path : String}
    (straight : Step.up ∉ (Route.read path).steps) : d'.bytesAt? path = d.bytesAt? path := by
  have forward : ∀ id, d.lookup path = .ok (.file id) → d'.lookup path = .ok (.file id) := by
    intro id found
    obtain ⟨place, reaches, entry⟩ := lookup_eq_file_iff.1 found
    exact lookup_eq_file_iff.2
      ⟨place, reaches.of_keeps grown.keepsDirectories, grown.keeps place _ entry⟩
  have backward : ∀ id, d'.lookup path = .ok (.file id) → d.lookup path = .ok (.file id) := by
    intro id found
    obtain ⟨place, ⟨route, trail, parsed, unslashed, last, walked⟩, entry⟩ :=
      lookup_eq_file_iff.1 found
    obtain ⟨rfl, -⟩ := Route.parse_eq_read parsed
    rw [entry] at walked
    have before := walk_of_extends sound grown straight walked
    have entry' := found_of_walk before
    exact lookup_eq_file_iff.2 ⟨_, reaches_of_walk parsed unslashed before, entry'.symm⟩
  by_cases there : ∃ id, d.lookup path = .ok (.file id)
  · obtain ⟨id, found⟩ := there
    rw [bytesAt?_of_lookup found, bytesAt?_of_lookup (forward id found), bytes, bytes, file, file,
      grown.files]
  · have gone := bytesAt?_eq_none_iff.2 fun id found => there ⟨id, found⟩
    rw [gone]
    exact bytesAt?_eq_none_iff.2 fun id found => there ⟨id, backward id found⟩

end EventLog.Disk
