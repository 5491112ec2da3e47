import EventLog.Disk.Effect

/-! What a path leads to, before and after the disk changed. A walk depends on the directories that
it passes and on the entry at its end, so a change at the end of a path is seen there, and making
directories opens no way to a file unless the path turns back out of one of them. -/
namespace EventLog.Disk

/-! Names after a change. -/

theorem find?_unbind (d : Disk) (place other : Place) :
    (d.unbind place).find? other = if other = place then none else d.find? other := by
  unfold find? unbind
  induction d.entries with
  | nil => simp
  | cons entry rest ih =>
    obtain ⟨key, e⟩ := entry
    by_cases gone : key = place
    · subst gone
      simp only [ne_eq, not_true_eq_false, decide_false, Bool.false_eq_true, not_false_eq_true,
        List.filter_cons_of_neg, ih, List.lookup_cons]
      by_cases same : other = key
      · simp [same]
      · simp [same, beq_false_of_ne same]
    · simp only [ne_eq, gone, not_false_eq_true, decide_true, List.filter_cons_of_pos,
        List.lookup_cons, ih]
      by_cases same : other = key
      · subst same
        simp [gone]
      · simp [beq_false_of_ne same]

theorem find?_bind (d : Disk) (place other : Place) (e : Entry) :
    (d.bind place e).find? other = if other = place then some e else d.find? other := by
  have unbound := find?_unbind d place other
  unfold find? at unbound ⊢
  simp only [bind, List.lookup_cons]
  by_cases same : other = place
  · simp [same]
  · simpa [same, beq_false_of_ne same] using unbound

@[simp] theorem find?_put (d : Disk) (id : Nat) (bytes : List UInt8) (keep : Bool) (place : Place) :
    (d.put id bytes keep).find? place = d.find? place := rfl

theorem find?_createDirectory (d : Disk) (place other : Place) :
    (d.createDirectory place).2.find? other =
      if other = place then some (.directory d.directories) else d.find? other :=
  find?_bind d place other _

theorem find?_of_createDirectory {d d' : Disk} {place : Place} {id : Nat}
    (h : d.createDirectory place = (id, d')) : d'.find? place = some (.directory id) := by
  cases h
  exact (find?_createDirectory d place place).trans (if_pos rfl)

theorem find?_create (d : Disk) (place other : Place) :
    (d.create place).2.find? other =
      if other = place then some (.file d.files.length) else d.find? other :=
  find?_bind d place other _

/-! Walks. -/

/-- Every directory of the first disk is still there on the second. -/
def KeepsDirectories (d d' : Disk) : Prop :=
  ∀ place id, d.find? place = some (.directory id) → d'.find? place = some (.directory id)

theorem walk_into_last (d : Disk) {trail : Trail} {name : String}
    (short : name.utf8ByteSize ≤ Route.longestName) :
    d.walk trail [.into name] = .ok ⟨trail, some name, d.find? ⟨trail.last, name⟩⟩ := by
  simp [walk, Nat.not_lt.2 short]

/-- A walk that ends with a name ends at the entry of that name. -/
theorem found_of_walk {d : Disk} {trail t : Trail} {steps : List Step} {name : String}
    {found : Option Entry} (h : d.walk trail steps = .ok ⟨t, some name, found⟩) :
    found = d.find? ⟨t.last, name⟩ := by
  fun_induction walk d trail steps with
  | case1 trail => cases h
  | case2 trail rest ih => exact ih h
  | case3 trail rest ih => exact ih h
  | case4 => cases h
  | case5 trail name' rest short found' last =>
    simp only [Except.ok.injEq, Spot.mk.injEq, Option.some.injEq] at h
    obtain ⟨rfl, rfl, rfl⟩ := h
    rfl
  | case6 trail name' rest short found' more id inside ih => exact ih h
  | case7 => cases h
  | case8 => cases h

/-- The same walk on a disk that has the same directories. -/
theorem walk_of_keeps {d d' : Disk} (keeps : KeepsDirectories d d') {trail t : Trail}
    {steps : List Step} {name : String} {found : Option Entry}
    (h : d.walk trail steps = .ok ⟨t, some name, found⟩) :
    d'.walk trail steps = .ok ⟨t, some name, d'.find? ⟨t.last, name⟩⟩ := by
  fun_induction walk d trail steps with
  | case1 trail => cases h
  | case2 trail rest ih =>
    rw [walk]
    exact ih h
  | case3 trail rest ih =>
    rw [walk]
    exact ih h
  | case4 => cases h
  | case5 trail name' rest short found' last =>
    simp only [Except.ok.injEq, Spot.mk.injEq, Option.some.injEq] at h
    obtain ⟨rfl, rfl, -⟩ := h
    have nothing : rest = [] := List.isEmpty_iff.1 last
    subst nothing
    exact walk_into_last d' (Nat.not_lt.1 short)
  | case6 trail name' rest short found' more id inside ih =>
    have there : d'.find? ⟨trail.last, name'⟩ = some (.directory id) := keeps _ _ inside
    rw [walk]
    simp only [short, more, there, if_false, Bool.false_eq_true]
    exact ih h
  | case7 => cases h
  | case8 => cases h

theorem found_of_walk_unnamed {d : Disk} {trail t : Trail} {steps : List Step}
    {found : Option Entry} (h : d.walk trail steps = .ok ⟨t, none, found⟩) :
    found = some (.directory t.last) := by
  fun_induction walk d trail steps with
  | case1 trail =>
    cases h
    rfl
  | case2 trail rest ih => exact ih h
  | case3 trail rest ih => exact ih h
  | case4 => cases h
  | case5 => simp at h
  | case6 trail name' rest short found' more id inside ih => exact ih h
  | case7 => cases h
  | case8 => cases h

/-- A walk to a name goes to the directory of that name first. -/
theorem walk_through {d : Disk} {trail t : Trail} {steps : List Step} {name : String}
    {found : Option Entry} (h : d.walk trail steps = .ok ⟨t, some name, found⟩) :
    ∃ way, steps = way ++ [.into name] ∧
      ∀ later, later ≠ [] → d.walk trail (way ++ later) = d.walk t later := by
  fun_induction walk d trail steps with
  | case1 trail => cases h
  | case2 trail rest ih =>
    obtain ⟨way, rfl, through⟩ := ih h
    exact ⟨.here :: way, rfl, fun later more => by simpa [walk] using through later more⟩
  | case3 trail rest ih =>
    obtain ⟨way, rfl, through⟩ := ih h
    exact ⟨.up :: way, rfl, fun later more => by simpa [walk] using through later more⟩
  | case4 => cases h
  | case5 trail name' rest short found' last =>
    simp only [Except.ok.injEq, Spot.mk.injEq, Option.some.injEq] at h
    obtain ⟨rfl, rfl, -⟩ := h
    have nothing : rest = [] := List.isEmpty_iff.1 last
    exact ⟨[], by simp [nothing], fun later _ => rfl⟩
  | case6 trail name' rest short found' more id inside ih =>
    obtain ⟨way, rfl, through⟩ := ih h
    have there : d.find? ⟨trail.last, name'⟩ = some (.directory id) := inside
    refine ⟨.into name' :: way, rfl, fun later some => ?_⟩
    have goesOn : (way ++ later).isEmpty = false := by simp [some]
    rw [List.cons_append, walk]
    simp only [short, goesOn, there, if_false, Bool.false_eq_true]
    exact through later some
  | case7 => cases h
  | case8 => cases h

/-! Paths that end with a name. -/

/-- The path ends with the name of a place, and the directory of that place is there. -/
def Reaches (d : Disk) (path : String) (place : Place) : Prop :=
  ∃ route trail, Route.parse path = .ok route ∧ route.slashed = false ∧
    Trail.last trail = place.directory ∧
    d.walk [] route.steps = .ok ⟨trail, some place.name, d.find? place⟩

theorem Reaches.of_keeps {d d' : Disk} (keeps : KeepsDirectories d d') {path : String}
    {place : Place} (h : d.Reaches path place) : d'.Reaches path place := by
  obtain ⟨route, trail, parsed, named, last, walked⟩ := h
  refine ⟨route, trail, parsed, named, last, ?_⟩
  rw [walk_of_keeps keeps walked, last]

theorem Reaches.unique {d : Disk} {path : String} {place other : Place}
    (h : d.Reaches path place) (h' : d.Reaches path other) : place = other := by
  obtain ⟨route, trail, parsed, -, last, walked⟩ := h
  obtain ⟨route', trail', parsed', -, last', walked'⟩ := h'
  rw [parsed] at parsed'
  cases parsed'
  rw [walked] at walked'
  simp only [Except.ok.injEq, Spot.mk.injEq, Option.some.injEq] at walked'
  obtain ⟨rfl, name, -⟩ := walked'
  have directory : place.directory = other.directory := last.symm.trans last'
  cases place
  cases other
  simp_all

theorem reaches_of_walk {d : Disk} {path : String} {route : Route} {trail : Trail}
    {name : String} {found : Option Entry} (parsed : Route.parse path = .ok route)
    (named : route.slashed = false)
    (walked : d.walk [] route.steps = .ok ⟨trail, some name, found⟩) :
    d.Reaches path ⟨trail.last, name⟩ := by
  have entry := found_of_walk walked
  subst entry
  exact ⟨route, trail, parsed, named, rfl, walked⟩

/-- A file stands at a path exactly when the path ends with the file's name. -/
theorem lookup_eq_file_iff {d : Disk} {path : String} {id : Nat} :
    d.lookup path = .ok (.file id) ↔
      ∃ place, d.Reaches path place ∧ d.find? place = some (.file id) := by
  constructor
  · intro h
    cases parsed : Route.parse path with
    | error fault => simp [lookup, parsed, Bind.bind, Except.bind] at h
    | ok route =>
      cases walked : d.walk [] route.steps with
      | error fault => simp [lookup, parsed, walked, Bind.bind, Except.bind] at h
      | ok spot =>
        obtain ⟨trail, name, found⟩ := spot
        simp only [lookup, parsed, walked, Bind.bind, Except.bind] at h
        split at h
        · cases h
        · rename_i entry slashed e notFile
          simp only [pure, Except.pure, Except.ok.injEq] at h
          subst h
          have named : route.slashed = false := by
            by_cases ends : route.slashed = true
            · exact (notFile id ends rfl).elim
            · simpa using ends
          cases name with
          | none =>
            have directory := found_of_walk_unnamed walked
            cases directory
          | some name =>
            have entry := found_of_walk walked
            exact ⟨_, reaches_of_walk parsed named walked, entry.symm⟩
        · cases h
  · rintro ⟨place, ⟨route, trail, parsed, named, last, walked⟩, entry⟩
    simp [lookup, parsed, walked, entry, named, Bind.bind, Except.bind, pure, Except.pure]

theorem fingerprintAt?_eq_some {d : Disk} {path : String} {seen : Fingerprint}
    (h : d.fingerprintAt? path = some seen) :
    ∃ id, d.lookup path = .ok (.file id) ∧ d.fingerprint id = seen := by
  unfold fingerprintAt? at h
  split at h
  · rename_i id found
    exact ⟨id, found, by simpa using h⟩
  · cases h

theorem bytesAt?_of_lookup {d : Disk} {path : String} {id : Nat}
    (h : d.lookup path = .ok (.file id)) : d.bytesAt? path = some (d.bytes id) := by
  simp [bytesAt?, h]

theorem bytesAt?_eq_none_iff {d : Disk} {path : String} :
    d.bytesAt? path = none ↔ ∀ id, d.lookup path ≠ .ok (.file id) := by
  constructor
  · intro h id found
    rw [bytesAt?_of_lookup found] at h
    cases h
  · intro h
    unfold bytesAt?
    split
    · rename_i id found
      exact absurd found (h id)
    · rfl

end EventLog.Disk
