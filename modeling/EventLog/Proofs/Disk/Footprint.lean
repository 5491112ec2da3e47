import EventLog.Proofs.Connection.Opening
import EventLog.Proofs.Frame.Cutting

/-! The footprint of a log on a disk. All that a log does to a disk is made of five changes at its
path. Main statements: each of them leaves every other file as it is and every other name in place,
and a file that is a row of frames loses none of them but from one on that is too long for a cut. -/
namespace EventLog.Disk

open EventLog.Frame (Payload Fits IsIntact join)

inductive Change
  | parents
  | create
  | cut
  | append (payload : Payload)
  | remove
  deriving DecidableEq, Repr

/-- A change of a disk at a path. A file is cut to its longest row of records, and a record is added
behind all that the file holds. -/
inductive Change.Leads (s : Settings) (path : String) : Change → Disk → Disk → Prop
  | parents {d : Disk} (asked : s.createParents = true) :
      Leads s path .parents d (d.makeParents path).2
  | create {d : Disk} {place : Place} (reaches : d.Reaches path place)
      (free : d.find? place = none) : Leads s path .create d (d.create place).2
  | cut {d : Disk} {id : Nat} {part : List UInt8} (found : d.lookup path = .ok (.file id))
      (longest : IsIntact s.maxRecordSize.toNat (d.bytes id) part) :
      Leads s path .cut d (d.cut id part.length)
  | append {d : Disk} {id : Nat} {payload : Payload} (found : d.lookup path = .ok (.file id))
      (fits : Fits s.maxRecordSize.toNat payload) :
      Leads s path (.append payload) d (d.append id (Frame.encode payload))
  | remove {d : Disk} {place : Place} {id : Nat} (reaches : d.Reaches path place)
      (there : d.find? place = some (.file id)) : Leads s path .remove d (d.unbind place)

/-- Changes at a path, one after the other. -/
inductive Changes (s : Settings) (path : String) : List Change → Disk → Disk → Prop
  | nil (d : Disk) : Changes s path [] d d
  | cons {c : Change} {later : List Change} {d d₁ d₂ : Disk} (first : c.Leads s path d d₁)
      (rest : Changes s path later d₁ d₂) : Changes s path (c :: later) d d₂

variable {s : Settings} {path : String} {c : Change} {cs later : List Change} {d d' d'' : Disk}

theorem Changes.append (h : Changes s path cs d d') (h' : Changes s path later d' d'') :
    Changes s path (cs ++ later) d d'' := by
  induction h with
  | nil d => exact h'
  | cons first rest ih => exact .cons first (ih h')

/-- The second disk comes from the first by some of these changes, in this order. -/
def Confined (s : Settings) (path : String) (all : List Change) (d d' : Disk) : Prop :=
  ∃ cs, cs.Sublist all ∧ Changes s path cs d d'

variable {all more : List Change}

theorem confined_of_eq (same : d' = d) : Confined s path all d d' := by
  rw [same]
  exact ⟨[], List.nil_sublist all, .nil d⟩

theorem Change.Leads.confined (h : c.Leads s path d d') : Confined s path [c] d d' :=
  ⟨[c], .refl _, .cons h (.nil d')⟩

theorem Confined.append (h : Confined s path all d d') (h' : Confined s path more d' d'') :
    Confined s path (all ++ more) d d'' := by
  obtain ⟨cs, some, first⟩ := h
  obtain ⟨later, others, second⟩ := h'
  exact ⟨cs ++ later, some.append others, first.append second⟩

theorem Confined.eq_of_nil (h : Confined s path [] d d') : d' = d := by
  obtain ⟨cs, some, changes⟩ := h
  cases List.sublist_nil.1 some
  cases changes
  rfl

/-! Directories that are made. -/

/-- The place is passed on the way to the directory that holds the end of a path. -/
def OnTheWay (d : Disk) (path : String) (place : Place) : Prop :=
  ∃ front name trail, front ++ [.into name] <+: (Route.read (Route.parent path)).steps ∧
    d.walk [] (front ++ [.into name]) = .ok ⟨trail, some name, d.find? place⟩ ∧
      place = ⟨trail.last, name⟩

theorem OnTheWay.of_keeps {place : Place} (h : d.OnTheWay path place)
    (keeps : KeepsDirectories d d') : d'.OnTheWay path place := by
  obtain ⟨front, name, trail, steps, walked, rfl⟩ := h
  exact ⟨front, name, trail, steps, walk_of_keeps keeps walked, rfl⟩

/-- A walk along steps that lead on from a directory. -/
theorem walk_into {trail : Trail} {name : String} {id : Nat} {steps : List Step}
    (short : ¬ Route.longestName < name.utf8ByteSize)
    (inside : d.find? ⟨trail.last, name⟩ = some (.directory id)) (more : steps ≠ []) :
    d.walk trail (.into name :: steps) = d.walk (id :: trail) steps := by
  rw [walk]
  simp [short, inside, more]

/-- Each directory that is made along a walk is passed by it. -/
theorem passed_of_makeAlong {made : Bool} {trail : Trail} {steps : List Step} {place : Place}
    {e : Entry} (there : (d.makeAlong made trail steps).2.find? place = some e) :
    d.find? place = some e ∨ ∃ front name t, front ++ [.into name] <+: steps ∧
      (d.makeAlong made trail steps).2.walk trail (front ++ [.into name]) =
        .ok ⟨t, some name, some e⟩ ∧ place = ⟨t.last, name⟩ := by
  fun_induction makeAlong d made trail steps with
  | case1 d => exact .inl there
  | case2 d made trail rest ih =>
    refine (ih there).imp_right ?_
    rintro ⟨front, name, t, steps, walked, at_end⟩
    exact ⟨.here :: front, name, t, List.cons_prefix_cons.2 ⟨rfl, steps⟩, walked, at_end⟩
  | case3 d made trail rest ih =>
    refine (ih there).imp_right ?_
    rintro ⟨front, name, t, steps, walked, at_end⟩
    exact ⟨.up :: front, name, t, List.cons_prefix_cons.2 ⟨rfl, steps⟩, walked, at_end⟩
  | case4 d => exact .inl there
  | case5 d made trail name rest short id inside ih =>
    have kept := (extends_makeAlong d made (id :: trail) rest).keeps _ _ inside
    refine (ih there).imp_right ?_
    rintro ⟨front, last, t, steps, walked, at_end⟩
    refine ⟨.into name :: front, last, t, List.cons_prefix_cons.2 ⟨rfl, steps⟩, ?_, at_end⟩
    rw [List.cons_append, walk_into short kept (by simp)]
    exact walked
  | case6 d => exact .inl there
  | case7 d => exact .inl there
  | case8 d made trail name rest dots short free goesOn id d₁ created ih =>
    have new := find?_of_createDirectory created
    have kept := (extends_makeAlong d₁ true (id :: trail) rest).keeps _ _ new
    rcases ih there with before | ⟨front, last, t, steps, walked, at_end⟩
    · by_cases same : place = ⟨trail.last, name⟩
      · subst same
        rw [kept] at there
        cases there
        refine .inr ⟨[], name, trail, by simp, ?_, rfl⟩
        rw [List.nil_append, walk_into_last _ (Nat.not_lt.1 short), kept]
      · have old := find?_createDirectory d ⟨trail.last, name⟩ place
        rw [created, if_neg same] at old
        exact .inl (old.symm.trans before)
    · refine .inr ⟨.into name :: front, last, t, List.cons_prefix_cons.2 ⟨rfl, steps⟩, ?_, at_end⟩
      rw [List.cons_append, walk_into short kept (by simp)]
      exact walked

/-- What is made above a path is on the way to it. -/
theorem onTheWay_of_makeParents {place : Place} {e : Entry}
    (there : (d.makeParents path).2.find? place = some e) :
    d.find? place = some e ∨ (d.makeParents path).2.OnTheWay path place := by
  unfold makeParents makeDirectories at there ⊢
  split at there
  · exact .inl there
  · rename_i nonempty
    cases parsed : Route.parse (Route.parent path) with
    | error fault =>
      rw [parsed] at there
      exact .inl there
    | ok route =>
      rw [parsed] at there
      rw [if_neg nonempty]
      obtain ⟨rfl, -⟩ := Route.parse_eq_read parsed
      refine (passed_of_makeAlong there).imp_right ?_
      rintro ⟨front, name, trail, steps, walked, at_end⟩
      exact ⟨front, name, trail, steps, walked.trans (by rw [there]), at_end⟩

/-! Names. -/

/-- Directories stay where they are. -/
theorem Change.Leads.keepsDirectories (h : c.Leads s path d d') : KeepsDirectories d d' := by
  cases h with
  | parents asked => exact (extends_makeParents d path).keepsDirectories
  | create reaches free => exact keepsDirectories_create (by simp [free])
  | cut found longest => exact fun place id inside => inside
  | append found fits => exact fun place id inside => inside
  | remove reaches there => exact keepsDirectories_unbind (by simp [there])

/-- No name is taken away but the one that the path ends with. -/
theorem Change.Leads.keeps (h : c.Leads s path d d') {place : Place} {e : Entry}
    (there : d.find? place = some e) :
    d'.find? place = some e ∨ c = .remove ∧ d.Reaches path place := by
  cases h with
  | parents asked => exact .inl ((extends_makeParents d path).keeps place e there)
  | @create _ free_place reaches free =>
    have other : place ≠ free_place := by
      rintro rfl
      rw [free] at there
      cases there
    exact .inl (by rw [find?_create, if_neg other, there])
  | cut found longest => exact .inl there
  | append found fits => exact .inl there
  | @remove _ removed id reaches file =>
    by_cases same : place = removed
    · exact .inr ⟨rfl, same ▸ reaches⟩
    · exact .inl (by rw [find?_unbind, if_neg same, there])

/-- New names are those of directories on the way to the path, and the one that the path ends with. -/
theorem Change.Leads.fresh (h : c.Leads s path d d') {place : Place} {e : Entry}
    (there : d'.find? place = some e) : d.find? place = some e ∨
      ((∃ id, e = .directory id) ∧ s.createParents = true ∧ d'.OnTheWay path place) ∨
        d'.Reaches path place := by
  cases h with
  | parents asked =>
    rcases (extends_makeParents d path).fresh place e there with before | ⟨id, rfl, -⟩
    · exact .inl before
    · exact (onTheWay_of_makeParents there).imp_right fun way => .inl ⟨⟨id, rfl⟩, asked, way⟩
  | @create _ made reaches free =>
    by_cases same : place = made
    · rw [same]
      exact .inr (.inr (reaches.of_keeps (keepsDirectories_create (by simp [free]))))
    · rw [find?_create, if_neg same] at there
      exact .inl there
  | cut found longest => exact .inl there
  | append found fits => exact .inl there
  | @remove _ removed id reaches file =>
    rw [find?_unbind] at there
    split at there
    · cases there
    · exact .inl there

/-- A file stays at the path until it is removed. -/
theorem Change.Leads.lookup (h : c.Leads s path d d') (kept : c ≠ .remove) {id : Nat}
    (found : d.lookup path = .ok (.file id)) : d'.lookup path = .ok (.file id) := by
  obtain ⟨place, reaches, there⟩ := lookup_eq_file_iff.1 found
  rcases h.keeps there with stays | ⟨removed, -⟩
  · exact lookup_eq_file_iff.2 ⟨place, reaches.of_keeps h.keepsDirectories, stays⟩
  · exact absurd removed kept

theorem Changes.lookup (h : Changes s path cs d d') (kept : .remove ∉ cs) {id : Nat}
    (found : d.lookup path = .ok (.file id)) : d'.lookup path = .ok (.file id) := by
  induction h with
  | nil d => exact found
  | cons first rest ih =>
    exact ih (fun later => kept (by simp [later])) (first.lookup (by rintro rfl; simp at kept) found)

theorem Changes.keepsDirectories (h : Changes s path cs d d') : KeepsDirectories d d' := by
  induction h with
  | nil d => exact fun _ _ inside => inside
  | cons first rest ih => exact fun place id inside => ih place id (first.keepsDirectories place id inside)

theorem Changes.keeps (h : Changes s path cs d d') {place : Place} {e : Entry}
    (there : d.find? place = some e) :
    d'.find? place = some e ∨ .remove ∈ cs ∧ d'.Reaches path place := by
  induction h with
  | nil d => exact .inl there
  | cons first rest ih =>
    rcases first.keeps there with stays | ⟨rfl, reaches⟩
    · exact (ih stays).imp_right fun ⟨removed, reaches⟩ => ⟨by simp [removed], reaches⟩
    · have there := reaches.of_keeps first.keepsDirectories
      exact .inr ⟨by simp, there.of_keeps rest.keepsDirectories⟩

theorem Changes.fresh (h : Changes s path cs d d') {place : Place} {e : Entry}
    (there : d'.find? place = some e) : d.find? place = some e ∨
      ((∃ id, e = .directory id) ∧ s.createParents = true ∧ d'.OnTheWay path place) ∨
        d'.Reaches path place := by
  induction h with
  | nil d => exact .inl there
  | cons first rest ih =>
    have later := rest.keepsDirectories
    rcases ih there with before | new
    · rcases first.fresh before with old | ⟨directory, asked, way⟩ | reaches
      · exact .inl old
      · exact .inr (.inl ⟨directory, asked, way.of_keeps later⟩)
      · exact .inr (.inr (reaches.of_keeps later))
    · exact .inr new

/-! Files. -/

theorem cut_eq_put {maximum : Nat} {id : Nat} {part : List UInt8}
    (longest : IsIntact maximum (d.bytes id) part) : d.cut id part.length = d.put id part := by
  rw [cut, ← List.prefix_iff_eq_take.1 longest.starts]

theorem file_put_of_not {id other : Nat} (different : ¬ (other = id ∧ id < d.files.length))
    (bytes : List UInt8) : (d.put id bytes).file other = d.file other := by
  rw [file_put, if_neg different]

/-- A file that is changed is the one at the path. -/
theorem Change.Leads.file (h : c.Leads s path d d') {id : Nat} (old : id < d.files.length) :
    d'.file id = d.file id ∨ d.lookup path = .ok (.file id) ∧ c ≠ .remove := by
  cases h with
  | parents asked =>
    have files := (extends_makeParents d path).files
    exact .inl (by rw [Disk.file, Disk.file, files])
  | @create _ made reaches free =>
    exact .inl (by rw [file_create, if_neg (Nat.ne_of_lt old)])
  | @cut _ cutId part found longest =>
    by_cases same : id = cutId
    · exact .inr ⟨same ▸ found, by simp⟩
    · exact .inl (file_put_of_not (fun both => same both.1) _)
  | @append _ grown payload found fits =>
    by_cases same : id = grown
    · exact .inr ⟨same ▸ found, by simp⟩
    · exact .inl (file_put_of_not (fun both => same both.1) _)
  | remove reaches there => exact .inl rfl

theorem Change.Leads.length (h : c.Leads s path d d') : d.files.length ≤ d'.files.length := by
  cases h with
  | parents asked => exact (extends_makeParents d path).advances.length
  | @create _ made reaches free => simp [Disk.create]
  | @cut _ id part found longest => exact (evolves_put d id _ false).length
  | @append _ id payload found fits => exact (evolves_put d id _ false).length
  | remove reaches there => exact Nat.le_refl _

/-- Where nothing is removed, every file that changed is the one at the path. -/
theorem Changes.file (h : Changes s path cs d d') (kept : .remove ∉ cs) {id : Nat}
    (old : id < d.files.length) :
    d'.file id = d.file id ∨ d'.lookup path = .ok (.file id) := by
  induction h with
  | nil d => exact .inl rfl
  | cons first rest ih =>
    have others : Change.remove ∉ _ := fun inside => kept (List.mem_cons_of_mem _ inside)
    rcases first.file old with same | ⟨found, stays⟩
    · rw [← same]
      exact ih others (Nat.lt_of_lt_of_le old first.length)
    · exact .inr (rest.lookup others (first.lookup stays found))

/-! Rows of frames. -/

/-- The file is a row of frames, in front of it the stored ones up to the first that is not allowed. -/
def Retains (d : Disk) (id : Nat) (stored : List Payload) (allowed : Payload → Prop) : Prop :=
  ∃ kept, (∀ p ∈ kept, Fits Frame.capacity p) ∧ d.bytes id = join kept ∧
    ∀ front, front <+: stored → (∀ p ∈ front, allowed p) → front <+: kept

variable {id : Nat} {stored : List Payload} {allowed others : Payload → Prop}

theorem retains_of_bytes (whole : ∀ p ∈ stored, Fits Frame.capacity p) (row : d.bytes id = join stored)
    (allowed : Payload → Prop) : d.Retains id stored allowed :=
  ⟨stored, whole, row, fun _ start _ => start⟩

theorem Retains.mono (h : d.Retains id stored allowed) (fewer : ∀ p ∈ stored, others p → allowed p) :
    d.Retains id stored others := by
  obtain ⟨kept, whole, row, keeps⟩ := h
  exact ⟨kept, whole, row, fun front start short =>
    keeps front start fun p inside => fewer p (start.subset inside) (short p inside)⟩

/-- What is retained at first and what is retained of that. -/
theorem Retains.trans (h : d.Retains id stored allowed)
    (later : ∀ kept, (∀ p ∈ kept, Fits Frame.capacity p) → d.bytes id = join kept →
      d'.Retains id kept others) : d'.Retains id stored fun p => allowed p ∧ others p := by
  obtain ⟨between, whole, row, keeps⟩ := h
  obtain ⟨kept, whole, row, keeps'⟩ := later between whole row
  refine ⟨kept, whole, row, fun front start short => ?_⟩
  exact keeps' front (keeps front start fun p inside => (short p inside).1)
    fun p inside => (short p inside).2

/-- Only a cut takes frames away, and only such as are too long. -/
theorem Change.Leads.retains (h : c.Leads s path d d')
    (whole : ∀ p ∈ stored, Fits Frame.capacity p) (row : d.bytes id = join stored) :
    d'.Retains id stored fun p => c = .cut → p.length ≤ s.maxRecordSize.toNat := by
  have unchanged (same : d'.bytes id = d.bytes id) := retains_of_bytes whole (same.trans row)
    fun p => c = .cut → p.length ≤ s.maxRecordSize.toNat
  cases h with
  | parents asked =>
    have files := (extends_makeParents d path).files
    exact unchanged (by rw [bytes, bytes, Disk.file, Disk.file, files])
  | @create _ made reaches free =>
    refine unchanged ?_
    rw [bytes, file_create]
    split
    · rename_i new
      exact (bytes_of_beyond (Nat.le_of_eq new.symm)).symm
    · rfl
  | @cut _ cutId part found longest =>
    by_cases same : id = cutId ∧ cutId < d.files.length
    · obtain ⟨rfl, there⟩ := same
      have rest : (d.cut id part.length).bytes id =
          join (stored.takeWhile (·.length ≤ s.maxRecordSize.toNat)) := by
        rw [cut_eq_put longest, bytes_put there, longest.eq, row, Frame.intact_join_of_whole whole]
      refine ⟨_, fun p inside => whole p ((List.takeWhile_subset _) inside), rest, ?_⟩
      rintro front ⟨behind, rfl⟩ short
      rw [List.takeWhile_append_of_pos fun p inside => by simpa using short p inside rfl]
      exact List.prefix_append ..
    · exact unchanged (congrArg File.bytes (file_put_of_not same _))
  | @append _ grown payload found fits =>
    by_cases same : id = grown ∧ grown < d.files.length
    · obtain ⟨rfl, there⟩ := same
      have longer : (d.append id (Frame.encode payload)).bytes id = join (stored ++ [payload]) := by
        rw [Disk.append, bytes_put there, row]
        simp
      refine ⟨_, fun p inside => ?_, longer, fun front start _ => start.trans (List.prefix_append ..)⟩
      rcases List.mem_append.1 inside with old | new
      · exact whole p old
      · rw [List.mem_singleton.1 new]
        exact fits.whole
    · exact unchanged (congrArg File.bytes (file_put_of_not same _))
  | remove reaches there => exact unchanged rfl

theorem Changes.retains (h : Changes s path cs d d')
    (whole : ∀ p ∈ stored, Fits Frame.capacity p) (row : d.bytes id = join stored) :
    d'.Retains id stored fun p => .cut ∈ cs → p.length ≤ s.maxRecordSize.toNat := by
  induction h generalizing stored with
  | nil d => exact retains_of_bytes whole row _
  | cons first rest ih =>
    refine ((first.retains whole row).trans fun kept whole row => ih whole row).mono ?_
    intro p inside short
    exact ⟨fun cut => short (by simp [cut]), fun cut => short (List.mem_cons_of_mem _ cut)⟩

/-- A file at another path loses nothing, whatever is cut at this one. -/
theorem Confined.retains (h : Confined s path all d d') (apart : .cut ∈ all → .remove ∉ all)
    (whole : ∀ p ∈ stored, Fits Frame.capacity p) (row : d.bytes id = join stored) :
    d'.Retains id stored fun p => .cut ∈ all → d'.lookup path = .ok (.file id) →
      p.length ≤ s.maxRecordSize.toNat := by
  obtain ⟨cs, some, changes⟩ := h
  have retained := changes.retains whole row
  by_cases cuts : .cut ∈ cs
  · have kept : .remove ∉ cs := fun removed => apart (some.subset cuts) (some.subset removed)
    by_cases old : id < d.files.length
    · rcases changes.file kept old with same | there
      · exact retains_of_bytes whole (by rw [bytes, same]; exact row) _
      · exact retained.mono fun p inside short _ => short (some.subset cuts) there
    · have nothing : stored = [] :=
        Frame.join_eq_nil (row.symm.trans (bytes_of_beyond (Nat.not_lt.1 old)))
      exact retained.mono fun p inside => by simp [nothing] at inside
  · exact retained.mono fun p inside _ cut => absurd cut cuts

end EventLog.Disk
