import EventLog.Proofs.Connection.Reading
import EventLog.Proofs.Disk.Past

/-! Connections that are opened, with or without an index from earlier. An index that was kept
describes its file as it was on a disk before; its fingerprint shows whether that is the file now. One
that describes no file is of no harm as long as its fingerprint is not seen again.
Main statement: a kept index makes no difference to the connection that is opened. -/
namespace EventLog

/-- An index describes a file as it was on one of these disks, or what it was taken from is not to be
seen again. -/
def Index.Known (history : List Disk) (maximum : Nat) (x : Index) : Prop :=
  (∃ p ∈ history, ∃ id < p.files.length, x = .ofFile maximum (p.file id)) ∨
    Disk.ruledOut x.seen ∈ history

/-- An index describes every file on the disk that has its fingerprint. -/
def Index.Serves (x : Index) (maximum : Nat) (d : Disk) : Prop :=
  ∀ id < d.files.length, x.seen = d.fingerprint id → x = .ofFile maximum (d.file id)

theorem Index.Known.serves {history : List Disk} {maximum : Nat} {x : Index} {d : Disk}
    (h : x.Known history maximum) (past : Disk.Past history d) : x.Serves maximum d := by
  intro id there seen
  rcases h with ⟨p, before, i, inside, rfl⟩ | ruled
  · obtain ⟨-, same⟩ := past.same_file before inside there seen
    rw [same]
  · exact absurd seen.symm ((past.behind ruled).unseen id there)

namespace Disk

/-- Makes the directories above a path, if the settings ask for them. -/
def prepare (s : Settings) (d : Disk) (path : String) : Except DiskFault Unit × Disk :=
  if s.createParents then d.makeParents path else (.ok (), d)

/-- The file at a path for writing, with all that has to be made on the way. -/
def openPrepared (s : Settings) (d : Disk) (path : String) : Except DiskFault Nat × Disk :=
  match d.prepare s path with
  | (.error fault, d) => (.error fault, d)
  | (.ok (), d) => d.openForAppending path

theorem extends_prepare (s : Settings) (d : Disk) (path : String) :
    d.Extends (d.prepare s path).2 := by
  unfold prepare
  by_cases create : s.createParents
  · rw [if_pos create]
    exact extends_makeParents d path
  · rw [if_neg create]
    exact .refl d

theorem Sound.prepare {d : Disk} (h : d.Sound) (s : Settings) (path : String) :
    (d.prepare s path).2.Sound := by
  unfold Disk.prepare
  by_cases create : s.createParents
  · rw [if_pos create]
    exact h.makeParents path
  · rw [if_neg create]
    exact h

/-- Nothing has to be made for a path that leads to a directory that is there. -/
theorem prepare_of_reaches {d : Disk} {path : String} {place : Place} (h : d.Reaches path place)
    (s : Settings) : d.prepare s path = (.ok (), d) := by
  unfold prepare
  by_cases create : s.createParents
  · rw [if_pos create]
    exact makeParents_of_reaches h
  · rw [if_neg create]

theorem Sound.advances_openPrepared {d : Disk} (h : d.Sound) (s : Settings) (path : String) :
    d.Advances (d.openPrepared s path).2 := by
  have made := (extends_prepare s d path).advances
  have sound := h.prepare s path
  unfold Disk.openPrepared
  cases prepared : d.prepare s path with
  | mk result d' =>
    rw [prepared] at made sound
    cases result with
    | error fault => exact made
    | ok _ => exact made.trans (sound.advances_openForAppending path)

theorem Sound.openPrepared {d : Disk} (h : d.Sound) (s : Settings) (path : String) :
    (d.openPrepared s path).2.Sound := by
  have made := h.prepare s path
  unfold Disk.openPrepared
  cases prepared : d.prepare s path with
  | mk result d' =>
    rw [prepared] at made
    cases result with
    | error fault => exact made
    | ok _ => exact made.openForAppending path

theorem openPrepared_of_lookup {d : Disk} {path : String} {id : Nat}
    (h : d.lookup path = .ok (.file id)) (s : Settings) : d.openPrepared s path = (.ok id, d) := by
  obtain ⟨place, reaches, entry⟩ := lookup_eq_file_iff.1 h
  rw [openPrepared, prepare_of_reaches reaches]
  exact openForAppending_of_file reaches entry

theorem lookup_of_openPrepared {d d' : Disk} {s : Settings} {path : String} {id : Nat}
    (h : d.openPrepared s path = (.ok id, d')) : d'.lookup path = .ok (.file id) := by
  unfold openPrepared at h
  split at h
  · cases h
  · exact lookup_of_openForAppending h

/-- Making its directories first makes no difference to what is opened at a path. -/
theorem openPrepared_of_prepared {d d' : Disk} {s : Settings} {path : String} {id : Nat}
    (h : (d.prepare s path).2.openPrepared s path = (.ok id, d')) :
    d.openPrepared s path = (.ok id, d') := by
  unfold openPrepared prepare at h ⊢
  by_cases create : s.createParents
  · simp only [if_pos create] at h ⊢
    cases made : d.makeParents path with
    | mk result d₁ =>
      rcases d.makeParents_again path with ⟨done, same⟩ | ⟨⟨fault, refused⟩, again⟩
      · rw [made] at h done same
        rw [same] at h
        cases done
        exact h
      · rw [made] at h again
        split at h
        · cases h
        · rename_i done
          rw [done] at again
          exact absurd rfl again
  · simpa only [if_neg create] using h

/-- What a file at a path holds, nothing if there is no file. -/
def bytesAt (d : Disk) (path : String) : List UInt8 := (d.bytesAt? path).getD []

/-- The file that was opened holds what stood at the path once its parents were there. -/
theorem bytes_of_openPrepared {d d' : Disk} {s : Settings} {path : String} {id : Nat}
    (h : d.openPrepared s path = (.ok id, d')) : d'.bytes id = (d.prepare s path).2.bytesAt path := by
  unfold openPrepared at h
  split at h
  · cases h
  · rename_i made d₁ prepared
    rw [prepared]
    obtain ⟨place, reaches, opened⟩ := reaches_of_openForAppending h
    rcases opened with ⟨entry, rfl⟩ | ⟨free, rfl, rfl⟩
    · have found := lookup_eq_file_iff.2 ⟨place, reaches, entry⟩
      rw [bytesAt, bytesAt?_of_lookup found]
      rfl
    · have missing : d₁.bytesAt? path = none := by
        apply bytesAt?_eq_none_iff.2
        intro id found
        obtain ⟨other, there, entry⟩ := lookup_eq_file_iff.1 found
        rw [← reaches.unique there, free] at entry
        cases entry
      rw [bytesAt, missing, bytes, file_create]
      simp

/-- A path that cannot be opened leads to no file, before and after the attempt. -/
theorem missing_of_openPrepared {d d' : Disk} {s : Settings} {path : String} {fault : DiskFault}
    (h : d.openPrepared s path = (.error fault, d')) :
    d.bytesAt? path = none ∧ d'.bytesAt? path = none ∧ d'.files = d.files := by
  have before : d.bytesAt? path = none := by
    apply bytesAt?_eq_none_iff.2
    intro id found
    rw [openPrepared_of_lookup found] at h
    cases h
  have files := (extends_prepare s d path).files
  unfold openPrepared at h
  split at h
  · rename_i refused d₁ prepared
    cases h
    rw [prepared] at files
    refine ⟨before, ?_, files⟩
    apply bytesAt?_eq_none_iff.2
    intro id found
    obtain ⟨place, reaches, -⟩ := lookup_eq_file_iff.1 found
    unfold prepare at prepared
    split at prepared
    · exact not_reaches_of_makeParents prepared place reaches
    · cases prepared
  · rename_i made d₁ prepared
    have same := openForAppending_error h
    subst same
    rw [prepared] at files
    refine ⟨before, ?_, files⟩
    apply bytesAt?_eq_none_iff.2
    intro id found
    rw [openForAppending_of_lookup found] at h
    cases h

theorem walk_put (d : Disk) (id : Nat) (bytes : List UInt8) (keep : Bool) (trail : Trail)
    (steps : List Step) : (d.put id bytes keep).walk trail steps = d.walk trail steps := by
  fun_induction walk d trail steps with
  | case1 trail => rfl
  | case2 trail rest ih => exact ih
  | case3 trail rest ih => exact ih
  | case4 trail name rest long => simp [walk, long]
  | case5 trail name rest short found last => simp [walk, short, last, found]
  | case6 trail name rest short found more inner inside ih =>
    have there : d.find? ⟨trail.last, name⟩ = some (.directory inner) := inside
    simp [walk, short, more, there, ih]
  | case7 trail name rest short found more inner inside =>
    have there : d.find? ⟨trail.last, name⟩ = some (.file inner) := inside
    simp [walk, short, more, there]
  | case8 trail name rest short found more inside =>
    have there : d.find? ⟨trail.last, name⟩ = none := inside
    simp [walk, short, more, there]

/-- What a file holds has no influence on where it stands. -/
@[simp] theorem lookup_put (d : Disk) (id : Nat) (bytes : List UInt8) (keep : Bool)
    (path : String) : (d.put id bytes keep).lookup path = d.lookup path := by
  unfold lookup
  simp only [walk_put]

end Disk

namespace Connection

open Disk (Past)
open EventLog.Frame (intact)

/-- The connection is open to the file at the path and knows what is in it. -/
structure Ready (c : Connection) (d : Disk) (path : String) (maximum : Nat) : Prop where
  named : c.path = path
  limit : c.maxRecordSize = maximum
  found : d.lookup path = .ok (.file c.file)
  current : c.IsCurrent d

variable {history : List Disk} {c : Connection} {d d' : Disk} {s : Settings} {path : String}
  {remembered : Option Index} {maximum id : Nat}

theorem Ready.bytesAt? (h : c.Ready d path maximum) : d.bytesAt? path = some (d.bytes c.file) :=
  Disk.bytesAt?_of_lookup h.found

theorem Ready.there (h : c.Ready d path maximum) (sound : d.Sound) : c.file < d.files.length :=
  Disk.lookup_file_lt sound h.found

theorem Ready.index (h : c.Ready d path maximum) : c.index = .ofFile maximum (d.file c.file) :=
  h.limit ▸ h.current

theorem Ready.stop (h : c.Ready d path maximum) :
    c.index.stop = (intact maximum (d.bytes c.file)).length := h.limit ▸ h.current.stop

theorem ready_attach {id : Nat} (found : d.lookup path = .ok (.file id)) (mode : Mode) :
    (attach s path mode none d id).Ready d path s.maxRecordSize.toNat :=
  ⟨rfl, rfl, found, rfl⟩

/-- A connection that is not stale is open to the file at its path, and the file is as it was when it
was last seen. -/
theorem found_of_fresh {p : Disk} (past : Past history d) (before : p ∈ history)
    (there : c.file < p.files.length) (seen : c.index.seen = p.fingerprint c.file)
    (fresh : c.isStale d = false) :
    d.lookup c.path = .ok (.file c.file) ∧ p.file c.file = d.file c.file := by
  have now : d.fingerprintAt? c.path = some c.index.seen := by simpa [isStale] using fresh
  obtain ⟨id, found, fingerprint⟩ := Disk.fingerprintAt?_eq_some now
  obtain ⟨rfl, file⟩ := past.same_file before there (Disk.lookup_file_lt past.sound found)
    (seen.symm.trans fingerprint.symm)
  exact ⟨found, file⟩

theorem attach_eq (serves : ∀ x ∈ remembered, x.Serves s.maxRecordSize.toNat d)
    (there : id < d.files.length) (mode : Mode) :
    attach s path mode remembered d id = attach s path mode none d id := by
  cases remembered with
  | none => rfl
  | some x =>
    by_cases seen : x.seen = d.fingerprint id
    · simp only [attach, indexFor, if_pos seen, ← serves x rfl id there seen]
    · simp only [attach, indexFor, if_neg seen]

/-- An index that was kept makes no difference to readers. -/
theorem openToRead_eq (sound : d.Sound)
    (serves : ∀ x ∈ remembered, x.Serves s.maxRecordSize.toNat d) :
    openToRead s path remembered d = openToRead s path none d := by
  unfold openToRead
  split
  · rename_i id found
    rw [attach_eq serves (Disk.lookup_file_lt sound found)]
  all_goals rfl

/-- A reader is opened exactly when there is a file at the path. -/
theorem openToRead_cases (past : Past history d)
    (known : ∀ x ∈ remembered, x.Known history s.maxRecordSize.toNat) :
    (∃ c, openToRead s path remembered d = .ok (some c) ∧
      c.Ready d path s.maxRecordSize.toNat ∧ c.mode = .read) ∨
    (∀ c, openToRead s path remembered d ≠ .ok (some c)) ∧ d.bytesAt? path = none := by
  rw [openToRead_eq past.sound fun x kept => (known x kept).serves past, openToRead]
  cases found : d.lookup path with
  | error fault => cases fault <;> simp [Disk.bytesAt?, found]
  | ok e =>
    cases e with
    | directory id => simp [Disk.bytesAt?, found]
    | file id => exact .inl ⟨_, rfl, ready_attach found .read, rfl⟩

/-- A writer is attached to the file at its path and repairs it. -/
theorem openToWrite_eq_repair (s : Settings) (path : String) (remembered : Option Index) (d : Disk) :
    openToWrite s path remembered d = match d.openPrepared s path with
      | (.error fault, d) => (.error (.disk fault), d)
      | (.ok id, d) =>
        let (c, d) := (attach s path .write remembered d id).repair d
        (.ok c, d) := by
  unfold openToWrite Disk.openPrepared Disk.prepare
  dsimp only
  generalize (if s.createParents then d.makeParents path else (.ok (), d)) = made
  obtain ⟨result, d'⟩ := made
  cases result with
  | error fault => rfl
  | ok _ =>
    dsimp only
    cases d'.openForAppending path with
    | mk result d'' => cases result <;> rfl

/-- An index that was kept makes no difference to writers. -/
theorem openToWrite_eq (sound : d.Sound)
    (serves : ∀ x ∈ remembered, x.Serves s.maxRecordSize.toNat (d.openPrepared s path).2) :
    openToWrite s path remembered d = openToWrite s path none d := by
  have sound' := sound.openPrepared s path
  rw [openToWrite_eq_repair, openToWrite_eq_repair]
  cases opened : d.openPrepared s path with
  | mk result d' =>
    cases result with
    | error fault => rfl
    | ok id =>
      rw [opened] at serves sound'
      have there := Disk.lookup_file_lt sound' (Disk.lookup_of_openPrepared opened)
      simp only [attach_eq serves there]

theorem openToWrite_of_known (past : Past history d)
    (known : ∀ x ∈ remembered, x.Known history s.maxRecordSize.toNat) :
    openToWrite s path remembered d = openToWrite s path none d := by
  have later := past.advance (past.sound.advances_openPrepared s path) (past.sound.openPrepared s path)
  exact openToWrite_eq past.sound fun x kept => (known x kept).serves later

end Connection
end EventLog
