import EventLog.FileLog
import EventLog.Proofs.Connection.Writing

/-! What a log remembers about its file. Every index that it keeps, with a connection or without
one, describes the file as it was on a disk before. Main statements: each operation keeps this, the
connection it uses knows the file at the path, and storing a payload ends in one of three ways. -/
namespace EventLog

open Disk (Past)
open EventLog.Frame (Payload Fits intact)

namespace Connection

/-- The connection describes its file as it was on one of these disks, to the end if it writes. -/
def Describes (history : List Disk) (maximum : Nat) (c : Connection) : Prop :=
  ∃ p ∈ history, c.file < p.files.length ∧ c.index = .ofFile maximum (p.file c.file) ∧
    (c.mode = .write → c.index.stop = c.index.seen.length)

/-- The connection describes its file, or will be taken for stale whatever becomes of the disk. -/
structure Grounded (history : List Disk) (path : String) (maximum : Nat) (c : Connection) :
    Prop where
  named : c.path = path
  limit : c.maxRecordSize = maximum
  describes : c.Describes history maximum ∨ Disk.ruledOut c.index.seen ∈ history

variable {history : List Disk} {path : String} {maximum : Nat} {c : Connection} {d : Disk}

theorem Grounded.known (h : c.Grounded history path maximum) : c.index.Known history maximum := by
  refine h.describes.imp_left ?_
  rintro ⟨p, before, there, index, -⟩
  exact ⟨p, before, c.file, there, index⟩

theorem Describes.mono {later : List Disk} (h : c.Describes history maximum)
    (more : history ⊆ later) : c.Describes later maximum := by
  obtain ⟨p, before, rest⟩ := h
  exact ⟨p, more before, rest⟩

theorem Grounded.mono {later : List Disk} (h : c.Grounded history path maximum)
    (more : history ⊆ later) : c.Grounded later path maximum where
  named := h.named
  limit := h.limit
  describes := h.describes.imp (·.mono more) (more ·)

/-- A connection that is not stale knows the file at its path. -/
theorem Grounded.ready (h : c.Grounded history path maximum) (past : Past history d)
    (fresh : c.isStale d = false) :
    c.Ready d path maximum ∧ (c.mode = .write → c.Tight d) := by
  rcases h.describes with ⟨p, before, there, index, tight⟩ | ruled
  · obtain ⟨found, file⟩ := found_of_fresh past before there (by rw [index]; rfl) fresh
    have current : c.index = .ofFile maximum (d.file c.file) := file ▸ index
    refine ⟨⟨h.named, h.limit, h.named ▸ found, by rw [← h.limit] at current; exact current⟩, ?_⟩
    intro writes
    refine ⟨writes, (tight writes).trans ?_⟩
    rw [current]
    rfl
  · have now : d.fingerprintAt? c.path = some c.index.seen := by simpa [isStale] using fresh
    obtain ⟨id, found, fingerprint⟩ := Disk.fingerprintAt?_eq_some now
    exact absurd fingerprint ((past.behind ruled).unseen id (Disk.lookup_file_lt past.sound found))

theorem Ready.grounded (h : c.Ready d path maximum) (sound : d.Sound)
    (tight : c.mode = .write → c.Tight d) : c.Grounded (d :: history) path maximum := by
  refine ⟨h.named, h.limit, .inl ⟨d, by simp, h.there sound, h.index, fun writes => ?_⟩⟩
  rw [(tight writes).stop, h.current.seen]
  rfl

end Connection

theorem Index.Known.mono {history later : List Disk} {maximum : Nat} {x : Index}
    (h : x.Known history maximum) (more : history ⊆ later) : x.Known later maximum := by
  refine h.imp ?_ (more ·)
  rintro ⟨p, before, rest⟩
  exact ⟨p, more before, rest⟩

namespace FileLog.Binding

/-- What the log was told about its file. -/
def terms (b : Binding) : String × Bool × Bool := (b.path, b.readOnly, b.disposed)

@[simp] theorem terms_release (b : Binding) : b.release.terms = b.terms := by
  unfold release
  split <;> rfl

@[simp] theorem terms_discardStale (b : Binding) (d : Disk) : (b.discardStale d).terms = b.terms := by
  unfold discardStale
  split
  · split <;> rfl
  · rfl

/-- Every index that is kept describes a file as it was on one of these disks, or none that can be seen
again. -/
structure Grounded (history : List Disk) (s : Settings) (b : Binding) : Prop where
  held : ∀ c, b.connection = some c → c.Grounded history b.path s.maxRecordSize.toNat
  kept : ∀ x, b.remembered = some x → x.Known history s.maxRecordSize.toNat

variable {history : List Disk} {s : Settings} {b : Binding} {d : Disk}

theorem grounded_start (history : List Disk) (s : Settings) (path : String) (readOnly : Bool) :
    Grounded history s { path, readOnly } :=
  ⟨fun _ held => (by cases held), fun _ kept => (by cases kept)⟩

theorem Grounded.mono {later : List Disk} (h : b.Grounded history s) (more : history ⊆ later) :
    b.Grounded later s :=
  ⟨fun c held => (h.held c held).mono more, fun x kept => (h.kept x kept).mono more⟩

theorem Grounded.release (h : b.Grounded history s) : b.release.Grounded history s := by
  unfold Binding.release
  split
  · rename_i c held
    refine ⟨fun _ none => (by cases none), fun x kept => ?_⟩
    cases kept
    exact (h.held c held).known
  · exact h

theorem Grounded.discardStale (h : b.Grounded history s) (d : Disk) :
    (b.discardStale d).Grounded history s := by
  unfold Binding.discardStale
  split
  · split
    · exact ⟨fun _ none => (by cases none), fun _ none => (by cases none)⟩
    · exact h
  · exact h

/-- The connection that is left knows the file at the path. -/
theorem Grounded.ready (h : b.Grounded history s) (past : Past history d) {c : Connection}
    (left : (b.discardStale d).connection = some c) :
    b.discardStale d = b ∧ c.Ready d b.path s.maxRecordSize.toNat ∧
      (c.mode = .write → c.Tight d) := by
  unfold Binding.discardStale at left ⊢
  split at left
  · rename_i c' held
    split at left
    · cases left
    · rename_i fresh
      rw [held] at left
      cases left
      simp only [fresh, if_false, true_and, Bool.false_eq_true]
      exact (h.held c held).ready past (by simpa using fresh)
  · rename_i none
    rw [none] at left
    cases left

/-! Queries. -/

/-- A query uses a connection that knows the file, and none only if there is no file. -/
theorem Grounded.lease_ready (h : b.Grounded history s) (past : Past history d) :
    (∀ c, (b.lease s d).1 = some c → c.Ready d b.path s.maxRecordSize.toNat) ∧
      ((b.lease s d).1 = none → d.bytesAt? b.path = none) := by
  have discarded := h.discardStale d
  unfold lease
  cases left : (b.discardStale d).connection with
  | some c =>
    obtain ⟨-, ready, -⟩ := h.ready past left
    by_cases writes : c.mode = .write <;> simp [left, writes, ready]
  | none =>
    have opening := @Connection.openToRead_cases _ d s b.path _ past discarded.kept
    simp only [left, path_discardStale]
    rcases opening with ⟨c, opened, ready, -⟩ | ⟨closed, missing⟩
    · simp [opened, ready]
    · split
      · rename_i c opened
        exact absurd opened (closed c)
      · simp [missing]

theorem Grounded.lease (h : b.Grounded history s) (past : Past history d) :
    (b.lease s d).2.Grounded (d :: history) s := by
  have discarded := h.discardStale d
  have later := discarded.mono (List.subset_cons_self d history)
  unfold Binding.lease
  cases left : (b.discardStale d).connection with
  | some c =>
    by_cases writes : c.mode = .write
    · simpa [left, writes] using later
    · simpa [left, writes] using later.release
  | none =>
    have opening := @Connection.openToRead_cases _ d s (b.discardStale d).path _ past discarded.kept
    simp only [left]
    split
    · rename_i c opened
      rcases opening with ⟨c', opened', ready, -⟩ | ⟨closed, -⟩
      · rw [opened] at opened'
        cases opened'
        refine ⟨by simp, fun x kept => ?_⟩
        cases kept
        exact .inl ⟨d, by simp, c.file, ready.there past.sound, ready.index⟩
      · exact absurd opened (closed c)
    · exact ⟨by simp, by simp⟩

@[simp] theorem terms_lease (b : Binding) (s : Settings) (d : Disk) :
    (b.lease s d).2.terms = b.terms := by
  have discarded := terms_discardStale b d
  unfold Binding.lease
  dsimp only
  split
  · split
    · exact discarded
    · exact (terms_release _).trans discarded
  · split <;> exact discarded

/-! Writers. -/

/-- A reader's connection is of no use to a writer. -/
def dropReader (b : Binding) : Binding :=
  if b.connection.any (·.mode = .read) then { b with connection := none } else b

theorem dropReader_of_writes {c : Connection} (held : b.connection = some c)
    (writes : c.mode = .write) : b.dropReader = b := by
  simp [dropReader, held, writes]

theorem dropReader_of_not_writes (unused : ∀ c, b.connection = some c → c.mode ≠ .write) :
    b.dropReader = { b with connection := none } := by
  unfold dropReader
  cases held : b.connection with
  | none => simp [← held]
  | some c =>
    have reads : c.mode = .read := by
      cases mode : c.mode with
      | read => rfl
      | write => exact absurd mode (unused c held)
    simp [reads]

/-- The connection that the next payload goes through, opened if none is held for writing. -/
def writer (b : Binding) (s : Settings) (d : Disk) (fault : Option Connection.Fault := none) :
    Except Failure Connection × Binding × Disk :=
  let b := (b.discardStale d).dropReader
  match b.connection with
  | some c => (.ok c, b, d)
  | none => match Connection.openToWrite s b.path b.remembered d fault with
    | (.error failure, d) => (.error failure, { b with remembered := none }, d)
    | (.ok c, d) => (.ok c, { b with connection := some c, remembered := none, lost := false }, d)

variable (b s d) in
theorem store_eq_write (payload : Payload) (fault : Option Connection.Fault) :
    b.store s d payload fault = match b.writer s d fault with
      | (.error failure, b, d) => (if b.lost then .ok () else .error failure, b, d)
      | (.ok c, b, d) =>
        let (result, c, d) := c.write d payload fault
        (result.map fun _ => (), { b with connection := some c }, d) := by
  have shape : (if (b.discardStale d).connection.any (·.mode = .read) then
      { b.discardStale d with connection := none } else b.discardStale d) =
      (b.discardStale d).dropReader := rfl
  unfold store writer
  dsimp only
  rw [shape]
  generalize (b.discardStale d).dropReader = b'
  cases held : b'.connection with
  | some c => rfl
  | none =>
    dsimp only
    cases Connection.openToWrite s b'.path b'.remembered d fault with
    | mk result d' => cases result <;> rfl

theorem connection_of_writer {fault : Option Connection.Fault} {c : Connection} {b' : Binding}
    {d' : Disk} (h : b.writer s d fault = (.ok c, b', d')) : b'.connection = some c := by
  unfold writer at h
  dsimp only at h
  split at h
  · rename_i held
    cases h
    exact held
  · split at h
    · cases h
    · cases h
      rfl

theorem store_eq (b : Binding) (s : Settings) (d : Disk) (payload : Payload) :
    b.store s d payload = match b.writer s d with
      | (.error failure, b, d) => (if b.lost then .ok () else .error failure, b, d)
      | (.ok c, b, d) => match c.append d payload with
        | .error failure => (.error failure, b, d)
        | .ok (_, c, d) => (.ok (), { b with connection := some c }, d) := by
  rw [store_eq_write]
  cases written : b.writer s d with
  | mk result rest =>
    obtain ⟨b', d'⟩ := rest
    cases result with
    | error failure => rfl
    | ok c =>
      have held := connection_of_writer written
      obtain ⟨path, readOnly, disposed, connection, remembered, lost⟩ := b'
      subst held
      dsimp only
      rw [Connection.write_eq_append]
      cases c.append d' payload <;> rfl

@[simp] theorem terms_writer (b : Binding) (s : Settings) (d : Disk)
    (fault : Option Connection.Fault) : (b.writer s d fault).2.1.terms = b.terms := by
  have dropped : (b.discardStale d).dropReader.terms = b.terms := by
    unfold dropReader
    split <;> exact terms_discardStale b d
  unfold writer
  dsimp only
  split
  · exact dropped
  · split <;> exact dropped

@[simp] theorem terms_store (b : Binding) (s : Settings) (d : Disk) (payload : Payload)
    (fault : Option Connection.Fault) : (b.store s d payload fault).2.1.terms = b.terms := by
  have writer := terms_writer b s d fault
  rw [store_eq_write]
  split
  · rename_i written
    rw [written] at writer
    exact writer
  · rename_i written
    rw [written] at writer
    exact writer

@[simp] theorem terms_connect (b : Binding) (s : Settings) (d : Disk) :
    (b.connect s d).1.terms = b.terms := by
  have discarded := terms_discardStale b d
  unfold connect
  dsimp only
  split
  · exact discarded
  · split <;> split <;> exact discarded

/-- A log that holds a writer of its file. -/
theorem grounded_of_ready {c : Connection} (held : b.connection = some c)
    (kept : ∀ x, b.remembered = some x → x.Known history s.maxRecordSize.toNat)
    (ready : c.Ready d b.path s.maxRecordSize.toNat) (tight : c.Tight d) (sound : d.Sound) :
    b.Grounded (d :: history) s := by
  refine ⟨fun c' same => ?_, fun x remembered => ?_⟩
  · rw [held] at same
    cases same
    exact ready.grounded sound fun _ => tight
  · exact (kept x remembered).mono (List.subset_cons_self d history)

/-- A writer is at hand exactly when the path can be opened, and it stands behind the intact part of
the file that is opened. -/
theorem Grounded.writer_cases (h : b.Grounded history s) (past : Past history d) :
    (∃ fault d', d.openPrepared s b.path = (.error fault, d') ∧ b.writer s d =
      (.error (.disk fault), { b.discardStale d with connection := none, remembered := none }, d')) ∨
    ∃ id d₁ c b' d', d.openPrepared s b.path = (.ok id, d₁) ∧ b.writer s d = (.ok c, b', d') ∧
      b'.connection = some c ∧ b'.path = b.path ∧
      (∀ x, b'.remembered = some x → x.Known history s.maxRecordSize.toNat) ∧
      c.Ready d' b.path s.maxRecordSize.toNat ∧ c.Tight d' ∧ d.Advances d' ∧ d'.Sound ∧
      d'.bytesAt? b.path = some
        (intact s.maxRecordSize.toNat ((d.prepare s b.path).2.bytesAt b.path)) := by
  have discarded := h.discardStale d
  unfold writer
  by_cases held : ∃ c, (b.discardStale d).connection = some c ∧ c.mode = .write
  · obtain ⟨c, left, writes⟩ := held
    obtain ⟨-, ready, tight⟩ := h.ready past left
    obtain ⟨place, reaches, -⟩ := Disk.lookup_eq_file_iff.1 ready.found
    have opened := Disk.openPrepared_of_lookup ready.found s
    have prepared := Disk.prepare_of_reaches reaches s
    have bytes : d.bytesAt b.path = d.bytes c.file := by
      rw [Disk.bytesAt, ready.bytesAt?]
      rfl
    refine .inr ⟨c.file, d, c, b.discardStale d, d, opened, ?_, left, path_discardStale b d,
      discarded.kept, ready, tight writes, .refl d, past.sound, ?_⟩
    · simp only [dropReader_of_writes left writes, left]
    · rw [prepared, bytes, Connection.Tight.intact ready (tight writes)]
      exact ready.bytesAt?
  · have opening := @Connection.openToWrite_cases d s b.path history
      (b.discardStale d).remembered past discarded.kept
    have dropped := @dropReader_of_not_writes (b.discardStale d) fun c left writes =>
      held ⟨c, left, writes⟩
    simp only [dropped, path_discardStale]
    rcases opening with ⟨fault, d', opened, refused⟩ |
        ⟨id, d₁, c, d', opened, accepted, ready, tight, advances, sound, bytes⟩
    · exact .inl ⟨fault, d', opened, by rw [refused]⟩
    · let b' : Binding := { b.discardStale d with
        path := b.path, connection := some c, remembered := none, lost := false }
      have kept : ∀ x, b'.remembered = some x → x.Known history s.maxRecordSize.toNat :=
        fun _ none => (by cases none)
      exact .inr ⟨id, d₁, c, b', d', opened, by rw [accepted], rfl, rfl, kept, ready, tight, advances,
        sound, bytes⟩

theorem fits_of_inBounds {payload : Payload}
    (h : Frame.inBounds s.maxRecordSize.toNat payload.length = true) :
    Fits s.maxRecordSize.toNat payload := by
  have word := s.maxRecordSize.toNat_lt
  have bounded : payload.length ≤ s.maxRecordSize.toNat := by
    simp only [Frame.inBounds, Bool.and_eq_true, decide_eq_true_eq] at h
    exact h.2
  exact ⟨h, by omega⟩

/-- A payload is stored behind the intact part of the file or refused for its length if the path can
be opened; otherwise it is dropped or refused. -/
theorem Grounded.store_cases (h : b.Grounded history s) (past : Past history d)
    (payload : Payload) :
    (∃ fault d', d.openPrepared s b.path = (.error fault, d') ∧ b.store s d payload =
      (if (b.discardStale d).lost then .ok () else .error (.disk fault),
        { b.discardStale d with connection := none, remembered := none }, d')) ∨
    (∃ id d₁, d.openPrepared s b.path = (.ok id, d₁)) ∧
      ∃ c b' d', b'.connection = some c ∧ b'.Grounded (d' :: history) s ∧
        c.Ready d' b.path s.maxRecordSize.toNat ∧ d.Advances d' ∧ d'.Sound ∧
        (Frame.inBounds s.maxRecordSize.toNat payload.length = false ∧
            b.store s d payload =
              (.error (.tooLarge payload.length s.maxRecordSize.toNat), b', d') ∧
            d'.bytesAt? b.path = some
              (intact s.maxRecordSize.toNat ((d.prepare s b.path).2.bytesAt b.path)) ∨
          Fits s.maxRecordSize.toNat payload ∧ b.store s d payload = (.ok (), b', d') ∧
            d'.bytesAt? b.path = some
              (intact s.maxRecordSize.toNat ((d.prepare s b.path).2.bytesAt b.path) ++
                Frame.encode payload)) := by
  rw [store_eq]
  rcases h.writer_cases past with ⟨fault, d', opened, refused⟩ |
      ⟨id, d₁, c, b', d', opened, writer, held, named, kept, ready, tight, advances, sound, bytes⟩
  · exact .inl ⟨fault, d', opened, by rw [refused]⟩
  · refine .inr ⟨⟨id, d₁, opened⟩, ?_⟩
    have limit : c.maxRecordSize = s.maxRecordSize.toNat := ready.limit
    by_cases allowed : Frame.inBounds s.maxRecordSize.toNat payload.length = true
    · have fits := fits_of_inBounds allowed
      obtain ⟨c', d'', appended, ready', tight', later, sound', bytes'⟩ :=
        Connection.append_ready ready tight sound fits
      have stored : d'.bytes c.file =
          intact s.maxRecordSize.toNat ((d.prepare s b.path).2.bytesAt b.path) :=
        Option.some.inj (ready.bytesAt?.symm.trans bytes)
      have grounded : ({ b' with connection := some c' } : Binding).Grounded (d'' :: history) s :=
        grounded_of_ready rfl kept (named ▸ ready') tight' sound'
      refine ⟨c', _, d'', rfl, grounded, ready', advances.trans later, sound', .inr ⟨fits, ?_, ?_⟩⟩
      · rw [writer]
        simp only [appended]
      · rw [bytes', stored]
    · have refused := @Connection.append_refused c d' tight.writes payload
        (by rw [limit]; simpa using allowed)
      have grounded := grounded_of_ready held kept (named ▸ ready) tight sound
      refine ⟨c, b', d', held, grounded, ready, advances, sound, .inl ⟨by simpa using allowed, ?_,
        bytes⟩⟩
      rw [writer, ← limit]
      simp only [refused]

/-- Connecting leaves the disk alone, or opens the path for writing as a payload would. -/
theorem Grounded.connect_cases (h : b.Grounded history s) (past : Past history d) :
    (b.connect s d).1.Grounded ((b.connect s d).2 :: history) s ∧ d.Advances (b.connect s d).2 ∧
      (b.connect s d).2.Sound ∧
      ((b.connect s d).2 = d ∨
        (∃ fault, d.openPrepared s b.path = (.error fault, (b.connect s d).2)) ∨
        (∃ id d₁, d.openPrepared s b.path = (.ok id, d₁)) ∧ (b.connect s d).2.bytesAt? b.path = some
          (intact s.maxRecordSize.toNat ((d.prepare s b.path).2.bytesAt b.path))) := by
  have discarded := h.discardStale d
  have later := discarded.mono (List.subset_cons_self d history)
  unfold connect
  cases left : (b.discardStale d).connection with
  | some c =>
    simp only [left, Option.isSome_some, if_true]
    exact ⟨later, .refl d, past.sound, .inl trivial⟩
  | none =>
    cases mode : (b.discardStale d).mode with
    | read =>
      have opening := @Connection.openToRead_cases _ d s (b.discardStale d).path _ past discarded.kept
      simp only [left, mode, Option.isSome_none, Bool.false_eq_true, if_false]
      cases opened : Connection.openToRead s (b.discardStale d).path
          (b.discardStale d).remembered d with
      | error failure => exact ⟨⟨by simp, by simp⟩, .refl d, past.sound, .inl rfl⟩
      | ok found =>
        refine ⟨⟨?_, by simp⟩, .refl d, past.sound, .inl rfl⟩
        rintro c rfl
        rcases opening with ⟨c', opened', ready, reads⟩ | ⟨closed, -⟩
        · rw [opened] at opened'
          cases opened'
          exact ready.grounded past.sound fun writes => by simp [reads] at writes
        · exact absurd opened (closed c)
    | write =>
      have opening := @Connection.openToWrite_cases d s (b.discardStale d).path history _ past
        discarded.kept
      simp only [left, mode, Option.isSome_none, Bool.false_eq_true, if_false]
      rw [path_discardStale] at opening ⊢
      rcases opening with ⟨fault, d', opened, refused⟩ |
          ⟨id, d₁, c, d', opened, accepted, ready, tight, advances, sound, bytes⟩
      · have advances := past.sound.advances_openPrepared s b.path
        have sound := past.sound.openPrepared s b.path
        rw [opened] at advances sound
        rw [refused]
        exact ⟨⟨by simp, by simp⟩, advances, sound, .inr (.inl ⟨fault, opened⟩)⟩
      · rw [accepted]
        refine ⟨?_, advances, sound, .inr (.inr ⟨⟨id, d₁, opened⟩, bytes⟩)⟩
        exact grounded_of_ready rfl (by simp) ready tight sound

end FileLog.Binding
end EventLog
