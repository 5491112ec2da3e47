import EventLog.Proofs.Connection.Failing
import EventLog.Proofs.Session.Reading

/-! Logs that the system fails. Main statements: whatever fails while an event is appended, files that
changed have new stamps, and the log describes its file or remembers a fingerprint that is not on the
disk any more; and what is in the file is what was there before, unless the failure comes behind the
whole frame. -/
namespace EventLog

open Disk (Past)
open EventLog.Frame (Payload Fits intact)

namespace Connection

variable {history : List Disk} {c : Connection} {d : Disk} {s : Settings} {path : String}
  {maximum : Nat}

/-- What the connection saw of its file last, if it has counted in a record since then without looking
at the file again. -/
def overlooked (c : Connection) : List Fingerprint :=
  if c.index.seen.length < c.index.stop then [c.index.seen] else []

theorem overlooked_of_index {file : File} (index : c.index = .ofFile maximum file) :
    c.overlooked = [] := by
  have whole : c.index.stop ≤ c.index.seen.length := by
    rw [index]
    exact Nat.sub_le _ _
  exact if_neg (Nat.not_lt.2 whole)

theorem Grounded.ruledOut_overlooked (h : c.Grounded history path maximum) {f : Fingerprint}
    (inside : f ∈ c.overlooked) : Disk.ruledOut f ∈ history := by
  rcases h.describes with ⟨p, -, -, index, -⟩ | ruled
  · rw [overlooked_of_index index] at inside
    cases inside
  · unfold overlooked at inside
    split at inside
    · rw [List.mem_singleton.1 inside]
      exact ruled
    · cases inside

/-- The connection describes its file, or what it was taken from is not on the disk any more. -/
structure Accounts (history : List Disk) (path : String) (maximum : Nat) (d : Disk)
    (c : Connection) : Prop where
  grounded : c.Grounded (history ++ c.overlooked.map Disk.ruledOut) path maximum
  behind : ∀ f ∈ c.overlooked, d.Behind f

theorem Ready.accounts (h : c.Ready d path maximum) (tight : c.Tight d) (sound : d.Sound)
    (before : d ∈ history) (d' : Disk) : c.Accounts history path maximum d' where
  grounded := (h.grounded sound fun _ => tight).mono
    (List.cons_subset.2 ⟨List.mem_append_left _ before, List.nil_subset _⟩)
  behind f inside := by
    rw [overlooked_of_index h.index] at inside
    cases inside

/-- A connection that has not looked at what it wrote keeps a fingerprint that its file has no more. -/
theorem Failed.accounts {payload : Payload} {fault : Fault} {cause : DiskFault} {c' : Connection}
    {d' : Disk} (h : Failed c d payload fault cause c' d') (ready : c.Ready d path maximum)
    (tight : c.Tight d) (past : Past history d) :
    c'.Accounts (d' :: d :: history) path maximum d' := by
  obtain ⟨advances, sound⟩ := h.advances past.sound
  cases h with
  | nothing | part | unsynced => exact ready.accounts tight past.sound (by simp) _
  | unseen =>
    -- The index is wrong from here on. It does no harm, since the file has a new stamp and the history
    -- says that the old one does not come back.
    have there := ready.there past.sound
    have seen := ready.current.seen
    have whole : c.index.seen.length = c.index.stop := by
      rw [seen, tight.stop]
      rfl
    have more : c.index.seen.length < c.index.stop + (Frame.encode payload).length := by
      rw [Frame.length_encode]
      omega
    have changed : (d.append c.file (Frame.encode payload)).fingerprint c.file ≠
        d.fingerprint c.file := by
      intro same
      have stamp : ((d.append c.file (Frame.encode payload)).file c.file).stamp =
          (d.file c.file).stamp := congrArg Fingerprint.stamp same
      have old := past.sound.stamp_lt c.file there
      rw [Disk.append, Disk.file_put, if_pos ⟨rfl, there⟩] at stamp
      simp at stamp
      omega
    have behind := (past.cons.advance advances sound).behind_of_changed (by simp) there changed
    have one : overlooked { c with index := ⟨c.index.offsets ++ [c.index.stop],
        c.index.stop + (Frame.encode payload).length, c.index.seen⟩ } = [c.index.seen] := if_pos more
    constructor
    · rw [one]
      exact ⟨ready.named, ready.limit, .inr (by simp)⟩
    · rw [one, seen]
      rintro f inside
      rw [List.mem_singleton.1 inside]
      exact behind

/-- A writer that knows its file still knows it after a write, or can tell that it does not. -/
theorem write_accounts (ready : c.Ready d path s.maxRecordSize.toNat) (tight : c.Tight d)
    (past : Past history d) (payload : Payload) (fault : Option Fault) :
    d.Advances (c.write d payload fault).2.2 ∧ (c.write d payload fault).2.2.Sound ∧
      (c.write d payload fault).2.1.Accounts ((c.write d payload fault).2.2 :: d :: history) path
        s.maxRecordSize.toNat (c.write d payload fault).2.2 := by
  have plain : d.Advances (c.write d payload).2.2 ∧ (c.write d payload).2.2.Sound ∧
      (c.write d payload).2.1.Accounts ((c.write d payload).2.2 :: d :: history) path
        s.maxRecordSize.toNat (c.write d payload).2.2 := by
    rw [write_eq_append]
    cases allowed : Frame.inBounds c.maxRecordSize payload.length with
    | false =>
      rw [append_refused tight.writes allowed]
      exact ⟨.refl d, past.sound, ready.accounts tight past.sound (by simp) d⟩
    | true =>
      rw [ready.limit] at allowed
      obtain ⟨c', d', appended, ready', tight', advances, sound', -⟩ :=
        append_ready ready tight past.sound (FileLog.Binding.fits_of_inBounds allowed)
      rw [appended]
      exact ⟨advances, sound', ready'.accounts tight' sound' (by simp) d'⟩
  cases fault with
  | none => exact plain
  | some fault =>
    rcases write_failing tight.writes payload fault with same | ⟨-, cause, c', d', failed, left⟩
    · rw [same]
      exact plain
    · rw [failed]
      obtain ⟨advances, sound'⟩ := left.advances past.sound
      exact ⟨advances, sound', left.accounts ready tight past⟩

/-- A refused payload leaves the records of the file alone, unless the failure comes behind its frame. -/
theorem write_refused (ready : c.Ready d path s.maxRecordSize.toNat) (tight : c.Tight d)
    (sound : d.Sound) {payload : Payload} {fault : Option Fault} {failure : Failure} {c' : Connection}
    {d' : Disk} (refused : c.write d payload fault = (.error failure, c', d')) :
    intact s.maxRecordSize.toNat (d'.bytesAt path) =
        intact s.maxRecordSize.toNat (d.bytesAt path) ∨
      (∃ cause, fault.bind Fault.late? = some cause ∧ failure = .disk cause) ∧
        Fits s.maxRecordSize.toNat payload ∧
        d'.bytesAt? path = some (d.bytes c.file ++ Frame.encode payload) := by
  have plain : ∀ {failure : Failure} {c' d'}, c.write d payload = (.error failure, c', d') → d' = d := by
    intro failure c' d' refused
    rw [write_eq_append] at refused
    split at refused <;> cases refused
    rfl
  cases fault with
  | none => exact .inl (by rw [plain refused])
  | some fault =>
    rcases write_failing tight.writes payload fault with same | ⟨allowed, cause, _, _, failed, left⟩
    · rw [same] at refused
      exact .inl (by rw [plain refused])
    · rw [failed] at refused
      cases refused
      rw [ready.limit] at allowed
      have fits := FileLog.Binding.fits_of_inBounds allowed
      rcases left.late with early | late
      · exact .inl (left.intact early ready tight sound fits)
      · exact .inr ⟨⟨cause, late, rfl⟩, fits, left.bytesAt? (by simp [late]) ready sound⟩

end Connection

namespace FileLog.Binding

variable {history : List Disk} {s : Settings} {b : Binding} {d : Disk}

/-- What is left of a binding whose path was not opened. -/
def unopened (b : Binding) (d : Disk) : Binding :=
  { b.discardStale d with connection := none, remembered := none }

theorem grounded_unopened (history : List Disk) (s : Settings) (b : Binding) (d : Disk) :
    (b.unopened d).Grounded history s :=
  ⟨fun _ held => (by cases held), fun _ kept => (by cases kept)⟩

/-- A fault breaks off the opening of a writer, or does not concern it. -/
theorem writer_failing (b : Binding) (s : Settings) (d : Disk) (fault : Option Connection.Fault) :
    b.writer s d fault = b.writer s d ∨
    ∃ cause d', b.writer s d fault = (.error (.disk cause), b.unopened d, d') ∧
      Connection.Unfinished s b.path (b.discardStale d).remembered d d' := by
  by_cases held : ∃ c, (b.discardStale d).connection = some c ∧ c.mode = .write
  · obtain ⟨c, left, writes⟩ := held
    left
    unfold writer
    simp only [dropReader_of_writes left writes, left]
  · have dropped := @dropReader_of_not_writes (b.discardStale d) fun c left writes =>
      held ⟨c, left, writes⟩
    unfold writer
    simp only [dropped, path_discardStale]
    rcases Connection.openToWrite_failing s b.path (b.discardStale d).remembered d fault with
      same | ⟨cause, d', broken, left⟩
    · exact .inl (by rw [same])
    · exact .inr ⟨cause, d', by rw [broken]; simp [unopened], left⟩

/-- What the connection that is held has overlooked. -/
def overlooked (b : Binding) : List Fingerprint := (b.connection.map Connection.overlooked).getD []

theorem Grounded.ruledOut_overlooked (h : b.Grounded history s) {f : Fingerprint}
    (inside : f ∈ b.overlooked) : Disk.ruledOut f ∈ history := by
  unfold overlooked at inside
  cases held : b.connection with
  | none => simp [held] at inside
  | some c =>
    rw [held] at inside
    exact (h.held c held).ruledOut_overlooked inside

/-- The log describes files, or what it was taken from is not on the disk any more. -/
structure Accounts (history : List Disk) (s : Settings) (d : Disk) (b : Binding) : Prop where
  grounded : b.Grounded (history ++ b.overlooked.map Disk.ruledOut) s
  behind : ∀ f ∈ b.overlooked, d.Behind f

theorem accounts_unopened (history : List Disk) (s : Settings) (b : Binding) (d d' : Disk) :
    (b.unopened d).Accounts history s d' :=
  ⟨grounded_unopened _ s b d, fun _ inside => (by cases inside)⟩

theorem accounts_of_connection {c : Connection} (held : b.connection = some c)
    (kept : ∀ x, b.remembered = some x → x.Known history s.maxRecordSize.toNat)
    (accounts : c.Accounts history b.path s.maxRecordSize.toNat d) : b.Accounts history s d := by
  have same : b.overlooked = c.overlooked := by rw [overlooked, held]; rfl
  constructor
  · rw [same]
    refine ⟨fun c' held' => ?_, fun x remembered =>
      (kept x remembered).mono (List.subset_append_left _ _)⟩
    rw [held] at held'
    cases held'
    exact accounts.grounded
  · rw [same]
    exact accounts.behind

/-- A payload is written on a disk that comes from the one before, and the log accounts for what it
holds, whatever fails. -/
theorem Grounded.store_accounts (h : b.Grounded history s) (past : Past history d)
    (payload : Payload) (fault : Option Connection.Fault) :
    (d.Advances (b.writer s d fault).2.2 ∧ (b.writer s d fault).2.2.Sound) ∧
    ((b.writer s d fault).2.2.Advances (b.store s d payload fault).2.2 ∧
      (b.store s d payload fault).2.2.Sound) ∧
    (b.store s d payload fault).2.1.Accounts
      ((b.store s d payload fault).2.2 :: (b.writer s d fault).2.2 :: history) s
      (b.store s d payload fault).2.2 := by
  rw [store_eq_write]
  rcases writer_failing b s d fault with same | ⟨cause, d', broken, left⟩
  · rw [same]
    rcases h.writer_cases past with ⟨fault, d', opened, refused⟩ |
        ⟨id, d₁, c, b', d', opened, writer, held, named, kept, ready, tight, advances, sound, bytes⟩
    · have advances := past.sound.advances_openPrepared s b.path
      have sound := past.sound.openPrepared s b.path
      rw [opened] at advances sound
      rw [refused]
      exact ⟨⟨advances, sound⟩, ⟨.refl _, sound⟩, accounts_unopened _ s b d d'⟩
    · rw [writer]
      dsimp only
      obtain ⟨advances', sound', accounts⟩ :=
        Connection.write_accounts ready tight (past.advance advances sound) payload fault
      refine ⟨⟨advances, sound⟩, ⟨advances', sound'⟩, accounts_of_connection rfl
        (fun x remembered => (kept x remembered).mono ?_) (named ▸ accounts)⟩
      exact List.subset_cons_of_subset _ (List.subset_cons_self _ _)
  · rw [broken]
    obtain ⟨advances, sound⟩ := left.advances past.sound
    exact ⟨⟨advances, sound⟩, ⟨.refl _, sound⟩, accounts_unopened _ s b d d'⟩

/-- A payload that is refused leaves the records at the path alone, or stands behind them whole. -/
theorem Grounded.store_refused (h : b.Grounded history s) (past : Past history d)
    (steady : d.Steady s b.path) {payload : Payload} {fault : Option Connection.Fault}
    {failure : Failure} {b' : Binding} {d' : Disk}
    (refused : b.store s d payload fault = (.error failure, b', d')) :
    intact s.maxRecordSize.toNat (d'.bytesAt b.path) =
        intact s.maxRecordSize.toNat (d.bytesAt b.path) ∨
      (∃ cause, fault.bind Connection.Fault.late? = some cause ∧ failure = .disk cause) ∧
        Fits s.maxRecordSize.toNat payload ∧ d'.bytesAt? b.path =
          some (intact s.maxRecordSize.toNat (d.bytesAt b.path) ++ Frame.encode payload) := by
  rw [store_eq_write] at refused
  rcases writer_failing b s d fault with same | ⟨cause, d₁, broken, left⟩
  · rw [same] at refused
    rcases h.writer_cases past with ⟨cause, d₁, opened, unopened⟩ |
        ⟨id, d₀, c, b₁, d₁, opened, writer, -, -, -, ready, tight, -, sound, bytes⟩
    · obtain ⟨before, after, -⟩ := Disk.missing_of_openPrepared opened
      rw [unopened] at refused
      obtain rfl : d₁ = d' := congrArg (·.2.2) refused
      rw [Disk.bytesAt, Disk.bytesAt, before, after]
      exact .inl rfl
    · rw [steady.bytesAt past.sound] at bytes
      rw [writer] at refused
      dsimp only at refused
      cases written : c.write d₁ payload fault with
      | mk result rest =>
        obtain ⟨c', d₂⟩ := rest
        rw [written] at refused
        cases result with
        | ok _ => cases refused
        | error failure' =>
          cases refused
          have file : d₁.bytes c.file = intact s.maxRecordSize.toNat (d.bytesAt b.path) :=
            Option.some.inj (ready.bytesAt?.symm.trans bytes)
          rcases Connection.write_refused ready tight sound written with alone | ⟨late, fits, stored⟩
          · left
            rw [alone, Disk.bytesAt, bytes, Option.getD_some, Frame.intact_intact]
          · exact .inr ⟨late, fits, by rw [stored, file]⟩
  · rw [broken] at refused
    obtain rfl : d₁ = d' := congrArg (·.2.2) refused
    exact .inl (left.intact past (h.discardStale d).kept steady)

end FileLog.Binding
end EventLog
