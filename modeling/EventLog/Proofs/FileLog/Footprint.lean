import EventLog.Proofs.Disk.Footprint
import EventLog.Proofs.Session

/-! What each request may do to a disk. Main statement: a request leads from one disk to the next by
some of the changes that it may make, in their order. -/
namespace EventLog

open Disk (Past Change Confined confined_of_eq)
open EventLog.Frame (Payload Fits IsIntact)

variable {history : List Disk} {s : Settings} {path : String} {d : Disk}

namespace Disk

theorem confined_openPrepared (s : Settings) (d : Disk) (path : String) :
    Confined s path [.parents, .create] d (d.openPrepared s path).2 := by
  have made : Confined s path [.parents] d (d.prepare s path).2 := by
    unfold prepare
    by_cases asked : s.createParents = true
    · rw [if_pos asked]
      exact (Change.Leads.parents asked).confined
    · rw [if_neg asked]
      exact confined_of_eq rfl
  unfold openPrepared
  cases prepared : d.prepare s path with
  | mk result d₁ =>
    rw [prepared] at made
    cases result with
    | error fault => exact made.append (confined_of_eq rfl)
    | ok _ =>
      refine made.append ?_
      dsimp only
      cases opened : d₁.openForAppending path with
      | mk result d₂ =>
        cases result with
        | error fault => exact confined_of_eq (openForAppending_error opened)
        | ok id =>
          obtain ⟨place, reaches, ⟨-, rfl⟩ | ⟨free, -, rfl⟩⟩ := reaches_of_openForAppending opened
          · exact confined_of_eq rfl
          · exact (Change.Leads.create reaches free).confined

theorem confined_removeFile (s : Settings) (d : Disk) (path : String) :
    Confined s path [.remove] d (d.removeFile path).2 := by
  unfold removeFile
  split
  · exact confined_of_eq rfl
  · exact confined_of_eq rfl
  · rename_i trail name id spotted
    split
    · exact confined_of_eq rfl
    · rename_i unslashed
      cases parsed : Route.parse path with
      | error fault => simp [spot, parsed, Bind.bind, Except.bind] at spotted
      | ok route =>
        simp only [spot, parsed, Bind.bind, Except.bind] at spotted
        obtain ⟨rfl, -⟩ := Route.parse_eq_read parsed
        have reaches := reaches_of_walk parsed (by simpa [Route.read] using unslashed) spotted
        exact (Change.Leads.remove reaches (found_of_walk spotted).symm).confined
  · exact confined_of_eq rfl

end Disk

namespace Connection

variable {c : Connection}

theorem confined_repair (h : c.Ready d path s.maxRecordSize.toNat) :
    Confined s path [.cut] d (c.repair d).2 := by
  have longest := Frame.isIntact_intact s.maxRecordSize.toNat (d.bytes c.file)
  unfold repair
  by_cases damaged : c.index.stop < (d.bytes c.file).length
  · rw [if_pos damaged, h.stop]
    exact (Change.Leads.cut h.found longest).confined
  · rw [if_neg damaged]
    exact confined_of_eq rfl

theorem confined_openToWrite {remembered : Option Index} (past : Past history d)
    (known : ∀ x ∈ remembered, x.Known history s.maxRecordSize.toNat) :
    Confined s path [.parents, .create, .cut] d (openToWrite s path remembered d).2 := by
  have made := Disk.confined_openPrepared s d path
  rw [openToWrite_of_known past known, openToWrite_eq_repair]
  cases opened : d.openPrepared s path with
  | mk result d₁ =>
    rw [opened] at made
    cases result with
    | error fault => exact made.append (confined_of_eq rfl)
    | ok id =>
      have ready := @ready_attach _ s _ _ (Disk.lookup_of_openPrepared opened) .write
      exact made.append (confined_repair ready)

theorem confined_append (h : c.Ready d path s.maxRecordSize.toNat) {payload : Payload} {n : Nat}
    {c' : Connection} {d' : Disk} (appended : c.append d payload = .ok (n, c', d')) :
    Confined s path [.append payload] d d' := by
  obtain ⟨allowed, -, rfl⟩ := eq_of_append appended
  have fits : Fits s.maxRecordSize.toNat payload :=
    FileLog.Binding.fits_of_inBounds (by rw [← h.limit]; exact allowed)
  exact (Change.Leads.append h.found fits).confined

end Connection

namespace FileLog

namespace Binding

variable {b : Binding}

@[simp] theorem mode_discardStale (b : Binding) (d : Disk) : (b.discardStale d).mode = b.mode := by
  have terms := b.terms_discardStale d
  simp only [Binding.terms, Prod.mk.injEq] at terms
  obtain ⟨-, readOnly, disposed⟩ := terms
  rw [Binding.mode, Binding.mode, readOnly, disposed]

/-- A log that takes no events opens its file for reading. -/
theorem snd_connect_of_reads (reads : b.mode = .read) (s : Settings) (d : Disk) :
    (b.connect s d).2 = d := by
  unfold connect
  dsimp only
  split
  · rfl
  · rw [mode_discardStale, reads]
    dsimp only
    split <;> rfl

theorem Grounded.confined_connect (h : b.Grounded history s) (past : Past history d) :
    Confined s b.path [.parents, .create, .cut] d (b.connect s d).2 := by
  have opened := @Connection.confined_openToWrite history s b.path d _ past (h.discardStale d).kept
  cases mode : b.mode with
  | read => exact confined_of_eq (snd_connect_of_reads mode s d)
  | write =>
    unfold connect
    dsimp only
    split
    · exact confined_of_eq rfl
    · rw [mode_discardStale, mode, path_discardStale]
      dsimp only
      split <;> simp_all

theorem Grounded.confined_store (h : b.Grounded history s) (past : Past history d)
    (payload : Payload) :
    Confined s b.path [.parents, .create, .cut, .append payload] d (b.store s d payload).2.2 := by
  have opened : Confined s b.path [.parents, .create, .cut] d (b.writer s d).2.2 := by
    have dropped : (b.discardStale d).dropReader.path = b.path ∧
        (b.discardStale d).dropReader.remembered = (b.discardStale d).remembered := by
      unfold dropReader
      split <;> simp
    have opening := @Connection.confined_openToWrite history s b.path d _ past (h.discardStale d).kept
    unfold writer
    dsimp only
    rw [dropped.1, dropped.2]
    split
    · exact confined_of_eq rfl
    · split <;> simp_all
  rw [store_eq]
  rcases h.writer_cases past with ⟨fault, d', -, refused⟩ |
      ⟨id, d₁, c, b', d', -, written, -, -, -, ready, -⟩
  · rw [refused] at opened ⊢
    exact opened.append (confined_of_eq rfl)
  · rw [written] at opened ⊢
    dsimp only at opened ⊢
    refine opened.append ?_
    split
    · exact confined_of_eq rfl
    · rename_i appended
      exact Connection.confined_append ready appended

end Binding

variable {log : FileLog} {b : Binding}

/-- The log takes events: it points to a file, for writing, and was not disposed. -/
def writes (log : FileLog) : Bool := log.binding.any (·.mode = .write)

/-- What a request may do to the disk at the path of the log. -/
def changes (log : FileLog) : Request → List Change
  | .connect => if log.writes then [.parents, .create, .cut] else []
  | .append e =>
    match log.writes, log.codec.encode e with
    | true, .ok payload => [.parents, .create, .cut, .append payload]
    | _, _ => []
  | .delete => [.remove]
  | _ => []

theorem remove_notMem_changes (log : FileLog) {r : Request} (keeps : r ≠ .delete) :
    Change.remove ∉ log.changes r := by
  cases r with
  | delete => exact absurd rfl keeps
  | connect => cases writes : log.writes <;> simp [changes, writes]
  | append e =>
    cases writes : log.writes <;> cases encoded : log.codec.encode e <;>
      simp [changes, writes, encoded]
  | _ => simp [changes]

theorem changes_of_not_writes {log : FileLog} (closed : log.writes = false) {r : Request}
    (keeps : r ≠ .delete) : log.changes r = [] := by
  cases r with
  | delete => exact absurd rfl keeps
  | _ => simp [changes, closed]

theorem mode_eq_read_iff : b.mode = .read ↔ (b.readOnly || b.disposed) = true := by
  unfold Binding.mode
  cases b.readOnly || b.disposed <;> simp

theorem Grounded.confined_append (h : log.Grounded history) (past : Past history d)
    (bound : log.binding = some b) (e : Event) :
    Confined log.settings b.path (log.changes (.append e)) d (log.append d e).2.2 := by
  unfold FileLog.append
  rw [bound]
  dsimp only
  cases mode : b.mode with
  | read =>
    rw [if_pos (mode_eq_read_iff.1 mode)]
    exact confined_of_eq rfl
  | write =>
    have takes : ¬ (b.readOnly || b.disposed) = true := by
      rw [← mode_eq_read_iff, mode]
      simp
    have writes : log.writes = true := by simp [FileLog.writes, bound, mode]
    rw [if_neg takes]
    cases encoded : log.codec.encode e with
    | error failure => exact confined_of_eq rfl
    | ok payload =>
      have stored := (h b bound).confined_store past payload
      simpa [changes, writes, encoded] using stored

theorem confined_delete (bound : log.binding = some b) (d : Disk) :
    Confined log.settings b.path [.remove] d (log.delete d).2.2 := by
  rw [disk_delete bound]
  exact Disk.confined_removeFile log.settings d b.path

/-- A request changes the disk at the path of the log, and there no more than it may. -/
theorem Grounded.confined_serve (h : log.Grounded history) (past : Past history d)
    (bound : log.binding = some b) (r : Request) :
    Confined log.settings b.path (log.changes r) d (log.serve d r).2.2 := by
  cases r with
  | connect =>
    have connected : (log.serve d .connect).2.2 = (b.connect log.settings d).2 := by
      simp [FileLog.serve, FileLog.connect, bound]
    have allowed : log.changes .connect =
        if b.mode = .write then [.parents, .create, .cut] else [] := by
      simp [changes, writes, bound]
    rw [connected, allowed]
    cases mode : b.mode with
    | read => exact confined_of_eq (Binding.snd_connect_of_reads mode _ d)
    | write => exact (h b bound).confined_connect past
  | append e => exact h.confined_append past bound e
  | delete => exact confined_delete bound d
  | ask q => exact confined_of_eq rfl
  | pointTo path readOnly => exact confined_of_eq rfl
  | close => exact confined_of_eq rfl
  | flush => exact confined_of_eq rfl
  | dispose => exact confined_of_eq rfl

/-- A log that points to no file leaves the disk alone. -/
theorem disk_serve_of_unbound (unbound : log.binding = none) (d : Disk) (r : Request) :
    (log.serve d r).2.2 = d := by
  cases r with
  | connect => simp [serve, FileLog.connect, unbound]
  | append e => simp [serve, FileLog.append, unbound]
  | delete => simp [serve, FileLog.delete, unbound]
  | _ => rfl

end FileLog
end EventLog
