import EventLog.Proofs.Command.Diagnostics
import EventLog.Proofs.FileLog.Footprint
import EventLog.Proofs.Session.Reading
import Mathlib.Data.List.Basic

/-! What becomes of records. Logs and command lines of any kind use one disk, in any order, with
changes from outside that leave a file alone. Main statement: the file is a row of records at any
time, and from then on loses none of them but from one on that is too long for a later writer. -/
namespace EventLog

open Disk (Past Change)
open EventLog.Frame (Payload Fits join)

namespace Command

/-- The log that a command line changes something with, and the request for it. -/
def asked? (arguments : List String) (environment : String → Option String) (now : Int64) :
    Option (FileLog × EventLog.Request) :=
  match parse? arguments with
  | some (.run v) =>
    let log := v.log (Settings.ofEnvironment environment)
    match v.action with
    | .append severity message arguments cause =>
      some (log, .append { severity, message, arguments, cause, time := now })
    | .delete => some (log, .delete)
    | _ => none
  | _ => none

/-- A command line does to the disk what it asks of its log. -/
theorem snd_run (arguments : List String) (environment : String → Option String) (now : Int64)
    (d : Disk) (emitted : List (Int64 × Trace.Notice)) :
    (run arguments environment now d emitted).2 = match asked? arguments environment now with
      | some (log, r) => (log.serve d r).2.2
      | none => d := by
  unfold asked?
  cases parsed : parse? arguments with
  | none => simp only [run, parsed]
  | some request =>
    cases request with
    | run v =>
      obtain ⟨stderr, ran⟩ := run_of_parsed parsed environment now d emitted
      rw [ran]
      dsimp only
      unfold Invocation.run
      cases v.action with
      | append severity message arguments cause =>
        dsimp only
        split <;> rename_i answer <;> simp [FileLog.serve, FileLog.flush, answer]
      | delete =>
        dsimp only
        split <;> rename_i answer <;> simp [FileLog.serve, answer]
      | _ => rfl
    | _ => simp only [run, parsed]

theorem grounded_of_asked? {arguments : List String} {environment : String → Option String}
    {now : Int64} {log : FileLog} {r : EventLog.Request}
    (asked : asked? arguments environment now = some (log, r)) (history : List Disk) :
    log.Grounded history := by
  unfold asked? at asked
  split at asked
  · rename_i v parsed
    have new : log = v.log (Settings.ofEnvironment environment) := by
      dsimp only at asked
      split at asked <;> cases asked <;> rfl
    rw [new]
    exact FileLog.grounded_pointTo history _ _ _
  · cases asked

end Command

/-- One use of a disk: by a log, from outside, or by a command line. -/
inductive Use (ι : Type)
  | act (a : Action ι)
  | command (arguments : List String) (environment : String → Option String) (now : Int64)
      (emitted : List (Int64 × Trace.Notice) := [])

/-- The use is no deletion, and none from outside. -/
def Use.Keeps {ι : Type} : Use ι → Prop
  | .act (.request _ r) => r ≠ .delete
  | .act (.edit _) => False
  | .command arguments environment now _ =>
    ∀ log, Command.asked? arguments environment now ≠ some (log, .delete)

namespace Session

variable {ι : Type} [DecidableEq ι] {history : List Disk} {s : Session ι} {u : Use ι} {log : FileLog}
  {r : Request} {id : Nat} {stored : List Payload}

def use (s : Session ι) : Use ι → Session ι
  | .act a => s.step a
  | .command arguments environment now emitted =>
    ⟨(Command.run arguments environment now s.disk emitted).2, s.logs⟩

def uses (s : Session ι) (all : List (Use ι)) : Session ι := all.foldl use s

/-- The log that may change the disk, and the request for which it may. -/
def asked? (s : Session ι) : Use ι → Option (FileLog × Request)
  | .act (.request i r) => some (s.logs i, r)
  | .act (.edit _) => none
  | .command arguments environment now _ => Command.asked? arguments environment now

theorem disk_use_of_asked (asked : s.asked? u = some (log, r)) :
    (s.use u).disk = (log.serve s.disk r).2.2 := by
  cases u with
  | act a =>
    cases a with
    | request i r' =>
      cases asked
      rfl
    | edit e => cases asked
  | command arguments environment now emitted =>
    simp only [use, Command.snd_run]
    rw [show Command.asked? arguments environment now = _ from asked]

/-- What is asked of no log is a change from outside, or changes nothing. -/
theorem disk_use_of_unasked (unasked : s.asked? u = none) :
    (s.use u).disk = s.disk ∨ ∃ e, u = .act (.edit e) := by
  cases u with
  | act a =>
    cases a with
    | request i r' => cases unasked
    | edit e => exact .inr ⟨e, rfl⟩
  | command arguments environment now emitted =>
    left
    simp only [use, Command.snd_run]
    rw [show Command.asked? arguments environment now = _ from unasked]

omit [DecidableEq ι] in
theorem Grounded.asked (h : s.Grounded history) (asked : s.asked? u = some (log, r)) :
    log.Grounded history := by
  cases u with
  | act a =>
    cases a with
    | request i r' =>
      cases asked
      exact h.logs i
    | edit e => cases asked
  | command arguments environment now emitted => exact Command.grounded_of_asked? asked history

/-- Changes from outside leave the bytes of the file alone, and no length and stamp that a file had on
one of these disks or on a later one comes to stand for another file or for other bytes. -/
def Calm (id : Nat) : List Disk → Session ι → List (Use ι) → Prop
  | _, _, [] => True
  | history, s, u :: later => (∀ e, u = .act (.edit e) →
      (s.use u).disk.bytes id = s.disk.bytes id ∧
        ∀ p ∈ (s.use u).disk :: history, p.Agrees (s.use u).disk) ∧
    Calm id ((s.use u).disk :: history) (s.use u) later

/-- No later writer to the file has a maximum below this length. -/
def Admits (id length : Nat) : Session ι → List (Use ι) → Prop
  | _, [] => True
  | s, u :: later => (∀ log r b, s.asked? u = some (log, r) → .cut ∈ log.changes r →
      log.binding = some b → (s.use u).disk.lookup b.path = .ok (.file id) →
        length ≤ log.settings.maxRecordSize.toNat) ∧
    (s.use u).Admits id length later

theorem Grounded.use (h : s.Grounded history)
    (agrees : ∀ e, u = .act (.edit e) →
      ∀ p ∈ (s.use u).disk :: history, p.Agrees (s.use u).disk) :
    (s.use u).Grounded ((s.use u).disk :: history) := by
  cases u with
  | act a =>
    cases a with
    | request i r' => exact h.request i r'
    | edit e => exact h.step (.edit e) (agrees e rfl)
  | command arguments environment now emitted =>
    have advances : s.disk.Advances (s.use (.command arguments environment now emitted)).disk ∧
        (s.use (.command arguments environment now emitted)).disk.Sound := by
      cases asked : s.asked? (.command arguments environment now emitted) with
      | none =>
        rcases disk_use_of_unasked asked with same | ⟨e, edits⟩
        · rw [same]
          exact ⟨.refl _, h.past.sound⟩
        · cases edits
      | some pair =>
        obtain ⟨log, r'⟩ := pair
        rw [disk_use_of_asked asked]
        exact ((h.asked asked).serve h.past r').2
    refine ⟨(h.past.advance advances.1 advances.2).cons, by simp, fun i => ?_⟩
    exact (h.logs i).mono (List.subset_cons_self _ history)

/-- A use of the disk takes from the file no records but from one on that is too long for a writer to
the file. -/
theorem Grounded.use_retains (h : s.Grounded history)
    (calm : ∀ e, u = .act (.edit e) → (s.use u).disk.bytes id = s.disk.bytes id)
    (whole : ∀ p ∈ stored, Fits Frame.capacity p) (row : s.disk.bytes id = join stored) :
    (s.use u).disk.Retains id stored fun p => ∀ log r b, s.asked? u = some (log, r) →
      .cut ∈ log.changes r → log.binding = some b →
        (s.use u).disk.lookup b.path = .ok (.file id) →
          p.length ≤ log.settings.maxRecordSize.toNat := by
  cases asked : s.asked? u with
  | none =>
    refine Disk.retains_of_bytes whole ?_ _
    rcases disk_use_of_unasked asked with same | ⟨e, rfl⟩
    · rw [same, row]
    · rw [calm e rfl, row]
  | some pair =>
    obtain ⟨log, r⟩ := pair
    have disk := disk_use_of_asked asked
    have grounded := h.asked asked
    cases bound : log.binding with
    | none =>
      refine Disk.retains_of_bytes whole ?_ _
      rw [disk, log.disk_serve_of_unbound bound, row]
    | some b =>
      have apart : .cut ∈ log.changes r → .remove ∉ log.changes r := by
        intro cuts
        refine log.remove_notMem_changes ?_
        rintro rfl
        simp [FileLog.changes] at cuts
      have retained := (grounded.confined_serve h.past bound r).retains apart whole row
      rw [← disk] at retained
      exact retained.mono fun p inside short cuts there => short log r b rfl cuts bound there

theorem Grounded.uses_retains (h : s.Grounded history) {later : List (Use ι)}
    (calm : Calm id history s later)
    (whole : ∀ p ∈ stored, Fits Frame.capacity p) (row : s.disk.bytes id = join stored) :
    (s.uses later).disk.Retains id stored fun p => s.Admits id p.length later := by
  induction later generalizing s history stored with
  | nil => exact Disk.retains_of_bytes whole row _
  | cons u rest ih =>
    obtain ⟨left, calm⟩ := calm
    have grounded := h.use fun e edits => (left e edits).2
    have retained := h.use_retains (fun e edits => (left e edits).1) whole row
    exact retained.trans fun kept whole row => ih grounded calm whole row

/-- Names stay where they are until something is deleted. -/
theorem Grounded.use_keeps (h : s.Grounded history) (keeps : u.Keeps) {place : Place}
    {e : Entry} (there : s.disk.find? place = some e) : (s.use u).disk.find? place = some e := by
  cases asked : s.asked? u with
  | none =>
    rcases disk_use_of_unasked asked with same | ⟨e, rfl⟩
    · rw [same, there]
    · exact absurd keeps id
  | some pair =>
    obtain ⟨log, r⟩ := pair
    have kept : r ≠ .delete := by
      rintro rfl
      cases u with
      | act a =>
        cases a with
        | request i r =>
          cases asked
          exact keeps rfl
        | edit e => cases asked
      | command arguments environment now emitted => exact keeps log asked
    rw [disk_use_of_asked asked]
    cases bound : log.binding with
    | none => rw [log.disk_serve_of_unbound bound, there]
    | some b =>
      obtain ⟨cs, some, changes⟩ := (h.asked asked).confined_serve h.past bound r
      rcases changes.keeps there with stays | ⟨removed, -⟩
      · exact stays
      · exact absurd (some.subset removed) (log.remove_notMem_changes kept)

theorem calm_of_append {earlier later : List (Use ι)} (h : Calm id history s (earlier ++ later)) :
    Calm id history s earlier := by
  induction earlier generalizing s history with
  | nil => trivial
  | cons u rest ih => exact ⟨h.1, ih h.2⟩

theorem Grounded.uses (h : s.Grounded history) {earlier later : List (Use ι)}
    (calm : Calm id history s (earlier ++ later)) :
    ∃ more, (s.uses earlier).Grounded more ∧ Calm id more (s.uses earlier) later := by
  induction earlier generalizing s history with
  | nil => exact ⟨history, h, calm⟩
  | cons u rest ih =>
    obtain ⟨left, calm⟩ := calm
    exact ih (h.use fun e edits => (left e edits).2) calm

theorem Grounded.uses_keeps (h : s.Grounded history) {all : List (Use ι)}
    (calm : Calm id history s all) (keeps : ∀ u ∈ all, u.Keeps) {place : Place} {e : Entry}
    (there : s.disk.find? place = some e) : (s.uses all).disk.find? place = some e := by
  induction all generalizing s history with
  | nil => exact there
  | cons u rest ih =>
    obtain ⟨left, calm⟩ := calm
    have grounded := h.use fun e edits => (left e edits).2
    exact ih grounded calm (fun u later => keeps u (List.mem_cons_of_mem _ later))
      (h.use_keeps (keeps u (by simp)) there)

theorem calm_of_noEdits {all : List (Use ι)} (quiet : ∀ u ∈ all, ∀ e, u ≠ .act (.edit e))
    (history : List Disk) (s : Session ι) : Calm id history s all := by
  induction all generalizing s history with
  | nil => trivial
  | cons u rest ih =>
    exact ⟨fun e edits => absurd edits (quiet u (by simp) e),
      ih (fun u later => quiet u (List.mem_cons_of_mem _ later)) _ _⟩

/-- A file that came about after the start, and was never changed from outside, is a row of records.
From then on it keeps the records in front that are not too long for any later writer to it, and its
names unless something is deleted. -/
theorem records_survive {d : Disk} (sound : d.Sound) (distinct : d.Distinct) {codecs : ι → Codec}
    {settings : ι → Settings} (new : d.files.length ≤ id) {earlier later : List (Use ι)}
    (calm : Calm id [d] (start d codecs settings) (earlier ++ later))
    {s : Session ι} (reached : (start d codecs settings).uses earlier = s) :
    ∃ stored, (∀ p ∈ stored, Fits Frame.capacity p) ∧ s.disk.bytes id = join stored ∧
      (s.uses later).disk.Retains id stored (fun p => s.Admits id p.length later) ∧
      ((∀ u ∈ later, u.Keeps) → ∀ place, s.disk.find? place = some (.file id) →
        (s.uses later).disk.find? place = some (.file id)) := by
  have grounded := grounded_start sound distinct codecs settings
  have empty : (start d codecs settings).disk.bytes id = join [] := Disk.bytes_of_beyond new
  obtain ⟨stored, whole, row, -⟩ :=
    grounded.uses_retains (calm_of_append calm) (fun _ inside => (by cases inside)) empty
  obtain ⟨history, grounded', after⟩ := grounded.uses calm
  rw [reached] at row after grounded'
  exact ⟨stored, whole, row, grounded'.uses_retains after whole row,
    fun keeps place there => grounded'.uses_keeps after keeps there⟩

/-- Two logs with different maxima, on an empty disk. -/
def mixed : Session Bool :=
  start {} (fun _ => .compact) fun narrow => { maxRecordSize := if narrow then 5 else 30 }

/-- A record of six bytes in a file that both logs point to. -/
def filled : List (Use Bool) := [
  .act (.request false (.pointTo "f" false)),
  .act (.request true (.pointTo "f" false)),
  .act (.request false (.append shortEvent))]

def sixBytes : String → Option String :=
  fun key => if key = "LOGTAIL_MAX_RECORD_SIZE" then some "6" else none

/-- A command line with a maximum of six bytes leaves the record where it is. -/
theorem records_survive_filled : ∃ kept,
    ((mixed.uses filled).uses
      [.command ["-f", "f", "append", "info", "m"] sixBytes 0]).disk.bytes 0 = join kept ∧
      [Compact.encode shortEvent] <+: kept := by
  have calm : Calm 0 [{}] mixed
      (filled ++ [.command ["-f", "f", "append", "info", "m"] sixBytes 0]) :=
    calm_of_noEdits (by simp [filled]) _ _
  obtain ⟨stored, whole, row, ⟨kept, -, rest, keeps⟩, -⟩ :=
    records_survive Disk.sound_empty Disk.distinct_empty (Nat.zero_le 0) calm rfl
  have six : (Command.asked? ["-f", "f", "append", "info", "m"] sixBytes 0).map
      (fun p => p.1.settings.maxRecordSize.toNat) = some 6 := by decide +kernel
  have record : stored = [Compact.encode shortEvent] := by
    have bytes : (mixed.uses filled).disk.bytes 0 = join [Compact.encode shortEvent] := by
      decide +kernel
    exact Frame.join_injective whole (by decide +kernel) (row.symm.trans bytes)
  refine ⟨kept, rest, keeps _ (record ▸ List.prefix_rfl) ?_⟩
  intro p inside
  rw [List.mem_singleton.1 inside]
  refine ⟨fun log r b asked _ _ _ => ?_, trivial⟩
  have maximum : 6 = log.settings.maxRecordSize.toNat :=
    Option.some.inj (six.symm.trans (congrArg (Option.map _) asked))
  rw [← maximum]
  decide +kernel

/-- An empty copy with the stamp of a file takes its place while a log writes to it. Then both logs write
to the file under another name, and it gets its name back. -/
def swapped : List (Use Bool) := [
  .act (.request false (.pointTo "f" false)),
  .act (.request false .connect),
  .act (.edit (.write "g" [] false)),
  .act (.edit (.restamp "g" 0)),
  .act (.edit (.rename "f" "h")),
  .act (.edit (.rename "g" "f")),
  .act (.request true (.pointTo "h" false)),
  .act (.request true (.append shortEvent)),
  .act (.request false (.append shortEvent)),
  .act (.edit (.rename "h" "f")),
  .act (.request false .close)]

/-- An event that is too long for the other log takes the record with it. A log that took a copy for its
file takes a record with it as well, under one maximum. -/
theorem records_survive_narrow :
    ((((mixed.uses (filled.take 2)).logs false).append (mixed.uses (filled.take 2)).disk
          shortEvent).1 = .ok () ∧
      (mixed.uses filled).disk.bytes 0 = join [Compact.encode shortEvent] ∧
      ((mixed.uses filled).use (.act (.request true (.append shortEvent)))).disk.bytes 0 = []) ∧
    Disk.AlikeAlong use disk twoLogs swapped ∧
      (((twoLogs.uses (swapped.take 7)).logs true).append (twoLogs.uses (swapped.take 7)).disk
          shortEvent).1 = .ok () ∧
      (((twoLogs.uses (swapped.take 8)).logs false).append (twoLogs.uses (swapped.take 8)).disk
          shortEvent).1 = .ok () ∧
      (twoLogs.uses swapped).disk.bytes 0 =
        join [Compact.encode shortEvent, Compact.encode shortEvent] ∧
      ((twoLogs.uses swapped).use (.act (.request false .connect))).disk.bytes 0 =
        join [Compact.encode shortEvent] := by
  decide +kernel

end Session
end EventLog
