import EventLog.Proofs.Command.Diagnostics
import EventLog.Proofs.FileLog.Footprint
import EventLog.Proofs.Session.Reading
import Mathlib.Data.List.Basic

/-! What a session leaves alone. Queries, closing, disposing and pointing change nothing on the disk,
and neither does a log that takes no events. Main statement: all else that a log does happens at its
path, whatever was done before, and the commands that only read change nothing and succeed. -/
namespace EventLog

open Disk (Past Change Confined Changes)

namespace Disk

variable {s : Settings} {path : String} {all : List Change} {d d' : Disk}

/-- What is not at the path stays as it is: files, names, and all that could be named anew but the
file at the path and the directories on the way to it. -/
structure Spares (s : Settings) (path : String) (removes : Bool) (d d' : Disk) : Prop where
  files : ∀ id < d.files.length,
    d'.file id = d.file id ∨ removes = false ∧ d'.lookup path = .ok (.file id)
  names : ∀ place e, d.find? place = some e →
    d'.find? place = some e ∨ removes = true ∧ d'.Reaches path place
  fresh : ∀ place e, d'.find? place = some e → d.find? place = some e ∨
    ((∃ id, e = .directory id) ∧ s.createParents = true ∧ d'.OnTheWay path place) ∨
      d'.Reaches path place

theorem Confined.spares (h : Confined s path all d d') (kept : .remove ∉ all) :
    d.Spares s path false d' where
  files id old := by
    obtain ⟨cs, some, changes⟩ := h
    rcases changes.file (fun removed => kept (some.subset removed)) old with same | there
    · exact .inl same
    · exact .inr ⟨rfl, there⟩
  names place e there := by
    obtain ⟨cs, some, changes⟩ := h
    rcases changes.keeps there with stays | ⟨removed, -⟩
    · exact .inl stays
    · exact absurd (some.subset removed) kept
  fresh place e there := by
    obtain ⟨cs, some, changes⟩ := h
    exact changes.fresh there

/-- Removing the file at a path changes no file. -/
theorem Confined.spares_remove (h : Confined s path [.remove] d d') : d.Spares s path true d' where
  files id old := by
    obtain ⟨cs, some, changes⟩ := h
    rcases List.sublist_singleton.1 some with rfl | rfl
    · cases changes
      exact .inl rfl
    · obtain _ | ⟨first, rest⟩ := changes
      cases first
      cases rest
      exact .inl rfl
  names place e there := by
    obtain ⟨cs, some, changes⟩ := h
    exact (changes.keeps there).imp_right fun ⟨_, reaches⟩ => ⟨rfl, reaches⟩
  fresh place e there := by
    obtain ⟨cs, some, changes⟩ := h
    exact changes.fresh there

end Disk

/-- A request that needs no writer and removes nothing. -/
def Request.onlyReads : Request → Bool
  | .connect | .append _ | .delete => false
  | _ => true

namespace Command

/-- A command that does not write shows what it found, and always can. -/
theorem run_of_reads {arguments : List String} {v : Invocation}
    (parsed : parse? arguments = some (.run v)) (reads : v.action.writes = false)
    (environment : String → Option String) (now : Int64) (d : Disk)
    (emitted : List (Int64 × Trace.Notice)) :
    (run arguments environment now d emitted).1.exit = 0 ∧
      (run arguments environment now d emitted).2 = d := by
  obtain ⟨stderr, ran⟩ := run_of_parsed parsed environment now d emitted
  rw [ran]
  dsimp only
  unfold Invocation.run
  cases action : v.action with
  | append severity message arguments cause => simp [action, Action.writes] at reads
  | delete => simp [action, Action.writes] at reads
  | _ => exact ⟨rfl, rfl⟩

end Command

namespace Session

variable {ι : Type} [DecidableEq ι]

/-- After any honest run, a request of a log changes nothing on the disk, or makes some of the changes
that it may make, at the path of the log and in their order. -/
theorem step_confined {d : Disk} (sound : d.Sound) {codecs : ι → Codec} {settings : ι → Settings}
    {actions : List (Action ι)} (honest : (start d codecs settings).Honest actions)
    {s : Session ι} (reached : (start d codecs settings).run actions = s) (i : ι) :
    (∀ r, r.onlyReads = true ∨ (s.logs i).writes = false ∧ r ≠ .delete ∨
        (s.logs i).binding = none → (s.step (.request i r)).disk = s.disk) ∧
      (∀ b, (s.logs i).binding = some b → ∀ r,
        Confined (settings i) b.path ((s.logs i).changes r) s.disk (s.step (.request i r)).disk ∧
          s.disk.Spares (settings i) b.path (decide (r = .delete)) (s.step (.request i r)).disk) ∧
      ∀ arguments environment now d' v, Command.parse? arguments = some (.run v) →
        v.action.writes = false → ∀ emitted,
          (Command.run arguments environment now d' emitted).1.exit = 0 ∧
            (Command.run arguments environment now d' emitted).2 = d' := by
  obtain ⟨history, grounded⟩ := grounded_run sound honest
  rw [reached] at grounded
  have setting : (s.logs i).settings = settings i := by
    have kept := ((start d codecs settings).settings_run actions i).2
    rwa [reached] at kept
  have confined : ∀ b, (s.logs i).binding = some b → ∀ r,
      Confined (settings i) b.path ((s.logs i).changes r) s.disk (s.step (.request i r)).disk := by
    intro b bound r
    rw [← setting]
    exact (grounded.logs i).confined_serve grounded.past bound r
  refine ⟨fun r quiet => ?_, fun b bound r => ⟨confined b bound r, ?_⟩, ?_⟩
  · cases bound : (s.logs i).binding with
    | none => exact (s.logs i).disk_serve_of_unbound bound s.disk r
    | some b =>
      rcases quiet with reads | ⟨closed, keeps⟩ | unbound
      · cases r with
        | connect => cases reads
        | append e => cases reads
        | delete => cases reads
        | _ => rfl
      · have nothing := confined b bound r
        rw [FileLog.changes_of_not_writes closed keeps] at nothing
        exact nothing.eq_of_nil
      · rw [bound] at unbound
        cases unbound
  · by_cases deletes : r = .delete
    · subst deletes
      exact (confined b bound .delete).spares_remove
    · rw [decide_eq_false deletes]
      exact (confined b bound r).spares ((s.logs i).remove_notMem_changes deletes)
  · intro arguments environment now d' v parsed reads emitted
    exact Command.run_of_reads parsed reads environment now d' emitted

/-- After an overwriting from outside, a query leaves the disk alone, an event goes to the file that
was overwritten, and so does a command that counts the records. -/
theorem step_confined_overwriting :
    ((twoLogs.run overwriting).step (.request false (.ask .size))).disk =
        (twoLogs.run overwriting).disk ∧
      Confined { maxRecordSize := 30 } "f"
        [.parents, .create, .cut, .append (Compact.encode shortEvent)]
        (twoLogs.run overwriting).disk
        ((twoLogs.run overwriting).step (.request false (.append shortEvent))).disk ∧
      (Command.run ["-f", "f", "size"] (fun _ => none) 0 (twoLogs.run overwriting).disk).1.exit =
        0 := by
  obtain ⟨quiet, confined, reads⟩ :=
    step_confined Disk.sound_empty honest_overwriting rfl false
  obtain ⟨b, bound, path⟩ : ∃ b, ((twoLogs.run overwriting).logs false).binding = some b ∧
      b.path = "f" := ⟨_, rfl, by decide +kernel⟩
  have appended : Confined { maxRecordSize := 30 } b.path
      (((twoLogs.run overwriting).logs false).changes (.append shortEvent))
      (twoLogs.run overwriting).disk
      ((twoLogs.run overwriting).step (.request false (.append shortEvent))).disk :=
    (confined b bound (.append shortEvent)).1
  have allowed : ((twoLogs.run overwriting).logs false).changes (.append shortEvent) =
      [.parents, .create, .cut, .append (Compact.encode shortEvent)] := by decide +kernel
  rw [allowed, path] at appended
  have parsed : Command.parse? ["-f", "f", "size"] =
      some (.run { file := "f", action := .size }) := by decide +kernel
  exact ⟨quiet _ (.inl rfl), appended, (reads _ _ _ _ _ parsed rfl _).1⟩

end Session
end EventLog
