import EventLog.Proofs.Session
import Mathlib.Data.List.Induction

/-! Writers that were lost. A log drops a writer when it notices that the file at the path is no
longer what the writer left. Main statement: the log remembers this exactly until it has a writer
again or is pointed elsewhere. -/
namespace EventLog

namespace Connection

theorem mode_of_openToRead {s : Settings} {path : String} {remembered : Option Index} {d : Disk}
    {c : Connection} (h : openToRead s path remembered d = .ok (some c)) : c.mode = .read := by
  unfold openToRead at h
  split at h <;> cases h
  rfl

theorem mode_of_openToWrite {s : Settings} {path : String} {remembered : Option Index} {d d' : Disk}
    {c : Connection} (h : openToWrite s path remembered d = (.ok c, d')) : c.mode = .write := by
  rw [openToWrite_eq_repair] at h
  split at h <;> cases h
  exact mode_repair _ _

theorem mode_append {c c' : Connection} {d d' : Disk} {payload : Frame.Payload} {n : Nat}
    (h : c.append d payload = .ok (n, c', d')) : c'.mode = c.mode := by
  obtain ⟨-, ⟨index, rfl⟩, -⟩ := eq_of_append h
  rfl

end Connection

def Request.isPointTo : Request → Bool
  | .pointTo _ _ => true
  | _ => false

namespace FileLog

namespace Binding

/-- A writer is held. -/
def writing (b : Binding) : Bool := b.connection.any (·.mode = .write)

/-- The writer that is held would be dropped. -/
def losing (b : Binding) (d : Disk) : Bool :=
  b.connection.any fun c => c.mode = .write && c.isStale d

variable {b : Binding} {s : Settings} {d : Disk}

theorem lost_discardStale (b : Binding) (d : Disk) :
    (b.discardStale d).lost = (b.lost || b.losing d) := by
  unfold discardStale losing
  cases held : b.connection with
  | none => simp
  | some c => by_cases stale : c.isStale d <;> simp [stale]

theorem writing_discardStale (b : Binding) (d : Disk) :
    (b.discardStale d).writing = (b.writing && !b.losing d) := by
  unfold discardStale losing writing
  cases held : b.connection with
  | none => simp [held]
  | some c => by_cases stale : c.isStale d <;> simp [stale, held]

/-- After a writer was dropped and while none is held, its loss is remembered. -/
def Remembers (b b' : Binding) (d : Disk) : Prop :=
  b'.lost = ((b.lost || b.losing d) && !b'.writing)

theorem remembers_discardStale (apart : b.lost = true → b.writing = false) (d : Disk) :
    Remembers b (b.discardStale d) d := by
  unfold Remembers
  rw [lost_discardStale, writing_discardStale]
  have losing : b.losing d = true → b.writing = true := by
    unfold Binding.losing writing
    cases b.connection <;> simp_all
  cases lost : b.lost <;> cases writing : b.writing <;> cases loses : b.losing d <;> simp_all

theorem remembers_of_reader {b' : Binding} (lost : b'.lost = (b.lost || b.losing d))
    (reads : b'.writing = false) : Remembers b b' d := by
  simp [Remembers, lost, reads]

theorem remembers_connect (apart : b.lost = true → b.writing = false) :
    Remembers b (b.connect s d).1 d := by
  have discarded := remembers_discardStale apart d
  have lost := lost_discardStale b d
  unfold connect
  cases left : (b.discardStale d).connection with
  | some c => simpa [left] using discarded
  | none =>
    simp only [left, Option.isSome_none, Bool.false_eq_true, if_false]
    cases (b.discardStale d).mode with
    | read =>
      simp only
      split
      · rename_i c opened
        refine remembers_of_reader lost ?_
        cases c with
        | none => rfl
        | some c => simp [writing, Connection.mode_of_openToRead opened]
      · exact remembers_of_reader lost (by simp [writing])
    | write =>
      simp only
      split
      · rename_i c d' opened
        simp [Remembers, writing, Connection.mode_of_openToWrite opened]
      · exact remembers_of_reader lost (by simp [writing])

theorem remembers_lease (apart : b.lost = true → b.writing = false) :
    Remembers b (b.lease s d).2 d := by
  have discarded := remembers_discardStale apart d
  have lost := lost_discardStale b d
  unfold lease
  cases left : (b.discardStale d).connection with
  | some c =>
    by_cases writes : c.mode = .write
    · simpa [left, writes] using discarded
    · simp only [left, writes, if_false]
      exact remembers_of_reader (by simp [release, left, lost]) (by simp [writing])
  | none =>
    simp only [left]
    split
    · exact remembers_of_reader lost (by simp [writing])
    · exact remembers_of_reader lost (by simp [writing])

theorem lost_dropReader (b : Binding) : b.dropReader.lost = b.lost := by
  unfold dropReader
  split <;> rfl

theorem writing_dropReader (b : Binding) : b.dropReader.writing = b.writing := by
  unfold dropReader writing
  cases held : b.connection with
  | none => simp [held]
  | some c => cases mode : c.mode <;> simp [held, mode]

theorem writes_of_dropReader {c : Connection} (held : b.dropReader.connection = some c) :
    c.mode = .write := by
  unfold dropReader at held
  split at held
  · cases held
  · rename_i writes
    rw [held] at writes
    cases mode : c.mode with
    | read => simp [mode] at writes
    | write => rfl

theorem remembers_writer (apart : b.lost = true → b.writing = false) :
    Remembers b (b.writer s d).2.1 d ∧
      ∀ c, (b.writer s d).1 = .ok c → c.mode = .write ∧ (b.writer s d).2.1.connection = some c := by
  have discarded := remembers_discardStale apart d
  have lost := (lost_dropReader (b.discardStale d)).trans (lost_discardStale b d)
  have writing := writing_dropReader (b.discardStale d)
  unfold Binding.writer
  cases left : (b.discardStale d).dropReader.connection with
  | some c =>
    simp only [left]
    refine ⟨?_, fun c' same => ?_⟩
    · rw [Remembers, lost_dropReader, writing]
      exact discarded
    · cases same
      exact ⟨writes_of_dropReader left, rfl⟩
  | none =>
    simp only [left]
    split
    · refine ⟨remembers_of_reader lost (by simp [Binding.writing]), fun c same => ?_⟩
      cases same
    · rename_i c d' opened
      have writes := Connection.mode_of_openToWrite opened
      refine ⟨by simp [Remembers, Binding.writing, writes], fun c' same => ?_⟩
      cases same
      exact ⟨writes, rfl⟩

theorem remembers_store (apart : b.lost = true → b.writing = false) (payload : Frame.Payload) :
    Remembers b (b.store s d payload).2.1 d := by
  obtain ⟨remembers, opened⟩ := @remembers_writer b s d apart
  rw [store_eq]
  cases written : b.writer s d with
  | mk result rest =>
    obtain ⟨b', d'⟩ := rest
    rw [written] at remembers opened
    cases result with
    | error failure => exact remembers
    | ok c =>
      obtain ⟨writes, held⟩ := opened c rfl
      simp only
      cases appended : c.append d' payload with
      | error failure => exact remembers
      | ok stored =>
        obtain ⟨n, c', d''⟩ := stored
        have writes' : c'.mode = .write := (Connection.mode_append appended).trans writes
        have before : b'.writing = true := by
          show Option.any _ b'.connection = true
          rw [show b'.connection = some c from held]
          simp [writes]
        have lost : b'.lost = false := by
          have known : b'.lost = ((b.lost || b.losing d) && !b'.writing) := remembers
          rw [known, before]
          simp
        simp [Remembers, Binding.writing, writes', lost]

end Binding

/-! Requests. -/

def lost (log : FileLog) : Bool := log.binding.any (·.lost)

/-- The log holds a writer. -/
def writing (log : FileLog) : Bool := log.binding.any (·.writing)

/-- The requests that compare a connection with the file at its path before they use it. -/
def checks (log : FileLog) : Request → Bool
  | .connect => true
  | .ask _ => true
  | .append e => (log.binding.any fun b => !(b.readOnly || b.disposed)) && (log.codec.encode e).isOk
  | _ => false

/-- The request makes the log drop a writer: the file at the path is no longer what it left. -/
def drops (log : FileLog) (d : Disk) (r : Request) : Bool :=
  log.checks r && log.binding.any (·.losing d)

/-- A log that remembers a loss holds no writer. -/
def Apart (log : FileLog) : Prop := log.lost = true → log.writing = false

/-- What a log remembers stays true while it holds no writer. -/
theorem eq_and_not_of_apart {lost writing : Bool} (apart : lost = true → writing = false) :
    lost = (lost && !writing) := by
  cases lost with
  | false => rfl
  | true => simp [apart rfl]

variable {codec : Codec} {s : Settings} {b b' : Binding} {d : Disk}

theorem lost_release (b : Binding) : b.release.lost = b.lost := by
  unfold Binding.release
  split <;> rfl

theorem writing_release (b : Binding) : b.release.writing = false := by
  simp [Binding.writing]

theorem serve_ask (log : FileLog) (d : Disk) (q : Query) :
    (log.serve d (.ask q)).2 = (log.asked d, d) := by
  simp [serve, snd_ask]

theorem lost_append (apart : Apart ⟨codec, s, some b⟩) (d : Disk) (e : Event) :
    (FileLog.append ⟨codec, s, some b⟩ d e).2.1.lost =
      ((checks ⟨codec, s, some b⟩ (.append e) && b.losing d || b.lost) &&
        !(FileLog.append ⟨codec, s, some b⟩ d e).2.1.writing) := by
  have kept : b.lost = (b.lost && !b.writing) := eq_and_not_of_apart apart
  by_cases closed : (b.readOnly || b.disposed) = true
  · have unchecked : checks ⟨codec, s, some b⟩ (.append e) = false := by
      simp only [checks, Option.any_some, closed, Bool.not_true, Bool.false_and]
    have same : FileLog.append ⟨codec, s, some b⟩ d e = (.ok (), ⟨codec, s, some b⟩, d) := by
      simp [FileLog.append, closed]
    rw [unchecked, same, Bool.false_and, Bool.false_or]
    exact kept
  · have opened : (b.readOnly || b.disposed) = false := by simpa using closed
    cases encoded : codec.encode e with
    | error failure =>
      have unchecked : checks ⟨codec, s, some b⟩ (.append e) = false := by
        simp [checks, encoded, Except.isOk, Except.toBool]
      have same : FileLog.append ⟨codec, s, some b⟩ d e =
          (.error failure, ⟨codec, s, some b⟩, d) := by simp [FileLog.append, opened, encoded]
      rw [unchecked, same, Bool.false_and, Bool.false_or]
      exact kept
    | ok payload =>
      have checked : checks ⟨codec, s, some b⟩ (.append e) = true := by
        simp only [checks, Option.any_some, opened, encoded]
        rfl
      have stored : (FileLog.append ⟨codec, s, some b⟩ d e).2.1 =
          ⟨codec, s, some (b.store s d payload).2.1⟩ := by
        simp [FileLog.append, opened, encoded]
      rw [checked, stored, Bool.true_and, Bool.or_comm]
      exact Binding.remembers_store apart payload

/-- One request: the loss of a writer is remembered while no writer is held. -/
theorem lost_serve {log : FileLog} (apart : log.Apart) (d : Disk) (r : Request) :
    (log.serve d r).2.1.lost =
      ((log.drops d r || log.lost && !r.isPointTo) && !(log.serve d r).2.1.writing) := by
  obtain ⟨codec, s, binding⟩ := log
  cases binding with
  | none =>
    cases r with
    | ask q =>
      rw [serve_ask]
      rfl
    | _ => simp [serve, drops, lost, pointTo, connect, append, close, flush, dispose, delete]
  | some b =>
    have kept : b.lost = (b.lost && !b.writing) := eq_and_not_of_apart apart
    cases r with
    | pointTo path readOnly => simp [serve, drops, checks, lost, pointTo, Request.isPointTo]
    | connect =>
      have remembers : (b.connect s d).1.lost =
          ((b.lost || b.losing d) && !(b.connect s d).1.writing) :=
        Binding.remembers_connect apart
      simpa [serve, connect, drops, checks, lost, writing, Request.isPointTo, Bool.or_comm]
        using remembers
    | ask q =>
      have remembers : (b.lease s d).2.lost =
          ((b.lost || b.losing d) && !(b.lease s d).2.writing) :=
        Binding.remembers_lease apart
      simpa [serve_ask, asked, drops, checks, lost, writing, Request.isPointTo, Bool.or_comm]
        using remembers
    | append e =>
      have appended := lost_append apart d e
      simpa [serve, drops, lost, Request.isPointTo] using appended
    | close => simp [serve, close, drops, checks, lost, writing, Request.isPointTo, lost_release,
        writing_release]
    | flush => simpa [serve, flush, drops, checks, lost, writing, Request.isPointTo] using kept
    | dispose => simp [serve, dispose, drops, checks, lost, writing, Request.isPointTo, lost_release,
        Binding.writing]
    | delete => simp [serve, delete_eq, drops, checks, lost, writing, Request.isPointTo, lost_release,
        Binding.writing]

end FileLog

/-- The action points a log to a file. -/
def Action.isPointTo {ι : Type} [DecidableEq ι] (i : ι) : Action ι → Bool
  | .request j r => i = j && r.isPointTo
  | .edit _ => false

namespace Session

variable {ι : Type} [DecidableEq ι]

/-- The action makes a log drop a writer. -/
def drops (s : Session ι) (i : ι) : Action ι → Bool
  | .request j r => i = j && (s.logs i).drops s.disk r
  | .edit _ => false

/-- In the run the log dropped a writer, was not pointed to a file since, and held no writer at any
time since. -/
def WriterLost (s : Session ι) (i : ι) (actions : List (Action ι)) : Prop :=
  ∃ earlier a later, actions = earlier ++ a :: later ∧ (s.run earlier).drops i a = true ∧
    (∀ next ∈ later, next.isPointTo i = false) ∧
    ∀ more, more <+: later → ((s.run (earlier ++ a :: more)).logs i).writing = false

theorem lost_step {s : Session ι} {i : ι} (apart : (s.logs i).Apart) (a : Action ι) :
    ((s.step a).logs i).lost = ((s.drops i a || (s.logs i).lost && !a.isPointTo i) &&
      !((s.step a).logs i).writing) := by
  have kept : (s.logs i).lost = ((s.logs i).lost && !(s.logs i).writing) :=
    FileLog.eq_and_not_of_apart apart
  cases a with
  | edit e => simpa [step, drops, Action.isPointTo] using kept
  | request j r =>
    by_cases same : i = j
    · subst same
      simpa [step, serve, drops, Action.isPointTo] using (s.logs i).lost_serve apart s.disk r
    · simpa [step, drops, Action.isPointTo, same] using kept

theorem writerLost_concat (s : Session ι) (i : ι) (actions : List (Action ι)) (a : Action ι) :
    s.WriterLost i (actions ++ [a]) ↔
      ((s.run actions).drops i a = true ∨ s.WriterLost i actions ∧ a.isPointTo i = false) ∧
        ((s.run (actions ++ [a])).logs i).writing = false := by
  constructor
  · rintro ⟨earlier, x, later, parts, drops, elsewhere, unheld⟩
    rcases List.eq_nil_or_concat later with rfl | ⟨later, last, rfl⟩
    · obtain ⟨rfl, last⟩ := List.append_inj' parts rfl
      cases last
      exact ⟨.inl drops, unheld [] (List.prefix_refl _)⟩
    · rw [List.concat_eq_append] at parts elsewhere unheld
      have whole : actions ++ [a] = (earlier ++ x :: later) ++ [last] := by
        rw [parts]
        simp
      obtain ⟨rfl, same⟩ := List.append_inj' whole rfl
      cases same
      refine ⟨.inr ⟨⟨earlier, x, later, rfl, drops, ?_, ?_⟩, elsewhere a (by simp)⟩, ?_⟩
      · exact fun next inside => elsewhere next (List.mem_append_left _ inside)
      · exact fun more front => unheld more (front.trans (List.prefix_append _ _))
      · rw [parts]
        exact unheld _ (List.prefix_refl _)
  · rintro ⟨drops | ⟨⟨earlier, x, later, rfl, drops, elsewhere, unheld⟩, other⟩, free⟩
    · refine ⟨actions, a, [], rfl, drops, by simp, fun more front => ?_⟩
      rw [List.prefix_nil.1 front]
      exact free
    · refine ⟨earlier, x, later ++ [a], by simp, drops, ?_, fun more front => ?_⟩
      · intro next inside
        rcases List.mem_append.1 inside with old | new
        · exact elsewhere next old
        · rw [List.mem_singleton.1 new]
          exact other
      · rcases List.prefix_concat_iff.1 front with rfl | before
        · simpa using free
        · exact unheld more before

/-- A log remembers that it lost a writer exactly when that happened in the run. -/
theorem lost_run {s : Session ι} {i : ι} (start : (s.logs i).lost = false)
    (actions : List (Action ι)) :
    (((s.run actions).logs i).lost = true ↔ s.WriterLost i actions) ∧
      ((s.run actions).logs i).Apart := by
  -- On the last action, since a loss is about the actions that came after it.
  induction actions using List.reverseRecOn with
  | nil =>
    refine ⟨⟨fun lost => ?_, ?_⟩, fun lost => ?_⟩
    · rw [run_nil, start] at lost
      cases lost
    · rintro ⟨earlier, a, later, parts, -⟩
      simp at parts
    · rw [run_nil, start] at lost
      cases lost
  | append_singleton actions a ih =>
    obtain ⟨lost, apart⟩ := ih
    have stepped : (s.run (actions ++ [a])) = (s.run actions).step a := by simp [run_append]
    have flag := lost_step apart a
    rw [← stepped] at flag
    refine ⟨?_, fun loss => ?_⟩
    · rw [writerLost_concat, ← lost, flag]
      simp
    · rw [flag] at loss
      simp at loss
      exact loss.2

end Session
end EventLog
