import EventLog.Proofs.FileLog.Binding
import EventLog.Proofs.Query
import Mathlib.Logic.Function.Basic

/-! Sessions: logs that share a disk, and changes of the disk from outside, in any order. Main
statement: along a run every index that a log keeps describes a file as it was on one of the disks
that the run went through. -/
namespace EventLog

open Disk (Past)

/-- What can be asked for of a log. -/
inductive Request
  | pointTo (path : String) (readOnly : Bool)
  | connect
  | ask (q : Query)
  | append (e : Event)
  | close
  | flush
  | dispose
  | delete
  deriving DecidableEq, Repr

inductive Reply
  | answer (a : Answer)
  | connected (held : Bool)
  | outcome (result : Except Failure Unit)

def FileLog.serve (log : FileLog) (d : Disk) : Request → Reply × FileLog × Disk
  | .pointTo path readOnly => (.outcome (.ok ()), log.pointTo path readOnly, d)
  | .connect =>
    let (held, log, d) := log.connect d
    (.connected held, log, d)
  | .ask q =>
    let (a, log) := log.ask d q
    (.answer a, log, d)
  | .append e =>
    let (result, log, d) := log.append d e
    (.outcome result, log, d)
  | .close => (.outcome (.ok ()), log.close, d)
  | .flush =>
    match log.flush with
    | .ok log => (.outcome (.ok ()), log, d)
    | .error failure => (.outcome (.error failure), log, d)
  | .dispose => (.outcome (.ok ()), log.dispose, d)
  | .delete =>
    let (result, log, d) := log.delete d
    (.outcome result, log, d)

/-- Logs by name, on one disk. -/
structure Session (ι : Type) where
  disk : Disk
  logs : ι → FileLog

inductive Action (ι : Type)
  | request (i : ι) (r : Request)
  | edit (e : Disk.Edit)

namespace Session

variable {ι : Type} [DecidableEq ι]

/-- Logs that point to no file yet. -/
def start (d : Disk) (codecs : ι → Codec) (settings : ι → Settings) : Session ι :=
  ⟨d, fun i => { codec := codecs i, settings := settings i }⟩

/-- The reply to a request, and what the log and the disk become. -/
def serve (s : Session ι) (i : ι) (r : Request) : Reply × FileLog × Disk :=
  (s.logs i).serve s.disk r

def step (s : Session ι) : Action ι → Session ι
  | .request i r => ⟨(s.serve i r).2.2, Function.update s.logs i (s.serve i r).2.1⟩
  | .edit e => ⟨(s.disk.edit e).2, s.logs⟩

def run (s : Session ι) (actions : List (Action ι)) : Session ι := actions.foldl step s

/-- The disks that a run goes through. -/
def disks (s : Session ι) : List (Action ι) → List Disk
  | [] => [s.disk]
  | a :: later => s.disk :: (s.step a).disks later

@[simp] theorem run_nil (s : Session ι) : s.run [] = s := rfl

@[simp] theorem run_cons (s : Session ι) (a : Action ι) (later : List (Action ι)) :
    s.run (a :: later) = (s.step a).run later := rfl

theorem run_append (s : Session ι) (earlier later : List (Action ι)) :
    s.run (earlier ++ later) = (s.run earlier).run later := by simp [run]

theorem disks_eq (s : Session ι) (actions : List (Action ι)) :
    s.disks actions = Disk.alongRun step disk s actions := by
  induction actions generalizing s with
  | nil => rfl
  | cons a later ih => rw [disks, Disk.alongRun, ih]

end Session

/-! What is kept. -/

namespace FileLog

/-- Every index that the log keeps describes a file as it was on one of these disks. -/
def Grounded (history : List Disk) (log : FileLog) : Prop :=
  ∀ b, log.binding = some b → b.Grounded history log.settings

variable {history : List Disk} {log : FileLog} {d : Disk}

theorem Grounded.mono {later : List Disk} (h : log.Grounded history) (more : history ⊆ later) :
    log.Grounded later := fun b bound => (h b bound).mono more

theorem grounded_of_binding {b : Binding} {codec : Codec} {s : Settings}
    (h : b.Grounded history s) : Grounded history ⟨codec, s, some b⟩ := by
  intro b' bound
  cases bound
  exact h

theorem Grounded.append {codec : Codec} {s : Settings} {b : Binding}
    (h : Grounded history ⟨codec, s, some b⟩) (past : Past history d) (e : Event) :
    (FileLog.append ⟨codec, s, some b⟩ d e).2.1.Grounded
        ((FileLog.append ⟨codec, s, some b⟩ d e).2.2 :: history) ∧
      d.Advances (FileLog.append ⟨codec, s, some b⟩ d e).2.2 ∧
      (FileLog.append ⟨codec, s, some b⟩ d e).2.2.Sound := by
  have later := h.mono (List.subset_cons_self d history)
  by_cases closed : (b.readOnly || b.disposed) = true
  · simp only [FileLog.append, closed, if_true]
    exact ⟨later, .refl d, past.sound⟩
  · cases encoded : codec.encode e with
    | error failure =>
      simp only [FileLog.append, closed, encoded]
      exact ⟨later, .refl d, past.sound⟩
    | ok payload =>
      simp only [FileLog.append, closed, encoded]
      rcases (h b rfl).store_cases past payload with ⟨fault, d', opened, stored⟩ |
          ⟨-, c, b', d', -, grounded, -, advances, sound, ⟨-, stored, -⟩ | ⟨-, stored, -⟩⟩
      · have advances := past.sound.advances_openPrepared s b.path
        have sound := past.sound.openPrepared s b.path
        rw [opened] at advances sound
        rw [stored]
        exact ⟨grounded_of_binding ⟨by simp, by simp⟩, advances, sound⟩
      · rw [stored]
        exact ⟨grounded_of_binding grounded, advances, sound⟩
      · rw [stored]
        exact ⟨grounded_of_binding grounded, advances, sound⟩

theorem delete_eq (codec : Codec) (s : Settings) (b : Binding) (d : Disk) :
    delete ⟨codec, s, some b⟩ d =
      ((match (d.removeFile b.path).1 with
        | .error .missing => .ok ()
        | .error fault => .error (.disk fault)
        | .ok () => .ok ()),
        ⟨codec, s, some { b.release with remembered := none }⟩, (d.removeFile b.path).2) := by
  unfold delete
  dsimp only
  cases d.removeFile b.path with
  | mk result d' =>
    cases result with
    | ok _ => rfl
    | error fault => cases fault <;> rfl

theorem disk_delete {b : Binding} (bound : log.binding = some b) (d : Disk) :
    (log.delete d).2.2 = (d.removeFile b.path).2 := by
  obtain ⟨codec, s, binding⟩ := log
  cases bound
  rw [delete_eq]

theorem Grounded.delete {codec : Codec} {s : Settings} {b : Binding}
    (h : Grounded history ⟨codec, s, some b⟩) (past : Past history d) :
    (FileLog.delete ⟨codec, s, some b⟩ d).2.1.Grounded
        ((FileLog.delete ⟨codec, s, some b⟩ d).2.2 :: history) ∧
      d.Advances (FileLog.delete ⟨codec, s, some b⟩ d).2.2 ∧
      (FileLog.delete ⟨codec, s, some b⟩ d).2.2.Sound := by
  rw [delete_eq]
  have later := (h b rfl).mono (List.subset_cons_self (d.removeFile b.path).2 history)
  exact ⟨grounded_of_binding ⟨later.release.held, by simp⟩, Disk.advances_removeFile d b.path,
    past.sound.removeFile b.path⟩

/-- A request keeps what the log knows, and files that it changes get new stamps. -/
theorem Grounded.serve (h : log.Grounded history) (past : Past history d) (r : Request) :
    (log.serve d r).2.1.Grounded ((log.serve d r).2.2 :: history) ∧
      d.Advances (log.serve d r).2.2 ∧ (log.serve d r).2.2.Sound := by
  obtain ⟨codec, s, binding⟩ := log
  have later := h.mono (List.subset_cons_self d history)
  have same : d.Advances d := .refl d
  cases r with
  | pointTo path readOnly =>
    exact ⟨grounded_of_binding (Binding.grounded_start _ s path readOnly), same, past.sound⟩
  | connect =>
    cases binding with
    | none => exact ⟨later, same, past.sound⟩
    | some b =>
      obtain ⟨grounded, advances, sound, -⟩ := (h b rfl).connect_cases past
      exact ⟨grounded_of_binding grounded, advances, sound⟩
  | ask q =>
    refine ⟨?_, same, past.sound⟩
    show (ask ⟨codec, s, binding⟩ d q).2.Grounded (d :: history)
    rw [snd_ask]
    cases binding with
    | none => exact later
    | some b => exact grounded_of_binding ((h b rfl).lease past)
  | append e =>
    cases binding with
    | none => exact ⟨later, same, past.sound⟩
    | some b => exact h.append past e
  | close =>
    cases binding with
    | none => exact ⟨later, same, past.sound⟩
    | some b => exact ⟨grounded_of_binding (later b rfl).release, same, past.sound⟩
  | flush => exact ⟨later, same, past.sound⟩
  | dispose =>
    cases binding with
    | none => exact ⟨later, same, past.sound⟩
    | some b =>
      have released := (later b rfl).release
      exact ⟨grounded_of_binding ⟨released.held, released.kept⟩, same, past.sound⟩
  | delete =>
    cases binding with
    | none => exact ⟨later, same, past.sound⟩
    | some b => exact h.delete past

end FileLog

namespace Session

variable {ι : Type} {history : List Disk} {s : Session ι}

/-- The logs know no more than what was on these disks, the last of which is there now. -/
structure Grounded (history : List Disk) (s : Session ι) : Prop where
  past : Past history s.disk
  now : s.disk ∈ history
  logs : ∀ i, (s.logs i).Grounded history

theorem grounded_start {d : Disk} (sound : d.Sound) (distinct : d.Distinct) (codecs : ι → Codec)
    (settings : ι → Settings) : (start d codecs settings).Grounded [d] where
  past := (sound.past distinct).cons
  now := by simp [start]
  logs i b bound := by cases bound

variable [DecidableEq ι]

/-- Along the run a length and a stamp stand for one file with the same bytes. Changes from outside
that give a file a stamp that was seen have to see to it. -/
def Honest (s : Session ι) (actions : List (Action ι)) : Prop :=
  ∀ p ∈ s.disks actions, ∀ q ∈ s.disks actions, p.Agrees q

theorem Grounded.advances (h : s.Grounded history) (i : ι) (r : Request) :
    s.disk.Advances (s.step (.request i r)).disk ∧ (s.step (.request i r)).disk.Sound :=
  ((h.logs i).serve h.past r).2

theorem Grounded.step_logs (h : s.Grounded history) (a : Action ι) (i : ι) :
    ((s.step a).logs i).Grounded ((s.step a).disk :: history) := by
  have others := (h.logs i).mono (List.subset_cons_self (s.step a).disk history)
  cases a with
  | edit e => exact others
  | request j r =>
    by_cases same : i = j
    · subst same
      have served := ((h.logs i).serve h.past r).1
      simpa [step, serve] using served
    · simpa [step, same] using others

/-- What a log does to the disk cannot be mistaken for anything before. -/
theorem Grounded.request (h : s.Grounded history) (i : ι) (r : Request) :
    (s.step (.request i r)).Grounded ((s.step (.request i r)).disk :: history) where
  past := (h.past.advance (h.advances i r).1 (h.advances i r).2).cons
  now := by simp
  logs := h.step_logs _

theorem Grounded.step (h : s.Grounded history) (a : Action ι)
    (agrees : ∀ p ∈ (s.step a).disk :: history, p.Agrees (s.step a).disk) :
    (s.step a).Grounded ((s.step a).disk :: history) := by
  cases a with
  | request i r => exact h.request i r
  | edit e =>
    have later := h.past.evolve (h.past.sound.evolves_edit e) (h.past.sound.edit e) agrees
    exact ⟨later.cons, by simp, h.step_logs _⟩

/-- A change from outside that gives new stamps cannot be mistaken for anything before either. -/
theorem Grounded.edit (h : s.Grounded history) {e : Disk.Edit}
    (fresh : s.disk.Advances (s.step (.edit e)).disk) :
    (s.step (.edit e)).Grounded ((s.step (.edit e)).disk :: history) := by
  have later := h.past.advance fresh (h.past.sound.edit e)
  exact h.step (.edit e) later.agrees

/-- From a start on, an honest run leaves logs that know no more than what was on its disks. -/
theorem grounded_run {d : Disk} (sound : d.Sound) {codecs : ι → Codec} {settings : ι → Settings}
    {actions : List (Action ι)} (honest : (start d codecs settings).Honest actions) :
    ∃ history, ((start d codecs settings).run actions).Grounded history := by
  rw [Honest, disks_eq] at honest
  have distinct : d.Distinct := Disk.AgreesAlong.distinct step disk honest
  exact ⟨_, Disk.knows_of_agree (grounded_start sound distinct codecs settings)
    (fun _ _ a grounded => grounded.step a) honest⟩

/-- Runs in which no edit gives a stamp that was seen are honest. -/
theorem honest_of_fresh {d : Disk} (sound : d.Sound) (distinct : d.Distinct)
    (codecs : ι → Codec) (settings : ι → Settings) {actions : List (Action ι)}
    (fresh : ∀ e, .edit e ∈ actions → e.keeps = false) :
    (start d codecs settings).Honest actions := by
  rw [Honest, disks_eq]
  refine Disk.agree_of_advances (grounded_start sound distinct codecs settings)
    (fun _ _ a grounded => grounded.step a) (fun _ _ grounded => grounded.past) ?_
  intro history s grounded a inside
  cases a with
  | request i r => exact grounded.advances i r
  | edit e => exact ⟨grounded.past.sound.advances_edit (fresh e inside), grounded.past.sound.edit e⟩

end Session
end EventLog
