import EventLog.Trace.Filter
import EventLog.Trace.Line
import EventLog.Trace.Recorder
import EventLog.Trace.Sink

/-! The subscriber of a program: a filter, then a console, a file and a recorder in this order. Only
one can be installed, and an installation opens its file before it asks whether another is there. -/
namespace EventLog.Trace

structure Subscriber (σ : Type) where
  filter : Filter
  console : Option (Stream × Shape) := none
  /-- A file by its identity. -/
  file : Option (Nat × Layout) := none
  recorder : Option (Recorder σ) := none

/-- What a notice can change, and the subscriber that hears it. -/
structure World (σ : Type) where
  disk : Disk := {}
  stdout : String := ""
  stderr : String := ""
  /-- The log behind the recorder. -/
  log : σ
  /-- The recorder is appending. -/
  busy : Bool := false
  active : Option (Subscriber σ) := none
  /-- The last installation panicked, and its answer reached nobody. -/
  panicked : Bool := false

variable {σ : Type}

namespace World

def say (w : World σ) (stream : Stream) (line : String) : World σ :=
  match stream with
  | .stdout => { w with stdout := w.stdout ++ line ++ "\n" }
  | .stderr => { w with stderr := w.stderr ++ line ++ "\n" }

@[simp] theorem busy_say (w : World σ) (stream : Stream) (line : String) :
    (w.say stream line).busy = w.busy := by cases stream <;> rfl

@[simp] theorem log_say (w : World σ) (stream : Stream) (line : String) :
    (w.say stream line).log = w.log := by cases stream <;> rfl

@[simp] theorem disk_say (w : World σ) (stream : Stream) (line : String) :
    (w.say stream line).disk = w.disk := by cases stream <;> rfl

@[simp] theorem active_say (w : World σ) (stream : Stream) (line : String) :
    (w.say stream line).active = w.active := by cases stream <;> rfl

/-- Lines on standard error change nothing else. -/
theorem warned (w : World σ) (lines : List String) :
    ∃ stderr, lines.foldl (·.say .stderr ·) w = { w with stderr } := by
  induction lines generalizing w with
  | nil => exact ⟨w.stderr, rfl⟩
  | cons line later ih => exact ih (w.say .stderr line)

end World

namespace Subscriber

/-- The lines of a notice on the console and in the file. -/
def print (s : Subscriber σ) (now : Int64) (n : Notice) (w : World σ) : World σ :=
  let w := match s.console with
    | some (stream, shape) => w.say stream (shape.line now n)
    | none => w
  match s.file with
  | some (id, layout) =>
    { w with disk := w.disk.append id (Text.Utf8.encode (layout.line now n ++ "\n")) }
  | none => w

@[simp] theorem busy_print (s : Subscriber σ) (now : Int64) (n : Notice) (w : World σ) :
    (s.print now n w).busy = w.busy := by
  unfold print; split <;> split <;> simp

@[simp] theorem log_print (s : Subscriber σ) (now : Int64) (n : Notice) (w : World σ) :
    (s.print now n w).log = w.log := by
  unfold print; split <;> split <;> simp

@[simp] theorem active_print (s : Subscriber σ) (now : Int64) (n : Notice) (w : World σ) :
    (s.print now n w).active = w.active := by
  unfold print; split <;> split <;> simp

/-- What becomes of a notice while the recorder is appending. -/
def hear (s : Subscriber σ) (now : Int64) (n : Notice) (w : World σ) : World σ :=
  if s.filter.lets n then s.print now n w else w

@[simp] theorem busy_hear (s : Subscriber σ) (now : Int64) (n : Notice) (w : World σ) :
    (s.hear now n w).busy = w.busy := by
  unfold hear; split <;> simp

@[simp] theorem active_hear (s : Subscriber σ) (now : Int64) (n : Notice) (w : World σ) :
    (s.hear now n w).active = w.active := by
  unfold hear; split <;> simp

/-- A refused append is told to people and otherwise forgotten. -/
def report (result : Except Failure Unit) (w : World σ) : World σ :=
  match result with
  | .ok () => w
  | .error failure =>
    w.say .stderr ("Warning: failed to mirror event into log tail: " ++ failure.message)

/-- The append of an entry. Notices that it emits find the recorder busy. -/
def recordEntry (s : Subscriber σ) (r : Recorder σ) (now : Int64) (e : Event) (w : World σ) :
    World σ :=
  let done := r.append e w.log
  let w := done.emitted.foldl (fun w n => s.hear now n w) { w with log := done.log, busy := true }
  { report done.result w with busy := false }

def dispatch (s : Subscriber σ) (now : Int64) (n : Notice) (w : World σ) : World σ :=
  if s.filter.lets n then
    let w := s.print now n w
    match s.recorder with
    | none => w
    | some r =>
      match r.accept? w.busy now n with
      | none => w
      | some e => s.recordEntry r now e w
  else w

/-- While the recorder is busy, `dispatch` is `hear`. -/
theorem dispatch_of_busy {s : Subscriber σ} {w : World σ} (h : w.busy = true) (now : Int64)
    (n : Notice) : s.dispatch now n w = s.hear now n w := by
  unfold dispatch hear
  cases s.recorder <;> simp [h]

end Subscriber

/-- Nobody hears a notice before a subscriber is installed. -/
def World.emit (w : World σ) (now : Int64) (n : Notice) : World σ :=
  match w.active with
  | none => w
  | some s => s.dispatch now n w

/-- One notice after the other, as a program emits them. -/
def World.emitAll (w : World σ) (sent : List (Int64 × Notice)) : World σ :=
  sent.foldl (fun w p => w.emit p.1 p.2) w

/-- Why a subscriber is not installed. -/
inductive Refusal
  | disk (fault : DiskFault)
  | active
  deriving DecidableEq, Repr

def Refusal.message : Refusal → String
  | disk fault => "I/O error: " ++ fault.message
  | active => "Subscriber already initialized: a global default trace dispatcher has already been set"

/-- What is to be installed. -/
structure Plan (σ : Type) where
  setup : Setup := {}
  recorder : Option (Recorder σ) := none

namespace Plan

/-- A readable override takes the place of the default level. -/
def filter (p : Plan σ) (override : Option String) : Filter × List String :=
  match override.bind Filter.parse? with
  | some f => (f, [])
  | none => Filter.read p.setup.defaultLevel

def console (p : Plan σ) : Option (Stream × Shape) :=
  let c := p.setup.console
  if c.enabled then
    some (c.stream, if c.pretty then .words c.colored else .json p.setup.layout)
  else none

def openFile (p : Plan σ) (now : Int64) (d : Disk) : Except DiskFault (Option Nat) × Disk :=
  match p.setup.file with
  | none => (.ok none, d)
  | some sink =>
    let (opened, d) := sink.openFile now d
    (opened.map some, d)

/-- The answer is whether the subscriber writes to a file. -/
def install (p : Plan σ) (override : Option String) (now : Int64) (w : World σ) :
    Except Refusal Bool × World σ :=
  let (filter, warnings) := p.filter override
  let w := warnings.foldl (·.say .stderr ·) w
  let panicked := p.setup.file.any (·.panics now w.disk)
  let (opened, disk) := p.openFile now w.disk
  let w := { w with disk, panicked }
  match opened with
  | .error fault => (.error (.disk fault), w)
  | .ok file =>
    if w.active.isSome then (.error .active, w)
    else
      let file := file.map fun id => (id, p.setup.layout)
      (.ok file.isSome,
        { w with active := some { filter, console := p.console, file, recorder := p.recorder } })

/-- A refusal is told to people. -/
def installQuietly (p : Plan σ) (override : Option String) (now : Int64) (w : World σ) :
    Bool × World σ :=
  match p.install override now w with
  | (.ok writesFile, w) => (writesFile, w)
  | (.error refusal, w) =>
    (false, if w.panicked then w
      else w.say .stderr ("Warning: Failed to initialize logging: " ++ refusal.message))

end Plan
end EventLog.Trace
