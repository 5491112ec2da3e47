import EventLog.Connection
import EventLog.ListLog

/-! A log stored in one file. A writer's connection stays open between appends; a query borrows
it, or opens a connection for itself and leaves its index behind. No connection is used before
its file was compared with what was last seen of it, and a query never fails: what cannot be
read is not there. -/
namespace EventLog

/-- What a log remembers about its file. -/
structure FileLog.Binding where
  path : String
  readOnly : Bool
  disposed : Bool := false
  connection : Option Connection := none
  remembered : Option Index := none
  /-- A writer's connection was lost to a change from outside. -/
  lost : Bool := false
  deriving DecidableEq, Repr

structure FileLog where
  codec : Codec
  settings : Settings
  binding : Option FileLog.Binding := none

namespace FileLog

namespace Binding

def mode (b : Binding) : Mode := if b.readOnly || b.disposed then .read else .write

/-- Closes the connection and keeps its index. -/
def release (b : Binding) : Binding :=
  match b.connection with
  | some c => { b with connection := none, remembered := some c.index }
  | none => b

/-- Drops a connection whose file changed, with all that is remembered of it. -/
def discardStale (b : Binding) (d : Disk) : Binding :=
  match b.connection with
  | some c =>
    if c.isStale d then
      { b with connection := none, remembered := none, lost := b.lost || c.mode = .write }
    else b
  | none => b

@[simp] theorem connection_release (b : Binding) : b.release.connection = none := by
  unfold release; split <;> simp_all

@[simp] theorem path_release (b : Binding) : b.release.path = b.path := by
  unfold release; split <;> rfl

@[simp] theorem path_discardStale (b : Binding) (d : Disk) : (b.discardStale d).path = b.path := by
  unfold discardStale; split <;> (try split) <;> rfl

/-- Opens a connection if none is held. The index that was remembered is used up. -/
def connect (b : Binding) (s : Settings) (d : Disk) : Binding × Disk :=
  let b := b.discardStale d
  if b.connection.isSome then (b, d)
  else match b.mode with
    | .read =>
      match Connection.openToRead s b.path b.remembered d with
      | .ok c => ({ b with connection := c, remembered := none }, d)
      | .error _ => ({ b with remembered := none }, d)
    | .write =>
      match Connection.openToWrite s b.path b.remembered d with
      | (.ok c, d) => ({ b with connection := some c, remembered := none, lost := false }, d)
      | (.error _, d) => ({ b with remembered := none }, d)

/-- A connection for one query, and what is remembered when the query is over. -/
def lease (b : Binding) (s : Settings) (d : Disk) : Option Connection × Binding :=
  let b := b.discardStale d
  match b.connection with
  | some c => if c.mode = .write then (some c, b) else (some c, b.release)
  | none =>
    match Connection.openToRead s b.path b.remembered d with
    | .ok (some c) => (some c, { b with remembered := some c.index })
    | _ => (none, { b with remembered := none })

/-- Stores a payload. A writer whose file was lost drops it when the path cannot be opened. -/
def store (b : Binding) (s : Settings) (d : Disk) (payload : Frame.Payload)
    (fault : Option Connection.Fault := none) : Except Failure Unit × Binding × Disk :=
  let b := b.discardStale d
  let b := if b.connection.any (·.mode = .read) then { b with connection := none } else b
  let opened : Except Failure Connection × Disk := match b.connection with
    | some c => (.ok c, d)
    | none => Connection.openToWrite s b.path b.remembered d fault
  match opened with
  | (.error failure, d) =>
    (if b.lost then .ok () else .error failure, { b with remembered := none }, d)
  | (.ok c, d) =>
    let b := if b.connection.isSome then b
      else { b with connection := some c, remembered := none, lost := false }
    let (result, c, d) := c.write d payload fault
    (result.map fun _ => (), { b with connection := some c }, d)

end Binding

def isOpen (log : FileLog) : Bool := (log.binding.bind Binding.connection).isSome

/-- Points the log at a file. What was known of another file is forgotten. -/
def pointTo (log : FileLog) (path : String) (readOnly : Bool) : FileLog :=
  { log with binding := some { path, readOnly } }

/-- Opens the connection ahead of its first use; the result says whether there is one. -/
def connect (log : FileLog) (d : Disk) : Bool × FileLog × Disk :=
  match log.binding with
  | none => (false, log, d)
  | some b =>
    let (b, d) := b.connect log.settings d
    (b.connection.isSome, { log with binding := some b }, d)

def close (log : FileLog) : FileLog := { log with binding := log.binding.map Binding.release }

/-- Appends go straight to the file, so there is never anything left to write. A writer's file is forced
to the device, where the system may fail. -/
def flush (log : FileLog) (fault : Option DiskFault := none) : Except Failure FileLog :=
  match fault with
  | none => .ok log
  | some cause =>
    if (log.binding.bind Binding.connection).any (·.mode = .write) then .error (.disk cause)
    else .ok log

/-- Closes the log for appends, until it is pointed to a file again. -/
def dispose (log : FileLog) : FileLog :=
  { log with binding := log.binding.map fun b => { b.release with disposed := true } }

/-- Closes the connection and removes the file; a missing file is as good as a removed one. -/
def delete (log : FileLog) (d : Disk) : Except Failure Unit × FileLog × Disk :=
  match log.binding with
  | none => (.ok (), log, d)
  | some b =>
    let log := { log with binding := some { b.release with remembered := none } }
    match d.removeFile b.path with
    | (.error .missing, d) => (.ok (), log, d)
    | (.error fault, d) => (.error (.disk fault), log, d)
    | (.ok (), d) => (.ok (), log, d)

/-- A log that points to no file, is read-only or disposed accepts an event and drops it. -/
def append (log : FileLog) (d : Disk) (e : Event) (fault : Option Connection.Fault := none) :
    Except Failure Unit × FileLog × Disk :=
  match log.binding with
  | none => (.ok (), log, d)
  | some b =>
    if b.readOnly || b.disposed then (.ok (), log, d)
    else match log.codec.encode e with
      | .error failure => (.error failure, log, d)
      | .ok payload =>
        let (result, b, d) := b.store log.settings d payload fault
        (result, { log with binding := some b }, d)

/-- Asks a connection that is known to be current. Whatever fails answers nothing. -/
def query (log : FileLog) (d : Disk) (ask : Connection → Except Failure α) :
    Option α × FileLog :=
  match log.binding with
  | none => (none, log)
  | some b =>
    let (c, b) := b.lease log.settings d
    (c.bind fun c => (ask c).toOption, { log with binding := some b })

def get? (log : FileLog) (d : Disk) (i : Nat) : Option Event × FileLog :=
  let (answer, log) := log.query d fun c => c.read? d log.codec i
  (answer.join, log)

def range (log : FileLog) (d : Disk) (start : Int) (count : Option Nat) : List Event × FileLog :=
  let (answer, log) := log.query d fun c =>
    let (first, last) := Window.bounds start count c.size
    c.readRange d log.codec first last
  (answer.getD [], log)

/-- The visitor that collects, newest first, the events that pass a threshold. -/
def collect (threshold : Option Severity) (firstOnly : Bool) (_ : Nat) (e : Event)
    (found : List Event) : ForInStep (List Event) :=
  if !e.severity.meetsAny threshold then .yield found
  else if firstOnly then .done (e :: found)
  else .yield (e :: found)

def matching (log : FileLog) (d : Disk) (threshold : Option Severity) (firstOnly : Bool) :
    List Event × FileLog :=
  let (answer, log) := log.query d fun c =>
    let (found, result) := c.visit d log.codec 0 c.size (collect threshold firstOnly) []
    result.map fun _ => found.reverse
  (answer.getD [], log)

def atLeast (log : FileLog) (d : Disk) (threshold : Option Severity) : List Event × FileLog :=
  log.matching d threshold false

def first? (log : FileLog) (d : Disk) (threshold : Option Severity) : Option Event × FileLog :=
  let (found, log) := log.matching d threshold true
  (found.head?, log)

/-- Reads backward from record `count - 1` to the first that passes. -/
def lastBelow (c : Connection) (d : Disk) (codec : Codec) (threshold : Option Severity) :
    (count : Nat) → Except Failure (Option Event)
  | 0 => .ok none
  | i + 1 =>
    match c.read? d codec i with
    | .error failure => .error failure
    | .ok (some e) =>
      if e.severity.meetsAny threshold then .ok (some e) else lastBelow c d codec threshold i
    | .ok none => lastBelow c d codec threshold i

def last? (log : FileLog) (d : Disk) (threshold : Option Severity) : Option Event × FileLog :=
  let (answer, log) := log.query d fun c => lastBelow c d log.codec threshold c.size
  (answer.join, log)

def has (log : FileLog) (d : Disk) (severity : Severity) : Bool × FileLog :=
  let (found, log) := log.first? d (some severity)
  (found.isSome, log)

def size (log : FileLog) (d : Disk) : Nat × FileLog :=
  let (answer, log) := log.query d fun c => .ok c.size
  (answer.getD 0, log)

end FileLog
end EventLog
