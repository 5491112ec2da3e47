import EventLog.Calendar
import EventLog.Disk.Effect
import EventLog.Trace.Setup

/-! Opening the file of a file sink. A sink without rotation starts with an empty file, one with
rotation goes on with the file of its day or hour. -/
namespace EventLog.Trace.FileSink

def dated (stem date : String) : String := if stem.isEmpty then date else stem ++ "." ++ date

def fileName (f : FileSink) (now : Int64) : String :=
  let date := (Calendar.Date.ofDays (now.toInt / Calendar.millisPerDay)).text
  let hour := (now.toInt % Calendar.millisPerDay).toNat / 3600000
  match f.rotation with
  | .never => f.stem ++ ".log"
  | .daily => dated f.stem date
  | .hourly => dated f.stem (date ++ "-" ++ Text.digits 2 hour)

def path (f : FileSink) (now : Int64) : String := Route.join f.directory (f.fileName now)

/-- A stem may name directories of its own, which are made when they are missing. -/
def openRotating (path : String) (d : Disk) : Except DiskFault Nat × Disk :=
  match d.openForAppending path with
  | (.ok id, d) => (.ok id, d)
  | (.error _, d) =>
    match d.makeParents path with
    | (.error fault, d) => (.error fault, d)
    | (.ok (), d) => d.openForAppending path

def openFile (f : FileSink) (now : Int64) (d : Disk) : Except DiskFault Nat × Disk :=
  match d.makeDirectories f.directory with
  | (.error fault, d) => (.error fault, d)
  | (.ok (), d) =>
    match f.rotation with
    | .never => d.openEmptied (f.path now)
    | .daily | .hourly => openRotating (f.path now) d

/-- Where a file that rotates cannot be opened, its opener panics. -/
def panics (f : FileSink) (now : Int64) (d : Disk) : Bool :=
  match f.rotation, d.makeDirectories f.directory with
  | .never, _ | _, (.error _, _) => false
  | _, (.ok (), d) => !(openRotating (f.path now) d).1.isOk

end EventLog.Trace.FileSink
