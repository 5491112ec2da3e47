import EventLog.Command
import EventLog.Disk.Edit
import Std.Time.DateTime.Timestamp

/-! The program. What stands along the path of the log is read from the host, the command runs on
that, and what it changed is put back. -/
namespace EventLog.Host

inductive Found
  | nothing
  | directory
  | file (bytes : ByteArray)

/-- Code 21 says that the path leads to a directory. -/
def look (path : String) : IO Found := do
  try
    return .file (← IO.FS.readBinFile path)
  catch
    | .noFileOrDirectory .. => return .nothing
    | .inappropriateType _ code _ => return if code = 21 then .directory else .nothing
    | fault => throw fault

def load (path : String) : IO Disk :=
  (Route.ancestors path ++ [path]).foldlM (fun d place => do
    match ← look place with
    | .nothing => return d
    | .directory => return (d.edit (.makeDirectory place)).2
    | .file bytes => return (d.edit (.write place bytes.toList false)).2) {}

def put (path : String) (mode : IO.FS.Mode) (bytes : List UInt8) : IO Unit := do
  let handle ← IO.FS.Handle.mk path mode
  handle.write ⟨bytes.toArray⟩
  handle.flush

def save (path : String) (before after : Disk) : IO Unit := do
  for place in Route.ancestors path do
    if after.isDirectory place then
      if let .nothing ← look place then IO.FS.createDir place
  match before.bytesAt? path, after.bytesAt? path with
  | some old, some new =>
    if old = new then return
    else if old.isPrefixOf new then put path .append (new.drop old.length)
    else put path .write new
  | none, some new => put path .write new
  | some _, none => IO.FS.removeFile path
  | none, none => return

def now : IO Int64 := do
  return Int64.ofInt (← Std.Time.Timestamp.now).toMillisecondsSinceUnixEpoch.val

def environment : IO (String → Option String) := do
  let names := ["LOGTAIL_SYNC_ON_WRITE", "LOGTAIL_MAX_RECORD_SIZE", "RUST_LOG"]
  let values ← names.mapM fun name => return (name, ← IO.getEnv name)
  return fun name => (values.lookup name).join

def run (arguments : List String) : IO Command.Report := do
  let path := Command.path? arguments
  let before ← match path with
    | some path => load path
    | none => pure {}
  let (report, after) := Command.run arguments (← environment) (← now) before
  if let some path := path then save path before after
  return report

end EventLog.Host

def main (arguments : List String) : IO UInt32 := do
  let report ← EventLog.Host.run arguments
  IO.print report.stdout
  unless report.stderr.isEmpty do IO.eprintln report.stderr
  return report.exit.toUInt32
