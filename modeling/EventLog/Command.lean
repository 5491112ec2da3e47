import EventLog.Command.Arguments
import EventLog.FileLog
import EventLog.Trace.Subscriber

/-! The command line: one action on a log on file. Results go to standard output, one line for
each event, and only changing actions open the log for writing. What the program and its log emit on
the way goes to a subscriber, which prints it to standard error. -/
namespace EventLog.Command

structure Report where
  exit : Nat
  stdout : String := ""
  stderr : String := ""
  deriving DecidableEq, Repr

def Action.writes : Action → Bool
  | append .. | delete => true
  | _ => false

def Form.codec : Form → Codec
  | compact => .compact
  | json => .json

def renderEvent (json : Bool) (e : Event) : String := if json then e.toJson else e.line

def printed (lines : List String) : Report :=
  { exit := 0, stdout := String.join (lines.map (· ++ "\n")) }

def failed (context : String) (failure : Failure) : Report :=
  { exit := 1, stderr := "Error: " ++ context ++ ": " ++ failure.message }

/-- The log that an invocation works on. -/
def Invocation.log (v : Invocation) (s : Settings) : FileLog :=
  let log : FileLog := { codec := v.form.codec, settings := s }
  log.pointTo v.file (!v.action.writes)

def Invocation.run (v : Invocation) (s : Settings) (now : Int64) (d : Disk) : Report × Disk :=
  let log := v.log s
  let shown (events : List Event) : Report × Disk := (printed (events.map (renderEvent v.json)), d)
  match v.action with
  | .append severity message arguments cause =>
    match log.append d { severity, message, arguments, cause, time := now } with
    | (.ok (), log, d) =>
      match log.flush with
      | .ok _ => (printed [], d)
      | .error failure => (failed "failed to flush tail" failure, d)
    | (.error failure, _, d) => (failed "failed to append event" failure, d)
  | .get i => shown (log.get? d i).1.toList
  | .range start count => shown (log.range d start count).1
  | .filter threshold => shown (log.atLeast d threshold).1
  | .first threshold => shown (log.first? d threshold).1.toList
  | .last threshold => shown (log.last? d threshold).1.toList
  | .size => (printed [toString (log.size d).1], d)
  | .delete =>
    match log.delete d with
    | (.ok (), _, d) => (printed [], d)
    | (.error failure, _, d) => (failed "failed to delete backing file" failure, d)

/-- The world of an invocation once its subscriber is installed. -/
def Invocation.subscribe (v : Invocation) (override : Option String) (now : Int64) (d : Disk) :
    Trace.World Unit :=
  let plan : Trace.Plan Unit := { setup := .commandLine v.verbose }
  (plan.installQuietly override now { disk := d, log := () }).2

def usage : List String := [
  "Usage: logtail [OPTIONS] <COMMAND>",
  "Commands: append get range filter first last size delete help",
  "Options: -f, --file <FILE>  --codec <postcard|json>  --json  -v, --verbose  -h, --help  -V, --version"]

/-- Runs the arguments after the program's name, and prints what is emitted. -/
def run (arguments : List String) (environment : String → Option String) (now : Int64) (d : Disk)
    (emitted : List (Int64 × Trace.Notice) := []) : Report × Disk :=
  match parse? arguments with
  | none => ({ exit := 2, stderr := String.intercalate "\n" usage }, d)
  | some .version => (printed ["logtail 1.0.0"], d)
  | some .help => (printed usage, d)
  | some (.run invocation) =>
    let w := invocation.subscribe (environment "RUST_LOG") now d
    let (report, disk) := invocation.run (Settings.ofEnvironment environment) now w.disk
    let w := Trace.World.emitAll { w with disk } emitted
    ({ report with stdout := w.stdout ++ report.stdout, stderr := w.stderr ++ report.stderr }, w.disk)

/-- The path of the log that the arguments ask for. -/
def path? (arguments : List String) : Option String :=
  match parse? arguments with
  | some (.run invocation) => some invocation.file
  | _ => none

end EventLog.Command
