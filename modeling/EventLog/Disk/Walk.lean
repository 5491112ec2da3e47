import EventLog.Disk
import EventLog.Disk.Route

/-! Following a path from name to name. A walk keeps the directories it went through, so that it can
turn back; no more than the last name may be free. -/
namespace EventLog.Disk

/-- The directories from the innermost outward, without the root. -/
abbrev Trail := List Nat

def Trail.last (t : Trail) : Nat := t.head?.getD root

/-- Where a walk ends, and what is there. -/
structure Spot where
  trail : Trail
  /-- The last name; none after a dot or two. -/
  name : Option String
  found : Option Entry
  deriving DecidableEq, Repr

def walk (d : Disk) : Trail → List Step → Except DiskFault Spot
  | trail, [] => .ok ⟨trail, none, some (.directory trail.last)⟩
  | trail, .here :: rest => walk d trail rest
  | trail, .up :: rest => walk d trail.tail rest
  | trail, .into name :: rest =>
    if Route.longestName < name.utf8ByteSize then .error .nameTooLong
    else
      let found := d.find? ⟨trail.last, name⟩
      if rest.isEmpty then .ok ⟨trail, some name, found⟩
      else match found with
        | some (.directory id) => walk d (id :: trail) rest
        | some (.file _) => .error .notDirectory
        | none => .error .missing

/-- The way to a directory. -/
def enter (d : Disk) (steps : List Step) : Except DiskFault Trail :=
  (d.walk [] (steps ++ [.here])).map (·.trail)

def spot (d : Disk) (path : String) : Except DiskFault Spot := do
  d.walk [] (← Route.parse path).steps

/-- What stands at a path. After a slash at the end no file can stand. -/
def lookup (d : Disk) (path : String) : Except DiskFault Entry := do
  let route ← Route.parse path
  match (← d.walk [] route.steps).found, route.slashed with
  | some (.file _), true => throw .notDirectory
  | some e, _ => return e
  | none, _ => throw .missing

def isDirectory (d : Disk) (path : String) : Bool :=
  match d.lookup path with
  | .ok (.directory _) => true
  | _ => false

def fingerprintAt? (d : Disk) (path : String) : Option Fingerprint :=
  match d.lookup path with
  | .ok (.file id) => some (d.fingerprint id)
  | _ => none

def bytesAt? (d : Disk) (path : String) : Option (List UInt8) :=
  match d.lookup path with
  | .ok (.file id) => some (d.bytes id)
  | _ => none

end EventLog.Disk
