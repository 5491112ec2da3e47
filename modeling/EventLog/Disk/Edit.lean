import EventLog.Disk.Effect

/-! Changes of a disk from outside, made by someone who works on its files directly. A change
either happens or is refused; refused changes may have made directories. -/
namespace EventLog.Disk

/-- Changes of contents may keep the stamp of a file that was there. -/
inductive Edit
  | write (path : String) (bytes : List UInt8) (keep : Bool)
  | append (path : String) (bytes : List UInt8) (keep : Bool)
  | truncate (path : String) (length : Nat) (keep : Bool)
  | poke (path : String) (offset : Nat) (bytes : List UInt8) (keep : Bool)
  | touch (path : String) (keep : Bool)
  | delete (path : String)
  | makeDirectory (path : String)
  | removeDirectory (path : String)
  | rename (path destination : String)
  /-- The stamp may be one that another file has, as after a faithful copy, or an earlier one. -/
  | restamp (path : String) (stamp : Nat)

def succeeded : Except DiskFault Unit × Disk → Bool × Disk
  | (r, d) => (r.isOk, d)

/-- Changes the contents of a file, which is made first if there is none. -/
def overwrite (d : Disk) (path : String) (keep : Bool) (change : List UInt8 → List UInt8) :
    Bool × Disk :=
  let existed := (d.fingerprintAt? path).isSome
  match d.openForAppending path with
  | (.ok id, d) => (true, d.put id (change (d.bytes id)) (keep && existed))
  | (.error _, d) => (false, d)

/-- Changes the contents of a file that has to exist. -/
def revise (d : Disk) (path : String) (keep : Bool)
    (change : List UInt8 → Option (List UInt8)) : Bool × Disk :=
  match d.lookup path with
  | .ok (.file id) =>
    match change (d.bytes id) with
    | some bytes => (true, d.put id bytes keep)
    | none => (false, d)
  | _ => (false, d)

def resized (length : Nat) (bytes : List UInt8) : List UInt8 :=
  bytes.take length ++ List.replicate (length - bytes.length) 0

def poked (offset : Nat) (patch bytes : List UInt8) : Option (List UInt8) :=
  if offset + patch.length ≤ bytes.length then
    some (bytes.take offset ++ patch ++ bytes.drop (offset + patch.length))
  else none

/-- Directories can be touched too, but that cannot be seen. -/
def touch (d : Disk) (path : String) (keep : Bool) : Bool × Disk :=
  match d.lookup path with
  | .ok (.directory _) => (true, d)
  | _ => d.revise path keep some

/-- Only an empty directory that the path names is removed. -/
def removeDirectory (d : Disk) (path : String) : Bool × Disk :=
  match d.spot path with
  | .ok ⟨trail, some name, some (.directory id)⟩ =>
    if (d.content id).isEmpty then (true, d.unbind ⟨trail.last, name⟩) else (false, d)
  | _ => (false, d)

/-- Both paths have to end with a name. A file may take the place of a file, and a directory that of
an empty one; no directory goes into itself. -/
def rename (d : Disk) (path destination : String) : Bool × Disk :=
  let slashed := [path, destination].any (·.toList.getLast? = some '/')
  match d.spot path, d.spot destination with
  | .ok ⟨trail, some old, some moved⟩, .ok ⟨goal, some new, found⟩ =>
    let source : Place := ⟨trail.last, old⟩
    let target : Place := ⟨goal.last, new⟩
    let moves := match moved, found with
      | .file _, none => !slashed
      | .file _, some (.file _) => !slashed
      | .file _, some (.directory _) => false
      | .directory id, none => !goal.contains id
      | .directory id, some (.directory other) =>
        id = other || !goal.contains id && (d.content other).isEmpty
      | .directory _, some (.file _) => false
    if !moves then (false, d)
    else if source = target then (true, d)
    else (true, (d.unbind source).bind target moved)
  | _, _ => (false, d)

def restampAt (d : Disk) (path : String) (stamp : Nat) : Bool × Disk :=
  match d.lookup path with
  | .ok (.file id) => (true, d.restamp id stamp)
  | _ => (false, d)

def edit (d : Disk) : Edit → Bool × Disk
  | .write path bytes keep =>
    match d.makeParents path with
    | (.ok (), d) => d.overwrite path keep fun _ => bytes
    | (.error _, d) => (false, d)
  | .append path bytes keep => d.overwrite path keep (· ++ bytes)
  | .truncate path length keep => d.revise path keep fun bytes => some (resized length bytes)
  | .poke path offset patch keep => d.revise path keep (poked offset patch)
  | .touch path keep => d.touch path keep
  | .delete path => succeeded (d.removeFile path)
  | .makeDirectory path => succeeded (d.makeDirectories path)
  | .removeDirectory path => d.removeDirectory path
  | .rename path destination => d.rename path destination
  | .restamp path stamp => d.restampAt path stamp

end EventLog.Disk
