import EventLog.Disk.Walk

/-! What a path can be used for: directories are made along it, the file at its end is opened or
removed. -/
namespace EventLog.Disk

/-- Makes each missing directory of a walk; those made before a refusal stay. A file in the way ends
the walk, but once a directory had to be made the next ones are made one by one, and then the file
stands where one is to be made. Dots at the end make nothing: they look into the directory before
them, which has to be there. -/
def makeAlong (d : Disk) : (made : Bool) → Trail → List Step → Except DiskFault Unit × Disk
  | _, _, [] => (.ok (), d)
  | made, trail, .here :: rest => makeAlong d made trail rest
  | made, trail, .up :: rest => makeAlong d made trail.tail rest
  | made, trail, .into name :: rest =>
    let dots := !rest.isEmpty && rest.all (· = .here)
    if Route.longestName < name.utf8ByteSize then (.error .nameTooLong, d)
    else match d.find? ⟨trail.last, name⟩ with
      | some (.directory id) => makeAlong d made (id :: trail) rest
      | some (.file _) =>
        (.error (if rest.isEmpty || made && !dots then .alreadyExists else .notDirectory), d)
      | none =>
        if dots then (.error .missing, d)
        else
          let (id, d) := d.createDirectory ⟨trail.last, name⟩
          makeAlong d true (id :: trail) rest

/-- Makes only so many directories of a walk, as when the system refuses to make the next one. -/
def makeSome (d : Disk) : (count : Nat) → Trail → List Step → Disk
  | 0, _, _ => d
  | _, _, [] => d
  | count, trail, .here :: rest => makeSome d count trail rest
  | count, trail, .up :: rest => makeSome d count trail.tail rest
  | count + 1, trail, .into name :: rest =>
    let dots := !rest.isEmpty && rest.all (· = .here)
    if Route.longestName < name.utf8ByteSize then d
    else match d.find? ⟨trail.last, name⟩ with
      | some (.directory id) => makeSome d (count + 1) (id :: trail) rest
      | some (.file _) => d
      | none =>
        if dots then d
        else
          let (id, d) := d.createDirectory ⟨trail.last, name⟩
          makeSome d count (id :: trail) rest

/-- Makes the directory at a path and those above it. -/
def makeDirectories (d : Disk) (path : String) : Except DiskFault Unit × Disk :=
  if path.isEmpty then (.ok (), d)
  else match Route.parse path with
    | .ok route => d.makeAlong false [] route.steps
    | .error fault => (.error fault, d)

/-- Makes the directories above a path; its last name does not matter yet. -/
def makeParents (d : Disk) (path : String) : Except DiskFault Unit × Disk :=
  d.makeDirectories (Route.parent path)

def makeSomeParents (d : Disk) (path : String) (count : Nat) : Disk :=
  let path := Route.parent path
  if path.isEmpty then d
  else match Route.parse path with
    | .ok route => d.makeSome count [] route.steps
    | .error _ => d

/-- The file at a path for appending, made empty if there is none. A slash at the end asks for a
directory, whatever the last name is. -/
def openForAppending (d : Disk) (path : String) : Except DiskFault Nat × Disk :=
  match Route.parse path with
  | .error fault => (.error fault, d)
  | .ok route =>
    match d.enter route.steps.dropLast with
    | .error fault => (.error fault, d)
    | .ok _ =>
      if route.slashed then (.error .isDirectory, d)
      else match d.walk [] route.steps with
        | .error fault => (.error fault, d)
        | .ok ⟨trail, some name, none⟩ =>
          let (id, d) := d.create ⟨trail.last, name⟩
          (.ok id, d)
        | .ok ⟨_, _, some (.file id)⟩ => (.ok id, d)
        | .ok _ => (.error .isDirectory, d)

/-- The file at a path for writing, without what it held. -/
def openEmptied (d : Disk) (path : String) : Except DiskFault Nat × Disk :=
  match d.openForAppending path with
  | (.error fault, d) => (.error fault, d)
  | (.ok id, d) => (.ok id, d.put id [])

def removeFile (d : Disk) (path : String) : Except DiskFault Unit × Disk :=
  match d.spot path with
  | .error fault => (.error fault, d)
  | .ok ⟨_, _, none⟩ => (.error .missing, d)
  | .ok ⟨trail, some name, some (.file _)⟩ =>
    if path.toList.getLast? = some '/' then (.error .notDirectory, d)
    else (.ok (), d.unbind ⟨trail.last, name⟩)
  | .ok _ => (.error .isDirectory, d)

end EventLog.Disk
