/-! Files and directories, both by their identity. A name in a directory leads to an identity, and
whoever has it keeps the file when the name is taken away. A change gives a file a stamp never seen
before, unless someone sees to it that it has another. -/
namespace EventLog

structure File where
  bytes : List UInt8
  stamp : Nat
  deriving DecidableEq, Repr, Inhabited

/-- What is seen of a file without reading it. -/
structure Fingerprint where
  length : Nat
  stamp : Nat
  deriving DecidableEq, Repr

def File.fingerprint (f : File) : Fingerprint := ⟨f.bytes.length, f.stamp⟩

inductive Entry
  | directory (id : Nat)
  | file (id : Nat)
  deriving DecidableEq, Repr

/-- A name in the directory of an identity. -/
structure Place where
  directory : Nat
  name : String
  deriving DecidableEq, Repr

structure Disk where
  entries : List (Place × Entry) := []
  /-- The next directory; the first is the root. -/
  directories : Nat := 1
  /-- Files by identity. -/
  files : List File := []
  /-- The next stamp. -/
  clock : Nat := 0
  deriving DecidableEq, Repr, Inhabited

namespace Disk

def root : Nat := 0

def find? (d : Disk) (place : Place) : Option Entry := d.entries.lookup place

def unbind (d : Disk) (place : Place) : Disk :=
  { d with entries := d.entries.filter (·.1 ≠ place) }

def bind (d : Disk) (place : Place) (e : Entry) : Disk :=
  { d with entries := (place, e) :: (d.unbind place).entries }

/-- What is in a directory. -/
def content (d : Disk) (directory : Nat) : List (Place × Entry) :=
  d.entries.filter (·.1.directory == directory)

/-- An empty directory at a free place. -/
def createDirectory (d : Disk) (place : Place) : Nat × Disk :=
  (d.directories,
    { d.bind place (.directory d.directories) with directories := d.directories + 1 })

/-! Contents by identity. -/

def file (d : Disk) (id : Nat) : File := d.files[id]?.getD default

def bytes (d : Disk) (id : Nat) : List UInt8 := (d.file id).bytes

def fingerprint (d : Disk) (id : Nat) : Fingerprint := (d.file id).fingerprint

/-- New contents; a kept stamp hides the change. -/
def put (d : Disk) (id : Nat) (bytes : List UInt8) (keep : Bool := false) : Disk :=
  { d with
    files := d.files.set id ⟨bytes, if keep then (d.file id).stamp else d.clock⟩
    clock := d.clock + 1 }

/-- Another stamp, new or old, over what the file holds. -/
def restamp (d : Disk) (id stamp : Nat) : Disk :=
  { d with files := d.files.set id ⟨d.bytes id, stamp⟩, clock := max d.clock (stamp + 1) }

def append (d : Disk) (id : Nat) (more : List UInt8) : Disk := d.put id (d.bytes id ++ more)

def cut (d : Disk) (id : Nat) (length : Nat) : Disk := d.put id ((d.bytes id).take length)

/-- An empty file at a free place. -/
def create (d : Disk) (place : Place) : Nat × Disk :=
  (d.files.length,
    { d.bind place (.file d.files.length) with
      files := d.files ++ [⟨[], d.clock⟩]
      clock := d.clock + 1 })

theorem bytes_put {d : Disk} {id : Nat} (h : id < d.files.length) (bytes : List UInt8)
    (keep : Bool) : (d.put id bytes keep).bytes id = bytes := by
  simp [Disk.bytes, file, put, h]

theorem bytes_put_of_ne {d : Disk} {id other : Nat} (h : id ≠ other) (bytes : List UInt8)
    (keep : Bool) : (d.put id bytes keep).bytes other = d.bytes other := by
  simp [Disk.bytes, file, put, h]

end Disk
end EventLog
