import EventLog.Codec
import EventLog.Disk.Effect
import EventLog.Frame
import EventLog.Settings

/-! An open connection to a stored file, with an index of its records. The index describes the
file in the state that its fingerprint names, and can outlive the connection. -/
namespace EventLog

structure Index where
  offsets : List Nat
  /-- The end of the last complete record. -/
  stop : Nat
  seen : Fingerprint
  deriving DecidableEq, Repr

/-- The index of a file found by going through all its frames. -/
def Index.ofFile (maximum : Nat) (file : File) : Index :=
  let (payloads, damage) := Frame.split maximum file.bytes
  ⟨Frame.offsets 0 payloads, file.bytes.length - damage.length, file.fingerprint⟩

def Index.size (x : Index) : Nat := x.offsets.length

@[simp] theorem Index.size_ofFile (maximum : Nat) (file : File) :
    (ofFile maximum file).size = (Frame.split maximum file.bytes).1.length := by
  simp [ofFile, size]

inductive Mode
  | read | write
  deriving DecidableEq, Repr

structure Connection where
  path : String
  mode : Mode
  file : Nat
  index : Index
  maxRecordSize : Nat
  syncOnWrite : Bool
  deriving DecidableEq, Repr

namespace Connection

/-- What the system fails to do for a writer, for reasons that the disk does not show. All that comes
before it is done. -/
inductive Fault
  /-- Of the missing directories above the path only so many are made. -/
  | making (count : Nat) (cause : DiskFault)
  | opening (cause : DiskFault)
  /-- The file that was opened is not looked at, or not gone through, or not cut. -/
  | examining (cause : DiskFault)
  /-- The file that was cut is not looked at again. -/
  | reexamining (cause : DiskFault)
  /-- Of a frame only so many bytes are written. -/
  | writing (count : Nat) (cause : DiskFault)
  /-- A frame that was written is not forced to the device. -/
  | syncing (cause : DiskFault)
  /-- The file that a frame was written to is not looked at. -/
  | looking (cause : DiskFault)
  deriving DecidableEq, Repr

def size (c : Connection) : Nat := c.index.size

/-- Whether the file at the path is no longer the file in the state last seen. -/
def isStale (c : Connection) (d : Disk) : Bool := d.fingerprintAt? c.path ≠ some c.index.seen

/-- A remembered index serves again if the file is still in the state it describes. -/
def indexFor (maximum : Nat) (remembered : Option Index) (d : Disk) (file : Nat) : Index :=
  match remembered with
  | some x => if x.seen = d.fingerprint file then x else .ofFile maximum (d.file file)
  | none => .ofFile maximum (d.file file)

def attach (s : Settings) (path : String) (mode : Mode) (remembered : Option Index) (d : Disk)
    (file : Nat) : Connection :=
  ⟨path, mode, file, indexFor s.maxRecordSize.toNat remembered d file, s.maxRecordSize.toNat,
    s.syncOnWrite⟩

/-- A missing file gives no connection, and no failure either. -/
def openToRead (s : Settings) (path : String) (remembered : Option Index) (d : Disk) :
    Except Failure (Option Connection) :=
  match d.lookup path with
  | .ok (.file id) => .ok (some (attach s path .read remembered d id))
  | .ok (.directory _) => .error (.disk (.notRegular path))
  | .error .missing => .ok none
  | .error fault => .error (.disk fault)

/-- Cuts off what follows the last complete record, so that new records stay within reach. -/
def repair (c : Connection) (d : Disk) : Connection × Disk :=
  if c.index.stop < (d.bytes c.file).length then
    let d := d.cut c.file c.index.stop
    ({ c with index := { c.index with seen := d.fingerprint c.file } }, d)
  else (c, d)

/-- A writer of a file that was opened: the file is looked at, gone through, and cut if need be. -/
def writerOf (s : Settings) (path : String) (remembered : Option Index) (d : Disk) (file : Nat)
    (fault : Option Fault := none) : Except Failure Connection × Disk :=
  let found := attach s path .write remembered d file
  let (c, repaired) := found.repair d
  match fault with
  | some (.examining cause) => (.error (.disk cause), d)
  | some (.reexamining cause) =>
    if found.index.stop < (d.bytes file).length then (.error (.disk cause), repaired)
    else (.ok c, repaired)
  | _ => (.ok c, repaired)

def openToWrite (s : Settings) (path : String) (remembered : Option Index) (d : Disk)
    (fault : Option Fault := none) : Except Failure Connection × Disk :=
  let made : Except DiskFault Unit × Disk := match fault with
    | some (.making count cause) => (.error cause, d.makeSomeParents path count)
    | _ => d.makeParents path
  match if s.createParents then made else (.ok (), d) with
  | (.error cause, d) => (.error (.disk cause), d)
  | (.ok (), d) =>
    let opened : Except DiskFault Nat × Disk := match fault with
      | some (.opening cause) => (.error cause, d)
      | _ => d.openForAppending path
    match opened with
    | (.error cause, d) => (.error (.disk cause), d)
    | (.ok file, d) => writerOf s path remembered d file fault

/-- The event of a record, none beyond the last. -/
def read? (c : Connection) (d : Disk) (codec : Codec) (i : Nat) : Except Failure (Option Event) :=
  match c.index.offsets[i]? with
  | none => .ok none
  | some offset => do
    let (payload, _) ← Frame.read c.maxRecordSize ((d.bytes c.file).drop offset)
    return some (← codec.decode payload)

/-- Visits `count` records that follow one another, as long as the visitor goes on. -/
def visitFrom (maximum : Nat) (codec : Codec) (visit : Nat → Event → σ → ForInStep σ) :
    (count i : Nat) → List UInt8 → σ → σ × Except Failure Unit
  | 0, _, _, s => (s, .ok ())
  | count + 1, i, bytes, s =>
    match Frame.read maximum bytes with
    | .error failure => (s, .error failure)
    | .ok (payload, rest) =>
      match codec.decode payload with
      | .error failure => (s, .error failure)
      | .ok e =>
        match visit i e s with
        | .done s => (s, .ok ())
        | .yield s => visitFrom maximum codec visit count (i + 1) rest s

/-- Visits the records from `first` on and below `last`, without those that do not exist. The visitor
goes by what it is shown: one that read through the connection as well would move the place in the file
from which the visit goes on. -/
def visit (c : Connection) (d : Disk) (codec : Codec) (first last : Nat)
    (visitor : Nat → Event → σ → ForInStep σ) (s : σ) : σ × Except Failure Unit :=
  let last := min last c.size
  match c.index.offsets[first]? with
  | some offset =>
    if first < last then
      visitFrom c.maxRecordSize codec visitor (last - first) first
        ((d.bytes c.file).drop offset) s
    else (s, .ok ())
  | none => (s, .ok ())

def readRange (c : Connection) (d : Disk) (codec : Codec) (first last : Nat) :
    Except Failure (List Event) :=
  let (events, result) := c.visit d codec first last (fun _ e events => .yield (e :: events)) []
  result.map fun _ => events.reverse

/-- Writes one record at the end of the file; the result is its number. A connection that fails has not
seen what it wrote, and so is stale. -/
def write (c : Connection) (d : Disk) (payload : Frame.Payload) (fault : Option Fault := none) :
    Except Failure Nat × Connection × Disk :=
  if c.mode ≠ .write then (.error (.disk .notWritable), c, d)
  else if !Frame.inBounds c.maxRecordSize payload.length then
    (.error (.tooLarge payload.length c.maxRecordSize), c, d)
  else
    let frame := Frame.encode payload
    let written := d.append c.file frame
    let index : Index := { c.index with
      offsets := c.index.offsets ++ [c.index.stop]
      stop := c.index.stop + frame.length }
    let seen : Index := { index with seen := written.fingerprint c.file }
    match fault with
    | some (.writing count cause) =>
      match frame.dropLast.take count with
      | [] => (.error (.disk cause), c, d)
      | part => (.error (.disk cause), c, d.append c.file part)
    | some (.syncing cause) =>
      if c.syncOnWrite then (.error (.disk cause), c, written)
      else (.ok c.size, { c with index := seen }, written)
    | some (.looking cause) => (.error (.disk cause), { c with index }, written)
    | _ => (.ok c.size, { c with index := seen }, written)

/-- Writes a record if the disk is all that can refuse. -/
def append (c : Connection) (d : Disk) (payload : Frame.Payload) :
    Except Failure (Nat × Connection × Disk) :=
  match c.write d payload with
  | (.error failure, _, _) => .error failure
  | (.ok number, c, d) => .ok (number, c, d)

end Connection
end EventLog
