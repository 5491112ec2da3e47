import EventLog.Json.Field
import EventLog.Text.Split

/-! Settings of a log on file, from defaults, the environment or a JSON record. Only the setter
keeps the maximum positive; a stated field is taken as it is. -/
namespace EventLog

structure Settings where
  syncOnWrite : Bool := false
  /-- The longest accepted payload; a longer announced length is damage. -/
  maxRecordSize : UInt32 := 10485760
  createParents : Bool := true
  deriving DecidableEq, Repr, Inhabited

namespace Settings

def withSyncOnWrite (s : Settings) (sync : Bool) : Settings := { s with syncOnWrite := sync }

def withMaxRecordSize (s : Settings) (size : UInt32) : Settings :=
  { s with maxRecordSize := max size 1 }

def withCreateParents (s : Settings) (create : Bool) : Settings :=
  { s with createParents := create }

/-- Words for yes and no, without regard to ASCII case and blanks around. -/
def switch? (text : String) : Option Bool :=
  let word := (String.ofList (Text.trim text.toList)).toLower
  if word ∈ ["1", "true", "yes", "on"] then some true
  else if word ∈ ["0", "false", "no", "off"] then some false
  else none

def size? (text : String) : Option UInt32 :=
  (Text.Numeral.natural? 0xffffffff (Text.trim text.toList)).map Nat.toUInt32

/-- Variables that are absent or unreadable leave the defaults. -/
def ofEnvironment (lookup : String → Option String) : Settings :=
  let s : Settings := {}
  let s := match (lookup "LOGTAIL_SYNC_ON_WRITE").bind switch? with
    | some sync => s.withSyncOnWrite sync
    | none => s
  match (lookup "LOGTAIL_MAX_RECORD_SIZE").bind size? with
  | some size => s.withMaxRecordSize size
  | none => s

def fieldNames : List String := ["sync_on_write", "max_record_size", "create_parent_dirs"]

/-- Fields that are not stated keep their values in `base`. -/
def overlay? (base : Settings) (v : Json.Value) : Option Settings := do
  let fields ← v.fields? fieldNames
  return {
    syncOnWrite := ← Json.Value.fieldOr fields "sync_on_write" Json.Value.bool? base.syncOnWrite
    maxRecordSize := ← Json.Value.fieldOr fields "max_record_size"
      (fun v => (v.natural? 0xffffffff).map Nat.toUInt32) base.maxRecordSize
    createParents :=
      ← Json.Value.fieldOr fields "create_parent_dirs" Json.Value.bool? base.createParents }

def ofJson? (text : String) : Option Settings :=
  (Json.Value.read? (Text.Utf8.encode text)).bind ({} : Settings).overlay?

end Settings
end EventLog
