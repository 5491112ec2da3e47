import EventLog.Codec.Varint
import EventLog.Event

/-! The compact binary form of an event: severity, message, arguments, cause and time in this
order. A text has its length in front, a list its count, and a cause the byte 1, or 0 for none. -/
namespace EventLog.Compact

def encodeText (text : String) : List UInt8 :=
  let bytes := Text.Utf8.encode text
  Varint.encode bytes.length ++ bytes

def encodeTexts (texts : List String) : List UInt8 :=
  Varint.encode texts.length ++ texts.flatMap encodeText

def encodeCause : Option String → List UInt8
  | none => [0]
  | some text => 1 :: encodeText text

def encode (e : Event) : List UInt8 :=
  Varint.encode e.severity.rank ++ encodeText e.message ++ encodeTexts e.arguments
    ++ encodeCause e.cause ++ Varint.encode (Varint.zigzag e.time.toInt)

namespace Reader

def text : Reader String := do
  let length ← Varint.read64
  let content ← bytes length
  match Text.Utf8.decode? content with
  | some text => return text
  | none => throw .invalidText

def texts : (count : Nat) → Reader (List String)
  | 0 => return []
  | count + 1 => do
    let first ← text
    let later ← texts count
    return first :: later

def severity : Reader Severity := do
  match Severity.ofRank? (← Varint.read32) with
  | some s => return s
  | none => throw .unknownVariant

def cause : Reader (Option String) := do
  let tag ← byte
  if tag = 0 then return none
  else if tag = 1 then return some (← text)
  else throw .invalidOption

def event : Reader Event := do
  let severity ← severity
  let message ← text
  let arguments ← texts (← Varint.read64)
  let cause ← cause
  let time ← Varint.read64
  return ⟨severity, message, arguments, cause, Int64.ofInt (Varint.unzigzag time)⟩

end Reader

/-- Bytes after the event are ignored. -/
def decode (input : List UInt8) : Except Fault Event :=
  (Reader.event input).map Prod.fst

end EventLog.Compact
