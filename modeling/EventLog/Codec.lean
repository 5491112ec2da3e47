import EventLog.Codec.Compact
import EventLog.Codec.Json
import EventLog.Failure

/-! Codecs turn one event into the payload of a record and back. -/
namespace EventLog

structure Codec where
  encode : Event → Except Failure (List UInt8)
  decode : List UInt8 → Except Failure Event

namespace Codec

def compact : Codec where
  encode e := .ok (Compact.encode e)
  decode payload := (Compact.decode payload).mapError fun fault => .decoding (.compact fault)

def json : Codec where
  encode e := .ok (Text.Utf8.encode e.toJson)
  decode payload := match Event.ofJson? payload with
    | some e => .ok e
    | none => .error (.decoding .json)

end Codec
end EventLog
