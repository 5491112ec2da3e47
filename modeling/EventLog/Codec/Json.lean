import EventLog.Event
import EventLog.Json.Field
import EventLog.Json.Writer

/-! The JSON form of an event: an object of five members. Only the cause may be left out. -/
namespace EventLog.Event

def toJson (e : Event) : String :=
  Json.Writer.object [
    ("level", Json.Writer.quote e.severity.title),
    ("message", Json.Writer.quote e.message),
    ("arguments", Json.Writer.array (e.arguments.map Json.Writer.quote)),
    ("cause", (e.cause.map Json.Writer.quote).getD "null"),
    ("timestamp_millis", toString e.time.toInt)]

def fieldNames : List String := ["level", "message", "arguments", "cause", "timestamp_millis"]

def ofValue? (v : Json.Value) : Option Event := do
  let fields ← v.fields? fieldNames
  return {
    severity := ← Json.Value.required fields "level" fun v => v.case?.bind Severity.ofTitle?
    message := ← Json.Value.required fields "message" Json.Value.text?
    arguments := ← Json.Value.required fields "arguments" (Json.Value.list? Json.Value.text?)
    cause := ← Json.Value.fieldOr fields "cause" (Json.Value.nullable? Json.Value.text?) none
    time := ← Json.Value.required fields "timestamp_millis" Json.Value.int64? }

def ofJson? (input : List UInt8) : Option Event := (Json.Value.read? input).bind ofValue?

end EventLog.Event
