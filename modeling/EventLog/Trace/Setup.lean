import EventLog.Json.Field
import EventLog.Json.Writer

/-! What a subscriber is told to do: a filter, a console, a file and the layout of JSON lines.
A record that states only some fields overlays the defaults. -/
namespace EventLog.Trace

inductive Stream
  | stdout | stderr
  deriving DecidableEq, Repr

def Stream.word : Stream → String
  | stdout => "stdout"
  | stderr => "stderr"

def Stream.ofWord? (word : String) : Option Stream := [stdout, stderr].find? (·.word == word)

@[simp] theorem Stream.ofWord?_word (s : Stream) : ofWord? s.word = some s := by
  cases s <;> decide

/-- When a file sink goes on to a new file. -/
inductive Rotation
  | daily | hourly | never
  deriving DecidableEq, Repr

def Rotation.word : Rotation → String
  | daily => "Daily"
  | hourly => "Hourly"
  | never => "Never"

def Rotation.ofWord? (word : String) : Option Rotation :=
  [daily, hourly, never].find? (·.word == word)

@[simp] theorem Rotation.ofWord?_word (r : Rotation) : ofWord? r.word = some r := by
  cases r <;> decide

structure Console where
  enabled : Bool := true
  /-- Lines for people instead of JSON. -/
  pretty : Bool := false
  colored : Bool := false
  stream : Stream := .stdout
  deriving DecidableEq, Repr

structure FileSink where
  directory : String := "./logs"
  stem : String := "logtail"
  rotation : Rotation := .daily
  deriving DecidableEq, Repr

/-- The shape of JSON lines. -/
structure Layout where
  flat : Bool := true
  spans : Bool := true
  location : Bool := true
  deriving DecidableEq, Repr

structure Setup where
  defaultLevel : String := "info"
  console : Console := {}
  file : Option FileSink := none
  layout : Layout := {}
  deriving DecidableEq, Repr

namespace Setup

open Json Json.Value

def development : Setup where
  defaultLevel := "debug"
  console := { pretty := true, colored := true, stream := .stderr }

def production (directory : String) : Setup where
  console := { enabled := false }
  file := some { directory }

/-- Results go to standard output, so diagnostics go to standard error. -/
def commandLine (verbose : Bool) : Setup :=
  if verbose then development
  else { defaultLevel := "warn", console := { pretty := true, stream := .stderr } }

def consoleOf? (v : Value) : Option Console := do
  let base : Console := {}
  let fields ← v.fields? ["enabled", "pretty", "ansi", "target"]
  return {
    enabled := ← fieldOr fields "enabled" bool? base.enabled
    pretty := ← fieldOr fields "pretty" bool? base.pretty
    colored := ← fieldOr fields "ansi" bool? base.colored
    stream := ← fieldOr fields "target" (fun v => v.case?.bind Stream.ofWord?) base.stream }

def fileOf? (v : Value) : Option FileSink := do
  let base : FileSink := {}
  let fields ← v.fields? ["directory", "prefix", "rotation"]
  return {
    directory := ← fieldOr fields "directory" text? base.directory
    stem := ← fieldOr fields "prefix" text? base.stem
    rotation := ← fieldOr fields "rotation" (fun v => v.case?.bind Rotation.ofWord?)
      base.rotation }

def layoutOf? (v : Value) : Option Layout := do
  let base : Layout := {}
  let fields ← v.fields? ["flatten_events", "include_spans", "include_location"]
  return {
    flat := ← fieldOr fields "flatten_events" bool? base.flat
    spans := ← fieldOr fields "include_spans" bool? base.spans
    location := ← fieldOr fields "include_location" bool? base.location }

def ofValue? (v : Value) : Option Setup := do
  let base : Setup := {}
  let fields ← v.fields? ["default_level", "console", "file", "jsonl"]
  return {
    defaultLevel := ← fieldOr fields "default_level" text? base.defaultLevel
    console := ← fieldOr fields "console" consoleOf? base.console
    file := ← fieldOr fields "file" (nullable? fileOf?) base.file
    layout := ← fieldOr fields "jsonl" layoutOf? base.layout }

def ofJson? (text : String) : Option Setup :=
  (Value.read? (Text.Utf8.encode text)).bind ofValue?

open Json.Writer (quote object)

def toJson (s : Setup) : String :=
  object [
    ("default_level", quote s.defaultLevel),
    ("console", object [
      ("enabled", Writer.bool s.console.enabled),
      ("pretty", Writer.bool s.console.pretty),
      ("ansi", Writer.bool s.console.colored),
      ("target", quote s.console.stream.word)]),
    ("file", match s.file with
      | none => "null"
      | some file => object [
        ("directory", quote file.directory),
        ("prefix", quote file.stem),
        ("rotation", quote file.rotation.word)]),
    ("jsonl", object [
      ("flatten_events", Writer.bool s.layout.flat),
      ("include_spans", Writer.bool s.layout.spans),
      ("include_location", Writer.bool s.layout.location)])]

end Setup
end EventLog.Trace
