import EventLog.Proofs.Codec.Json
import EventLog.Trace.Setup

/-! Setups from JSON objects that state some of their fields. Main statement: what is stated is read
and what is not is that of the defaults, at every level, and the whole of a setup is read back. -/
namespace EventLog

namespace Json

open Event (Member Holds names)
open Text.Utf8 (encode)

/-- A field of a record: its name, and which bytes are a text of its value. -/
abbrev Telling := String × (List UInt8 → Prop)

/-- A member of an object for a record: a known name has a text of that field, another name any
value. -/
structure Fits (fields : List Telling) (m : Member) : Prop where
  key : Padded (Quoted m.name) m.key
  known : ∀ f ∈ fields, f.1 = m.name → Padded f.2 m.text
  other : m.name ∉ fields.map Prod.fst → WellFormed m.text

/-- The bytes are an object that states some fields of a record, each once, in any order and beside
any members of other names. -/
def States (fields : List Telling) (stated : List String) (bytes : List UInt8) : Prop :=
  ∃ members, Holds bytes members ∧ (∀ m ∈ members, Fits fields m) ∧
    ∀ f ∈ fields, (names members).count f.1 = if f.1 ∈ stated then 1 else 0

/-- Only values have these texts. -/
def Sound (fields : List Telling) : Prop := ∀ f ∈ fields, ∀ text, f.2 text → WellFormed text

variable {fields : List Telling} {stated : List String} {bytes : List UInt8} {v : Value}

theorem Fits.wellFormed {m : Member} (sound : Sound fields) (h : Fits fields m) :
    WellFormed m.text := by
  by_cases known : m.name ∈ fields.map Prod.fst
  · obtain ⟨f, member, same⟩ := List.mem_map.1 known
    exact ((h.known f member same).imp (sound f member)).wellFormed
  · exact h.other known

theorem States.wellFormed (sound : Sound fields) (h : States fields stated bytes) :
    WellFormed bytes := by
  obtain ⟨members, holds, fit, -⟩ := h
  exact Event.wellFormed_of_holds holds (fun m member => (fit m member).key) fun m member =>
    (fit m member).wellFormed sound

theorem Denotes.unique {w : Value} (h : Denotes bytes v) (h' : Denotes bytes w) : v = w :=
  Option.some.inj (h.read.symm.trans h'.read)

/-- A value of a member of a known name is denoted by a text of the field. -/
theorem Fits.told {m : Member} (sound : Sound fields) (h : Fits fields m) (d : Denotes m.text v)
    {f : Telling} (member : f ∈ fields) (same : f.1 = m.name) :
    ∃ text, f.2 text ∧ Denotes text v := by
  have text := h.known f member same
  generalize m.text = bytes at text d
  cases text with
  | @mk _ core _ front told back =>
    obtain ⟨w, denotes⟩ := (sound f member core told).denotes
    cases d.unique (.padded (.mk front denotes back))
    exact ⟨core, told, denotes⟩

/-- What a reader is given of an object: of the fields those that it states, by their texts. -/
structure Given (fields : List Telling) (stated : List String) (given : List (String × Value)) :
    Prop where
  told : ∀ f ∈ fields, ∀ v, (f.1, v) ∈ given →
    f.1 ∈ stated ∧ ∃ text, f.2 text ∧ Denotes text v
  present : ∀ f ∈ fields, f.1 ∈ stated → f.1 ∈ given.map Prod.fst

theorem States.fields? (sound : Sound fields) (h : States fields stated bytes)
    (d : Denotes bytes v) :
    ∃ given, v.fields? (fields.map Prod.fst) = some given ∧ Given fields stated given := by
  obtain ⟨members, holds, fit, count⟩ := h
  have denoted : ∀ m ∈ members, ∃ v, Denotes m.text v := fun m member =>
    ((fit m member).wellFormed sound).denotes
  choose! value denotes using denoted
  obtain ⟨w, object, read⟩ := Event.fields?_of_holds (fields.map Prod.fst) holds
    (fun m member => (fit m member).key) denotes
  cases d.unique object
  have once : ((names members).filter (fields.map Prod.fst).contains).Nodup := by
    refine Event.nodup_of_count fun name known => ?_
    obtain ⟨f, member, rfl⟩ := List.mem_map.1 known
    rw [count f member]
    split <;> omega
  rw [if_pos once] at read
  refine ⟨_, read, ?_, ?_⟩
  · intro f member v here
    obtain ⟨m, inside, same⟩ := List.mem_map.1 (List.mem_filter.1 here).1
    obtain ⟨name, rfl⟩ := Prod.mk.inj same
    have named : f.1 ∈ names members := List.mem_map.2 ⟨m, inside, name⟩
    have counted := List.count_pos_iff.2 named
    rw [count f member] at counted
    refine ⟨?_, (fit m inside).told sound (denotes m inside) member name.symm⟩
    by_contra absent
    rw [if_neg absent] at counted
    exact Nat.lt_irrefl 0 counted
  · intro f member inside
    have counted := count f member
    rw [if_pos inside] at counted
    have named : f.1 ∈ names members := List.count_pos_iff.1 (by omega)
    obtain ⟨m, here, name⟩ := List.mem_map.1 named
    have known : (fields.map Prod.fst).contains m.name = true := by
      rw [name]
      exact List.contains_iff_mem.2 (List.mem_map.2 ⟨f, member, rfl⟩)
    exact List.mem_map.2 ⟨_, List.mem_filter.2 ⟨List.mem_map.2 ⟨m, here, rfl⟩, known⟩, name⟩

/-- A field that is stated is read from whichever of its texts; another one is the default. -/
theorem Given.fieldOr {β : Type} {given : List (String × Value)} (h : Given fields stated given)
    (i : Nat) {name : String} {tells : List UInt8 → Prop} (here : fields[i]? = some (name, tells))
    {read : Value → Option β} {b : β}
    (reads : ∀ {text v}, tells text → Denotes text v → read v = some b) (absent : β) :
    Value.fieldOr given name read absent = some (if name ∈ stated then b else absent) := by
  have member := List.mem_of_getElem? here
  refine Value.fieldOr_eq (fun v there => ?_) fun missing => ?_
  · obtain ⟨inside, text, told, denotes⟩ := h.told _ member v there
    rw [if_pos inside]
    exact reads told denotes
  · rw [if_neg (mt (h.present _ member) missing)]

/-! Texts of single values. -/

def BoolText (b : Bool) (text : List UInt8) : Prop := text = encode (if b then "true" else "false")

theorem BoolText.wellFormed {b : Bool} {text : List UInt8} (h : BoolText b text) :
    WellFormed text := by
  cases h
  cases b with
  | true => exact .word (.inr (.inl rfl))
  | false => exact .word (.inr (.inr rfl))

theorem BoolText.bool? {b : Bool} {text : List UInt8} (h : BoolText b text) (d : Denotes text v) :
    v.bool? = some b := by
  cases h
  cases b with
  | true => rw [d.unique denotes_true, Value.bool?]
  | false => rw [d.unique denotes_false, Value.bool?]

theorem Quoted.wellFormed {t : String} {text : List UInt8} (h : Quoted t text) : WellFormed text :=
  .string h.anyString

theorem Quoted.text? {t : String} {text : List UInt8} (h : Quoted t text) (d : Denotes text v) :
    v.text? = some t := by
  obtain ⟨content, meaning, denotes⟩ := Event.denotes_quoted (.of_core h)
  rw [d.unique denotes, Value.text?, meaning]

theorem Quoted.case? {t : String} {text : List UInt8} (h : Quoted t text) (d : Denotes text v) :
    v.case? = some t := by
  obtain ⟨content, meaning, denotes⟩ := Event.denotes_quoted (.of_core h)
  rw [d.unique denotes, Value.case?, meaning]

/-! Objects as they are written. -/

theorem states_object {fields : List Telling} {stated : List String}
    {members : List (String × String)}
    (known : ∀ m ∈ members, ∀ f ∈ fields, f.1 = m.1 → f.2 (encode m.2))
    (other : ∀ m ∈ members, m.1 ∉ fields.map Prod.fst → WellFormed (encode m.2))
    (count : ∀ f ∈ fields, (members.map Prod.fst).count f.1 = if f.1 ∈ stated then 1 else 0) :
    States fields stated (encode (Writer.object members)) := by
  refine ⟨members.map Member.ofTexts, Event.holds_object members, ?_, ?_⟩
  · intro m member
    obtain ⟨m, here, rfl⟩ := List.mem_map.1 member
    exact ⟨.of_core (quoted_quote m.1), fun f inside same => .of_core (known m here f inside same),
      other m here⟩
  · have named : names (members.map Member.ofTexts) = members.map Prod.fst := by
      simp [names, Member.ofTexts]
    rw [named]
    exact count

end Json

namespace Trace

open Json
open Text.Utf8 (encode)

/-- Which fields are stated, by their names in the four records. -/
structure Extent where
  setup : List String
  console : List String := []
  file : List String := []
  layout : List String := []

def Console.fields (c : Console) : List Telling := [
  ("enabled", BoolText c.enabled),
  ("pretty", BoolText c.pretty),
  ("ansi", BoolText c.colored),
  ("target", Quoted c.stream.word)]

def FileSink.fields (f : FileSink) : List Telling := [
  ("directory", Quoted f.directory),
  ("prefix", Quoted f.stem),
  ("rotation", Quoted f.rotation.word)]

def Layout.fields (l : Layout) : List Telling := [
  ("flatten_events", BoolText l.flat),
  ("include_spans", BoolText l.spans),
  ("include_location", BoolText l.location)]

/-- A file that there is not is null. -/
def FileSink.Told (file : Option FileSink) (stated : List String) (text : List UInt8) : Prop :=
  match file with
  | none => text = encode "null"
  | some file => States file.fields stated text

def Setup.fields (s : Setup) (e : Extent) : List Telling := [
  ("default_level", Quoted s.defaultLevel),
  ("console", States s.console.fields e.console),
  ("file", FileSink.Told s.file e.file),
  ("jsonl", States s.layout.fields e.layout)]

/-! The stated fields, and the defaults of their own record for the others. -/

def Console.kept (c : Console) (stated : List String) : Console :=
  let base : Console := {}
  { enabled := if "enabled" ∈ stated then c.enabled else base.enabled
    pretty := if "pretty" ∈ stated then c.pretty else base.pretty
    colored := if "ansi" ∈ stated then c.colored else base.colored
    stream := if "target" ∈ stated then c.stream else base.stream }

def FileSink.kept (f : FileSink) (stated : List String) : FileSink :=
  let base : FileSink := {}
  { directory := if "directory" ∈ stated then f.directory else base.directory
    stem := if "prefix" ∈ stated then f.stem else base.stem
    rotation := if "rotation" ∈ stated then f.rotation else base.rotation }

def Layout.kept (l : Layout) (stated : List String) : Layout :=
  let base : Layout := {}
  { flat := if "flatten_events" ∈ stated then l.flat else base.flat
    spans := if "include_spans" ∈ stated then l.spans else base.spans
    location := if "include_location" ∈ stated then l.location else base.location }

def Setup.kept (s : Setup) (e : Extent) : Setup :=
  let base : Setup := {}
  { defaultLevel := if "default_level" ∈ e.setup then s.defaultLevel else base.defaultLevel
    console := if "console" ∈ e.setup then s.console.kept e.console else base.console
    file := if "file" ∈ e.setup then s.file.map (·.kept e.file) else base.file
    layout := if "jsonl" ∈ e.setup then s.layout.kept e.layout else base.layout }

/-! Each record is read. -/

variable {stated : List String} {text : List UInt8} {v : Value}

theorem Console.sound (c : Console) : Sound c.fields := by
  simp only [Sound, fields, List.forall_mem_cons, List.not_mem_nil, false_imp_iff, implies_true,
    and_true]
  exact ⟨fun _ => BoolText.wellFormed, fun _ => BoolText.wellFormed, fun _ => BoolText.wellFormed,
    fun _ => Quoted.wellFormed⟩

theorem FileSink.sound (f : FileSink) : Sound f.fields := by
  simp only [Sound, fields, List.forall_mem_cons, List.not_mem_nil, false_imp_iff, implies_true,
    and_true]
  exact ⟨fun _ => Quoted.wellFormed, fun _ => Quoted.wellFormed, fun _ => Quoted.wellFormed⟩

theorem Layout.sound (l : Layout) : Sound l.fields := by
  simp only [Sound, fields, List.forall_mem_cons, List.not_mem_nil, false_imp_iff, implies_true,
    and_true]
  exact ⟨fun _ => BoolText.wellFormed, fun _ => BoolText.wellFormed, fun _ => BoolText.wellFormed⟩

theorem FileSink.Told.wellFormed {file : Option FileSink} (h : Told file stated text) :
    WellFormed text := by
  cases file with
  | none =>
    rw [show text = encode "null" from h]
    exact .word (.inl rfl)
  | some f => exact States.wellFormed f.sound h

theorem Setup.sound (s : Setup) (e : Extent) : Sound (s.fields e) := by
  simp only [Sound, fields, List.forall_mem_cons, List.not_mem_nil, false_imp_iff, implies_true,
    and_true]
  exact ⟨fun _ => Quoted.wellFormed, fun _ => States.wellFormed s.console.sound,
    fun _ => FileSink.Told.wellFormed, fun _ => States.wellFormed s.layout.sound⟩

theorem Stream.read {s : Stream} (h : Quoted s.word text) (d : Denotes text v) :
    v.case?.bind ofWord? = some s := by
  rw [h.case? d, Option.bind_some, ofWord?_word]

theorem Rotation.read {r : Rotation} (h : Quoted r.word text) (d : Denotes text v) :
    v.case?.bind ofWord? = some r := by
  rw [h.case? d, Option.bind_some, ofWord?_word]

namespace Setup

theorem consoleOf?_eq {c : Console} (h : States c.fields stated text) (d : Denotes text v) :
    consoleOf? v = some (c.kept stated) := by
  obtain ⟨given, read, told⟩ := h.fields? c.sound d
  have names : c.fields.map Prod.fst = ["enabled", "pretty", "ansi", "target"] := rfl
  have enabled := told.fieldOr 0 rfl BoolText.bool? true
  have pretty := told.fieldOr 1 rfl BoolText.bool? false
  have colored := told.fieldOr 2 rfl BoolText.bool? false
  have stream := told.fieldOr 3 rfl Stream.read .stdout
  rw [names] at read
  simp [consoleOf?, read, enabled, pretty, colored, stream, Console.kept]

theorem fileOf?_eq {f : FileSink} (h : States f.fields stated text) (d : Denotes text v) :
    fileOf? v = some (f.kept stated) := by
  obtain ⟨given, read, told⟩ := h.fields? f.sound d
  have names : f.fields.map Prod.fst = ["directory", "prefix", "rotation"] := rfl
  have directory := told.fieldOr 0 rfl Quoted.text? "./logs"
  have stem := told.fieldOr 1 rfl Quoted.text? "logtail"
  have rotation := told.fieldOr 2 rfl Rotation.read .daily
  rw [names] at read
  simp [fileOf?, read, directory, stem, rotation, FileSink.kept]

theorem layoutOf?_eq {l : Layout} (h : States l.fields stated text) (d : Denotes text v) :
    layoutOf? v = some (l.kept stated) := by
  obtain ⟨given, read, told⟩ := h.fields? l.sound d
  have names : l.fields.map Prod.fst =
    ["flatten_events", "include_spans", "include_location"] := rfl
  have flat := told.fieldOr 0 rfl BoolText.bool? true
  have spans := told.fieldOr 1 rfl BoolText.bool? true
  have location := told.fieldOr 2 rfl BoolText.bool? true
  rw [names] at read
  simp [layoutOf?, read, flat, spans, location, Layout.kept]

theorem nullable?_fileOf?_eq {file : Option FileSink} (h : FileSink.Told file stated text)
    (d : Denotes text v) : v.nullable? fileOf? = some (file.map (·.kept stated)) := by
  cases file with
  | none =>
    rw [show text = encode "null" from h] at d
    rw [d.unique denotes_null]
    rfl
  | some f =>
    have read : fileOf? v = some (f.kept stated) := fileOf?_eq h d
    cases v with
    | null => cases read
    | _ => rw [Value.nullable?, read] <;> simp

theorem ofValue?_eq {s : Setup} {e : Extent} (h : States (s.fields e) e.setup text)
    (d : Denotes text v) : ofValue? v = some (s.kept e) := by
  obtain ⟨given, read, told⟩ := h.fields? (s.sound e) d
  have names : (s.fields e).map Prod.fst = ["default_level", "console", "file", "jsonl"] := rfl
  have level := told.fieldOr 0 rfl Quoted.text? "info"
  have console := told.fieldOr 1 rfl consoleOf?_eq {}
  have file := told.fieldOr 2 rfl nullable?_fileOf?_eq none
  have layout := told.fieldOr 3 rfl layoutOf?_eq {}
  rw [names] at read
  simp [ofValue?, read, level, console, file, layout, kept]

theorem ofJson?_of_states {s : Setup} {e : Extent} {text : String}
    (h : States (s.fields e) e.setup (encode text)) : ofJson? text = some (s.kept e) := by
  obtain ⟨v, denotes⟩ := (h.wellFormed (s.sound e)).denotes
  rw [ofJson?, denotes.read, Option.bind_some, ofValue?_eq h denotes]

/-! What is written states everything. -/

open Json.Writer (quote object)

theorem states_console (c : Console) : States c.fields (c.fields.map Prod.fst) (encode (object [
    ("enabled", Writer.bool c.enabled), ("pretty", Writer.bool c.pretty),
    ("ansi", Writer.bool c.colored), ("target", quote c.stream.word)])) := by
  refine states_object ?_ ?_ ?_ <;> simp [Console.fields, BoolText, Writer.bool, quoted_quote]

theorem states_file (f : FileSink) : States f.fields (f.fields.map Prod.fst) (encode (object [
    ("directory", quote f.directory), ("prefix", quote f.stem),
    ("rotation", quote f.rotation.word)])) := by
  refine states_object ?_ ?_ ?_ <;> simp [FileSink.fields, quoted_quote]

theorem states_layout (l : Layout) : States l.fields (l.fields.map Prod.fst) (encode (object [
    ("flatten_events", Writer.bool l.flat), ("include_spans", Writer.bool l.spans),
    ("include_location", Writer.bool l.location)])) := by
  refine states_object ?_ ?_ ?_ <;> simp [Layout.fields, BoolText, Writer.bool]

/-- All fields of all records. -/
def everything : Extent where
  setup := ["default_level", "console", "file", "jsonl"]
  console := ["enabled", "pretty", "ansi", "target"]
  file := ["directory", "prefix", "rotation"]
  layout := ["flatten_events", "include_spans", "include_location"]

theorem states_toJson (s : Setup) :
    States (s.fields everything) everything.setup (encode s.toJson) := by
  obtain ⟨level, console, file, layout⟩ := s
  have console := states_console console
  have layout := states_layout layout
  cases file with
  | none =>
    have null : FileSink.Told none everything.file (encode "null") := rfl
    refine states_object ?_ ?_ ?_
    · simpa [fields, quoted_quote] using ⟨console, null, layout⟩
    · simp [fields]
    · simp [fields, everything]
  | some f =>
    have file := states_file f
    refine states_object ?_ ?_ ?_
    · simpa [fields, quoted_quote] using ⟨console, file, layout⟩
    · simp [fields]
    · simp [fields, everything]

theorem kept_everything (s : Setup) : s.kept everything = s := by
  obtain ⟨level, console, file, layout⟩ := s
  cases file with
  | none => simp [kept, Console.kept, Layout.kept, everything]
  | some f => simp [kept, Console.kept, FileSink.kept, Layout.kept, everything]

/-- A setup overlays the defaults. A text states some fields of it, each once, in any order, in any
JSON spelling and beside any members of other names; the fields inside a console, a file or a layout
likewise, and a file that there is not is null. From the text comes the setup with the stated
fields, where every other field, at the top and inside a record, is the default of its own record.
What is written of a setup is read back as the setup. -/
theorem ofJson?_overlay :
    (∀ (s : Setup) (e : Extent) (text : String), States (s.fields e) e.setup (encode text) →
      ofJson? text = some (s.kept e)) ∧
    ∀ s : Setup, ofJson? s.toJson = some s := by
  refine ⟨fun s e text h => ofJson?_of_states h, fun s => ?_⟩
  rw [ofJson?_of_states (states_toJson s), kept_everything]

/-- A level and the stream of the console, beside members that no record has. -/
def levelAndStream : String :=
  object [("theme", "[]"), ("console", object [("target", quote "stderr"), ("width", "null")]),
    ("default_level", quote "app=trace")]

theorem ofJson?_overlay_levelAndStream : ofJson? levelAndStream =
    some { defaultLevel := "app=trace", console := { stream := .stderr } } := by
  have stderr : Quoted "stderr" (encode (quote "stderr")) := quoted_quote _
  have level : Quoted "app=trace" (encode (quote "app=trace")) := quoted_quote _
  have null : WellFormed (encode "null") := .word (.inl rfl)
  have theme : WellFormed (encode "[]") := .array (.empty blank_nil) (by simp)
  have console : States (Console.fields { stream := .stderr }) ["target"]
      (encode (object [("target", quote "stderr"), ("width", "null")])) := by
    refine states_object ?_ ?_ ?_
    · simp [Console.fields, Stream.word, stderr]
    · simp [Console.fields, null]
    · simp [Console.fields]
  refine ofJson?_overlay.1 { defaultLevel := "app=trace", console := { stream := .stderr } }
    { setup := ["console", "default_level"], console := ["target"] } levelAndStream ?_
  refine states_object ?_ ?_ ?_
  · simp [fields, level, console]
  · simp [fields, theme]
  · simp [fields]

end Setup
end Trace
end EventLog
