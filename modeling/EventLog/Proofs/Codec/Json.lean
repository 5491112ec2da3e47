import EventLog.Codec.Json
import EventLog.Proofs.Json.Fields
import Mathlib.Data.List.Nodup

/-! The JSON forms of an event: its five members in any order, beside any others. Each of them is
read as the event, and what is written is one of them. -/
namespace EventLog.Event

open Json
open Text.Utf8 (encode)

/-- The bytes are a way to write the member of this name. A member of another name may have any
value. -/
structure Tells (e : Event) (name : String) (text : List UInt8) : Prop where
  level : name = "level" → Quoted e.severity.title text
  message : name = "message" → Quoted e.message text
  arguments : name = "arguments" → ∃ items, Bracketed '[' ']' items text ∧
    List.Forall₂ (fun t => Padded (Quoted t)) e.arguments items
  cause : name = "cause" → ∀ t, e.cause = some t → Quoted t text
  noCause : name = "cause" → e.cause = none → text = encode "null"
  time : name = "timestamp_millis" → text = encode (toString e.time.toInt)
  other : name ∉ fieldNames → WellFormed text

/-- A member of an object as it is written, and its name. -/
structure Member extends Field where
  name : String

structure Member.Tells (m : Member) (e : Event) : Prop where
  key : Padded (Quoted m.name) m.key
  text : Padded (e.Tells m.name) m.text

def names (members : List Member) : List String := members.map (·.name)

/-- The bytes are an object of these members. -/
def Holds (bytes : List UInt8) (members : List Member) : Prop :=
  Padded (Bracketed '\x7b' '\x7d' (members.map fun m => m.toField.bytes)) bytes

/-- Each of the five names is there once. The cause may be left out if there is none. -/
structure Presents (members : List Member) (e : Event) : Prop where
  each : ∀ m ∈ members, m.Tells e
  once : ∀ name ∈ fieldNames, (names members).count name = 1 ∨
    name = "cause" ∧ e.cause = none ∧ (names members).count name = 0

theorem tells_of_other {e : Event} {name : String} {text : List UInt8} (other : name ∉ fieldNames)
    (valid : WellFormed text) : e.Tells name text := by
  refine ⟨?_, ?_, ?_, ?_, ?_, ?_, fun _ => valid⟩ <;> rintro rfl <;> simp [fieldNames] at other

/-! A presentation is a JSON text. -/

theorem Tells.wellFormed {e : Event} {name : String} {text : List UInt8} (h : e.Tells name text) :
    WellFormed text := by
  by_cases known : name ∈ fieldNames
  · simp only [fieldNames, List.mem_cons, List.not_mem_nil, or_false] at known
    rcases known with rfl | rfl | rfl | rfl | rfl
    · exact .string (h.level rfl).anyString
    · exact .string (h.message rfl).anyString
    · obtain ⟨items, written, texts⟩ := h.arguments rfl
      have each : List.Forall₂ (fun item t => WellFormed item ∧ Padded (Quoted t) item) items
          e.arguments := by
        refine (texts.imp fun t item quoted => ⟨?_, quoted⟩).flip
        exact (quoted.imp fun _ own => .string own.anyString).wellFormed
      exact .array written ((List.forall₂_and_left _ _).1 each).1
    · cases same : e.cause with
      | none =>
        rw [h.noCause rfl same]
        exact .word (.inl rfl)
      | some t => exact .string (h.cause rfl t same).anyString
    · rw [h.time rfl, encode_toString]
      exact .number (number_toString e.time.toInt)
  · exact h.other known

theorem wellFormed_of_holds {members : List Member} {bytes : List UInt8} (holds : Holds bytes members)
    (keys : ∀ m ∈ members, Padded (Quoted m.name) m.key)
    (values : ∀ m ∈ members, WellFormed m.text) : WellFormed bytes := by
  have object : Padded WellFormed bytes := holds.imp fun text written => by
    refine @WellFormed.object (members.map (·.toField)) text
      (by simpa [Function.comp_def] using written) ?_ ?_
    · intro f member
      obtain ⟨m, here, rfl⟩ := List.mem_map.1 member
      exact (keys m here).imp fun _ quoted => quoted.anyString
    · intro f member
      obtain ⟨m, here, rfl⟩ := List.mem_map.1 member
      exact values m here
  exact object.wellFormed

theorem Presents.wellFormed {members : List Member} {bytes : List UInt8} {e : Event}
    (h : Presents members e) (holds : Holds bytes members) : WellFormed bytes :=
  wellFormed_of_holds holds (fun m member => (h.each m member).key) fun m member =>
    ((h.each m member).text.imp fun _ tells => tells.wellFormed).wellFormed

/-! Members are read. -/

/-- The value of a member of this name is read as the event has it. -/
structure Says (e : Event) (name : String) (v : Value) : Prop where
  level : name = "level" → v.case?.bind Severity.ofTitle? = some e.severity
  message : name = "message" → v.text? = some e.message
  arguments : name = "arguments" → v.list? Value.text? = some e.arguments
  cause : name = "cause" → v.nullable? Value.text? = some e.cause
  time : name = "timestamp_millis" → v.int64? = some e.time

theorem denotes_quoted {t : String} {text : List UInt8} (h : Padded (Quoted t) text) :
    ∃ content, content.text? = some t ∧ Denotes text (.string content) := by
  obtain ⟨content, meaning, spelled⟩ := h.spells_quoted
  exact ⟨content, meaning, [.string content], spelled, Value.forms_string content⟩

theorem denotes_texts {texts : List String} {items : List (List UInt8)} {text : List UInt8}
    (written : Bracketed '[' ']' items text)
    (h : List.Forall₂ (fun t => Padded (Quoted t)) texts items) :
    ∃ v : Value, Denotes text v ∧ v.list? Value.text? = some texts := by
  have each : ∃ read : List (List UInt8 × Value), read.map (·.1) = items ∧
      (∀ i ∈ read, Denotes i.1 i.2) ∧
        List.Forall₂ (fun t v => Value.text? v = some t) texts (read.map (·.2)) := by
    clear written
    induction h with
    | nil => exact ⟨[], rfl, by simp, .nil⟩
    | @cons t item _ _ first _ ih =>
      obtain ⟨content, meaning, denotes⟩ := denotes_quoted first
      obtain ⟨read, rfl, all, texts⟩ := ih
      refine ⟨(item, .string content) :: read, rfl, ?_, .cons meaning texts⟩
      intro i member
      rcases List.mem_cons.1 member with rfl | member
      · exact denotes
      · exact all i member
  obtain ⟨read, rfl, all, texts⟩ := each
  exact ⟨_, denotes_array written all, Value.list?_array texts⟩

theorem Tells.denotes {e : Event} {name : String} {text : List UInt8} (h : e.Tells name text) :
    ∃ v, Denotes text v ∧ e.Says name v := by
  by_cases known : name ∈ fieldNames
  · simp only [fieldNames, List.mem_cons, List.not_mem_nil, or_false] at known
    rcases known with rfl | rfl | rfl | rfl | rfl
    · obtain ⟨content, meaning, denotes⟩ := denotes_quoted (.of_core (h.level rfl))
      refine ⟨_, denotes, fun _ => ?_, ?_, ?_, ?_, ?_⟩ <;> try simp
      rw [Value.case?, meaning, Option.bind_some, Severity.ofTitle?_title]
    · obtain ⟨content, meaning, denotes⟩ := denotes_quoted (.of_core (h.message rfl))
      refine ⟨_, denotes, ?_, fun _ => meaning, ?_, ?_, ?_⟩ <;> simp
    · obtain ⟨items, written, texts⟩ := h.arguments rfl
      obtain ⟨v, denotes, read⟩ := denotes_texts written texts
      refine ⟨v, denotes, ?_, ?_, fun _ => read, ?_, ?_⟩ <;> simp
    · cases same : e.cause with
      | none =>
        rw [h.noCause rfl same]
        refine ⟨.null, denotes_null, ?_, ?_, ?_, fun _ => ?_, ?_⟩ <;> try simp
        rw [same]
        rfl
      | some t =>
        obtain ⟨content, meaning, denotes⟩ := denotes_quoted (.of_core (h.cause rfl t same))
        refine ⟨_, denotes, ?_, ?_, ?_, fun _ => ?_, ?_⟩ <;> try simp
        show some <$> content.text? = some e.cause
        rw [meaning, same]
        rfl
    · rw [h.time rfl]
      refine ⟨_, denotes_toString e.time.toInt, ?_, ?_, ?_, ?_, fun _ => ?_⟩ <;> try simp
      exact Value.int64?_toString e.time
  · obtain ⟨v, denotes⟩ := (h.other known).denotes
    refine ⟨v, denotes, ?_, ?_, ?_, ?_, ?_⟩ <;> rintro rfl <;> simp [fieldNames] at known

/-! Objects are read. -/

/-- An object whose members are read is read as the known ones among them, if none is there
twice. -/
theorem fields?_of_holds (known : List String) {members : List Member} {bytes : List UInt8}
    {value : Member → Value} (holds : Holds bytes members)
    (keys : ∀ m ∈ members, Padded (Quoted m.name) m.key)
    (values : ∀ m ∈ members, Denotes m.text (value m)) :
    ∃ v, Denotes bytes v ∧ v.fields? known =
      if ((names members).filter known.contains).Nodup then
        some ((members.map fun m => (m.name, value m)).filter fun m => known.contains m.1)
      else none := by
  have spelled : ∀ m ∈ members, ∃ content : Literal, content.text? = some m.name ∧
      Token.Spells m.key [.string content] := fun m member => (keys m member).spells_quoted
  choose! content meaning spelled using spelled
  have object : Denotes bytes (.object (members.map fun m => (content m, value m))) := by
    refine Denotes.padded (holds.imp fun text written => ?_)
    have denotes := @denotes_object (members.map fun m => ⟨m.toField, content m, value m⟩) text
      (by simpa [Function.comp_def] using written) (by
        intro entry member
        obtain ⟨m, here, rfl⟩ := List.mem_map.1 member
        exact ⟨spelled m here, values m here⟩)
    simpa [Function.comp_def] using denotes
  exact ⟨_, object, Value.fields?_object meaning known⟩

theorem nodup_of_count {members : List Member} {known : List String}
    (once : ∀ name ∈ known, (names members).count name ≤ 1) :
    ((names members).filter known.contains).Nodup := by
  refine List.nodup_iff_count_le_one.2 fun name => ?_
  by_cases member : name ∈ known
  · rw [List.count_filter (by simpa using member)]
    exact once name member
  · have out : name ∉ (names members).filter known.contains := by simp [member]
    rw [List.count_eq_zero_of_not_mem out]
    omega

theorem Presents.nodup {members : List Member} {e : Event} (h : Presents members e) :
    ((names members).filter fieldNames.contains).Nodup := by
  refine nodup_of_count fun name known => ?_
  rcases h.once name known with once | ⟨-, -, never⟩ <;> omega

/-- A record whose five members stand for those of the event. -/
theorem ofValue?_eq {e : Event} {v : Value} {fields : List (String × Value)}
    (h : v.fields? fieldNames = some fields) (reads : ∀ m ∈ fields, e.Says m.1 m.2)
    (present : ∀ name ∈ fieldNames, name ∈ fields.map Prod.fst ∨ name = "cause" ∧ e.cause = none) :
    ofValue? v = some e := by
  have here : ∀ name ∈ fieldNames, name ≠ "cause" → name ∈ fields.map Prod.fst := by
    intro name known other
    rcases present name known with present | ⟨cause, -⟩
    · exact present
    · exact absurd cause other
  have severity := Value.required_eq (here "level" (by decide) (by decide))
    fun v member => (reads _ member).level rfl
  have message := Value.required_eq (here "message" (by decide) (by decide))
    fun v member => (reads _ member).message rfl
  have arguments := Value.required_eq (here "arguments" (by decide) (by decide))
    fun v member => (reads _ member).arguments rfl
  have cause := @Value.fieldOr_eq _ fields "cause" _ _ none
    (fun v member => (reads _ member).cause rfl) fun missing => by
      rcases present "cause" (by decide) with present | ⟨-, none⟩
      · exact absurd present missing
      · exact none.symm
  have time := Value.required_eq (here "timestamp_millis" (by decide) (by decide))
    fun v member => (reads _ member).time rfl
  simp [ofValue?, h, severity, message, arguments, cause, time]

theorem Member.Tells.denotes {m : Member} {e : Event} (h : m.Tells e) :
    ∃ v, Denotes m.text v ∧ e.Says m.name v := by
  have text := h.text
  generalize m.text = bytes at text
  cases text with
  | mk front core back =>
    obtain ⟨v, denotes, reads⟩ := core.denotes
    exact ⟨v, .padded (.mk front denotes back), reads⟩

theorem ofJson?_of_presents {members : List Member} {bytes : List UInt8} {e : Event}
    (holds : Holds bytes members) (h : Presents members e) : ofJson? bytes = some e := by
  have values : ∀ m ∈ members, ∃ v, Denotes m.text v ∧ e.Says m.name v := fun m member =>
    (h.each m member).denotes
  choose! value denotes reads using values
  obtain ⟨v, object, fields⟩ := fields?_of_holds fieldNames holds
    (fun m member => (h.each m member).key) denotes
  rw [if_pos h.nodup] at fields
  rw [ofJson?, object.read, Option.bind_some]
  refine ofValue?_eq fields ?_ ?_
  · intro field member
    obtain ⟨m, here, rfl⟩ := List.mem_map.1 (List.mem_filter.1 member).1
    exact reads m here
  · intro name known
    rcases h.once name known with once | ⟨cause, none, -⟩
    · left
      have here : name ∈ names members := List.count_pos_iff.1 (by omega)
      obtain ⟨m, member, rfl⟩ := List.mem_map.1 here
      have field : (m.name, value m) ∈ (members.map fun m => (m.name, value m)).filter
          fun m => fieldNames.contains m.1 :=
        List.mem_filter.2 ⟨List.mem_map.2 ⟨m, member, rfl⟩, by simpa using known⟩
      exact List.mem_map.2 ⟨_, field, rfl⟩
    · exact .inr ⟨cause, none⟩

/-- Whatever the values are, no known name may be there twice. -/
theorem ofJson?_of_repeated {members : List Member} {bytes : List UInt8}
    (holds : Holds bytes members) (keys : ∀ m ∈ members, Padded (Quoted m.name) m.key)
    (values : ∀ m ∈ members, WellFormed m.text) {name : String} (known : name ∈ fieldNames)
    (repeated : 2 ≤ (names members).count name) : ofJson? bytes = none := by
  have denoted : ∀ m ∈ members, ∃ v, Denotes m.text v := fun m member => (values m member).denotes
  choose! value denotes using denoted
  obtain ⟨v, object, fields⟩ := fields?_of_holds fieldNames holds keys denotes
  have twice : ¬ ((names members).filter fieldNames.contains).Nodup := by
    intro nodup
    have once := List.nodup_iff_count_le_one.1 nodup name
    rw [List.count_filter (by simpa using known)] at once
    omega
  rw [if_neg twice] at fields
  rw [ofJson?, object.read, Option.bind_some]
  simp [ofValue?, fields]

/-! What is written is a presentation. -/

/-- The members as they are written: names, and texts of their values. -/
def members (e : Event) : List (String × String) := [
  ("level", Writer.quote e.severity.title),
  ("message", Writer.quote e.message),
  ("arguments", Writer.array (e.arguments.map Writer.quote)),
  ("cause", (e.cause.map Writer.quote).getD "null"),
  ("timestamp_millis", toString e.time.toInt)]

theorem tells_members {e : Event} {m : String × String} (h : m ∈ members e) :
    e.Tells m.1 (encode m.2) := by
  simp only [members, List.mem_cons, List.not_mem_nil, or_false] at h
  rcases h with rfl | rfl | rfl | rfl | rfl
  · refine ⟨fun _ => quoted_quote _, ?_, ?_, ?_, ?_, ?_, ?_⟩ <;> simp [fieldNames]
  · refine ⟨?_, fun _ => quoted_quote _, ?_, ?_, ?_, ?_, ?_⟩ <;> simp [fieldNames]
  · have texts : List.Forall₂ (fun t => Padded (Quoted t)) e.arguments
        ((e.arguments.map Writer.quote).map encode) := by
      rw [List.map_map]
      exact List.forall₂_map_right_iff.2 (List.forall₂_same.2 fun t _ => .of_core (quoted_quote t))
    refine ⟨?_, ?_, fun _ => ⟨_, bracketed_array _, texts⟩, ?_, ?_, ?_, ?_⟩ <;> simp [fieldNames]
  · refine ⟨?_, ?_, ?_, fun _ t same => ?_, fun _ same => ?_, ?_, ?_⟩ <;> try simp [fieldNames]
    · rw [same]
      exact quoted_quote t
    · rw [same]
      rfl
  · refine ⟨?_, ?_, ?_, ?_, ?_, fun _ => rfl, ?_⟩ <;> simp [fieldNames]

/-- A member as it is written. -/
def Member.ofTexts (m : String × String) : Member := ⟨⟨encode (Writer.quote m.1), encode m.2⟩, m.1⟩

theorem Member.tells_ofTexts {e : Event} {m : String × String} (h : e.Tells m.1 (encode m.2)) :
    (Member.ofTexts m).Tells e :=
  ⟨.of_core (quoted_quote m.1), .of_core h⟩

theorem holds_object (members : List (String × String)) :
    Holds (encode (Writer.object members)) (members.map Member.ofTexts) := by
  refine .of_core ?_
  rw [List.map_map]
  exact bracketed_object members

theorem presents_toJson (e : Event) :
    ∃ written, Holds (encode e.toJson) written ∧ Presents written e := by
  have named : names ((members e).map Member.ofTexts) = fieldNames := rfl
  have single : ∀ name ∈ fieldNames, fieldNames.count name = 1 := by decide
  refine ⟨(members e).map Member.ofTexts, holds_object (members e), ?_, ?_⟩
  · intro m member
    obtain ⟨m, here, rfl⟩ := List.mem_map.1 member
    exact Member.tells_ofTexts (tells_members here)
  · intro name known
    left
    rw [named]
    exact single name known

theorem ofJson?_toJson (e : Event) : ofJson? (encode e.toJson) = some e := by
  obtain ⟨written, holds, presents⟩ := presents_toJson e
  exact ofJson?_of_presents holds presents

end EventLog.Event
