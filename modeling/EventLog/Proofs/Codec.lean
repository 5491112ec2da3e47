import EventLog.Proofs.Codec.Compact
import EventLog.Proofs.Codec.Json

/-! What a log may rely on in its codec. -/
namespace EventLog.Codec

/-- Every event has a payload, and it is read back if four bytes can announce its length. -/
structure Faithful (codec : Codec) : Prop where
  encodes : ∀ e, ∃ payload, codec.encode e = .ok payload ∧ payload ≠ []
  decodes : ∀ e payload, codec.encode e = .ok payload → payload.length < 0x100000000 →
    codec.decode payload = .ok e

theorem faithful_compact : compact.Faithful where
  encodes e := ⟨Compact.encode e, rfl, Compact.encode_ne_nil e⟩
  decodes e payload encoded short := by
    cases encoded
    have measured := Compact.measured_of_length (Nat.lt_trans short (by decide))
    have decoded := Compact.decode_encode_append measured []
    rw [List.append_nil] at decoded
    show (Compact.decode (Compact.encode e)).mapError _ = _
    rw [decoded]
    rfl

theorem decode_json (e : Event) : json.decode (Text.Utf8.encode e.toJson) = .ok e := by
  simp only [json, Event.ofJson?_toJson]

/-- Neither the order of the five members nor blanks, the spelling of a string or members of other
names matter to the reader of JSON payloads. It refuses an object that has one of the five names
twice, whatever the values are. -/
theorem json_presentations (e : Event) :
    (∃ payload written, json.encode e = .ok payload ∧ Event.Holds payload written ∧
      Event.Presents written e ∧ json.decode payload = .ok e) ∧
    (∀ bytes members, Event.Holds bytes members → Event.Presents members e →
      Json.WellFormed bytes ∧ json.decode bytes = .ok e) ∧
    ∀ bytes members, Event.Holds bytes members →
      (∀ m ∈ members, Json.Padded (Json.Quoted m.name) m.key ∧ Json.WellFormed m.text) →
      (∃ name ∈ Event.fieldNames, 2 ≤ (Event.names members).count name) →
      json.decode bytes = .error (.decoding .json) := by
  refine ⟨?_, ?_, ?_⟩
  · obtain ⟨written, holds, presents⟩ := Event.presents_toJson e
    exact ⟨_, written, rfl, holds, presents, decode_json e⟩
  · intro bytes members holds presents
    refine ⟨presents.wellFormed holds, ?_⟩
    simp only [json, Event.ofJson?_of_presents holds presents]
  · rintro bytes members holds valid ⟨name, known, repeated⟩
    have refused := Event.ofJson?_of_repeated holds (fun m member => (valid m member).1)
      (fun m member => (valid m member).2) known repeated
    simp only [json, refused]

/-- An event without a cause, before the epoch. -/
def plainEvent : Event :=
  { severity := .warn, message := "a", arguments := [], cause := none, time := -1 }

/-- Its members in another order and without the cause, behind a list by some name. -/
def noted (name : String) : List (String × String) :=
  (name, "[1e9]") :: plainEvent.members.reverse.eraseIdx 1

theorem wellFormed_noted : Json.WellFormed (Text.Utf8.encode "[1e9]") := by
  have digits : ∀ c, Text.Numeral.isDigit c = true → Json.Digits [c] := fun c digit =>
    ⟨by simp, by simpa using digit⟩
  have number : Json.Number ['1', 'e', '9'] :=
    .mk (.inl rfl) ⟨digits '1' rfl, .inr (by decide)⟩ .absent
      (.present (.inl rfl) (.inl rfl) (digits '9' rfl))
  refine .array (.parts [['1', 'e', '9'].map Char.toUInt8]) fun item member => ?_
  rw [List.mem_singleton.1 member]
  exact .number number

theorem tells_noted {name : String} (other : name ∉ Event.fieldNames) {m : String × String}
    (h : m ∈ noted name) : plainEvent.Tells m.1 (Text.Utf8.encode m.2) := by
  rcases List.mem_cons.1 h with rfl | own
  · exact Event.tells_of_other other wellFormed_noted
  · exact Event.tells_members (List.mem_reverse.1 (List.mem_of_mem_eraseIdx own))

/-- A note beside the members does not matter, a second level does. -/
theorem json_presentations_noted :
    json.decode (Text.Utf8.encode ("\x7b\"note\":[1e9],\"timestamp_millis\":-1,\"arguments\":[]," ++
      "\"message\":\"a\",\"level\":\"Warn\"\x7d")) = .ok plainEvent ∧
    json.decode (Text.Utf8.encode ("\x7b\"level\":[1e9],\"timestamp_millis\":-1,\"arguments\":[]," ++
      "\"message\":\"a\",\"level\":\"Warn\"\x7d")) = .error (.decoding .json) := by
  obtain ⟨-, reads, refuses⟩ := json_presentations plainEvent
  constructor
  · refine (reads _ _ (Event.holds_object (noted "note")) ⟨?_, by decide⟩).2
    intro m member
    obtain ⟨m, here, rfl⟩ := List.mem_map.1 member
    exact Event.Member.tells_ofTexts (tells_noted (by decide) here)
  · refine refuses _ _ (Event.holds_object (noted "level")) ?_ ⟨"level", by decide, by decide⟩
    intro m member
    obtain ⟨m, here, rfl⟩ := List.mem_map.1 member
    refine ⟨.of_core (Json.quoted_quote m.1), ?_⟩
    rcases List.mem_cons.1 here with rfl | own
    · exact wellFormed_noted
    · exact (@tells_noted "note" (by decide) m (List.mem_cons_of_mem _ own)).wellFormed

theorem faithful_json : json.Faithful where
  encodes e := by
    refine ⟨Text.Utf8.encode e.toJson, rfl, fun nothing => ?_⟩
    have read := Event.ofJson?_toJson e
    have none : Event.ofJson? [] = none := by
      rw [Event.ofJson?, Json.Value.read?, Json.Token.scan]
      rfl
    rw [nothing, none] at read
    cases read
  decodes e payload encoded _ := by
    cases encoded
    exact decode_json e

end EventLog.Codec
