import EventLog.Proofs.Json.Numbers
import Mathlib.Tactic.Choose

/-! Values from tokens, and texts that denote values. A text of a value may stand at any place
where a value is expected, so the texts of containers are put together from those of their parts. -/
namespace EventLog.Json

namespace Value

/-- Wherever a value is expected, the tokens complete this one. -/
def Forms (tokens : List Token) (v : Value) : Prop :=
  ∀ frames, tokens.foldlM State.next (.value frames) = some (.complete v frames)

theorem forms_null : Forms [.null] null := fun _ => rfl

theorem forms_bool (b : Bool) : Forms [.bool b] (bool b) := fun _ => rfl

theorem forms_number (lexeme : List Char) : Forms [.number lexeme] (number lexeme) := fun _ => rfl

theorem forms_string (content : Literal) : Forms [.string content] (string content) := fun _ => rfl

/-- A bracket closes an array or starts its first value. -/
theorem Forms.foldlM_firstItem {tokens : List Token} {v : Value} (h : Forms tokens v)
    (frames : List Frame) :
    tokens.foldlM State.next (.firstItem frames) = some (.complete v (.item [] :: frames)) := by
  cases tokens with
  | nil => cases h []
  | cons token later =>
    have start : State.next (.firstItem frames) token =
        State.next (.value (.item [] :: frames)) token := by
      cases token with
      | closeBracket => cases h []
      | _ => rfl
    rw [← h (.item [] :: frames), List.foldlM_cons, List.foldlM_cons, start]

/-- The items after the first, and the closing bracket. -/
theorem foldlM_items {items : List (List Token × Value)} (h : ∀ item ∈ items, Forms item.1 item.2)
    (v : Value) (done : List Value) (frames : List Frame) :
    ((items.flatMap fun item => Token.comma :: item.1) ++ [Token.closeBracket]).foldlM State.next
        (.complete v (.item done :: frames)) =
      some (.complete (array (done.reverse ++ v :: items.map (·.2))) frames) := by
  -- Each item that is read moves the one before it to those that are done.
  induction items generalizing v done with
  | nil =>
    show some (State.complete (array (v :: done).reverse) frames) = _
    simp
  | cons item later ih =>
    have own := h item List.mem_cons_self (.item (v :: done) :: frames)
    rw [List.flatMap_cons, List.append_assoc, List.cons_append, List.foldlM_cons]
    show (item.1 ++ _).foldlM State.next (.value (.item (v :: done) :: frames)) = _
    rw [List.foldlM_append, own]
    show (_ : List Token).foldlM State.next (.complete item.2 (.item (v :: done) :: frames)) = _
    rw [ih (fun other member => h other (List.mem_cons_of_mem item member))]
    simp

theorem forms_array {items : List (List Token × Value)}
    (h : ∀ item ∈ items, Forms item.1 item.2) :
    Forms (.openBracket :: [Token.comma].intercalate (items.map (·.1)) ++ [.closeBracket])
      (array (items.map (·.2))) := by
  intro frames
  cases items with
  | nil => rfl
  | cons first later =>
    have own := (h first List.mem_cons_self).foldlM_firstItem frames
    have rest := foldlM_items (fun item member => h item (List.mem_cons_of_mem first member))
      first.2 [] frames
    rw [List.map_cons, intercalate_cons, List.flatMap_map, List.cons_append, List.append_assoc,
      List.foldlM_cons]
    show (first.1 ++ _).foldlM State.next (.firstItem frames) = _
    rw [List.foldlM_append, own]
    exact rest

/-- A member of an object: its key, the tokens of its value, and the value. -/
abbrev Member := Literal × List Token × Value

def Member.tokens (m : Member) : List Token := .string m.1 :: .colon :: m.2.1

theorem foldlM_member {m : Member} (h : Forms m.2.1 m.2.2) (done : List (Literal × Value))
    (frames : List Frame) : m.tokens.foldlM State.next (.key done frames) =
      some (.complete m.2.2 (.member done m.1 :: frames)) :=
  h (.member done m.1 :: frames)

/-- The members after the first, and the closing brace. -/
theorem foldlM_members {members : List Member} (h : ∀ m ∈ members, Forms m.2.1 m.2.2) (v : Value)
    (name : Literal) (done : List (Literal × Value)) (frames : List Frame) :
    ((members.flatMap fun m => Token.comma :: m.tokens) ++ [Token.closeBrace]).foldlM State.next
        (.complete v (.member done name :: frames)) =
      some (.complete (object (done.reverse ++ (name, v) :: members.map fun m => (m.1, m.2.2)))
        frames) := by
  induction members generalizing v name done with
  | nil =>
    show some (State.complete (object ((name, v) :: done).reverse) frames) = _
    simp
  | cons m later ih =>
    have own := foldlM_member (h m List.mem_cons_self) ((name, v) :: done) frames
    rw [List.flatMap_cons, List.append_assoc, List.cons_append, List.foldlM_cons]
    show (m.tokens ++ _).foldlM State.next (.key ((name, v) :: done) frames) = _
    rw [List.foldlM_append, own]
    show (_ : List Token).foldlM State.next
      (.complete m.2.2 (.member ((name, v) :: done) m.1 :: frames)) = _
    rw [ih (fun other member => h other (List.mem_cons_of_mem m member))]
    simp

theorem forms_object {members : List Member} (h : ∀ m ∈ members, Forms m.2.1 m.2.2) :
    Forms (.openBrace :: [Token.comma].intercalate (members.map Member.tokens) ++ [.closeBrace])
      (object (members.map fun m => (m.1, m.2.2))) := by
  intro frames
  cases members with
  | nil => rfl
  | cons first later =>
    have own := foldlM_member (h first List.mem_cons_self) [] frames
    have rest := foldlM_members (fun m member => h m (List.mem_cons_of_mem first member))
      first.2.2 first.1 [] frames
    rw [List.map_cons, intercalate_cons, List.flatMap_map, List.cons_append, List.append_assoc,
      List.foldlM_cons]
    show (first.tokens ++ _).foldlM State.next (.key [] frames) = _
    rw [List.foldlM_append, own]
    exact rest

end Value

/-- The bytes are a text of the value, wherever a value may stand. -/
def Denotes (bytes : List UInt8) (v : Value) : Prop :=
  ∃ tokens, Token.Spells bytes tokens ∧ v.Forms tokens

theorem Denotes.read {bytes : List UInt8} {v : Value} (h : Denotes bytes v) :
    Value.read? bytes = some v := by
  obtain ⟨tokens, spelled, forms⟩ := h
  rw [Value.read?, spelled.scan, Option.bind_some, Value.ofTokens?, forms []]
  rfl

theorem Denotes.padded {bytes : List UInt8} {v : Value} (h : Padded (Denotes · v) bytes) :
    Denotes bytes v := by
  cases h with
  | mk front core back =>
    obtain ⟨tokens, spelled, forms⟩ := core
    exact ⟨tokens, Token.Spells.padded (.mk front spelled back), forms⟩

theorem denotes_word {word : List UInt8} {token : Token} {v : Value} (nonempty : word ≠ [])
    (inside : ∀ b ∈ word, Token.inWord b = true)
    (h : Token.ofWord? (word.map Char.ofUInt8) = some token) (forms : v.Forms [token]) :
    Denotes word v :=
  ⟨[token], Token.spells_word nonempty inside h, forms⟩

theorem denotes_null : Denotes (Text.Utf8.encode "null") .null :=
  denotes_word (by decide +kernel) (by decide +kernel) (by decide +kernel) Value.forms_null

theorem denotes_true : Denotes (Text.Utf8.encode "true") (.bool true) :=
  denotes_word (by decide +kernel) (by decide +kernel) (by decide +kernel) (Value.forms_bool true)

theorem denotes_false : Denotes (Text.Utf8.encode "false") (.bool false) :=
  denotes_word (by decide +kernel) (by decide +kernel) (by decide +kernel) (Value.forms_bool false)

/-- The brackets and what is between them, when there may be blanks only if there are no parts. -/
theorem spells_bracketed {opening closing : Char} {first last : Token}
    (start : Token.punctuation? opening.toUInt8 = some first)
    (stop : Token.punctuation? closing.toUInt8 = some last)
    (ends : Token.inWord closing.toUInt8 = false) {parts : List (List UInt8 × List Token)}
    {bytes : List UInt8} (written : Bracketed opening closing (parts.map (·.1)) bytes)
    (h : ∀ p ∈ parts, Token.Spells p.1 p.2) :
    Token.Spells bytes (first :: [Token.comma].intercalate (parts.map (·.2)) ++ [last]) := by
  have closed : Token.Spells [closing.toUInt8] [last] := Token.spells_nil.punctuation stop
  generalize same : parts.map (·.1) = texts at written
  cases written with
  | parts =>
    subst same
    exact ((Token.spells_intercalate h).append closed (Token.ends_cons ends [])).punctuation start
  | empty blank =>
    cases List.map_eq_nil_iff.1 same
    exact (closed.blank blank).punctuation start

theorem denotes_array {items : List (List UInt8 × Value)} {bytes : List UInt8}
    (written : Bracketed '[' ']' (items.map (·.1)) bytes) (h : ∀ i ∈ items, Denotes i.1 i.2) :
    Denotes bytes (.array (items.map (·.2))) := by
  choose! tokens spelled forms using h
  have inside := @spells_bracketed '[' ']' .openBracket .closeBracket rfl rfl (by decide)
    (items.map fun i => (i.1, tokens i)) bytes (by simpa [Function.comp_def] using written) (by
      intro p member
      obtain ⟨i, here, rfl⟩ := List.mem_map.1 member
      exact spelled i here)
  have formed := @Value.forms_array (items.map fun i => (tokens i, i.2)) (by
    intro p member
    obtain ⟨i, here, rfl⟩ := List.mem_map.1 member
    exact forms i here)
  simp only [List.map_map, Function.comp_def] at inside formed
  exact ⟨_, inside, formed⟩

/-- A member of an object beside what it means. -/
structure Entry extends Field where
  name : Literal
  value : Value

structure Entry.Correct (m : Entry) : Prop where
  named : Token.Spells m.key [.string m.name]
  denotes : Denotes m.text m.value

theorem denotes_object {members : List Entry} {bytes : List UInt8}
    (written : Bracketed '\x7b' '\x7d' (members.map fun m => m.toField.bytes) bytes)
    (h : ∀ m ∈ members, m.Correct) :
    Denotes bytes (.object (members.map fun m => (m.name, m.value))) := by
  have denotes : ∀ m ∈ members, Denotes m.text m.value := fun m member => (h m member).denotes
  choose! tokens spelled forms using denotes
  have inside := @spells_bracketed '\x7b' '\x7d' .openBrace .closeBrace rfl rfl (by decide)
    (members.map fun m => (m.toField.bytes, .string m.name :: .colon :: tokens m)) bytes
    (by simpa [Function.comp_def] using written) (by
      intro p member
      obtain ⟨m, here, rfl⟩ := List.mem_map.1 member
      have colon : Token.punctuation? ':'.toUInt8 = some .colon := rfl
      have value := (spelled m here).punctuation colon
      exact (h m here).named.append value (Token.ends_cons (by decide) _))
  have formed := @Value.forms_object (members.map fun m => (m.name, tokens m, m.value)) (by
    intro p member
    obtain ⟨m, here, rfl⟩ := List.mem_map.1 member
    exact forms m here)
  simp only [List.map_map, Function.comp_def, Value.Member.tokens] at inside formed
  exact ⟨_, inside, formed⟩

theorem Number.denotes {lexeme : List Char} (h : Number lexeme) :
    Denotes (lexeme.map Char.toUInt8) (.number lexeme) :=
  ⟨[.number lexeme], h.spells, Value.forms_number lexeme⟩

theorem denotes_toString (n : Int) :
    Denotes (Text.Utf8.encode (toString n)) (.number (toString n).toList) := by
  rw [encode_toString]
  exact (number_toString n).denotes

/-- Every text of the grammar denotes a value. -/
theorem WellFormed.denotes {bytes : List UInt8} (h : WellFormed bytes) : ∃ v, Denotes bytes v := by
  induction h with
  | padded front _ back ih =>
    obtain ⟨v, denotes⟩ := ih
    exact ⟨v, Denotes.padded (.mk front denotes back)⟩
  | word known =>
    rcases known with rfl | rfl | rfl
    · exact ⟨.null, denotes_null⟩
    · exact ⟨.bool true, denotes_true⟩
    · exact ⟨.bool false, denotes_false⟩
  | number valid => exact ⟨_, valid.denotes⟩
  | string valid =>
    obtain ⟨content, spelled⟩ := (Padded.of_core valid).spells_anyString
    exact ⟨.string content, [.string content], spelled, Value.forms_string content⟩
  | @array items bytes written _ ih =>
    choose! value denotes using ih
    have array := @denotes_array (items.map fun i => (i, value i)) bytes
      (by simpa [Function.comp_def] using written) (by
        intro p member
        obtain ⟨i, here, rfl⟩ := List.mem_map.1 member
        exact denotes i here)
    exact ⟨_, array⟩
  | @object fields bytes written keys _ ih =>
    choose! value denotes using ih
    have named : ∀ f ∈ fields, ∃ name, Token.Spells f.key [.string name] := fun f member =>
      (keys f member).spells_anyString
    choose! name spelled using named
    have object := @denotes_object (fields.map fun f => ⟨f, name f, value f⟩) bytes
      (by simpa [Function.comp_def] using written) (by
        intro m member
        obtain ⟨f, here, rfl⟩ := List.mem_map.1 member
        exact ⟨spelled f here, denotes f here⟩)
    exact ⟨_, object⟩

/-! What the writer brackets is in the grammar. -/

open Text.Utf8 (encode)

theorem encode_intercalate (texts : List String) :
    encode (String.intercalate "," texts) = [','.toUInt8].intercalate (texts.map encode) := by
  induction texts with
  | nil => rfl
  | cons text later ih =>
    cases later with
    | nil => simp
    | cons next later =>
      have comma : encode "," = [','.toUInt8] := rfl
      rw [String.intercalate_cons_cons, Text.Utf8.encode_append, Text.Utf8.encode_append, ih, comma]
      simp

theorem bracketed_array (items : List String) :
    Bracketed '[' ']' (items.map encode) (encode (Writer.array items)) := by
  have opening : encode "[" = ['['.toUInt8] := rfl
  have closing : encode "]" = [']'.toUInt8] := rfl
  rw [Writer.array, Text.Utf8.encode_append, Text.Utf8.encode_append, encode_intercalate, opening,
    closing]
  exact .parts (items.map encode)

theorem bracketed_object (members : List (String × String)) :
    Bracketed '\x7b' '\x7d'
      (members.map fun m => Field.bytes ⟨encode (Writer.quote m.1), encode m.2⟩)
      (encode (Writer.object members)) := by
  have opening : encode "\x7b" = ['\x7b'.toUInt8] := rfl
  have closing : encode "\x7d" = ['\x7d'.toUInt8] := rfl
  have colon : encode ":" = [':'.toUInt8] := rfl
  rw [Writer.object, Text.Utf8.encode_append, Text.Utf8.encode_append, encode_intercalate, opening,
    closing, List.map_map]
  simpa [Function.comp_def, Field.bytes, colon] using @Bracketed.parts '\x7b' '\x7d'
    (members.map fun m => Field.bytes ⟨encode (Writer.quote m.1), encode m.2⟩)

end EventLog.Json
