import EventLog.Json.Token
import EventLog.Proofs.Json.Quoting

/-! The tokens of a text that is put together from pieces. A number or a word needs something
after it that cannot be a part of it. -/
namespace EventLog.Json

theorem intercalate_cons {α : Type} (between first : List α) (later : List (List α)) :
    between.intercalate (first :: later) = first ++ later.flatMap (between ++ ·) := by
  induction later generalizing first with
  | nil => simp
  | cons second later ih =>
    rw [List.intercalate_cons_cons, ih, List.flatMap_cons]
    simp

/-- A run of what has a property, up to something that does not have it. -/
theorem takeWhile_exact {α : Type} {p : α → Bool} {run rest : List α}
    (inside : ∀ a ∈ run, p a = true) (ends : ∀ a ∈ rest.head?, p a = false) :
    (run ++ rest).takeWhile p = run := by
  rw [List.takeWhile_append_of_pos inside]
  cases rest with
  | nil => simp
  | cons a later =>
    have outside := ends a (by simp)
    simp [outside]

theorem dropWhile_exact {α : Type} {p : α → Bool} {run rest : List α}
    (inside : ∀ a ∈ run, p a = true) (ends : ∀ a ∈ rest.head?, p a = false) :
    (run ++ rest).dropWhile p = rest := by
  rw [List.dropWhile_append_of_pos inside]
  cases rest with
  | nil => simp
  | cons a later =>
    have outside := ends a (by simp)
    simp [outside]

namespace Token

/-- No word of the text before goes on here. -/
def Ends (rest : List UInt8) : Prop := ∀ b ∈ rest.head?, inWord b = false

theorem ends_nil : Ends [] := by simp [Ends]

theorem ends_cons {b : UInt8} (h : inWord b = false) (rest : List UInt8) : Ends (b :: rest) := by
  simp [Ends, h]

theorem Ends.append {first second : List UInt8} (h : Ends first) (h' : Ends second) :
    Ends (first ++ second) := by
  cases first with
  | nil => exact h'
  | cons b rest => exact ends_cons (h b (by simp)) (rest ++ second)

/-- In front of an end the bytes give these tokens. -/
def Spells (bytes : List UInt8) (tokens : List Token) : Prop :=
  ∀ rest, Ends rest → scan (bytes ++ rest) = (scan rest).map (tokens ++ ·)

theorem spells_nil : Spells [] [] := by
  intro rest _
  simp

theorem Spells.append {bytes bytes' : List UInt8} {tokens tokens' : List Token}
    (first : Spells bytes tokens) (second : Spells bytes' tokens') (apart : Ends bytes') :
    Spells (bytes ++ bytes') (tokens ++ tokens') := by
  intro rest ends
  rw [List.append_assoc, first _ (apart.append ends), second rest ends]
  simp [Option.map_map, Function.comp_def]

theorem Spells.scan {bytes : List UInt8} {tokens : List Token} (h : Spells bytes tokens) :
    Token.scan bytes = some tokens := by
  have whole := h [] ends_nil
  rw [List.append_nil] at whole
  rw [whole, Token.scan]
  simp

theorem isSpace_iff {b : UInt8} : isSpace b = true ↔ b = 0x20 ∨ b = 9 ∨ b = 10 ∨ b = 13 := by
  simp [isSpace, or_assoc]

theorem Spells.space {b : UInt8} {bytes : List UInt8} {tokens : List Token}
    (h : isSpace b = true) (later : Spells bytes tokens) : Spells (b :: bytes) tokens := by
  intro rest ends
  rw [List.cons_append, Token.scan, if_pos h]
  exact later rest ends

theorem Spells.blank {gap bytes : List UInt8} {tokens : List Token} (h : Blank gap)
    (later : Spells bytes tokens) : Spells (gap ++ bytes) tokens := by
  induction gap with
  | nil => exact later
  | cons b gap ih =>
    have rest := ih fun c member => h c (List.mem_cons_of_mem b member)
    exact rest.space (isSpace_iff.2 (h b List.mem_cons_self))

theorem ends_blank {gap : List UInt8} (h : Blank gap) : Ends gap := by
  cases gap with
  | nil => exact ends_nil
  | cons b gap =>
    refine ends_cons ?_ gap
    rcases h b List.mem_cons_self with rfl | rfl | rfl | rfl <;> decide

theorem Spells.padded {bytes : List UInt8} {tokens : List Token}
    (h : Padded (Spells · tokens) bytes) : Spells bytes tokens := by
  cases h with
  | @mk before text after front core back =>
    have blank := spells_nil.blank back
    rw [List.append_nil] at blank
    have ended := (core.blank front).append blank (ends_blank back)
    rwa [List.append_nil] at ended

theorem scan_punctuation {b : UInt8} {token : Token} (h : punctuation? b = some token)
    (rest : List UInt8) : Token.scan (b :: rest) = (Token.scan rest).map (token :: ·) := by
  have space : isSpace b = false := by
    refine Bool.eq_false_iff.2 fun space => ?_
    rcases isSpace_iff.1 space with rfl | rfl | rfl | rfl <;> cases h
  have quote : b ≠ '"'.toUInt8 := by
    rintro rfl
    cases h
  rw [Token.scan, space, if_neg (by simp), if_neg quote]
  simp only [h]
  rfl

theorem Spells.punctuation {b : UInt8} {token : Token} {bytes : List UInt8} {tokens : List Token}
    (h : punctuation? b = some token) (later : Spells bytes tokens) :
    Spells (b :: bytes) (token :: tokens) := by
  intro rest ends
  rw [List.cons_append, scan_punctuation h, later rest ends]
  simp [Option.map_map, Function.comp_def]

theorem spells_string {body : List UInt8} {content : Literal}
    (h : ∀ rest, Literal.scan (body ++ rest) = some (content, rest)) :
    Spells ('"'.toUInt8 :: body) [string content] := by
  intro rest _
  have space : isSpace '"'.toUInt8 = false := by decide
  rw [List.cons_append, Token.scan, space, if_neg (by simp), if_pos rfl]
  split
  · rename_i content' later scanned
    rw [h] at scanned
    cases scanned
    cases Token.scan rest <;> rfl
  · rename_i none
    rw [h] at none
    cases none

/-- A byte of a word is neither space nor quote nor punctuation. -/
theorem inWord_spec {b : UInt8} (h : inWord b = true) :
    isSpace b = false ∧ b ≠ '"'.toUInt8 ∧ punctuation? b = none := by
  refine ⟨?_, ?_, ?_⟩
  · refine Bool.eq_false_iff.2 fun space => ?_
    rcases isSpace_iff.1 space with rfl | rfl | rfl | rfl <;> cases h
  · rintro rfl
    cases h
  · unfold punctuation?
    split
    · subst b
      cases h
    split
    · subst b
      cases h
    split
    · subst b
      cases h
    split
    · subst b
      cases h
    split
    · subst b
      cases h
    split
    · subst b
      cases h
    · rfl

theorem spells_word {word : List UInt8} {token : Token} (nonempty : word ≠ [])
    (inside : ∀ b ∈ word, inWord b = true) (h : ofWord? (word.map Char.ofUInt8) = some token) :
    Spells word [token] := by
  intro rest ends
  cases word with
  | nil => exact absurd rfl nonempty
  | cons b word =>
    obtain ⟨space, quote, mark⟩ := inWord_spec (inside b List.mem_cons_self)
    have later : ∀ c ∈ word, inWord c = true := fun c member =>
      inside c (List.mem_cons_of_mem b member)
    rw [List.cons_append, Token.scan, space, if_neg (by simp), if_neg quote]
    simp only [mark, takeWhile_exact later ends, dropWhile_exact later ends, h]
    cases Token.scan rest <;> rfl

/-- Pieces that are set apart by commas. -/
theorem spells_intercalate {pieces : List (List UInt8 × List Token)}
    (h : ∀ p ∈ pieces, Spells p.1 p.2) :
    Spells ([','.toUInt8].intercalate (pieces.map (·.1)))
      ([comma].intercalate (pieces.map (·.2))) := by
  induction pieces with
  | nil => exact spells_nil
  | cons p later ih =>
    have own := h p List.mem_cons_self
    have rest := ih fun q member => h q (List.mem_cons_of_mem p member)
    cases later with
    | nil => simpa using own
    | cons q later =>
      have outside : inWord ','.toUInt8 = false := by decide
      have mark : punctuation? ','.toUInt8 = some comma := rfl
      simp only [List.map_cons, List.intercalate_cons_cons, List.append_assoc] at rest ⊢
      exact own.append (rest.punctuation mark) (ends_cons outside _)

end Token

theorem Padded.spells_quoted {text : String} {bytes : List UInt8} (h : Padded (Quoted text) bytes) :
    ∃ content, content.text? = some text ∧ Token.Spells bytes [.string content] := by
  cases h with
  | mk front core back =>
    obtain ⟨body, content, rfl, meaning, scanned⟩ := core.scan
    exact ⟨content, meaning, Token.Spells.padded (.mk front (Token.spells_string scanned) back)⟩

theorem Padded.spells_anyString {bytes : List UInt8} (h : Padded AnyString bytes) :
    ∃ content, Token.Spells bytes [.string content] := by
  cases h with
  | mk front core back =>
    obtain ⟨body, content, rfl, scanned⟩ := core.scan
    exact ⟨content, Token.Spells.padded (.mk front (Token.spells_string scanned) back)⟩

end EventLog.Json
