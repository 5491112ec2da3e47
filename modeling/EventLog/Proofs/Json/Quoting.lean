import EventLog.Json.Literal
import EventLog.Json.Writer
import EventLog.Proofs.Json.Syntax

/-! Strings. What the writer quotes is in the grammar, and every character of a string of the
grammar, escaped or not, gives its own bytes. -/
namespace EventLog

namespace Text.Utf8

theorem encode_eq_flatMap (text : String) :
    encode text = text.toList.flatMap String.utf8EncodeChar := by
  have list : text = String.ofList text.toList := by simp
  conv => lhs; rw [list]
  rw [encode, String.toByteArray_ofList, List.utf8Encode]
  simp

theorem encode_ofList (text : List Char) :
    encode (String.ofList text) = text.flatMap String.utf8EncodeChar := by
  simp [encode_eq_flatMap]

theorem encodeChar_of_ascii {c : Char} (h : c.toNat < 128) :
    String.utf8EncodeChar c = [c.toUInt8] := by
  have size : c.val.toNat ≤ 0x7f := Nat.le_of_lt_succ h
  rw [String.utf8EncodeChar, if_pos size]
  rfl

theorem encode_of_ascii {text : String} (h : ∀ c ∈ text.toList, c.toNat < 128) :
    encode text = text.toList.map Char.toUInt8 := by
  rw [encode_eq_flatMap]
  generalize text.toList = characters at h
  induction characters with
  | nil => rfl
  | cons c later ih =>
    rw [List.flatMap_cons, encodeChar_of_ascii (h c List.mem_cons_self),
      ih fun d member => h d (List.mem_cons_of_mem c member)]
    rfl

theorem toNat_toUInt8 {c : Char} (h : c.toNat < 128) : c.toUInt8.toNat = c.toNat := by
  show (UInt8.ofNat c.toNat).toNat = c.toNat
  simp; omega

theorem ofUInt8_toUInt8 {c : Char} (h : c.toNat < 128) : Char.ofUInt8 c.toUInt8 = c := by
  apply Char.toNat_inj.1
  show c.toUInt8.toUInt32.toNat = c.toNat
  simpa using toNat_toUInt8 h

/-- The bytes of other characters are none of those that stand for one character. -/
theorem high_of_mem_encodeChar {c : Char} (h : 128 ≤ c.toNat) {b : UInt8}
    (member : b ∈ String.utf8EncodeChar c) : 128 ≤ b.toNat := by
  have large : ¬ c.val.toNat ≤ 0x7f := Nat.not_le.2 h
  have code : c.val.toNat < 0x110000 := by
    rcases c.valid with low | high
    · exact Nat.lt_trans low (by decide)
    · exact high.2
  rw [String.utf8EncodeChar, if_neg large] at member
  split at member
  · simp only [List.mem_cons, List.not_mem_nil, or_false] at member
    rcases member with rfl | rfl <;> simp only [UInt8.toNat_ofNat'] <;> omega
  split at member
  · simp only [List.mem_cons, List.not_mem_nil, or_false] at member
    rcases member with rfl | rfl | rfl <;> simp only [UInt8.toNat_ofNat'] <;> omega
  · simp only [List.mem_cons, List.not_mem_nil, or_false] at member
    rcases member with rfl | rfl | rfl | rfl <;> simp only [UInt8.toNat_ofNat'] <;> omega

end Text.Utf8

namespace Json.Literal

theorem scan_plain {b : UInt8} (quote : b ≠ '"'.toUInt8) (escape : b ≠ '\\'.toUInt8)
    (visible : ¬ b < 0x20) (rest : List UInt8) :
    scan (b :: rest) = (scan rest).map fun p => (.byte b :: p.1, p.2) := by
  rw [scan.eq_def]
  simp only [if_neg quote, if_neg escape, if_neg visible]
  cases scan rest <;> rfl

theorem scan_short {e b : UInt8} (h : shortEscape? e = some b) (other : e ≠ 'u'.toUInt8)
    (rest : List UInt8) :
    scan ('\\'.toUInt8 :: e :: rest) = (scan rest).map fun p => (.byte b :: p.1, p.2) := by
  have named : '\\'.toUInt8 ≠ '"'.toUInt8 := by decide
  rw [scan.eq_def]
  simp only [if_neg named, if_pos, if_neg other, h]
  cases scan rest <;> rfl

theorem scan_unit {h₁ h₂ h₃ h₄ : UInt8} {n : Nat} (h : unit? h₁ h₂ h₃ h₄ = some n)
    (rest : List UInt8) :
    scan ('\\'.toUInt8 :: 'u'.toUInt8 :: h₁ :: h₂ :: h₃ :: h₄ :: rest) =
      (scan rest).map fun p => (.unit n :: p.1, p.2) := by
  have named : '\\'.toUInt8 ≠ '"'.toUInt8 := by decide
  rw [scan.eq_def]
  simp only [if_neg named, if_pos, h]
  cases scan rest <;> rfl

/-- Whatever comes after, the bytes are scanned to this content. -/
def Scans (body : List UInt8) (content : Literal) : Prop :=
  ∀ rest, scan (body ++ rest) = (scan rest).map fun p => (content ++ p.1, p.2)

theorem Scans.append {body body' : List UInt8} {content content' : Literal}
    (first : Scans body content) (second : Scans body' content') :
    Scans (body ++ body') (content ++ content') := by
  intro rest
  rw [List.append_assoc, first, second]
  simp [Option.map_map, Function.comp_def]

/-- The bytes `body` between quotes are a way to write the bytes `meant`. -/
def Writes (body meant : List UInt8) : Prop :=
  ∃ content : Literal,
    (∀ rest, scan (body ++ rest) = (scan rest).map fun p => (content ++ p.1, p.2)) ∧
      ∀ more, bytes? (content ++ more) = (bytes? more).map (meant ++ ·)

theorem writes_nil : Writes [] [] := ⟨[], by simp, by simp⟩

theorem Writes.append {body meant body' meant' : List UInt8} (first : Writes body meant)
    (second : Writes body' meant') : Writes (body ++ body') (meant ++ meant') := by
  obtain ⟨content, scanned, stands⟩ := first
  obtain ⟨content', scanned', stands'⟩ := second
  refine ⟨content ++ content', Scans.append scanned scanned', fun more => ?_⟩
  rw [List.append_assoc, stands, stands']
  simp [Option.map_map, Function.comp_def]

theorem writes_flatMap {α : Type} {body meant : α → List UInt8} {items : List α}
    (h : ∀ a ∈ items, Writes (body a) (meant a)) :
    Writes (items.flatMap body) (items.flatMap meant) := by
  induction items with
  | nil => exact writes_nil
  | cons a later ih =>
    rw [List.flatMap_cons, List.flatMap_cons]
    exact (h a List.mem_cons_self).append (ih fun b member => h b (List.mem_cons_of_mem a member))

theorem writes_plain {b : UInt8} (quote : b ≠ '"'.toUInt8) (escape : b ≠ '\\'.toUInt8)
    (visible : ¬ b < 0x20) : Writes [b] [b] :=
  ⟨[.byte b], scan_plain quote escape visible, fun _ => rfl⟩

theorem writes_short {e b : UInt8} (h : shortEscape? e = some b) (other : e ≠ 'u'.toUInt8) :
    Writes ['\\'.toUInt8, e] [b] :=
  ⟨[.byte b], scan_short h other, fun _ => rfl⟩

theorem writes_unit {h₁ h₂ h₃ h₄ : UInt8} {n : Nat} (h : unit? h₁ h₂ h₃ h₄ = some n)
    (high : isHigh n = false) (low : isLow n = false) :
    Writes ['\\'.toUInt8, 'u'.toUInt8, h₁, h₂, h₃, h₄] (encodeCode n) := by
  refine ⟨[.unit n], scan_unit h, fun more => ?_⟩
  show bytes? (.unit n :: more) = _
  rw [bytes?.eq_def]
  simp [high, low]

theorem writes_visible {c : Char} (quote : c ≠ '"') (escape : c ≠ '\\') (visible : 32 ≤ c.toNat) :
    Writes (String.utf8EncodeChar c) (String.utf8EncodeChar c) := by
  by_cases ascii : c.toNat < 128
  · have byte := Text.Utf8.toNat_toUInt8 ascii
    rw [Text.Utf8.encodeChar_of_ascii ascii]
    refine writes_plain ?_ ?_ ?_
    · intro same
      have code : c.toNat = '"'.toNat := by rw [← byte, same]; rfl
      exact quote (Char.toNat_inj.1 code)
    · intro same
      have code : c.toNat = '\\'.toNat := by rw [← byte, same]; rfl
      exact escape (Char.toNat_inj.1 code)
    · rw [UInt8.lt_iff_toNat_lt, byte]
      exact Nat.not_lt.2 visible
  · have bytes : ∀ b ∈ String.utf8EncodeChar c, Writes [b] [b] := by
      intro b member
      have high := Text.Utf8.high_of_mem_encodeChar (Nat.not_lt.1 ascii) member
      refine writes_plain ?_ ?_ ?_
      · rintro rfl
        exact absurd high (by decide)
      · rintro rfl
        exact absurd high (by decide)
      · rw [UInt8.lt_iff_toNat_lt]
        exact Nat.not_lt.2 (Nat.le_trans (by decide) high)
    simpa using writes_flatMap bytes

/-! Strings of the grammar are scanned. -/

theorem scans_flatten {parts : List (List UInt8)} (h : ∀ p ∈ parts, ∃ content, Scans p content) :
    ∃ content, Scans parts.flatten content := by
  induction parts with
  | nil => exact ⟨[], fun rest => by simp⟩
  | cons p later ih =>
    obtain ⟨first, own⟩ := h p List.mem_cons_self
    obtain ⟨others, rest⟩ := ih fun q member => h q (List.mem_cons_of_mem p member)
    exact ⟨first ++ others, own.append rest⟩

theorem Scans.closed {body : List UInt8} {content : Literal} (h : Scans body content)
    (rest : List UInt8) : scan (body ++ ['"'.toUInt8] ++ rest) = some (content, rest) := by
  have quote : scan ('"'.toUInt8 :: rest) = some ([], rest) := by
    rw [scan.eq_def]
    simp only [if_pos]
  rw [List.append_assoc, List.singleton_append, h, quote]
  simp

end Literal

theorem HexDigit.hexValue {n : Nat} {b : UInt8} (h : HexDigit n b) :
    Literal.hexValue? b = some n := by
  have digits : ∀ n < 16, Literal.hexValue? (Nat.digitChar n).toUInt8 = some n ∧
      Literal.hexValue? (Nat.digitChar n).toUpper.toUInt8 = some n := by decide
  obtain ⟨lower, upper⟩ := digits n h.small
  rcases h.written with rfl | rfl
  · exact lower
  · exact upper

open Literal

theorem UnitEscape.exists_unit {n : Nat} {bytes : List UInt8} (h : UnitEscape n bytes) :
    ∃ h₁ h₂ h₃ h₄, bytes = ['\\'.toUInt8, 'u'.toUInt8, h₁, h₂, h₃, h₄] ∧
      unit? h₁ h₂ h₃ h₄ = some n := by
  cases h with
  | mk first second third fourth =>
    refine ⟨_, _, _, _, rfl, ?_⟩
    rw [unit?, first.hexValue, second.hexValue, third.hexValue, fourth.hexValue]
    rfl

theorem UnitEscape.scans {n : Nat} {bytes : List UInt8} (h : UnitEscape n bytes) :
    Scans bytes [.unit n] := by
  obtain ⟨h₁, h₂, h₃, h₄, rfl, value⟩ := h.exists_unit
  exact scan_unit value

theorem shortEscapes_spec : ∀ p ∈ shortEscapes, shortEscape? p.1.toUInt8 = some p.2.toUInt8 ∧
    p.1.toUInt8 ≠ 'u'.toUInt8 ∧ p.2.toNat < 128 := by decide

/-- Two units that make a pair stand for one character. -/
theorem writes_pair {high low : Nat} {first second : List UInt8} (h : UnitEscape high first)
    (h' : UnitEscape low second) (isHigh : isHigh high = true) (isLow : isLow low = true) :
    Writes (first ++ second)
      (encodeCode (0x10000 + 0x400 * (high - 0xd800) + (low - 0xdc00))) := by
  refine ⟨[.unit high, .unit low], h.scans.append h'.scans, fun more => ?_⟩
  show bytes? (.unit high :: .unit low :: more) = _
  rw [bytes?.eq_def]
  simp [isHigh, isLow]

theorem Stands.writes {c : Char} {bytes : List UInt8} (h : Stands c bytes) :
    Writes bytes (String.utf8EncodeChar c) := by
  cases h with
  | plain quote backslash visible => exact writes_visible quote backslash visible
  | short known =>
    obtain ⟨escape, other, ascii⟩ := shortEscapes_spec _ known
    rw [Text.Utf8.encodeChar_of_ascii ascii]
    exact writes_short escape other
  | unit escape =>
    obtain ⟨h₁, h₂, h₃, h₄, rfl, value⟩ := escape.exists_unit
    -- A character is never half of a pair.
    have single : c.toNat < 0xd800 ∨ 0xdfff < c.toNat ∧ c.toNat < 0x110000 := c.valid
    have written := writes_unit value (by simp [isHigh]; omega) (by simp [isLow]; omega)
    rwa [encodeCode, Char.ofNat_toNat] at written
  | pair escape escape' isHigh isLow code =>
    have written := writes_pair escape escape' (by simpa [Literal.isHigh] using isHigh)
      (by simpa [Literal.isLow] using isLow)
    rwa [← code, encodeCode, Char.ofNat_toNat] at written

theorem writes_flatten {characters : List Char} {parts : List (List UInt8)}
    (h : List.Forall₂ Stands characters parts) :
    Writes parts.flatten (characters.flatMap String.utf8EncodeChar) := by
  induction h with
  | nil => exact writes_nil
  | cons stand _ ih => exact stand.writes.append ih

theorem Quoted.scan {text : String} {bytes : List UInt8} (h : Quoted text bytes) :
    ∃ body content, bytes = '"'.toUInt8 :: body ∧ content.text? = some text ∧
      ∀ rest, Literal.scan (body ++ rest) = some (content, rest) := by
  cases h with
  | @mk parts stand =>
    obtain ⟨content, scans, stands⟩ := writes_flatten stand
    refine ⟨parts.flatten ++ ['"'.toUInt8], content, rfl, ?_, Scans.closed scans⟩
    have bytes := stands []
    rw [List.append_nil, ← Text.Utf8.encode_eq_flatMap] at bytes
    rw [text?, bytes]
    simp [bytes?]

theorem StringPart.scans {bytes : List UInt8} (h : StringPart bytes) :
    ∃ content, Scans bytes content := by
  cases h with
  | stands stand =>
    obtain ⟨content, scans, -⟩ := stand.writes
    exact ⟨content, scans⟩
  | unit escape => exact ⟨_, escape.scans⟩

theorem AnyString.scan {bytes : List UInt8} (h : AnyString bytes) :
    ∃ body content, bytes = '"'.toUInt8 :: body ∧
      ∀ rest, Literal.scan (body ++ rest) = some (content, rest) := by
  cases h with
  | @mk parts each =>
    obtain ⟨content, scans⟩ := scans_flatten fun p member => (each p member).scans
    exact ⟨parts.flatten ++ ['"'.toUInt8], content, rfl, scans.closed⟩

theorem Quoted.anyString {text : String} {bytes : List UInt8} (h : Quoted text bytes) :
    AnyString bytes := by
  cases h with
  | @mk parts stand =>
    have each : List.Forall₂ (fun part c => StringPart part ∧ Stands c part) parts text.toList :=
      (stand.imp fun c part stands => ⟨.stands stands, stands⟩).flip
    exact .mk ((List.forall₂_and_left _ _).1 each).1

/-! What the writer quotes is in the grammar. -/

theorem unitEscape_control {n : Nat} (h : n < 32) : UnitEscape n (['\\', 'u', '0', '0',
    Writer.hexDigit (n / 16), Writer.hexDigit n].flatMap String.utf8EncodeChar) := by
  have ascii : ∀ n < 16, (Nat.digitChar n).toNat < 128 := by decide
  have small : ∀ n, n % 16 < 16 := fun n => Nat.mod_lt n (by decide)
  have digit : ∀ n, HexDigit (n % 16) (Writer.hexDigit n).toUInt8 := fun n => ⟨small n, .inl rfl⟩
  have zero : HexDigit 0 '0'.toUInt8 := ⟨by decide, .inl rfl⟩
  have escape := UnitEscape.mk zero zero (digit (n / 16)) (digit n)
  have value : 4096 * 0 + 256 * 0 + 16 * (n / 16 % 16) + n % 16 = n := by omega
  rw [value] at escape
  simp only [List.flatMap_cons, List.flatMap_nil,
    Text.Utf8.encodeChar_of_ascii (ascii _ (small (n / 16))),
    Text.Utf8.encodeChar_of_ascii (ascii _ (small n)), Writer.hexDigit]
  exact escape

theorem stands_escape (c : Char) :
    Stands c ((Writer.escape c).flatMap String.utf8EncodeChar) := by
  unfold Writer.escape
  split
  · subst c
    exact @Stands.short '"' '"' (by decide)
  split
  · subst c
    exact @Stands.short '\\' '\\' (by decide)
  split
  · subst c
    exact @Stands.short 'b' '\x08' (by decide)
  split
  · subst c
    exact @Stands.short 't' '\t' (by decide)
  split
  · subst c
    exact @Stands.short 'n' '\n' (by decide)
  split
  · subst c
    exact @Stands.short 'f' '\x0c' (by decide)
  split
  · subst c
    exact @Stands.short 'r' '\r' (by decide)
  split
  · rename_i control
    exact .unit (unitEscape_control control)
  · rename_i quote backslash _ _ _ _ _ visible
    simpa using Stands.plain quote backslash (Nat.not_lt.1 visible)

theorem quoted_quote (text : String) : Quoted text (Text.Utf8.encode (Writer.quote text)) := by
  have stand : List.Forall₂ Stands text.toList
      (text.toList.map fun c => (Writer.escape c).flatMap String.utf8EncodeChar) :=
    List.forall₂_map_right_iff.2 (List.forall₂_same.2 fun c _ => stands_escape c)
  have written : Text.Utf8.encode (Writer.quote text) = '"'.toUInt8 ::
      (text.toList.map fun c => (Writer.escape c).flatMap String.utf8EncodeChar).flatten ++
        ['"'.toUInt8] := by
    rw [Writer.quote, Text.Utf8.encode_ofList, List.cons_append, List.flatMap_cons,
      List.flatMap_append, List.flatMap_assoc, ← List.flatMap_def]
    rfl
  rw [written]
  exact .mk stand

end Json
end EventLog
