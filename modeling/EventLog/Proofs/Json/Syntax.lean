import EventLog.Text.Numeral
import EventLog.Text.Utf8
import Mathlib.Data.List.Forall2

/-! The grammar of JSON texts as bytes, stated apart from any reader. -/
namespace EventLog.Json

/-- Space, tab, line feed and carriage return may stand around every token. -/
def Blank (gap : List UInt8) : Prop := ∀ b ∈ gap, b = 0x20 ∨ b = 9 ∨ b = 10 ∨ b = 13

inductive Padded (Core : List UInt8 → Prop) : List UInt8 → Prop
  | mk {before text after : List UInt8} (front : Blank before) (core : Core text)
      (back : Blank after) : Padded Core (before ++ text ++ after)

theorem blank_nil : Blank [] := by simp [Blank]

theorem Padded.of_core {Core : List UInt8 → Prop} {text : List UInt8} (core : Core text) :
    Padded Core text := by
  simpa using Padded.mk blank_nil core blank_nil

theorem Padded.imp {Core Other : List UInt8 → Prop} {bytes : List UInt8} (h : Padded Core bytes)
    (weaker : ∀ text, Core text → Other text) : Padded Other bytes := by
  cases h with
  | mk front core back => exact .mk front (weaker _ core) back

/-- Parts between brackets, set apart by commas. Between empty brackets there may be blanks. -/
inductive Bracketed (opening closing : Char) : List (List UInt8) → List UInt8 → Prop
  | parts (parts : List (List UInt8)) : Bracketed opening closing parts
      (opening.toUInt8 :: [','.toUInt8].intercalate parts ++ [closing.toUInt8])
  | empty {gap : List UInt8} (blank : Blank gap) : Bracketed opening closing []
      (opening.toUInt8 :: gap ++ [closing.toUInt8])

/-! Numbers. -/

structure Digits (text : List Char) : Prop where
  nonempty : text ≠ []
  digit : ∀ c ∈ text, Text.Numeral.isDigit c = true

structure Whole (text : List Char) : Prop extends Digits text where
  front : text = ['0'] ∨ text.head? ≠ some '0'

inductive Fraction : List Char → Prop
  | absent : Fraction []
  | present {digits : List Char} (valid : Digits digits) : Fraction ('.' :: digits)

inductive Exponent : List Char → Prop
  | absent : Exponent []
  | present {mark : Char} {sign digits : List Char} (marked : mark = 'e' ∨ mark = 'E')
      (signed : sign = [] ∨ sign = ['+'] ∨ sign = ['-']) (valid : Digits digits) :
      Exponent (mark :: (sign ++ digits))

inductive Number : List Char → Prop
  | mk {sign whole fraction exponent : List Char} (signed : sign = [] ∨ sign = ['-'])
      (valid : Whole whole) (point : Fraction fraction) (scale : Exponent exponent) :
      Number (sign ++ (whole ++ (fraction ++ exponent)))

/-! Strings. -/

/-- A hexadecimal digit of either case. -/
structure HexDigit (n : Nat) (b : UInt8) : Prop where
  small : n < 16
  written : b = (Nat.digitChar n).toUInt8 ∨ b = (Nat.digitChar n).toUpper.toUInt8

/-- A 16-bit unit as an escape. -/
inductive UnitEscape : Nat → List UInt8 → Prop
  | mk {a b c d : Nat} {h₁ h₂ h₃ h₄ : UInt8} (first : HexDigit a h₁) (second : HexDigit b h₂)
      (third : HexDigit c h₃) (fourth : HexDigit d h₄) :
      UnitEscape (4096 * a + 256 * b + 16 * c + d)
        ['\\'.toUInt8, 'u'.toUInt8, h₁, h₂, h₃, h₄]

/-- The letters after a backslash, and what they stand for. -/
def shortEscapes : List (Char × Char) :=
  [('"', '"'), ('\\', '\\'), ('/', '/'), ('b', '\x08'), ('f', '\x0c'), ('n', '\n'), ('r', '\r'),
    ('t', '\t')]

/-- The ways to write a character in a string. A character beyond the first 65536 is escaped as
two units. -/
inductive Stands : Char → List UInt8 → Prop
  | plain {c : Char} (quote : c ≠ '"') (backslash : c ≠ '\\') (visible : 32 ≤ c.toNat) :
      Stands c (String.utf8EncodeChar c)
  | short {letter c : Char} (known : (letter, c) ∈ shortEscapes) :
      Stands c ['\\'.toUInt8, letter.toUInt8]
  | unit {c : Char} {bytes : List UInt8} (escape : UnitEscape c.toNat bytes) : Stands c bytes
  | pair {c : Char} {high low : Nat} {first second : List UInt8} (escape : UnitEscape high first)
      (escape' : UnitEscape low second) (isHigh : 0xd800 ≤ high ∧ high < 0xdc00)
      (isLow : 0xdc00 ≤ low ∧ low < 0xe000)
      (code : c.toNat = 0x10000 + 0x400 * (high - 0xd800) + (low - 0xdc00)) :
      Stands c (first ++ second)

/-- The ways to write a text as a string. -/
inductive Quoted (text : String) : List UInt8 → Prop
  | mk {parts : List (List UInt8)} (stand : List.Forall₂ Stands text.toList parts) :
      Quoted text ('"'.toUInt8 :: parts.flatten ++ ['"'.toUInt8])

/-- A part of a string that need not be a text: its escapes may be any units, also half pairs. -/
inductive StringPart : List UInt8 → Prop
  | stands {c : Char} {bytes : List UInt8} (stand : Stands c bytes) : StringPart bytes
  | unit {n : Nat} {bytes : List UInt8} (escape : UnitEscape n bytes) : StringPart bytes

inductive AnyString : List UInt8 → Prop
  | mk {parts : List (List UInt8)} (each : ∀ part ∈ parts, StringPart part) :
      AnyString ('"'.toUInt8 :: parts.flatten ++ ['"'.toUInt8])

/-! Values. -/

/-- A member of an object as it is written: its key and its value. -/
structure Field where
  key : List UInt8
  text : List UInt8

def Field.bytes (f : Field) : List UInt8 := f.key ++ ':'.toUInt8 :: f.text

/-- Texts of values, with blanks around them. -/
inductive WellFormed : List UInt8 → Prop
  | padded {before text after : List UInt8} (front : Blank before) (core : WellFormed text)
      (back : Blank after) : WellFormed (before ++ text ++ after)
  | word {text : String} (known : text = "null" ∨ text = "true" ∨ text = "false") :
      WellFormed (Text.Utf8.encode text)
  | number {lexeme : List Char} (valid : Number lexeme) : WellFormed (lexeme.map Char.toUInt8)
  | string {bytes : List UInt8} (valid : AnyString bytes) : WellFormed bytes
  | array {items : List (List UInt8)} {bytes : List UInt8} (written : Bracketed '[' ']' items bytes)
      (each : ∀ item ∈ items, WellFormed item) : WellFormed bytes
  | object {fields : List Field} {bytes : List UInt8}
      (written : Bracketed '\x7b' '\x7d' (fields.map Field.bytes) bytes)
      (keys : ∀ f ∈ fields, Padded AnyString f.key)
      (each : ∀ f ∈ fields, WellFormed f.text) : WellFormed bytes

theorem Padded.wellFormed {bytes : List UInt8} (h : Padded WellFormed bytes) :
    WellFormed bytes := by
  cases h with
  | mk front core back => exact .padded front core back

end EventLog.Json
