import EventLog.Text.Utf8

/-! The content of a JSON string: bytes as they stand, and 16-bit units that were written as
escapes. Content may be well formed and still not be a text, when a surrogate stands alone or
the bytes are not UTF-8. -/
namespace EventLog.Json

inductive Piece
  | byte (b : UInt8)
  | unit (n : Nat)
  deriving DecidableEq, Repr

abbrev Literal := List Piece

namespace Literal

def hexValue? (b : UInt8) : Option Nat :=
  let n := b.toNat
  if 48 ≤ n ∧ n ≤ 57 then some (n - 48)
  else if 97 ≤ n ∧ n ≤ 102 then some (n - 87)
  else if 65 ≤ n ∧ n ≤ 70 then some (n - 55)
  else none

/-- The byte that a short escape stands for. -/
def shortEscape? (b : UInt8) : Option UInt8 :=
  if b = '"'.toUInt8 ∨ b = '\\'.toUInt8 ∨ b = '/'.toUInt8 then some b
  else if b = 'b'.toUInt8 then some 8
  else if b = 'f'.toUInt8 then some 12
  else if b = 'n'.toUInt8 then some 10
  else if b = 'r'.toUInt8 then some 13
  else if b = 't'.toUInt8 then some 9
  else none

def unit? (a b c d : UInt8) : Option Nat := do
  return 4096 * (← hexValue? a) + 256 * (← hexValue? b) + 16 * (← hexValue? c) + (← hexValue? d)

/-- The content up to the closing quote, and the bytes after the quote. Control characters have
to be escaped. -/
def scan : List UInt8 → Option (Literal × List UInt8)
  | [] => none
  | b :: rest =>
    if b = '"'.toUInt8 then some ([], rest)
    else if b = '\\'.toUInt8 then
      match rest with
      | [] => none
      | e :: rest =>
        if e = 'u'.toUInt8 then
          match rest with
          | h₁ :: h₂ :: h₃ :: h₄ :: rest =>
            match unit? h₁ h₂ h₃ h₄, scan rest with
            | some n, some (content, rest) => some (.unit n :: content, rest)
            | _, _ => none
          | _ => none
        else
          match shortEscape? e, scan rest with
          | some c, some (content, rest) => some (.byte c :: content, rest)
          | _, _ => none
    else if b < 0x20 then none
    else
      match scan rest with
      | some (content, rest) => some (.byte b :: content, rest)
      | none => none

theorem length_scan {input : List UInt8} {content : Literal} {rest : List UInt8}
    (h : scan input = some (content, rest)) : rest.length < input.length := by
  fun_induction scan input generalizing content rest <;> simp_all <;> grind

def isHigh (n : Nat) : Bool := 0xd800 ≤ n && n < 0xdc00

def isLow (n : Nat) : Bool := 0xdc00 ≤ n && n < 0xe000

def encodeCode (n : Nat) : List UInt8 := String.utf8EncodeChar (Char.ofNat n)

/-- Two units that make a pair are one character beyond the first 65536. -/
def bytes? : Literal → Option (List UInt8)
  | [] => some []
  | .byte b :: rest => (b :: ·) <$> bytes? rest
  | .unit n :: rest =>
    if isHigh n then
      match rest with
      | .unit m :: rest =>
        if isLow m then
          (encodeCode (0x10000 + 0x400 * (n - 0xd800) + (m - 0xdc00)) ++ ·) <$> bytes? rest
        else none
      | _ => none
    else if isLow n then none
    else (encodeCode n ++ ·) <$> bytes? rest

def text? (content : Literal) : Option String := (bytes? content).bind Text.Utf8.decode?

def ofText (text : String) : Literal := (Text.Utf8.encode text).map .byte

theorem bytes?_map_byte (bytes : List UInt8) : bytes? (bytes.map .byte) = some bytes := by
  induction bytes with
  | nil => rfl
  | cons b rest ih => simp [bytes?, ih]

@[simp] theorem text?_ofText (text : String) : text? (ofText text) = some text := by
  simp [text?, ofText, bytes?_map_byte]

end Literal
end EventLog.Json
