import EventLog.Json.Literal
import EventLog.Text.Numeral

/-! The tokens of a JSON text. Space, tab, line feed and carriage return may stand between them. -/
namespace EventLog.Json

inductive Token
  | openBrace | closeBrace | openBracket | closeBracket | colon | comma
  | null
  | bool (b : Bool)
  | number (lexeme : List Char)
  | string (content : Literal)
  deriving DecidableEq, Repr

namespace Lexeme

open Text.Numeral (isDigit)

def isExponent : List Char → Bool
  | [] => true
  | c :: rest =>
    let digits := match rest with
      | '+' :: digits => digits
      | '-' :: digits => digits
      | digits => digits
    (c == 'e' || c == 'E') && !digits.isEmpty && digits.all isDigit

def isFraction : List Char → Bool
  | '.' :: rest =>
    !(rest.takeWhile isDigit).isEmpty && isExponent (rest.dropWhile isDigit)
  | rest => isExponent rest

/-- A number has no leading zeros, no plus sign, and digits on both sides of its point. -/
def isNumber (lexeme : List Char) : Bool :=
  let unsigned := match lexeme with
    | '-' :: rest => rest
    | rest => rest
  let whole := unsigned.takeWhile isDigit
  !whole.isEmpty && (whole == ['0'] || whole.head? != some '0')
    && isFraction (unsigned.dropWhile isDigit)

end Lexeme

namespace Token

def isSpace (b : UInt8) : Bool := b == 0x20 || b == 9 || b == 10 || b == 13

def punctuation? (b : UInt8) : Option Token :=
  if b = 0x7b then some openBrace
  else if b = 0x7d then some closeBrace
  else if b = '['.toUInt8 then some openBracket
  else if b = ']'.toUInt8 then some closeBracket
  else if b = ':'.toUInt8 then some colon
  else if b = ','.toUInt8 then some comma
  else none

/-- The bytes of numbers and of the three words. -/
def inWord (b : UInt8) : Bool :=
  let c := Char.ofUInt8 b
  c.isAlphanum || c == '-' || c == '+' || c == '.'

/-- A token without quotes, given as a longest run of word bytes. -/
def ofWord? (word : List Char) : Option Token :=
  if word = ['n', 'u', 'l', 'l'] then some null
  else if word = ['t', 'r', 'u', 'e'] then some (bool true)
  else if word = ['f', 'a', 'l', 's', 'e'] then some (bool false)
  else if Lexeme.isNumber word then some (number word)
  else none

def scan : List UInt8 → Option (List Token)
  | [] => some []
  | b :: rest =>
    if isSpace b then scan rest
    else if b = '"'.toUInt8 then
      match _h : Literal.scan rest with
      | some (content, later) => (string content :: ·) <$> scan later
      | none => none
    else
      match punctuation? b with
      | some token => (token :: ·) <$> scan rest
      | none => do
        let token ← ofWord? ((b :: rest.takeWhile inWord).map Char.ofUInt8)
        (token :: ·) <$> scan (rest.dropWhile inWord)
termination_by input => input.length
decreasing_by
  · simp
  · have := Literal.length_scan _h; simp; omega
  · simp
  · have := (List.dropWhile_suffix inWord (l := rest)).length_le; simp; omega

end Token
end EventLog.Json
