/-! Decimal numerals as they are read from a command line or an environment: ASCII digits only,
leading zeros allowed, and a sign where the type of number has one. -/
namespace EventLog.Text.Numeral

def isDigit (c : Char) : Bool := '0' ≤ c && c ≤ '9'

def digitValue (c : Char) : Nat := c.toNat - '0'.toNat

def value (digits : List Char) : Nat :=
  digits.foldl (fun n c => 10 * n + digitValue c) 0

@[simp] theorem value_nil : value [] = 0 := rfl

/-- One or more digits. -/
def digits? (text : List Char) : Option Nat :=
  if text.isEmpty || !text.all isDigit then none else some (value text)

/-- A natural number up to `limit`; a plus sign may stand in front. -/
def natural? (limit : Nat) (text : List Char) : Option Nat :=
  let digits := match text with
    | '+' :: rest => rest
    | _ => text
  (digits? digits).filter (· ≤ limit)

/-- A number of 64 bits with an optional sign. -/
def integer? (text : List Char) : Option Int :=
  let signed := match text with
    | '-' :: rest => (digits? rest).map fun n => -(n : Int)
    | '+' :: rest => (digits? rest).map Int.ofNat
    | _ => (digits? text).map Int.ofNat
  signed.filter fun n => -0x8000000000000000 ≤ n ∧ n < 0x8000000000000000

def unsigned (text : List Char) : List Char :=
  match text with
  | '-' :: rest => rest
  | '+' :: rest => rest
  | _ => text

/-- A decimal fraction with an optional exponent, or a word for what is not finite in any case. -/
def isReal (text : List Char) : Bool :=
  let text := unsigned text
  let whole := text.takeWhile isDigit
  let (fraction, rest) := match text.drop whole.length with
    | '.' :: rest => (rest.takeWhile isDigit, rest.dropWhile isDigit)
    | rest => ([], rest)
  let exponent := match rest with
    | [] => true
    | mark :: rest => mark.toLower = 'e' && (digits? (unsigned rest)).isSome
  ["inf", "infinity", "nan"].contains (String.ofList text).toLower
    || !(whole ++ fraction).isEmpty && exponent

end EventLog.Text.Numeral
