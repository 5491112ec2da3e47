import EventLog.Decimal.Shortest

/-! How a decimal is laid out: positional with at least one digit behind the point, or with an
exponent when its size is beyond the bounds of a style. -/
namespace EventLog.Decimal

structure Style where
  /-- The least and the greatest exponent that are written positionally. -/
  least : Int
  greatest : Int
  tie : Tie
  /-- An exponent that is not negative has a plus sign. -/
  plus : Bool

def Digits.positional (d : Digits) : List Char :=
  if d.exponent < 0 then
    ['0', '.'] ++ List.replicate (-d.exponent - 1).toNat '0' ++ d.digits
  else
    let whole := d.exponent.toNat + 1
    let fraction := d.digits.drop whole
    d.digits.take whole ++ List.replicate (whole - d.digits.length) '0' ++ ['.']
      ++ if fraction.isEmpty then ['0'] else fraction

def Digits.scientific (d : Digits) (plus : Bool) : List Char :=
  let fraction := d.digits.drop 1
  d.digits.take 1 ++ (if fraction.isEmpty then [] else '.' :: fraction) ++ ['e']
    ++ (if plus && 0 ≤ d.exponent then ['+'] else []) ++ (toString d.exponent).toList

def Digits.text (d : Digits) (style : Style) : String :=
  String.ofList (if style.least ≤ d.exponent ∧ d.exponent ≤ style.greatest then d.positional
    else d.scientific style.plus)

def sign (negative : Bool) (text : String) : String := if negative then "-" ++ text else text

def finiteText (style : Style) (negative : Bool) (magnitude : Option Binary) : String :=
  sign negative (match magnitude with
    | none => "0.0"
    | some b => (b.shortest style.tie).text style)

/-- The text of a number of 64 bits. -/
def text (style : Style) (bits : UInt64) : String :=
  match Reading.ofBits bits with
  | .finite negative magnitude => finiteText style negative magnitude
  | .infinite negative => sign negative "inf"
  | .notANumber => "NaN"

/-- None for what is not a finite number. -/
def finiteText? (style : Style) (bits : UInt64) : Option String :=
  match Reading.ofBits bits with
  | .finite negative magnitude => some (finiteText style negative magnitude)
  | .infinite _ | .notANumber => none

end EventLog.Decimal
