/-! Padding of a text to a width, counted in characters. A text is never cut by the width. -/
namespace EventLog.Text

inductive Alignment
  | left | right | center
  deriving DecidableEq, Repr

/-- The filling on the left when `gap` characters are missing; in the centre the smaller half
stands first. -/
def Alignment.before (gap : Nat) : Alignment → Nat
  | left => 0
  | right => gap
  | center => gap / 2

def pad (a : Alignment) (filling : Char) (width : Nat) (text : List Char) : List Char :=
  let gap := width - text.length
  List.replicate (a.before gap) filling ++ text ++ List.replicate (gap - a.before gap) filling

/-- A text with a precision is first cut to that many characters. -/
def format (a : Alignment) (filling : Char) (width : Nat) (precision : Option Nat)
    (text : String) : String :=
  String.ofList (pad a filling width (match precision with
    | some n => text.toList.take n
    | none => text.toList))

/-- A natural number with at least `width` digits. -/
def digits (width n : Nat) : String :=
  String.ofList (pad .right '0' width (Nat.toDigits 10 n))

end EventLog.Text
