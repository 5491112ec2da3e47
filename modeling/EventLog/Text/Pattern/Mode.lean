import EventLog.Text.Category

/-! The modes of a pattern, as far as they bear on what is allowed. Letters in a group switch them. -/
namespace EventLog.Text.Pattern

structure Modes where
  ignoreCase : Bool := false
  unicode : Bool := true
  /-- Blanks and comments between the parts of a pattern are skipped. -/
  verbose : Bool := false
  deriving DecidableEq, Repr

/-- The text from its first character that is neither blank nor in a comment. -/
def skipBlanks (comment : Bool) : List Char → List Char
  | [] => []
  | c :: rest =>
    if comment then skipBlanks (c ≠ '\n') rest
    else if isBlank c then skipBlanks false rest
    else if c = '#' then skipBlanks true rest
    else c :: rest

namespace Modes

def skip (m : Modes) (text : List Char) : List Char :=
  if m.verbose then skipBlanks false text else text

/-- A look at the next character that is not blank, without reading a comment to its end: only the
hash sign that opens it is passed over. -/
def peek (m : Modes) (text : List Char) : Option Char :=
  if m.verbose then
    match text.dropWhile isBlank with
    | '#' :: rest => (rest.dropWhile isBlank).head?
    | rest => rest.head?
  else text.head?

/-- A character stands for itself. Folding its case takes tables, and a byte beyond ASCII is no
text. -/
def allows (m : Modes) (c : Char) (asByte : Bool) : Bool :=
  if m.unicode then !m.ignoreCase else !(asByte && 0x7f < c.toNat)

/-- A character is in a class. Without Unicode a class is a set of ASCII characters. -/
def allowsMember (m : Modes) (c : Char) : Bool :=
  if m.unicode then !m.ignoreCase else c.toNat < 0x80

/-- Digits, blanks, word characters, or all others: Unicode knows them by tables, and the others
are more than ASCII. -/
def allowsKind (m : Modes) (negated : Bool) : Bool := !m.unicode && !negated

/-- A class that names its members or all others. -/
def allowsNamed (m : Modes) (negated : Bool) : Bool :=
  if m.unicode then !m.ignoreCase else !negated

def set (m : Modes) (on : Bool) : Option Char → Modes
  | some 'i' => { m with ignoreCase := on }
  | some 'u' => { m with unicode := on }
  | some 'x' => { m with verbose := on }
  | _ => m

/-- The flags up to a hyphen switch modes on, those after it switch them off. -/
def apply (m : Modes) (flags : List (Option Char)) : Modes :=
  let off := (flags.dropWhile (·.isSome)).foldl (·.set false ·) m
  (flags.takeWhile (·.isSome)).foldl (·.set true ·) off

end Modes

/-- Letters of modes and at most one hyphen, which is none; no letter comes twice, and a hyphen is
not the last. -/
def flags? : List (Option Char) → List Char → Option (List (Option Char) × List Char)
  | seen, c :: rest =>
    if c = ':' || c = ')' then
      if seen.getLast? = some none then none else some (seen, c :: rest)
    else
      let flag := if c = '-' then none else some c
      if "imsUuRx-".toList.contains c && !seen.contains flag then
        flags? (seen ++ [flag]) rest
      else none
  | _, [] => none

end EventLog.Text.Pattern
