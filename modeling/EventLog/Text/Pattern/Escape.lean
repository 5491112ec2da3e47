import EventLog.Text.Numeral
import EventLog.Text.Pattern.Mode

/-! What a backslash in a pattern makes of the characters after it. -/
namespace EventLog.Text.Pattern

inductive Escape
  /-- A character, which may be written as a byte. -/
  | literal (c : Char) (asByte : Bool)
  /-- Digits, blanks or word characters, or all others. -/
  | kind (negated : Bool)
  | textEdge
  | wordEdge
  deriving DecidableEq, Repr

/-- So many hexadecimal digits, as a code point. -/
def hex? (m : Modes) : Nat → Nat → List Char → Option (Char × List Char)
  | 0, code, text => if code.isValidChar then some (Char.ofNat code, text) else none
  | n + 1, code, text =>
    match m.skip text with
    | [] => none
    | c :: rest =>
      if Numeral.isDigit c then hex? m n (16 * code + (c.toNat - 0x30)) rest
      else if 'a' ≤ c && c ≤ 'f' then hex? m n (16 * code + (c.toNat - 0x57)) rest
      else if 'A' ≤ c && c ≤ 'F' then hex? m n (16 * code + (c.toNat - 0x37)) rest
      else none

/-- Letters that stand for control characters. -/
def controls : List (Char × Char) :=
  [('a', '\x07'), ('f', '\x0c'), ('t', '\t'), ('n', '\n'), ('r', '\r'), ('v', '\x0b')]

def isLetterOrDigit (c : Char) : Bool := c.isAlpha || Numeral.isDigit c

/-- ASCII marks stand for themselves, the angle brackets apart; a letter or digit without a meaning
is refused. -/
def escape? (m : Modes) : List Char → Option (Escape × List Char)
  | 'x' :: rest => (hex? m 2 0 rest).map fun (c, rest) => (.literal c true, rest)
  | 'u' :: rest => (hex? m 4 0 rest).map fun (c, rest) => (.literal c false, rest)
  | 'U' :: rest => (hex? m 8 0 rest).map fun (c, rest) => (.literal c false, rest)
  | c :: rest =>
    if ['d', 's', 'w'].contains c then some (.kind false, rest)
    else if ['D', 'S', 'W'].contains c then some (.kind true, rest)
    else if ['A', 'z'].contains c then some (.textEdge, rest)
    else if ['b', 'B', '<', '>'].contains c then
      if c = 'b' && rest.head? = some '\x7b' then none else some (.wordEdge, rest)
    else match controls.lookup c with
      | some control => some (.literal control false, rest)
      | none =>
        if c.toNat < 0x80 && !isLetterOrDigit c then some (.literal c false, rest) else none
  | [] => none

end EventLog.Text.Pattern
