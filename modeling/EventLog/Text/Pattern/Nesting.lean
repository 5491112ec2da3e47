/-! How deep a pattern is nested. A character is not nested; a group, a class, a repetition, and two
or more parts in a row or between bars are one deeper than the deepest of them, and so is a class
operator over its two sides. -/
namespace EventLog.Text.Pattern

/-- The parts of a group or of a class that have been read. -/
structure Parts where
  /-- Those after the last bar or operator. -/
  count : Nat := 0
  /-- The depth of the deepest of these. -/
  deepest : Nat := 0
  /-- The depth of the last one, if it may be repeated. -/
  last : Option Nat := none
  /-- The depth of what is before the last bar or operator. -/
  before : Option Nat := none
  deriving DecidableEq, Repr

namespace Parts

def row (p : Parts) : Nat := if 1 < p.count then p.deepest + 1 else p.deepest

def depth (p : Parts) : Nat :=
  match p.before with
  | none => p.row
  | some d => max d p.row + 1

def add (p : Parts) (depth : Nat) : Parts :=
  { p with count := p.count + 1, deepest := max p.deepest depth, last := some depth }

/-- Flags are a part, but not one that is repeated. -/
def addFlags (p : Parts) : Parts := { p with count := p.count + 1, last := none }

/-- The last part repeated, none if there is nothing to repeat. -/
def repeated? (p : Parts) : Option Parts :=
  p.last.map fun d => { p with deepest := max p.deepest (d + 1), last := some (d + 1) }

/-- The alternatives between bars are side by side. -/
def bar (p : Parts) : Parts := { before := some (max (p.before.getD 0) p.row) }

/-- Everything before a class operator is its left side. -/
def operator (p : Parts) : Parts := { before := some p.depth }

end Parts
end EventLog.Text.Pattern
