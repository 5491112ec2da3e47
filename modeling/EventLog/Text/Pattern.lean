import EventLog.Text.Pattern.Escape
import EventLog.Text.Pattern.Nesting

/-! Regular expressions that can be made into an automaton without tables of Unicode classes. A text
is read from left to right by steps, each of which takes at least one character; what is kept is the
modes in force and the parts read so far, inside and outside of each open group and bracket. -/
namespace EventLog.Text.Pattern

structure State where
  modes : Modes := {}
  parts : Parts := {}
  /-- Modes and parts outside each open group or bracket, the innermost first. -/
  outer : List (Modes × Parts) := []
  /-- The number of open brackets, which are inside all open groups. -/
  brackets : Nat := 0
  /-- Nothing but hyphens stands after the innermost opening bracket. -/
  opening : Bool := false
  /-- The names that groups have taken. -/
  names : List (List Char) := []
  /-- The edge of a word was asked for, where a word is any Unicode word. -/
  wordEdge : Bool := false
  deriving DecidableEq, Repr

inductive Fault
  | malformed
  | wordEdge
  deriving DecidableEq, Repr

def Fault.message : Fault → String
  | malformed => "error building NFA"
  | wordEdge => "unsupported regex feature for DFAs: cannot build DFAs for regexes with Unicode "
      ++ "word boundaries; switch to ASCII word boundaries, or heuristically enable Unicode word "
      ++ "boundaries or use a different regex engine"

def deepest : Nat := 250

/-- The name of a group, which ends with an angle bracket. -/
def name? (text : List Char) : Option (List Char × List Char) :=
  let name := text.takeWhile (· ≠ '>')
  match name, text.drop name.length with
  | first :: more, _ :: rest =>
    let goesOn := fun c => ['_', '.', '[', ']'].contains c || isAlphanumeric c
    if (first = '_' || isAlphabetic first) && more.all goesOn then some (name, rest) else none
  | _, _ => none

namespace State

def add (s : State) (depth : Nat) : State := { s with parts := s.parts.add depth }

/-- The state inside a group. -/
def enter (s : State) (inside : Modes) : State :=
  { s with modes := inside, parts := {}, outer := (s.modes, s.parts) :: s.outer }

/-- The state after a group or a bracket, none if none is open. -/
def leave? (s : State) : Option State :=
  match s.outer with
  | (modes, parts) :: outer => some { s with modes, parts := parts.add (s.parts.depth + 1), outer }
  | [] => none

def enterNamed? (s : State) (text : List Char) : Option (State × List Char) :=
  match name? text with
  | some (name, rest) =>
    if s.names.contains name then none
    else some ({ s.enter s.modes with names := name :: s.names }, rest)
  | none => none

/-- What follows the opening parenthesis of a group. A look around is refused. -/
def group? (s : State) (text : List Char) : Option (State × List Char) :=
  match s.modes.skip text with
  | '?' :: 'P' :: '<' :: rest => s.enterNamed? rest
  | '?' :: '<' :: rest => s.enterNamed? rest
  | '?' :: rest =>
    match flags? [] rest with
    | some (flags, ':' :: rest) => some (s.enter (s.modes.apply flags), rest)
    | some (flags, _ :: rest) =>
      if flags.isEmpty then none
      else some ({ s with modes := s.modes.apply flags, parts := s.parts.addFlags }, rest)
    | _ => none
  | rest => some (s.enter s.modes, rest)

/-- What follows an opening bracket. -/
def open? (s : State) (text : List Char) : Option (State × List Char) :=
  let inside := { s.enter s.modes with brackets := s.brackets + 1, opening := true }
  match s.modes.skip text with
  | '^' :: rest => if s.modes.unicode then some (inside, rest) else none
  | rest => some (inside, rest)

def classNames : List String :=
  ["alnum", "alpha", "ascii", "blank", "cntrl", "digit", "graph", "lower", "print", "punct",
    "space", "upper", "word", "xdigit"]

/-- A named class inside brackets, from after its own opening bracket. -/
def namedClass? (text : List Char) : Option (Bool × List Char) :=
  match text with
  | ':' :: rest =>
    let (negated, rest) := match rest with
      | '^' :: rest => (true, rest)
      | _ => (false, rest)
    let name := rest.takeWhile (· ≠ ':')
    match rest.drop name.length with
    | ':' :: ']' :: rest =>
      if classNames.contains (String.ofList name) then some (negated, rest) else none
    | _ => none
  | _ => none

/-- One end of a range, or a member on its own; none as the character if it can be no end. -/
def member? (s : State) : List Char → Option (Option Char × List Char)
  | '\\' :: text =>
    match escape? s.modes text with
    | some (.literal c _, rest) => if s.modes.allowsMember c then some (some c, rest) else none
    | some (.kind negated, rest) => if s.modes.allowsKind negated then some (none, rest) else none
    | _ => none
  | c :: rest => if s.modes.allowsMember c then some (some c, rest) else none
  | [] => none

/-- A member of a class or a range of members. A hyphen before a closing bracket or before another
hyphen makes no range. -/
def range? (s : State) (text : List Char) : Option (State × List Char) :=
  match s.member? text with
  | none => none
  | some (low, rest) =>
    match s.modes.skip rest with
    | '-' :: after =>
      if [some ']', some '-'].contains (s.modes.peek after) then some (s.add 0, '-' :: after)
      else match low, s.member? (s.modes.skip after) with
        | some low, some (some high, rest) => if low ≤ high then some (s.add 0, rest) else none
        | _, _ => none
    | rest => some (s.add 0, rest)

/-- A step inside brackets. Hyphens at the beginning are members, and so is a closing bracket that
comes first. -/
def stepInside? (s : State) (text : List Char) : Option (State × List Char) :=
  let first := s.opening && s.parts.count = 0
  let later := { s with opening := false }
  match text with
  | '[' :: rest =>
    match namedClass? rest with
    | some (negated, rest) =>
      if s.modes.allowsNamed negated then some (later.add 0, rest) else none
    | none => later.open? rest
  | ']' :: rest =>
    if first then if s.modes.allowsMember ']' then some (later.add 0, rest) else none
    else later.leave?.map fun s => ({ s with brackets := s.brackets - 1 }, rest)
  | '&' :: '&' :: rest => some ({ later with parts := s.parts.operator }, rest)
  | '~' :: '~' :: rest => some ({ later with parts := s.parts.operator }, rest)
  | '-' :: rest =>
    if s.opening then if s.modes.allowsMember '-' then some (s.add 0, rest) else none
    else if rest.head? = some '-' then
      some ({ later with parts := s.parts.operator }, rest.drop 1)
    else later.range? text
  | text => later.range? text

/-- A step outside brackets. A repetition may be lazy, with a question mark right after it. -/
def stepOutside? (s : State) : List Char → Option (State × List Char)
  | '(' :: rest => s.group? rest
  | ')' :: rest => s.leave?.map (·, rest)
  | '|' :: rest => some ({ s with parts := s.parts.bar }, rest)
  | '[' :: rest => s.open? rest
  | '\\' :: text =>
    match escape? s.modes text with
    | some (.literal c asByte, rest) => if s.modes.allows c asByte then some (s.add 0, rest) else none
    | some (.kind negated, rest) =>
      if s.modes.allowsKind negated then some (s.add 0, rest) else none
    | some (.textEdge, rest) => some (s.add 0, rest)
    | some (.wordEdge, rest) =>
      some ({ s.add 0 with wordEdge := s.wordEdge || s.modes.unicode }, rest)
    | none => none
  | '.' :: rest => if s.modes.unicode then some (s.add 0, rest) else none
  | '\x7b' :: _ => none
  | c :: rest =>
    if ['*', '+', '?'].contains c then
      let rest := if rest.head? = some '?' then rest.drop 1 else rest
      s.parts.repeated?.map fun parts => ({ s with parts }, rest)
    else if ['^', '$'].contains c || s.modes.allows c false then some (s.add 0, rest)
    else none
  | [] => none

/-- The state at the end of the text, with one unit of fuel for each step. -/
def run? : Nat → State → List Char → Option State
  | 0, _, _ => none
  | fuel + 1, s, text =>
    match s.modes.skip text with
    | [] => some s
    | text =>
      match if s.brackets = 0 then s.stepOutside? text else s.stepInside? text with
      | some (s, rest) => run? fuel s rest
      | none => none

end State

/-- Why a text is no pattern that can be used; none if it is one. -/
def fault? (text : List Char) : Option Fault :=
  match State.run? (text.length + 1) {} text with
  | none => some .malformed
  | some s =>
    if !s.outer.isEmpty || deepest < s.parts.depth then some .malformed
    else if s.wordEdge then some .wordEdge
    else none

end EventLog.Text.Pattern
