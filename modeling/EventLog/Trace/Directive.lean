import EventLog.Text.Numeral
import EventLog.Text.Pattern
import EventLog.Text.Split
import EventLog.Text.Utf8
import EventLog.Trace.Notice

/-! Directives: a threshold for the notices whose target begins with a given text and which may have
to carry a field of a given name. A condition on enclosing spans is read and never met. -/
namespace EventLog.Trace

/-- The least severity that passes; none lets nothing pass. -/
abbrev Threshold := Option Severity

namespace Threshold

def lets (t : Threshold) (s : Severity) : Bool := t.any (s.meets ·)

@[simp] theorem lets_trace (s : Severity) : lets (some .trace) s = true := by simp [lets]

/-- The thresholds by number: 0 lets nothing pass, 5 everything. -/
def numbered : List Threshold :=
  [none, some .error, some .warn, some .info, some .debug, some .trace]

def word : Threshold → String
  | none => "OFF"
  | some s => s.name

/-- A number or a word in any case. -/
def parse? (text : List Char) : Option Threshold :=
  match (Text.Numeral.natural? 0xffffffffffffffff text).bind (numbered[·]?) with
  | some t => some t
  | none => numbered.find? (·.word == (String.ofList text).toUpper)

end Threshold

inductive Directive
  | level (target field : Option String) (threshold : Threshold)
  /-- A condition on enclosing spans or on the value of their fields, which no notice meets. -/
  | spans
  deriving DecidableEq, Repr

inductive DirectiveFault
  | malformed
  | value (fault : Text.Pattern.Fault)
  | threshold
  deriving DecidableEq, Repr

def DirectiveFault.message : DirectiveFault → String
  | malformed => "invalid filter directive"
  | value fault => "invalid field filter: " ++ fault.message
  | threshold => "error parsing level filter: expected one of \"off\", \"error\", \"warn\", "
      ++ "\"info\", \"debug\", \"trace\", or a number 0-5"

namespace Directive

open Text.Utf8 (cut size)

def beginsTarget (c : Char) : Bool :=
  c = '-' || c = ':' || c = '_' || Text.isAlphanumeric c

/-- What follows the condition of a directive, up to the end of `piece`. No threshold is the lowest,
and so is an empty one. -/
def bound (piece : List Char) (place : Nat) : List Char → Except DirectiveFault Threshold
  | [] => .ok (some .trace)
  | '=' :: _ =>
    let text := Text.Utf8.dropBytes (place + 1) piece
    if text.isEmpty then .ok (some .trace)
    else match Threshold.parse? text with
      | some t => .ok t
      | none => .error .threshold
  | _ => .error .malformed

/-- The name of a field and whether it must have a value, which is a number or a pattern. -/
def fieldOf (text : List Char) : Except DirectiveFault (String × Bool) :=
  match Text.split '=' text with
  | name :: value :: _ =>
    if Text.Numeral.isReal value then .ok (String.ofList name, true)
    else match Text.Pattern.fault? value with
      | none => .ok (String.ofList name, true)
      | some fault => .error (.value fault)
  | _ => .ok (String.ofList text, false)

/-- What stands between brackets: a span, and a field in braces after it. -/
def parseCondition (piece name condition : List Char) : Except DirectiveFault Directive :=
  let target := if name.isEmpty then none else some (String.ofList (cut 0 (size name) piece))
  let span := condition.takeWhile fun c => c ≠ ']' && c ≠ '\x7b'
  let start := size name + size span + 2
  match condition.drop span.length with
  | ']' :: rest => (bound piece start rest).map fun _ => .spans
  | _ :: rest =>
    let field := rest.takeWhile (· ≠ '\x7d')
    let stop := start + size field
    match rest.drop field.length with
    | _ :: rest =>
      if field.isEmpty then .error .malformed
      else do
        let (field, valued) ← fieldOf (cut start stop piece)
        match rest with
        | ']' :: rest =>
          let t ← bound piece (stop + 2) rest
          return if valued || !span.isEmpty then .spans else .level target (some field) t
        | _ => .error .malformed
    | [] => .error .malformed
  | [] => .error .malformed

/-- Places are counted from the first character that is not blank, but the piece is cut as it is
written: blanks in front move every cut to the left. -/
def parse (piece : List Char) : Except DirectiveFault Directive :=
  let text := Text.trim piece
  let name := text.takeWhile fun c => c ≠ '=' && c ≠ '['
  match text.drop name.length with
  | '[' :: condition =>
    if name.head?.all beginsTarget then parseCondition piece name condition
    else .error .malformed
  | rest =>
    if name.head?.any beginsTarget then
      if rest.isEmpty then
        match Threshold.parse? piece with
        | some t => .ok (.level none none t)
        | none => .ok (.level (some (String.ofList piece)) none (some .trace))
      else
        (bound piece (size name) rest).map
          (.level (some (String.ofList (cut 0 (size name) piece))) none)
    else .error .malformed

def covers (d : Directive) (n : Notice) : Bool :=
  match d with
  | level target field _ =>
    target.all (·.toList.isPrefixOf n.target.toList)
      && field.all fun name => n.fields.any (·.name == name)
  | spans => false

/-- Longer targets are more specific, and any target is more specific than none. -/
def weight : Directive → Nat
  | level (some own) _ _ => own.length + 1
  | _ => 0

/-- A directive about a field is more specific than one about all notices; of two fields the later
name in the order of code points counts for more. -/
def fieldLe : Directive → Directive → Bool
  | level _ (some a) _, level _ (some b) _ => a ≤ b
  | level _ (some _) _, _ => false
  | _, _ => true

/-- Of two directives that cover a notice, the second and later one decides. -/
def yieldsTo (a b : Directive) : Bool :=
  a.weight < b.weight || a.weight == b.weight && a.fieldLe b

def threshold : Directive → Threshold
  | level _ _ t => t
  | spans => none

end Directive
end EventLog.Trace
