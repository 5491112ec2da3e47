import EventLog.Text.Split
import EventLog.Trace.Directive

/-! Filters: directives separated by commas, of which the most specific decides on a notice. -/
namespace EventLog.Trace

abbrev Filter := List Directive

namespace Filter

def pieces (text : String) : List (List Char) :=
  (Text.split ',' text.toList).filter (!·.isEmpty)

/-- A filter that would be empty lets `fallback` pass. -/
def orElse (fallback : Threshold) (f : Filter) : Filter :=
  if f.isEmpty then [.level none none fallback] else f

/-- None if a directive is refused. -/
def parse? (text : String) : Option Filter :=
  ((pieces text).mapM fun piece => (Directive.parse piece).toOption).map (orElse none)

def refused (piece : List Char) (fault : DirectiveFault) : String :=
  "ignoring " ++ String.ofList ('\x60' :: piece ++ ['\x60']) ++ ": " ++ fault.message

/-- Leaves refused directives out, with a line of warning for each. -/
def read (text : String) : Filter × List String :=
  let parsed := (pieces text).map fun piece => (piece, Directive.parse piece)
  (orElse (some .error) (parsed.filterMap (·.2.toOption)),
    parsed.filterMap fun
      | (piece, .error fault) => some (refused piece fault)
      | (_, .ok _) => none)

/-- The directive that decides on a notice. -/
def deciding? (f : Filter) (n : Notice) : Option Directive :=
  (f.filter (·.covers n)).foldl (fun best d =>
    match best with
    | some b => if b.yieldsTo d then some d else some b
    | none => some d) none

def lets (f : Filter) (n : Notice) : Bool :=
  (f.deciding? n).any (·.threshold.lets n.severity)

def everything : Filter := [.level none none (some .trace)]

@[simp] theorem lets_everything (n : Notice) : everything.lets n = true := by
  simp [everything, lets, deciding?, Directive.covers, Directive.threshold]

end Filter
end EventLog.Trace
