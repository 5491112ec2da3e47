import EventLog.Calendar
import EventLog.Severity

/-! Events. An event is an immutable record; its message may hold places `{}` that are filled
with its arguments in a single pass from left to right. -/
namespace EventLog

structure Event where
  severity : Severity
  message : String
  arguments : List String := []
  cause : Option String := none
  /-- Milliseconds since the epoch. -/
  time : Int64
  deriving DecidableEq, Repr, Inhabited

/-- What an argument is put in for. -/
def place : List Char := ['{', '}']

/-- The text in front of the first place, and the text behind it. -/
def splitPlace? : List Char → Option (List Char × List Char)
  | [] => none
  | c :: rest =>
    if place <+: c :: rest then some ([], rest.drop 1)
    else (splitPlace? rest).map fun p => (c :: p.1, p.2)

theorem length_of_splitPlace? {text before after : List Char}
    (found : splitPlace? text = some (before, after)) : after.length < text.length := by
  induction text generalizing before with
  | nil => cases found
  | cons c rest ih =>
    rw [splitPlace?] at found
    split at found
    · cases found
      simp only [List.length_drop, List.length_cons]
      omega
    · obtain ⟨p, found', same⟩ := Option.map_eq_some_iff.1 found
      cases same
      exact Nat.lt_succ_of_lt (ih found')

/-- What is in front of the next place stays, and the place takes the next argument. Text that was put
in is not looked at again, and a place without an argument stays as it is. -/
def fill (arguments : List (List Char)) (text : List Char) : List Char :=
  match _ : splitPlace? text with
  | none => text
  | some (before, after) =>
    before ++ arguments.head?.getD place ++ fill arguments.tail after
termination_by text.length
decreasing_by exact length_of_splitPlace? ‹_›

namespace Event

/-- Without arguments the message needs no search. -/
def filled (e : Event) : String :=
  if e.arguments.isEmpty then e.message
  else String.ofList (fill (e.arguments.map String.toList) e.message.toList)

/-- The text of an event for people: its instant, its severity padded to the longest name, and its
filled message. A cause follows on a line of its own. -/
def line (e : Event) : String :=
  Calendar.instantText e.time.toInt ++ " "
    ++ Text.format .left ' ' 5 none e.severity.name ++ " " ++ e.filled
    ++ match e.cause with
      | some cause => "\n  caused by: " ++ cause
      | none => ""

end Event
end EventLog
