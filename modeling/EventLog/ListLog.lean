import EventLog.Event
import EventLog.Window

/-! A log held as the list of its events, oldest first. Every other log answers as one of these. -/
namespace EventLog

/-- An event that is built where it is logged. -/
def Event.stamped (now : Int64) (severity : Severity) (message : String) : Event :=
  { severity, message, time := now }

abbrev ListLog := List Event

namespace ListLog

def append (log : ListLog) (e : Event) : ListLog := log ++ [e]

def get? (log : ListLog) (i : Nat) : Option Event := log[i]?

def range (log : ListLog) (start : Int) (count : Option Nat) : List Event :=
  Window.slice start count log

/-- The window that is asked for in words of 64 bits. -/
def wordRange? (log : ListLog) (start : Int64) (count : Option UInt64) : Option (List Event) :=
  let bounds := Window.wordBounds start count log.length.toUInt64
  Window.part? bounds.1.toNat bounds.2.toNat log

def atLeast (log : ListLog) (threshold : Option Severity) : List Event :=
  log.filter (·.severity.meetsAny threshold)

def first? (log : ListLog) (threshold : Option Severity) : Option Event :=
  log.find? (·.severity.meetsAny threshold)

def last? (log : ListLog) (threshold : Option Severity) : Option Event :=
  log.reverse.find? (·.severity.meetsAny threshold)

def has (log : ListLog) (severity : Severity) : Bool := (log.first? (some severity)).isSome

theorem first?_eq_head? (log : ListLog) (threshold : Option Severity) :
    log.first? threshold = (log.atLeast threshold).head? := by
  simp [first?, atLeast]

theorem last?_eq_getLast? (log : ListLog) (threshold : Option Severity) :
    log.last? threshold = (log.atLeast threshold).getLast? := by
  rw [last?, atLeast, ← List.head?_filter, List.filter_reverse, List.head?_reverse]

end ListLog
end EventLog
