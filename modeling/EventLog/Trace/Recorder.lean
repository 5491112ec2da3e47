import EventLog.Failure
import EventLog.ListLog
import EventLog.Trace.Notice

/-! A recorder keeps notices as events of a log. Notices of the log itself are left out, and so are
those that arrive while the recorder is appending, since an append may emit notices of its own. -/
namespace EventLog.Trace

/-- The part of an entry that a field goes to. -/
inductive Role
  | message | cause | detail
  deriving DecidableEq, Repr

/-- An error is never taken for the message. -/
def Field.role (f : Field) : Role :=
  if f.name = "error" then .cause
  else if f.name = "message" ∧ f.datum.isError = false then .message
  else .detail

def Field.detail (f : Field) : String := " " ++ f.name ++ "=" ++ f.datum.shown

namespace Notice

/-- The last text in a role; a field overrides those of its role before it. -/
def last? (n : Notice) (role : Role) : Option String :=
  (n.fields.filter (·.role = role)).getLast?.map (·.datum.shown)

def details (n : Notice) : String :=
  String.join ((n.fields.filter (·.role = .detail)).map Field.detail)

/-- The event that stands for a notice. -/
def entry (n : Notice) (now : Int64) : Event where
  severity := n.severity
  message := "[" ++ n.target ++ "] " ++ (n.last? .message).getD "" ++ n.details
  cause := n.last? .cause
  time := now

/-- Whether a notice comes from the log itself. -/
def isInternal (n : Notice) : Bool :=
  n.target = "logtail" || "logtail::".toList.isPrefixOf n.target.toList

end Notice

/-- What an append leaves behind; it may emit notices before it is done. -/
structure Appended (σ : Type) where
  emitted : List Notice := []
  result : Except Failure Unit
  log : σ

structure Recorder (σ : Type) where
  minimum : Severity := .trace
  append : Event → σ → Appended σ

namespace Recorder

variable {σ : Type}

def wants (r : Recorder σ) (n : Notice) : Bool := n.severity.meets r.minimum && !n.isInternal

/-- The event to append for a notice, if there is one. -/
def accept? (r : Recorder σ) (busy : Bool) (now : Int64) (n : Notice) : Option Event :=
  if r.wants n && !busy then some (n.entry now) else none

@[simp] theorem accept?_busy (r : Recorder σ) (now : Int64) (n : Notice) :
    r.accept? true now n = none := by simp [accept?]

/-- A recorder into a list that takes every event. -/
def intoList (minimum : Severity) : Recorder ListLog where
  minimum
  append e log := { result := .ok (), log := log.append e }

end Recorder
end EventLog.Trace
