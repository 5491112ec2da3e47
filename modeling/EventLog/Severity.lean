/-! Severities of events, in ascending order. A threshold test compares ranks, and a severity
has an upper-case name for people and a capitalised title for stored data. -/
namespace EventLog

inductive Severity
  | trace | debug | info | warn | error
  deriving DecidableEq, Repr, Inhabited

namespace Severity

def all : List Severity := [trace, debug, info, warn, error]

theorem mem_all (s : Severity) : s ∈ all := by cases s <;> decide

def rank : Severity → Nat
  | trace => 0
  | debug => 1
  | info => 2
  | warn => 3
  | error => 4

theorem rank_injective {s t : Severity} (h : s.rank = t.rank) : s = t := by
  cases s <;> cases t <;> simp_all [rank]

def ofRank? (n : Nat) : Option Severity := all[n]?

@[simp] theorem ofRank?_rank (s : Severity) : ofRank? s.rank = some s := by cases s <;> rfl

theorem ofRank?_eq_some_iff {n : Nat} {s : Severity} : ofRank? n = some s ↔ s.rank = n := by
  constructor
  · intro known
    match n with
    | 0 | 1 | 2 | 3 | 4 => cases known; rfl
    | n + 5 => cases known
  · rintro rfl
    exact ofRank?_rank s

theorem rank_lt (s : Severity) : s.rank < 5 := by cases s <;> decide

instance : LE Severity := ⟨fun s t => s.rank ≤ t.rank⟩

instance (s t : Severity) : Decidable (s ≤ t) := inferInstanceAs (Decidable (s.rank ≤ t.rank))

/-- An event of severity `s` passes the threshold `t`. -/
def meets (s t : Severity) : Bool := decide (t ≤ s)

@[simp] theorem meets_trace (s : Severity) : s.meets trace = true := by cases s <;> rfl

/-- A missing threshold lets every severity pass. -/
def meetsAny (s : Severity) (threshold : Option Severity) : Bool :=
  s.meets (threshold.getD trace)

def name : Severity → String
  | trace => "TRACE"
  | debug => "DEBUG"
  | info => "INFO"
  | warn => "WARN"
  | error => "ERROR"

def title : Severity → String
  | trace => "Trace"
  | debug => "Debug"
  | info => "Info"
  | warn => "Warn"
  | error => "Error"

def ofTitle? (text : String) : Option Severity := all.find? (·.title == text)

@[simp] theorem ofTitle?_title (s : Severity) : ofTitle? s.title = some s := by
  cases s <;> decide

/-- Names are read without regard to ASCII case; `warning` is a second name of `warn`. -/
def parse? (text : String) : Option Severity :=
  let upper := text.toUpper
  if upper = "WARNING" then some warn else all.find? (·.name == upper)

end Severity
end EventLog
