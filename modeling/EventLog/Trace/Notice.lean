import EventLog.Decimal.Style
import EventLog.Severity
import EventLog.Text.Quoted

/-! Notices that a program emits while it runs: a severity, a target, the place in the source and
fields in their order. A field keeps how its value was recorded. -/
namespace EventLog.Trace

inductive Datum
  /-- A text, recorded as such. -/
  | text (content : String)
  /-- An error with the text it shows. -/
  | error (shown : String)
  /-- A value that shows as this text. -/
  | display (shown : String)
  /-- A text recorded by its quoted form. -/
  | quoted (content : String)
  | bool (b : Bool)
  /-- A whole number of 64 bits. -/
  | int (n : Int)
  /-- A whole number of 128 bits. -/
  | wide (n : Int)
  /-- A floating point number of 64 bits. -/
  | float (bits : UInt64)
  deriving DecidableEq, Repr

structure Field where
  name : String
  datum : Datum
  deriving DecidableEq, Repr

structure Notice where
  severity : Severity
  target : String
  fields : List Field := []
  file : String
  line : Nat
  deriving DecidableEq, Repr

/-- Numbers from a ten-thousandth to below 10^16 are shown positionally, and a tie goes up. -/
def shownFloat : Decimal.Style := ⟨-4, 15, .above, false⟩

namespace Datum

/-- The text of a value where texts stand without quotes. -/
def shown : Datum → String
  | text content => content
  | error shown => shown
  | display shown => shown
  | quoted content => Text.Quoted.quote content
  | bool b => toString b
  | int n => toString n
  | wide n => toString n
  | float bits => Decimal.text shownFloat bits

def isError : Datum → Bool
  | error _ => true
  | _ => false

end Datum
end EventLog.Trace
