import EventLog.Text.Utf8

/-! Reading a compact payload from the front. A reader leaves the bytes it did not use, and the
first fault ends the reading. -/
namespace EventLog.Compact

inductive Fault
  | endOfInput
  | unterminatedNumber
  | invalidText
  | invalidOption
  | unknownVariant
  deriving DecidableEq, Repr

def Fault.message : Fault → String
  | endOfInput => "Hit the end of buffer, expected more data"
  | unterminatedNumber =>
    "Found a varint that didn't terminate. Is the usize too big for this platform?"
  | invalidText => "Tried to parse invalid utf-8"
  | invalidOption => "Found an Option discriminant that wasn't 0 or 1"
  | unknownVariant => "Serde Deserialization Error"

abbrev Reader := StateT (List UInt8) (Except Fault)

namespace Reader

def byte : Reader UInt8
  | [] => .error .endOfInput
  | b :: rest => .ok (b, rest)

def bytes (count : Nat) : Reader (List UInt8) := fun input =>
  if count ≤ input.length then .ok (input.take count, input.drop count)
  else .error .endOfInput

theorem bytes_append (taken rest : List UInt8) :
    bytes taken.length (taken ++ rest) = .ok (taken, rest) := by
  simp [bytes]

end Reader
end EventLog.Compact
