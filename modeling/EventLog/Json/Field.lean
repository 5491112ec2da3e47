import EventLog.Json.Value

/-! Typed reading of JSON values. A record is read from an object, whose members may come in any
order beside members of other names, or from an array that lists its fields in order. -/
namespace EventLog.Json.Value

/-- An object's members with their keys as texts. -/
def named? : List (Literal × Value) → Option (List (String × Value))
  | [] => some []
  | (key, v) :: rest => do
    let name ← key.text?
    return (name, v) :: (← named? rest)

/-- The fields of a record that has the given names. A field that is stated twice is refused. -/
def fields? (names : List String) : Value → Option (List (String × Value))
  | object members => do
    let known := (← named? members).filter fun m => names.contains m.1
    if (known.map Prod.fst).Nodup then some known else none
  | array items => if items.length ≤ names.length then some (names.zip items) else none
  | _ => none

def required (fields : List (String × Value)) (name : String) (read : Value → Option α) :
    Option α :=
  (fields.lookup name).bind read

def fieldOr (fields : List (String × Value)) (name : String) (read : Value → Option α)
    (absent : α) : Option α :=
  match fields.lookup name with
  | some v => read v
  | none => some absent

def text? : Value → Option String
  | string content => content.text?
  | _ => none

def bool? : Value → Option Bool
  | bool b => some b
  | _ => none

def list? (read : Value → Option α) : Value → Option (List α)
  | array items => items.mapM read
  | _ => none

/-- A value that may be null. -/
def nullable? (read : Value → Option α) : Value → Option (Option α)
  | null => some none
  | v => some <$> read v

/-- A number without point, exponent or negative zero. -/
def integer? : Value → Option Int
  | number ('-' :: digits) =>
    if digits = ['0'] then none
    else (Text.Numeral.digits? digits).map fun n => -(n : Int)
  | number digits => (Text.Numeral.digits? digits).map Int.ofNat
  | _ => none

def natural? (limit : Nat) (v : Value) : Option Nat := do
  let n ← v.integer?
  if 0 ≤ n ∧ n ≤ limit then some n.toNat else none

def int64? (v : Value) : Option Int64 := do
  let n ← v.integer?
  if -0x8000000000000000 ≤ n ∧ n < 0x8000000000000000 then some (Int64.ofInt n) else none

/-- The name of a case without data, given as a string or as the key of a single null member. -/
def case? : Value → Option String
  | string content => content.text?
  | object [(key, null)] => key.text?
  | _ => none

end EventLog.Json.Value
