import EventLog.Calendar
import EventLog.Json.Writer
import EventLog.Trace.Notice
import EventLog.Trace.Setup

/-! The line of a notice: a JSON object for machines, or words for people, which a terminal may
show in colors. -/
namespace EventLog.Text.Screen

/-- Characters that could start a control sequence of a terminal are written as escapes. -/
def escape (c : Char) : List Char :=
  if c = '\x1b' then ['\\', 'x', '1', 'b']
  else if c = '\x07' then ['\\', 'x', '0', '7']
  else if c = '\x08' then ['\\', 'x', '0', '8']
  else if c = '\x0c' then ['\\', 'x', '0', 'c']
  else if c = '\x7f' then ['\\', 'x', '7', 'f']
  else if 0x80 ≤ c.toNat ∧ c.toNat ≤ 0x9f then
    ['\\', 'u', '{'] ++ Nat.toDigits 16 c.toNat ++ ['}']
  else [c]

def safe (text : String) : String := String.ofList (text.toList.flatMap escape)

end EventLog.Text.Screen

namespace EventLog.Trace

/-- The time of a line has six places behind the second, of which the clock knows three. -/
def clockText (now : Int64) : String :=
  let date := Calendar.Date.ofDays (now.toInt / Calendar.millisPerDay)
  date.text ++ "T" ++ Calendar.timeText (now.toInt % Calendar.millisPerDay).toNat ++ "000Z"

open Json.Writer (quote object)

/-- JSON numbers from a hundred-thousandth to below 10^16 are written positionally, a tie goes to
the even digit, and an exponent has a sign. -/
def writtenFloat : Decimal.Style := ⟨-5, 15, .even, true⟩

/-- Whole numbers beyond 64 bits are written as texts, and what is not a finite number as null. -/
def Datum.json : Datum → String
  | bool b => Json.Writer.bool b
  | int n => toString n
  | float bits => (Decimal.finiteText? writtenFloat bits).getD "null"
  | v => quote v.shown

def Layout.line (l : Layout) (now : Int64) (n : Notice) : String :=
  let fields := n.fields.map fun f => (f.name, f.datum.json)
  object ([("timestamp", quote (clockText now)),
      ("level", quote n.severity.name)]
    ++ (if l.flat then fields else [("fields", object fields)])
    ++ [("target", quote n.target)]
    ++ if l.location then [("filename", quote n.file), ("line_number", toString n.line)]
      else [])

/-- How a terminal shows a part of a line. -/
inductive Ink
  | dim | italic | red | green | yellow | blue | purple
  deriving DecidableEq, Repr

def Ink.code : Ink → String
  | dim => "2"
  | italic => "3"
  | red => "31"
  | green => "32"
  | yellow => "33"
  | blue => "34"
  | purple => "35"

def Ink.ofSeverity : Severity → Ink
  | .trace => purple
  | .debug => blue
  | .info => green
  | .warn => yellow
  | .error => red

def Ink.paint (ink : Ink) (colored : Bool) (text : String) : String :=
  if colored then "\x1b[" ++ ink.code ++ "m" ++ text ++ "\x1b[0m" else text

namespace Field

/-- The value of a field that is not the message: texts are quoted, errors made safe. -/
def plain (f : Field) : String :=
  match f.datum with
  | .text content => Text.Quoted.quote content
  | .error shown => Text.Screen.safe shown
  | v => v.shown

/-- A message stands without its name. -/
def words (colored : Bool) (f : Field) : String :=
  if f.name = "message" then Text.Screen.safe f.datum.shown
  else
    let raw := "r#".toList.isPrefixOf f.name.toList
    let name := if raw then String.ofList (f.name.toList.drop 2) else f.name
    Ink.italic.paint colored name ++ Ink.dim.paint colored "=" ++ f.plain

/-- Fields that were taken over from another way of logging are not shown. -/
def isForeign (f : Field) : Bool := "log.".toList.isPrefixOf f.name.toList

end Field

def Notice.words (n : Notice) (colored : Bool) (now : Int64) : String :=
  Ink.dim.paint colored (clockText now) ++ " "
    ++ (Ink.ofSeverity n.severity).paint colored
        (Text.format .right ' ' 5 none n.severity.name) ++ " "
    ++ Ink.dim.paint colored n.target ++ Ink.dim.paint colored ":" ++ " "
    ++ String.intercalate " " ((n.fields.filter (!·.isForeign)).map (·.words colored))

inductive Shape
  | json (layout : Layout)
  | words (colored : Bool)
  deriving DecidableEq, Repr

def Shape.line (shape : Shape) (now : Int64) (n : Notice) : String :=
  match shape with
  | json layout => layout.line now n
  | words colored => n.words colored now

end EventLog.Trace
