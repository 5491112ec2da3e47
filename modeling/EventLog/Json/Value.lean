import EventLog.Json.Token

/-! JSON values. The values under construction are kept in a list of frames, innermost first, so
that one pass over the tokens assembles the whole value at any depth. -/
namespace EventLog.Json

inductive Value
  | null
  | bool (b : Bool)
  | number (lexeme : List Char)
  | string (content : Literal)
  | array (items : List Value)
  | object (members : List (Literal × Value))
  deriving Repr, Inhabited

namespace Value

/-- A container that waits for a value; what it already holds is newest first. -/
inductive Frame
  | item (done : List Value)
  | member (done : List (Literal × Value)) (name : Literal)

inductive State
  | value (frames : List Frame)
  | firstItem (frames : List Frame)
  | firstKey (frames : List Frame)
  | key (done : List (Literal × Value)) (frames : List Frame)
  | colon (done : List (Literal × Value)) (name : Literal) (frames : List Frame)
  | complete (value : Value) (frames : List Frame)

/-- The state after the first token of a value. -/
def State.begin (frames : List Frame) : Token → Option State
  | .null => some (complete null frames)
  | .bool b => some (complete (bool b) frames)
  | .number lexeme => some (complete (number lexeme) frames)
  | .string content => some (complete (string content) frames)
  | .openBracket => some (firstItem frames)
  | .openBrace => some (firstKey frames)
  | _ => none

def State.next : State → Token → Option State
  | value frames, token => begin frames token
  | firstItem frames, .closeBracket => some (complete (array []) frames)
  | firstItem frames, token => begin (.item [] :: frames) token
  | firstKey frames, .closeBrace => some (complete (object []) frames)
  | firstKey frames, .string name => some (colon [] name frames)
  | key done frames, .string name => some (colon done name frames)
  | colon done name frames, .colon => some (value (.member done name :: frames))
  | complete v (.item done :: frames), .comma => some (value (.item (v :: done) :: frames))
  | complete v (.item done :: frames), .closeBracket =>
    some (complete (array (v :: done).reverse) frames)
  | complete v (.member done name :: frames), .comma => some (key ((name, v) :: done) frames)
  | complete v (.member done name :: frames), .closeBrace =>
    some (complete (object ((name, v) :: done).reverse) frames)
  | _, _ => none

def State.result? : State → Option Value
  | complete v [] => some v
  | _ => none

def ofTokens? (tokens : List Token) : Option Value :=
  (tokens.foldlM State.next (.value [])).bind State.result?

def read? (input : List UInt8) : Option Value := (Token.scan input).bind ofTokens?

end Value
end EventLog.Json
