import EventLog.Severity
import EventLog.Text.Numeral

/-! The arguments of the command line. Options of the whole command may stand before the verb and
after it, where they count more; each may be given once on either side. Arguments are taken from
left to right, and the first that does not fit rejects them all. -/
namespace EventLog.Command

inductive Verb
  | append | get | range | filter | first | last | size | delete
  deriving DecidableEq, Repr

inductive Opt
  | file | codec | json | verbose | help | version
  | argument | cause | start | count | level
  deriving DecidableEq, Repr

inductive Form
  | compact | json
  deriving DecidableEq, Repr

inductive Action
  | append (severity : Severity) (message : String) (arguments : List String)
      (cause : Option String)
  | get (i : Nat)
  | range (start : Int) (count : Option Nat)
  | filter (threshold : Option Severity)
  | first (threshold : Option Severity)
  | last (threshold : Option Severity)
  | size
  | delete
  deriving DecidableEq, Repr

structure Invocation where
  file : String := "logtail.tail"
  form : Form := .compact
  json : Bool := false
  verbose : Bool := false
  action : Action
  deriving DecidableEq, Repr

inductive Request
  | run (invocation : Invocation)
  | version
  | help
  deriving DecidableEq, Repr

def Verb.all : List Verb := [append, get, range, filter, first, last, size, delete]

def Verb.word : Verb → String
  | append => "append"
  | get => "get"
  | range => "range"
  | filter => "filter"
  | first => "first"
  | last => "last"
  | size => "size"
  | delete => "delete"

def Verb.ofWord? (word : String) : Option Verb := all.find? (·.word == word)

@[simp] theorem Verb.ofWord?_word (v : Verb) : ofWord? v.word = some v := by cases v <;> decide

def Opt.long : Opt → String
  | file => "file"
  | codec => "codec"
  | json => "json"
  | verbose => "verbose"
  | help => "help"
  | version => "version"
  | argument => "arg"
  | cause => "cause"
  | start => "start"
  | count => "count"
  | level => "level"

def Opt.short? : Opt → Option Char
  | file => some 'f'
  | verbose => some 'v'
  | help => some 'h'
  | version => some 'V'
  | _ => none

def Opt.takesValue : Opt → Bool
  | json | verbose | help | version => false
  | _ => true

/-- The options before the verb, or those after a verb. -/
def options : Option Verb → List Opt
  | none => [.file, .codec, .json, .verbose, .help, .version]
  | some verb => [.file, .codec, .json, .verbose, .help] ++ match verb with
    | .append => [.argument, .cause]
    | .range => [.start, .count]
    | .filter | .first | .last => [.level]
    | _ => []

/-- What the arguments have said so far on one side of the verb. -/
structure Draft where
  file : Option String := none
  form : Option Form := none
  json : Bool := false
  verbose : Bool := false
  arguments : List String := []
  cause : Option String := none
  start : Option Int := none
  count : Option Nat := none
  level : Option Severity := none
  severity : Option Severity := none
  message : Option String := none
  index : Option Nat := none
  deriving DecidableEq, Repr

namespace Draft

/-- Sets what is not yet set. -/
def once (old : Option α) (new : Option α) (set : α → Draft) : Option Draft :=
  match old, new with
  | none, some a => some (set a)
  | _, _ => none

def formOf? (word : String) : Option Form :=
  if word = "postcard" then some .compact else if word = "json" then some .json else none

def count? (text : String) : Option Nat := Text.Numeral.natural? 0xffffffffffffffff text.toList

def withValue (d : Draft) (o : Opt) (text : String) : Option Draft :=
  match o with
  | .file => once d.file (if text.isEmpty then none else some text) ({ d with file := some · })
  | .codec => once d.form (formOf? text) ({ d with form := some · })
  | .argument => some { d with arguments := d.arguments ++ [text] }
  | .cause => once d.cause (some text) ({ d with cause := some · })
  | .start => once d.start (Text.Numeral.integer? text.toList) ({ d with start := some · })
  | .count => once d.count (count? text) ({ d with count := some · })
  | .level => once d.level (Severity.parse? text) ({ d with level := some · })
  | _ => none

def withFlag (d : Draft) (o : Opt) : Option Draft :=
  match o with
  | .json => if d.json then none else some { d with json := true }
  | .verbose => if d.verbose then none else some { d with verbose := true }
  | _ => none

/-- A word that is no option goes to the first place of the verb that is still free. -/
def withWord (d : Draft) (verb : Option Verb) (text : String) : Option Draft :=
  match verb with
  | some .append =>
    if d.severity.isNone then
      (Severity.parse? text).map fun s => { d with severity := some s }
    else once d.message (some text) ({ d with message := some · })
  | some .get => once d.index (count? text) ({ d with index := some · })
  | _ => none

def action? (d : Draft) : Verb → Option Action
  | .append => do return .append (← d.severity) (← d.message) d.arguments d.cause
  | .get => do return .get (← d.index)
  | .range => some (.range (d.start.getD 0) d.count)
  | .filter => some (.filter d.level)
  | .first => some (.first d.level)
  | .last => some (.last d.level)
  | .size => some .size
  | .delete => some .delete

/-- What is said after the verb counts more than what is said before it. -/
def invocation (before after : Draft) (action : Action) : Invocation where
  file := ((after.file <|> before.file).getD "logtail.tail")
  form := ((after.form <|> before.form).getD .compact)
  json := before.json || after.json
  verbose := before.verbose || after.verbose
  action

end Draft

/-- How one argument reads on its own. -/
inductive Shape
  | ending
  | long (name : String) (value : Option String)
  | short (letters : List Char)
  | word

def shape (argument : String) : Shape :=
  match argument.toList with
  | ['-', '-'] => .ending
  | '-' :: '-' :: rest =>
    let name := rest.takeWhile (· ≠ '=')
    .long (String.ofList name) (if name.length < rest.length then
      some (String.ofList (rest.drop (name.length + 1))) else none)
  | ['-'] => .word
  | '-' :: letters => .short letters
  | _ => .word

/-- Whether an argument may stand as the value of the option before it: it does not look like an
option itself, but a start may be negative. -/
def fitsAsValue (o : Opt) (argument : String) : Bool :=
  match shape argument with
  | .word => true
  | .short letters => o = .start && letters.all Text.Numeral.isDigit
  | _ => false

/-- What an option without a value leads to. -/
inductive Effect
  | continue (d : Draft)
  | await (d : Draft) (o : Opt)
  | finish (request : Request)

def flag (d : Draft) : Opt → Option Effect
  | .help => some (.finish .help)
  | .version => some (.finish .version)
  | o => (d.withFlag o).map .continue

/-- Letters after one dash: flags, and at most one option whose value is the rest of them. -/
def letters (allowed : List Opt) (d : Draft) : List Char → Option Effect
  | [] => some (.continue d)
  | c :: rest => do
    let o ← allowed.find? (·.short? = some c)
    if o.takesValue then
      match rest with
      | [] => some (.await d o)
      | '=' :: value => (d.withValue o (String.ofList value)).map .continue
      | value => (d.withValue o (String.ofList value)).map .continue
    else match ← flag d o with
      | .continue d => letters allowed d rest
      | effect => some effect

def longOption (allowed : List Opt) (d : Draft) (name : String) (value : Option String) :
    Option Effect := do
  let o ← allowed.find? (·.long = name)
  match o.takesValue, value with
  | true, some text => (d.withValue o text).map .continue
  | true, none => some (.await d o)
  | false, some _ => none
  | false, none => flag d o

/-- Words alone, after the arguments have ended the options. -/
def words (verb : Option Verb) : Draft → List String → Option Draft
  | d, [] => some d
  | d, argument :: rest => do words verb (← d.withWord verb argument) rest

/-- What one side of the verb comes to: the end of the arguments, or the verb and what follows. -/
inductive Side
  | complete (d : Draft)
  | verb (d : Draft) (word : String) (rest : List String)
  | finish (request : Request)

def isVerb (argument : String) : Bool := (Verb.ofWord? argument).isSome || argument = "help"

def side (verb : Option Verb) : Draft → List String → Option Side
  | d, [] => some (.complete d)
  | d, argument :: rest =>
    if verb.isNone && isVerb argument then some (.verb d argument rest)
    else
      let effect := match shape argument with
        | .ending => none
        | .word => (d.withWord verb argument).map Effect.continue
        | .short cs => letters (options verb) d cs
        | .long name value => longOption (options verb) d name value
      match shape argument, effect, rest with
      | .ending, _, rest => (words verb d rest).map .complete
      | _, some (.continue d), rest => side verb d rest
      | _, some (.finish request), _ => some (.finish request)
      | _, some (.await d o), value :: rest =>
        if fitsAsValue o value then
          match d.withValue o value with
          | some d => side verb d rest
          | none => none
        else none
      | _, _, _ => none

/-- None for rejected arguments. -/
def parse? (arguments : List String) : Option Request :=
  match side none {} arguments with
  | some (.finish request) => some request
  | some (.verb before word rest) =>
    match Verb.ofWord? word with
    | none => if rest.all isVerb && rest.length ≤ 1 then some .help else none
    | some verb =>
      match side (some verb) {} rest with
      | some (.finish request) => some request
      | some (.complete after) =>
        (after.action? verb).map fun action => .run (before.invocation after action)
      | _ => none
  | _ => none

end EventLog.Command
