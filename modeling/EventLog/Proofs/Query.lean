import EventLog.FileLog
import EventLog.Proofs.Connection.Reading

/-! All that can be asked of a log, as data. A query of a stored log reads records, each of them an
event or a failure to decode one. Main statement: through a connection whose index describes its
file, the answer depends on the records alone. -/
namespace EventLog

inductive Query
  | get (i : Nat)
  | range (start : Int) (count : Option Nat)
  | atLeast (threshold : Option Severity)
  | first (threshold : Option Severity)
  | last (threshold : Option Severity)
  | has (severity : Severity)
  | size
  deriving DecidableEq, Repr

inductive Answer
  | event (found : Option Event)
  | events (found : List Event)
  | flag (holds : Bool)
  | count (n : Nat)
  deriving DecidableEq, Repr

def ListLog.ask (log : ListLog) : Query → Answer
  | .get i => .event (log.get? i)
  | .range start count => .events (log.range start count)
  | .atLeast threshold => .events (log.atLeast threshold)
  | .first threshold => .event (log.first? threshold)
  | .last threshold => .event (log.last? threshold)
  | .has severity => .flag (log.has severity)
  | .size => .count log.length

def FileLog.ask (log : FileLog) (d : Disk) : Query → Answer × FileLog
  | .get i => (log.get? d i).map .event id
  | .range start count => (log.range d start count).map .events id
  | .atLeast threshold => (log.atLeast d threshold).map .events id
  | .first threshold => (log.first? d threshold).map .event id
  | .last threshold => (log.last? d threshold).map .event id
  | .has severity => (log.has d severity).map .flag id
  | .size => (log.size d).map .count id

/-- A stored record, as far as it can be decoded. -/
abbrev Record := Except Failure Event

namespace Record

/-- A search stops at an event that passes and at a record that is no event. -/
def stops (threshold : Option Severity) : Record → Bool
  | .ok e => e.severity.meetsAny threshold
  | .error _ => true

/-- All events, if there is nothing else. -/
def all? (records : List Record) : Option (List Event) := records.mapM Except.toOption

/-- The event at which a search stops. -/
def search (threshold : Option Severity) (records : List Record) : Option Event :=
  (records.find? (stops threshold)).bind Except.toOption

@[simp] theorem all?_ok (events : List Event) : all? (events.map .ok) = some events := by
  induction events with
  | nil => rfl
  | cons e later ih =>
    rw [all?] at ih ⊢
    rw [List.map_cons, List.mapM_cons, ih]
    rfl

@[simp] theorem search_ok (threshold : Option Severity) (events : List Event) :
    search threshold (events.map .ok) = events.find? (·.severity.meetsAny threshold) := by
  have same : stops threshold ∘ (.ok : Event → Record) = (·.severity.meetsAny threshold) := rfl
  rw [search, List.find?_map, same]
  cases events.find? (·.severity.meetsAny threshold) <;> rfl

end Record

namespace Query

/-- The answer from records. One that cannot be decoded spoils each query that gets to it. -/
def answerFrom (records : List Record) : Query → Answer
  | .get i => .event (records[i]?.bind Except.toOption)
  | .range start count => .events ((Record.all? (Window.slice start count records)).getD [])
  | .atLeast threshold =>
    .events (((Record.all? records).getD []).filter (·.severity.meetsAny threshold))
  | .first threshold => .event (Record.search threshold records)
  | .last threshold => .event (Record.search threshold records.reverse)
  | .has severity => .flag (Record.search (some severity) records).isSome
  | .size => .count records.length

theorem slice_map (f : α → β) (start : Int) (count : Option Nat) (xs : List α) :
    Window.slice start count (xs.map f) = (Window.slice start count xs).map f := by
  simp [Window.slice, List.map_take, List.map_drop]

/-- Records that are all events answer as the list of these events. -/
theorem answerFrom_ok (q : Query) (events : List Event) : q.answerFrom (events.map .ok) = ListLog.ask events q := by
  cases q with
  | get i => cases found : events[i]? <;> simp [answerFrom, ListLog.ask, ListLog.get?, found, Except.toOption]
  | range start count => simp [answerFrom, ListLog.ask, ListLog.range, slice_map]
  | atLeast threshold => simp [answerFrom, ListLog.ask, ListLog.atLeast]
  | first threshold => simp [answerFrom, ListLog.ask, ListLog.first?]
  | last threshold => simp [answerFrom, ListLog.ask, ListLog.last?, ← List.map_reverse]
  | has severity => simp [answerFrom, ListLog.ask, ListLog.has, ListLog.first?]
  | size => simp [answerFrom, ListLog.ask]

end Query

namespace FileLog

/-- The connection that a query would use. -/
def leased (log : FileLog) (d : Disk) : Option Connection :=
  log.binding.bind fun b => (b.lease log.settings d).1

/-- The log once a query is over. -/
def asked (log : FileLog) (d : Disk) : FileLog :=
  { log with binding := log.binding.map fun b => (b.lease log.settings d).2 }

theorem query_eq (log : FileLog) (d : Disk) (ask : Connection → Except Failure α) :
    log.query d ask = ((log.leased d).bind fun c => (ask c).toOption, log.asked d) := by
  obtain ⟨codec, settings, binding⟩ := log
  cases binding <;> rfl

/-! Searches, as visits and as walks backward. -/

open EventLog.Frame (Payload)

theorem toOption_map (f : α → β) (r : Except ε α) : (r.map f).toOption = r.toOption.map f := by
  cases r <;> rfl

theorem visitRow_atLeast (codec : Codec) (threshold : Option Severity) (row : List Payload) (i : Nat)
    (found : List Event) :
    (Connection.visitRow codec (collect threshold false) row i found).2.toOption.map
        (fun _ => (Connection.visitRow codec (collect threshold false) row i found).1.reverse) =
      (Record.all? (row.map codec.decode)).map
        (found.reverse ++ ·.filter (·.severity.meetsAny threshold)) := by
  induction row generalizing i found with
  | nil => simp [Connection.visitRow, Record.all?, Except.toOption]
  | cons p later ih =>
    rw [Record.all?] at ih ⊢
    rw [Connection.visitRow, List.map_cons, List.mapM_cons]
    cases decoded : codec.decode p with
    | error failure => rfl
    | ok e =>
      simp only [Except.toOption, collect, Bool.false_eq_true, if_false, Option.bind_eq_bind,
        Option.bind_some, Option.map_bind, Option.pure_def] at ih ⊢
      by_cases passes : e.severity.meetsAny threshold = true
      · simp only [passes, Bool.not_true, Bool.false_eq_true, if_false, ih, List.reverse_cons]
        cases List.mapM Except.toOption (later.map codec.decode) <;> simp [passes]
      · simp only [passes, Bool.not_false, if_true, ih]
        cases List.mapM Except.toOption (later.map codec.decode) <;> simp [passes]

theorem visitRow_first (codec : Codec) (threshold : Option Severity) (row : List Payload) (i : Nat) :
    (((Connection.visitRow codec (collect threshold true) row i []).2.toOption.map
        (fun _ => (Connection.visitRow codec (collect threshold true) row i []).1.reverse)).getD
          []).head? = Record.search threshold (row.map codec.decode) := by
  induction row generalizing i with
  | nil => rfl
  | cons p later ih =>
    rw [Record.search] at ih ⊢
    rw [Connection.visitRow, List.map_cons, List.find?_cons]
    cases decoded : codec.decode p with
    | error failure => rfl
    | ok e =>
      by_cases passes : e.severity.meetsAny threshold = true
      · simp [collect, passes, Record.stops, Except.toOption]
      · simpa [collect, passes, Record.stops] using ih (i + 1)

theorem lastBelow_eq {c : Connection} {d : Disk} (current : c.IsCurrent d) (codec : Codec)
    (threshold : Option Severity) {count : Nat} (inside : count ≤ (c.payloads d).length) :
    (lastBelow c d codec threshold count).toOption.join =
      Record.search threshold (((c.payloads d).take count).map codec.decode).reverse := by
  induction count with
  | zero => rfl
  | succ i ih =>
    have there : i < (c.payloads d).length := inside
    have payload : (c.payloads d)[i]? = some (c.payloads d)[i] := List.getElem?_eq_getElem there
    have before := ih (Nat.le_of_lt there)
    rw [Record.search] at before ⊢
    rw [lastBelow, current.read?, List.take_succ_eq_append_getElem there]
    simp only [payload, List.map_append, List.reverse_append, List.map_cons, List.map_nil,
      List.reverse_cons, List.reverse_nil, List.nil_append, List.cons_append, List.find?_cons]
    cases decoded : codec.decode (c.payloads d)[i] with
    | error failure => rfl
    | ok e =>
      by_cases passes : e.severity.meetsAny threshold = true
      · simp [Except.map, passes, Record.stops, Except.toOption]
      · simpa [Except.map, passes, Record.stops] using before

/-! Queries. -/

/-- The records that a query of the log reads. -/
def records (log : FileLog) (d : Disk) : List Record :=
  match log.leased d with
  | some c => (c.payloads d).map log.codec.decode
  | none => []

theorem mapM_toOption (codec : Codec) (row : List Payload) :
    (row.mapM codec.decode).toOption = Record.all? (row.map codec.decode) := by
  induction row with
  | nil => rfl
  | cons p later ih =>
    rw [Record.all?] at ih ⊢
    rw [List.map_cons, List.mapM_cons, List.mapM_cons, ← ih]
    cases codec.decode p with
    | error failure => rfl
    | ok e => cases later.mapM codec.decode <;> rfl

variable {log : FileLog} {d : Disk}

theorem records_of_leased {c : Connection} (leased : log.leased d = some c) :
    log.records d = (c.payloads d).map log.codec.decode := by rw [records, leased]

theorem records_of_not_leased (leased : log.leased d = none) : log.records d = [] := by
  rw [records, leased]

/-- Whatever connection a query would use knows its file. -/
def Knows (log : FileLog) (d : Disk) : Prop := ∀ c, log.leased d = some c → c.IsCurrent d

theorem get?_eq (knows : log.Knows d) (i : Nat) :
    log.get? d i = ((log.records d)[i]?.bind Except.toOption, log.asked d) := by
  rw [get?, query_eq]
  cases leased : log.leased d with
  | none => simp [records_of_not_leased leased]
  | some c =>
    rw [records_of_leased leased, List.getElem?_map]
    simp only [Option.bind_some, (knows c leased).read?]
    cases (c.payloads d)[i]? with
    | none => rfl
    | some p => cases decoded : log.codec.decode p <;> simp [Except.toOption, Except.map, decoded]

theorem range_eq (knows : log.Knows d) (start : Int) (count : Option Nat) :
    log.range d start count =
      ((Record.all? (Window.slice start count (log.records d))).getD [], log.asked d) := by
  rw [range, query_eq]
  cases leased : log.leased d with
  | none => simp [records_of_not_leased leased, Window.slice, Record.all?]
  | some c =>
    have known := knows c leased
    rw [records_of_leased leased, Query.slice_map, ← mapM_toOption]
    simp only [Option.bind_some, known.readRange, known.size, Window.slice]

theorem atLeast_eq (knows : log.Knows d) (threshold : Option Severity) :
    log.atLeast d threshold =
      (((Record.all? (log.records d)).getD []).filter (·.severity.meetsAny threshold),
        log.asked d) := by
  rw [atLeast, matching, query_eq]
  cases leased : log.leased d with
  | none => simp [records_of_not_leased leased, Record.all?]
  | some c =>
    have known := knows c leased
    have whole : (c.payloads d).take c.size = c.payloads d := by simp [known.size]
    have visited := visitRow_atLeast log.codec threshold (c.payloads d) 0 []
    rw [records_of_leased leased]
    simp only [Option.bind_some, known.visit, whole, List.drop_zero, toOption_map, visited]
    cases Record.all? ((c.payloads d).map log.codec.decode) <;> rfl

theorem first?_eq (knows : log.Knows d) (threshold : Option Severity) :
    log.first? d threshold = (Record.search threshold (log.records d), log.asked d) := by
  rw [first?, matching, query_eq]
  cases leased : log.leased d with
  | none => simp [records_of_not_leased leased, Record.search]
  | some c =>
    have known := knows c leased
    have whole : (c.payloads d).take c.size = c.payloads d := by simp [known.size]
    have visited := visitRow_first log.codec threshold (c.payloads d) 0
    rw [records_of_leased leased]
    simp only [Option.bind_some, known.visit, whole, List.drop_zero, toOption_map, visited]

theorem last?_eq (knows : log.Knows d) (threshold : Option Severity) :
    log.last? d threshold = (Record.search threshold (log.records d).reverse, log.asked d) := by
  rw [last?, query_eq]
  cases leased : log.leased d with
  | none => simp [records_of_not_leased leased, Record.search]
  | some c =>
    have known := knows c leased
    have searched := lastBelow_eq known log.codec threshold (Nat.le_of_eq known.size)
    have whole : (c.payloads d).take c.size = c.payloads d := by simp [known.size]
    rw [records_of_leased leased, ← whole, ← searched]
    rfl

theorem size_eq (knows : log.Knows d) : log.size d = ((log.records d).length, log.asked d) := by
  rw [size, query_eq]
  cases leased : log.leased d with
  | none => simp [records_of_not_leased leased]
  | some c => simp [records_of_leased leased, (knows c leased).size, Except.toOption]

/-- A query answers from the records of the file, if its connection knows the file. -/
theorem ask_eq (knows : log.Knows d) (q : Query) :
    log.ask d q = (q.answerFrom (log.records d), log.asked d) := by
  cases q with
  | get i => simp [ask, Query.answerFrom, get?_eq knows]
  | range start count => simp [ask, Query.answerFrom, range_eq knows]
  | atLeast threshold => simp [ask, Query.answerFrom, atLeast_eq knows]
  | first threshold => simp [ask, Query.answerFrom, first?_eq knows]
  | last threshold => simp [ask, Query.answerFrom, last?_eq knows]
  | has severity => simp [ask, Query.answerFrom, has, first?_eq knows]
  | size => simp [ask, Query.answerFrom, size_eq knows]

/-- Every query leaves the same log behind. -/
theorem snd_ask (log : FileLog) (d : Disk) (q : Query) : (log.ask d q).2 = log.asked d := by
  cases q <;>
    simp [ask, get?, range, atLeast, has, first?, matching, last?, size, query_eq]

end FileLog
end EventLog
