import EventLog.Trace.Subscriber
import Mathlib.Data.List.Forall2
import Mathlib.Data.List.Induction

/-! What a recorder asks its log to append. An append may emit notices, and these are delivered like
any others, in the midst of the append. Main statement: the log is asked once for each notice from
outside that qualifies, in their order, and for nothing else, whatever it answers; and it is asked for
the event that has the severity, the time and the texts of the notice. -/
namespace EventLog.Trace

variable {σ : Type}

namespace Field

def hasRole (role : Role) (f : Field) : Bool := f.role = role

/-- The last text of those fields. -/
def last (which : Field → Bool) (fields : List Field) : Option String :=
  (fields.filter which).getLast?.map (·.datum.shown)

/-- Those fields with their names. -/
def named (which : Field → Bool) (fields : List Field) : String :=
  String.join ((fields.filter which).map detail)

theorem last_concat (which : Field → Bool) (fields : List Field) (f : Field) :
    last which (fields ++ [f]) = if which f then some f.datum.shown else last which fields := by
  cases chosen : which f <;> simp [last, chosen]

theorem named_concat (which : Field → Bool) (fields : List Field) (f : Field) :
    named which (fields ++ [f]) =
      if which f then named which fields ++ f.detail else named which fields := by
  cases chosen : which f <;> simp [named, chosen, String.join_append]

/-- What fields say that are read one after the other: a message and an error, of which a later one
takes the place of an earlier, and behind them all others with their names. An error by the name of the
message is one of these. -/
inductive Tells : List Field → (main cause : Option String) → (details : String) → Prop
  | nothing : Tells [] none none ""
  | message {fields : List Field} {main cause : Option String} {details : String} {f : Field}
      (earlier : Tells fields main cause details) (name : f.name = "message")
      (kind : f.datum.isError = false) : Tells (fields ++ [f]) (some f.datum.shown) cause details
  | cause {fields : List Field} {main cause : Option String} {details : String} {f : Field}
      (earlier : Tells fields main cause details) (name : f.name = "error") :
      Tells (fields ++ [f]) main (some f.datum.shown) details
  | detail {fields : List Field} {main cause : Option String} {details : String} {f : Field}
      (earlier : Tells fields main cause details) (other : f.name ≠ "error")
      (unread : f.name = "message" → f.datum.isError = true) :
      Tells (fields ++ [f]) main cause (details ++ " " ++ f.name ++ "=" ++ f.datum.shown)

theorem Tells.eq {fields : List Field} {main cause : Option String} {details : String}
    (h : Tells fields main cause details) : main = last (hasRole .message) fields ∧
      cause = last (hasRole .cause) fields ∧ details = named (hasRole .detail) fields := by
  induction h with
  | nothing => exact ⟨rfl, rfl, rfl⟩
  | @message fields main cause details f _ name kind ih =>
    have role : f.role = .message := by simp [role, name, kind]
    simpa [last_concat, named_concat, hasRole, role] using ih.2
  | @cause fields main cause details f _ name ih =>
    have role : f.role = .cause := by simp [role, name]
    simpa [last_concat, named_concat, hasRole, role] using ⟨ih.1, ih.2.2⟩
  | @detail fields main cause details f _ other unread ih =>
    have role : f.role = .detail := by
      rw [Field.role, if_neg other, if_neg fun both => by simp [unread both.1] at both]
    obtain ⟨rfl, rfl, rfl⟩ := ih
    simp [last_concat, named_concat, hasRole, role, Field.detail, String.append_assoc]

theorem exists_tells (fields : List Field) :
    ∃ main cause details, Tells fields main cause details := by
  induction fields using List.reverseRecOn with
  | nil => exact ⟨_, _, _, .nothing⟩
  | append_singleton fields f ih =>
    obtain ⟨main, cause, details, earlier⟩ := ih
    by_cases error : f.name = "error"
    · exact ⟨_, _, _, earlier.cause error⟩
    · cases kind : f.datum.isError with
      | true => exact ⟨_, _, _, earlier.detail error fun _ => kind⟩
      | false =>
        by_cases message : f.name = "message"
        · exact ⟨_, _, _, earlier.message message kind⟩
        · exact ⟨_, _, _, earlier.detail error fun name => absurd name message⟩

theorem tells (fields : List Field) : Tells fields (last (hasRole .message) fields)
    (last (hasRole .cause) fields) (named (hasRole .detail) fields) := by
  obtain ⟨main, cause, details, told⟩ := exists_tells fields
  obtain ⟨rfl, rfl, rfl⟩ := told.eq
  exact told

end Field

/-- The event has the severity and the time of the notice, its target and what its fields say. -/
structure Mirrors (now : Int64) (n : Notice) (e : Event) : Prop where
  severity : e.severity = n.severity
  time : e.time = now
  arguments : e.arguments = []
  texts : ∃ main details, Field.Tells n.fields main e.cause details ∧
    e.message = "[" ++ n.target ++ "] " ++ main.getD "" ++ details

theorem mirrors_iff {now : Int64} {n : Notice} {e : Event} :
    Mirrors now n e ↔ e = n.entry now := by
  constructor
  · rintro ⟨severity, time, arguments, main, details, tells, message⟩
    obtain ⟨rfl, cause, rfl⟩ := tells.eq
    obtain ⟨_, _, _, _, _⟩ := e
    cases severity
    cases time
    cases arguments
    cases message
    cases cause
    rfl
  · rintro rfl
    exact ⟨rfl, rfl, rfl, _, _, Field.tells n.fields, rfl⟩

/-- One event for each notice, in their order. -/
theorem forall₂_mirrors_iff {sent : List (Int64 × Notice)} {events : List Event} :
    List.Forall₂ (fun p e => Mirrors p.1 p.2 e) sent events ↔
      events = sent.map fun p => p.2.entry p.1 := by
  constructor
  · intro h
    induction h with
    | nil => rfl
    | cons first _ ih => rw [List.map_cons, ih, mirrors_iff.1 first]
  · rintro rfl
    exact List.forall₂_map_right_iff.2 (List.forall₂_same.2 fun _ _ => mirrors_iff.2 rfl)

/-- Of the least severity or above, and not from the log itself. -/
def Recorder.Qualifies (r : Recorder σ) (n : Notice) : Prop :=
  r.minimum ≤ n.severity ∧ n.target ≠ "logtail" ∧ ¬ "logtail::".toList <+: n.target.toList

theorem Notice.isInternal_iff {n : Notice} :
    n.isInternal = true ↔ n.target = "logtail" ∨ "logtail::".toList <+: n.target.toList := by
  simp only [isInternal, Bool.or_eq_true, decide_eq_true_eq, List.isPrefixOf_iff_prefix]

theorem Recorder.wants_iff {r : Recorder σ} {n : Notice} : r.wants n = true ↔ r.Qualifies n := by
  rw [wants, Bool.and_eq_true, Bool.not_eq_true', Severity.meets, decide_eq_true_eq,
    ← Bool.not_eq_true, Notice.isInternal_iff, not_or]
  rfl

instance (r : Recorder σ) (n : Notice) : Decidable (r.Qualifies n) :=
  decidable_of_iff _ Recorder.wants_iff

namespace Subscriber

variable {s : Subscriber σ} {r : Recorder σ} {w w' : World σ} {sent : List (Int64 × Notice)}
  {calls : List Event}

/-- Notices that reach a subscriber one after the other, the events that the log is asked to append
by the way, and what becomes of the world. What an append emits is delivered before its result is told
and the recorder is free again. -/
inductive Delivers (s : Subscriber σ) :
    List (Int64 × Notice) → World σ → List Event → World σ → Prop
  | nil (w : World σ) : Delivers s [] w [] w
  | filtered {now : Int64} {n : Notice} {later : List (Int64 × Notice)} {w w' : World σ}
      {calls : List Event} (stopped : s.filter.lets n = false) (rest : Delivers s later w calls w') :
      Delivers s ((now, n) :: later) w calls w'
  | printed {now : Int64} {n : Notice} {later : List (Int64 × Notice)} {w w' : World σ}
      {calls : List Event} (passes : s.filter.lets n = true)
      (left : s.recorder.bind (·.accept? w.busy now n) = none)
      (rest : Delivers s later (s.print now n w) calls w') :
      Delivers s ((now, n) :: later) w calls w'
  | recorded {now : Int64} {n : Notice} {later : List (Int64 × Notice)} {w within w' : World σ}
      {r : Recorder σ} {e : Event} {inner outer : List Event} (passes : s.filter.lets n = true)
      (recorder : s.recorder = some r) (taken : r.accept? w.busy now n = some e)
      (emits : Delivers s ((r.append e w.log).emitted.map (now, ·))
        { s.print now n w with log := (r.append e w.log).log, busy := true } inner within)
      (rest : Delivers s later { report (r.append e w.log).result within with busy := false }
        outer w') :
      Delivers s ((now, n) :: later) w (e :: inner ++ outer) w'

/-- One notice after the other. -/
def dispatchAll (s : Subscriber σ) (sent : List (Int64 × Notice)) (w : World σ) : World σ :=
  sent.foldl (fun w p => s.dispatch p.1 p.2 w) w

@[simp] theorem dispatchAll_cons (s : Subscriber σ) (p : Int64 × Notice)
    (later : List (Int64 × Notice)) (w : World σ) :
    s.dispatchAll (p :: later) w = s.dispatchAll later (s.dispatch p.1 p.2 w) := rfl

theorem dispatchAll_of_busy (busy : w.busy = true) (now : Int64) (emitted : List Notice) :
    s.dispatchAll (emitted.map (now, ·)) w = emitted.foldl (fun w n => s.hear now n w) w := by
  induction emitted generalizing w with
  | nil => rfl
  | cons n later ih =>
    rw [List.map_cons, dispatchAll_cons, List.foldl_cons, dispatch_of_busy busy]
    exact ih (by rw [busy_hear, busy])

/-- What an append emits is dispatched like any other notice. -/
theorem recordEntry_eq (s : Subscriber σ) (r : Recorder σ) (now : Int64) (e : Event) (w : World σ) :
    s.recordEntry r now e w =
      { report (r.append e w.log).result (s.dispatchAll ((r.append e w.log).emitted.map (now, ·))
          { w with log := (r.append e w.log).log, busy := true }) with busy := false } := by
  rw [dispatchAll_of_busy rfl]
  rfl

theorem dispatch_of_stopped {n : Notice} (stopped : s.filter.lets n = false) (now : Int64) :
    s.dispatch now n w = w := by
  simp [dispatch, stopped]

theorem dispatch_of_left {now : Int64} {n : Notice} (passes : s.filter.lets n = true)
    (left : s.recorder.bind (·.accept? w.busy now n) = none) :
    s.dispatch now n w = s.print now n w := by
  cases recorder : s.recorder with
  | none => simp only [dispatch, if_pos passes, recorder]
  | some r =>
    rw [recorder, Option.bind_some] at left
    simp only [dispatch, if_pos passes, recorder, busy_print, left]

theorem dispatch_of_taken {now : Int64} {n : Notice} {e : Event} (passes : s.filter.lets n = true)
    (recorder : s.recorder = some r) (taken : r.accept? w.busy now n = some e) :
    s.dispatch now n w = s.recordEntry r now e (s.print now n w) := by
  simp only [dispatch, if_pos passes, recorder, busy_print, taken]

/-- Of the notices from outside, those that the log is asked to append as events. -/
def asked (s : Subscriber σ) (r : Recorder σ) (sent : List (Int64 × Notice)) : List Event :=
  ((sent.filter fun p => s.filter.lets p.2).filter fun p => r.Qualifies p.2).map
    fun p => p.2.entry p.1

theorem asked_cons (s : Subscriber σ) (r : Recorder σ) (p : Int64 × Notice)
    (later : List (Int64 × Notice)) :
    asked s r (p :: later) =
      if s.filter.lets p.2 = true ∧ r.Qualifies p.2 then p.2.entry p.1 :: asked s r later
      else asked s r later := by
  by_cases lets : s.filter.lets p.2 = true <;> by_cases qualifies : r.Qualifies p.2 <;>
    simp [asked, lets, qualifies]

theorem accept?_eq_some_iff {busy : Bool} {now : Int64} {n : Notice} {e : Event} :
    r.accept? busy now n = some e ↔ r.Qualifies n ∧ busy = false ∧ n.entry now = e := by
  simp only [Recorder.accept?, Option.ite_none_right_eq_some, Bool.and_eq_true, Bool.not_eq_true',
    Recorder.wants_iff, Option.some.injEq, and_assoc]

theorem accept?_eq_none_iff {busy : Bool} {now : Int64} {n : Notice} :
    r.accept? busy now n = none ↔ (r.Qualifies n → busy = true) := by
  simp only [Recorder.accept?, ite_eq_right_iff, reduceCtorEq, imp_false, Bool.and_eq_true,
    Bool.not_eq_true', Recorder.wants_iff, not_and, Bool.not_eq_false]

@[simp] theorem log_report (result : Except Failure Unit) (w : World σ) :
    (report result w).log = w.log := by
  unfold report
  split <;> simp

/-- A busy recorder makes no call. -/
theorem Delivers.of_busy (h : Delivers s sent w calls w') (busy : w.busy = true) :
    calls = [] ∧ w' = s.dispatchAll sent w ∧ w'.log = w.log := by
  induction h with
  | nil => exact ⟨rfl, rfl, rfl⟩
  | filtered stopped _ ih =>
    rw [dispatchAll_cons, dispatch_of_stopped stopped]
    exact ih busy
  | printed passes left _ ih =>
    rw [dispatchAll_cons, dispatch_of_left passes left]
    simpa only [log_print] using ih (by rw [busy_print, busy])
  | recorded _ _ taken =>
    rw [busy, Recorder.accept?_busy] at taken
    cases taken

theorem Delivers.of_idle (h : Delivers s sent w calls w') (recorder : s.recorder = some r)
    (idle : w.busy = false) :
    calls = asked s r sent ∧ w' = s.dispatchAll sent w ∧ w'.busy = false ∧
      w'.log = calls.foldl (fun log e => (r.append e log).log) w.log := by
  induction h with
  | nil => exact ⟨rfl, rfl, idle, rfl⟩
  | filtered stopped _ ih =>
    rw [dispatchAll_cons, dispatch_of_stopped stopped, asked_cons, if_neg (by simp [stopped])]
    exact ih idle
  | printed passes left _ ih =>
    have other : ¬ r.Qualifies _ := fun qualifies => by
      rw [recorder, Option.bind_some, accept?_eq_none_iff] at left
      exact Bool.eq_false_iff.1 idle (left qualifies)
    rw [dispatchAll_cons, dispatch_of_left passes left, asked_cons, if_neg (by simp [other])]
    simpa only [log_print] using ih (by rw [busy_print, idle])
  | @recorded now n later w within w' r' e inner outer passes recorder' taken emits _ _ ih =>
    cases recorder.symm.trans recorder'
    -- The recorder is busy while the emitted notices are delivered, and free whatever the result.
    obtain ⟨rfl, rfl, still⟩ := emits.of_busy rfl
    obtain ⟨rfl, rfl, free, log⟩ := ih rfl
    obtain ⟨qualifies, -, entry⟩ := accept?_eq_some_iff.1 taken
    refine ⟨?_, ?_, free, ?_⟩
    · rw [asked_cons, if_pos ⟨passes, qualifies⟩, entry]
      rfl
    · rw [dispatchAll_cons, dispatch_of_taken passes recorder taken, recordEntry_eq, log_print]
    · rw [log, log_report, still]
      rfl

theorem delivers_of_busy (busy : w.busy = true) (sent : List (Int64 × Notice)) :
    s.Delivers sent w [] (s.dispatchAll sent w) := by
  induction sent generalizing w with
  | nil => exact .nil w
  | cons p later ih =>
    rw [dispatchAll_cons]
    cases lets : s.filter.lets p.2 with
    | false =>
      rw [dispatch_of_stopped lets]
      exact .filtered lets (ih busy)
    | true =>
      have left : s.recorder.bind (·.accept? w.busy p.1 p.2) = none := by
        cases s.recorder <;> simp [busy]
      rw [dispatch_of_left lets left]
      exact .printed lets left (ih (by rw [busy_print, busy]))

theorem delivers_of_idle (recorder : s.recorder = some r) (idle : w.busy = false)
    (sent : List (Int64 × Notice)) : s.Delivers sent w (asked s r sent) (s.dispatchAll sent w) := by
  induction sent generalizing w with
  | nil => exact .nil w
  | cons p later ih =>
    rw [dispatchAll_cons, asked_cons]
    cases lets : s.filter.lets p.2 with
    | false =>
      rw [dispatch_of_stopped lets, if_neg (by simp)]
      exact .filtered lets (ih idle)
    | true =>
      cases taken : r.accept? w.busy p.1 p.2 with
      | none =>
        have left : s.recorder.bind (·.accept? w.busy p.1 p.2) = none := by
          rw [recorder, Option.bind_some, taken]
        have other : ¬ r.Qualifies p.2 := fun qualifies =>
          Bool.eq_false_iff.1 idle (accept?_eq_none_iff.1 taken qualifies)
        rw [dispatch_of_left lets left, if_neg (by simp [other])]
        exact .printed lets left (ih (by rw [busy_print, idle]))
      | some e =>
        obtain ⟨qualifies, -, entry⟩ := accept?_eq_some_iff.1 taken
        rw [dispatch_of_taken lets recorder taken, recordEntry_eq, if_pos ⟨rfl, qualifies⟩, entry,
          log_print]
        exact .recorded lets recorder taken (delivers_of_busy rfl _) (ih rfl)

theorem delivers_iff (recorder : s.recorder = some r) (idle : w.busy = false) :
    s.Delivers sent w calls w' ↔ calls = asked s r sent ∧ w' = s.dispatchAll sent w := by
  constructor
  · intro h
    obtain ⟨rfl, rfl, -, -⟩ := h.of_idle recorder idle
    exact ⟨rfl, rfl⟩
  · rintro ⟨rfl, rfl⟩
    exact delivers_of_idle recorder idle sent

@[simp] theorem active_report (result : Except Failure Unit) (w : World σ) :
    (report result w).active = w.active := by
  unfold report
  split <;> simp

theorem active_hears (s : Subscriber σ) (now : Int64) (emitted : List Notice) (w : World σ) :
    (emitted.foldl (fun w n => s.hear now n w) w).active = w.active := by
  induction emitted generalizing w with
  | nil => rfl
  | cons n later ih => rw [List.foldl_cons, ih, active_hear]

theorem active_dispatch (s : Subscriber σ) (now : Int64) (n : Notice) (w : World σ) :
    (s.dispatch now n w).active = w.active := by
  unfold dispatch
  split
  · dsimp only
    split
    · exact active_print s now n w
    · split
      · exact active_print s now n w
      · simp [recordEntry, active_hears]
  · rfl

end Subscriber

theorem World.emitAll_eq {w : World σ} {s : Subscriber σ} (active : w.active = some s)
    (sent : List (Int64 × Notice)) : w.emitAll sent = s.dispatchAll sent w := by
  induction sent generalizing w with
  | nil => rfl
  | cons p later ih =>
    have step : w.emit p.1 p.2 = s.dispatch p.1 p.2 w := by simp only [emit, active]
    have still : (w.emit p.1 p.2).active = some s := by
      rw [step, Subscriber.active_dispatch, active]
    rw [Subscriber.dispatchAll_cons, ← step]
    exact ih still

open Subscriber (Delivers asked)

/-- The log is asked to append exactly the notices from outside that pass the filter and qualify, in
their order and once each: each event has the severity, the time and the texts of its notice. The log
becomes what these appends make of it. No notice that comes while an append is under way is appended,
and after each notice from outside the recorder is free, whatever the log answered. -/
theorem appended_of_sent {s : Subscriber σ} {r : Recorder σ} {w : World σ}
    (active : w.active = some s) (recorder : s.recorder = some r) (idle : w.busy = false)
    (sent : List (Int64 × Notice)) :
    (∃ appended, List.Forall₂ (fun p e => Mirrors p.1 p.2 e)
        ((sent.filter fun p => s.filter.lets p.2).filter fun p => r.Qualifies p.2) appended ∧
      (∀ calls w', Delivers s sent w calls w' ↔ calls = appended ∧ w' = w.emitAll sent) ∧
      (w.emitAll sent).log = appended.foldl (fun log e => (r.append e log).log) w.log) ∧
    (s.filter = .everything → ∀ calls w', Delivers s sent w calls w' →
      List.Forall₂ (fun p e => Mirrors p.1 p.2 e) (sent.filter fun p => r.Qualifies p.2) calls) ∧
    (∀ emitted within calls w', within.busy = true → Delivers s emitted within calls w' →
      calls = []) ∧
    ∀ k, (w.emitAll (sent.take k)).busy = false := by
  refine ⟨⟨_, forall₂_mirrors_iff.2 rfl, fun calls w' => ?_, ?_⟩, fun everything calls w' h => ?_,
    fun emitted within calls w' busy h => ?_, fun k => ?_⟩
  · rw [World.emitAll_eq active]
    exact Subscriber.delivers_iff recorder idle
  · rw [World.emitAll_eq active]
    exact ((Subscriber.delivers_of_idle recorder idle sent).of_idle recorder idle).2.2.2
  · rw [forall₂_mirrors_iff, (h.of_idle recorder idle).1, asked, everything]
    simp
  · exact (h.of_busy busy).1
  · rw [World.emitAll_eq active]
    exact ((Subscriber.delivers_of_idle recorder idle (sent.take k)).of_idle recorder idle).2.2.1

/-- A notice without fields. -/
def Notice.bare (severity : Severity) (target : String) : Notice :=
  { severity, target, file := "f.rs", line := 7 }

/-- A recorder into a log that counts, refuses every event and emits an error with each append. -/
def refusingRecorder : Recorder Nat where
  minimum := .info
  append _ count :=
    { emitted := [.bare .error "inner"], result := .error (.disk (.other "refused")),
      log := count + 1 }

def refusingWorld : World Nat :=
  { log := 0, active := some { filter := .everything, recorder := some refusingRecorder } }

/-- Four notices, of which the first has fields. -/
def fourNotices : List (Int64 × Notice) := [
  (1, { Notice.bare .warn "logtailx" with
    fields := [⟨"count", .int 3⟩, ⟨"message", .display "slow"⟩, ⟨"error", .error "late"⟩] }),
  (2, .bare .error "logtail::tail"),
  (3, .bare .debug "app"),
  (4, .bare .info "app")]

/-- The log is asked twice, although it refuses the first event and emits errors by the way. -/
theorem appended_of_sent_refused :
    ∃ s, refusingWorld.active = some s ∧ s.recorder = some refusingRecorder ∧
      refusingWorld.busy = false ∧
      (∀ calls w', Delivers s fourNotices refusingWorld calls w' →
        calls = [⟨.warn, "[logtailx] slow count=3", [], some "late", 1⟩,
          ⟨.info, "[app] ", [], none, 4⟩]) ∧
      (refusingWorld.emitAll fourNotices).log = 2 ∧
      (refusingWorld.emitAll fourNotices).busy = false := by
  obtain ⟨⟨appended, mirrored, -, log⟩, asked, -, free⟩ :=
    appended_of_sent (w := refusingWorld) rfl rfl rfl fourNotices
  refine ⟨_, rfl, rfl, rfl, fun calls w' h => ?_, ?_, free 4⟩
  · exact (forall₂_mirrors_iff.1 (asked rfl calls w' h)).trans (by decide +kernel)
  · rw [log, forall₂_mirrors_iff.1 mirrored]
    decide +kernel

end EventLog.Trace
