import EventLog.Proofs.FileLog.Footprint
import EventLog.Proofs.Session.Lost
import EventLog.Proofs.Session.Reading

/-! Connections that are held. Whatever was requested and whatever was changed from outside, a
connection is held to the file of its log, for writing exactly if the log takes events. Main
statement: this, and what queries, appends and closing leave of a connection. -/
namespace EventLog

/-! The refusal to append through a reader comes from nowhere else. -/

namespace Disk

variable {d d' : Disk} {path : String} {trail : Trail} {steps : List Step} {fault : DiskFault}

theorem parse_ne_notWritable (h : Route.parse path = .error fault) : fault ≠ .notWritable := by
  unfold Route.parse at h
  split at h
  · cases h
    simp
  · split at h
    · cases h
      simp
    · split at h <;> cases h
      simp

theorem walk_ne_notWritable (h : d.walk trail steps = .error fault) : fault ≠ .notWritable := by
  fun_induction walk d trail steps with
  | case1 trail => cases h
  | case2 trail rest ih => exact ih h
  | case3 trail rest ih => exact ih h
  | case4 trail name rest long =>
    cases h
    simp
  | case5 trail name rest short found last => cases h
  | case6 trail name rest short found more id inside ih => exact ih h
  | case7 trail name rest short found more id inside =>
    cases h
    simp
  | case8 trail name rest short found more free =>
    cases h
    simp

theorem makeAlong_ne_notWritable {made : Bool}
    (h : d.makeAlong made trail steps = (.error fault, d')) : fault ≠ .notWritable := by
  fun_induction makeAlong d made trail steps with
  | case1 d made trail => cases h
  | case2 d made trail rest ih => exact ih h
  | case3 d made trail rest ih => exact ih h
  | case4 d made trail name rest long =>
    cases h
    simp
  | case5 d made trail name rest short id inside ih => exact ih h
  | case6 d made trail name rest short id inside =>
    cases h
    split <;> simp
  | case7 d made trail name rest dots short free ending =>
    cases h
    simp
  | case8 d made trail name rest dots short free more id d₁ created ih => exact ih h

theorem makeParents_ne_notWritable (h : d.makeParents path = (.error fault, d')) :
    fault ≠ .notWritable := by
  unfold makeParents makeDirectories at h
  split at h
  · cases h
  · split at h
    · exact makeAlong_ne_notWritable h
    · rename_i parsed
      cases h
      exact parse_ne_notWritable parsed

theorem openForAppending_ne_notWritable (h : d.openForAppending path = (.error fault, d')) :
    fault ≠ .notWritable := by
  unfold openForAppending at h
  split at h
  · rename_i parsed
    cases h
    exact parse_ne_notWritable parsed
  · split at h
    · rename_i entered
      cases h
      unfold enter at entered
      cases walked : d.walk [] _ with
      | error fault' =>
        rw [walked] at entered
        cases entered
        exact walk_ne_notWritable walked
      | ok spot =>
        rw [walked] at entered
        cases entered
    · split at h
      · cases h
        simp
      · split at h
        · rename_i walked
          cases h
          exact walk_ne_notWritable walked
        · cases h
        · cases h
        · cases h
          simp

end Disk

namespace Connection

variable {c c' : Connection} {d d' : Disk} {s : Settings} {path : String} {remembered : Option Index}

theorem openToWrite_ne_notWritable {failure : Failure}
    (h : openToWrite s path remembered d = (.error failure, d')) :
    failure ≠ .disk .notWritable := by
  rw [openToWrite_eq_repair, Disk.openPrepared, Disk.prepare] at h
  split at h
  · rename_i opened
    cases h
    split at opened
    · rename_i made
      cases opened
      split at made
      · simpa using Disk.makeParents_ne_notWritable made
      · cases made
    · simpa using Disk.openForAppending_ne_notWritable opened
  · cases h

theorem append_ne_notWritable (writes : c.mode = .write) {payload : Frame.Payload}
    {failure : Failure} (h : c.append d payload = .error failure) :
    failure ≠ .disk .notWritable := by
  cases allowed : Frame.inBounds c.maxRecordSize payload.length with
  | false =>
    rw [append_refused writes allowed] at h
    cases h
    simp
  | true => simp [append, write, writes, allowed] at h

/-! A connection keeps the path that it was opened with. -/

theorem path_of_openToRead (h : openToRead s path remembered d = .ok (some c)) : c.path = path := by
  unfold openToRead at h
  split at h <;> cases h
  rfl

theorem path_of_openToWrite (h : openToWrite s path remembered d = (.ok c, d')) : c.path = path := by
  rw [openToWrite_eq_repair] at h
  split at h <;> cases h
  exact path_repair _ _

theorem path_append {payload : Frame.Payload} {n : Nat}
    (h : c.append d payload = .ok (n, c', d')) : c'.path = c.path := by
  obtain ⟨-, ⟨index, rfl⟩, -⟩ := eq_of_append h
  rfl

end Connection

namespace FileLog

namespace Binding

variable {b b' : Binding} {s : Settings} {d : Disk}

/-- A connection that is held is one to the file of the log, in the mode that the log asks for. -/
def Suited (b : Binding) : Prop := ∀ c, b.connection = some c → c.path = b.path ∧ c.mode = b.mode

theorem suited_of_none (unheld : b.connection = none) : b.Suited := by
  intro c held
  rw [unheld] at held
  cases held

theorem mode_of_terms (same : b'.terms = b.terms) : b'.mode = b.mode := by
  simp only [terms, Prod.mk.injEq] at same
  obtain ⟨-, readOnly, disposed⟩ := same
  rw [mode, mode, readOnly, disposed]

theorem path_of_terms (same : b'.terms = b.terms) : b'.path = b.path := congrArg (·.1) same

/-- What the log was told is the same as before, and what it holds now was opened for that. -/
theorem suited_of_terms (same : b'.terms = b.terms)
    (fits : ∀ c, b'.connection = some c → c.path = b.path ∧ c.mode = b.mode) : b'.Suited := by
  intro c held
  rw [path_of_terms same, mode_of_terms same]
  exact fits c held

/-- Only a connection whose file is as it was last seen is left. -/
theorem connection_discardStale (b : Binding) (d : Disk) :
    (b.discardStale d).connection = b.connection.filter fun c => !c.isStale d := by
  unfold discardStale
  cases held : b.connection with
  | none => simp [held]
  | some c => cases stale : c.isStale d <;> simp [stale, held, Option.filter_some]

theorem Suited.of_discardStale (h : b.Suited) {c : Connection}
    (left : (b.discardStale d).connection = some c) : c.path = b.path ∧ c.mode = b.mode := by
  rw [connection_discardStale, Option.filter_eq_some_iff] at left
  exact h c left.1

/-- A query leaves a writer whose file is as it was last seen, and nothing else. -/
theorem connection_lease (b : Binding) (s : Settings) (d : Disk) :
    (b.lease s d).2.connection =
      b.connection.filter fun c => decide (c.mode = .write) && !c.isStale d := by
  have discarded := connection_discardStale b d
  unfold lease
  cases left : (b.discardStale d).connection with
  | none =>
    rw [left] at discarded
    have gone : b.connection.filter (fun c => decide (c.mode = .write) && !c.isStale d) = none := by
      rw [eq_comm, Option.filter_eq_none_iff] at discarded
      rw [Option.filter_eq_none_iff]
      intro c held
      simp [discarded c held]
    simp only [left]
    rw [gone]
    split <;> rfl
  | some c =>
    rw [left, eq_comm, Option.filter_eq_some_iff] at discarded
    obtain ⟨held, fresh⟩ := discarded
    simp only [left]
    by_cases writes : c.mode = .write
    · rw [if_pos writes, left, held, Option.filter_some, writes, fresh]
      rfl
    · rw [if_neg writes, connection_release, held, Option.filter_some]
      simp [writes]

theorem Suited.connect (h : b.Suited) (s : Settings) (d : Disk) : (b.connect s d).1.Suited := by
  refine suited_of_terms (b.terms_connect s d) fun c => ?_
  unfold Binding.connect
  cases left : (b.discardStale d).connection with
  | some c' =>
    intro held
    simp only [left, Option.isSome_some, if_true, Option.some.injEq] at held
    rw [← held]
    exact h.of_discardStale left
  | none =>
    simp only [left, Option.isSome_none, Bool.false_eq_true, if_false, path_discardStale,
      mode_discardStale]
    cases mode : b.mode with
    | read =>
      dsimp only
      split
      · rename_i opened
        rintro rfl
        exact ⟨Connection.path_of_openToRead opened, Connection.mode_of_openToRead opened⟩
      · intro held
        cases held
    | write =>
      dsimp only
      split
      · rename_i opened
        intro held
        cases held
        exact ⟨Connection.path_of_openToWrite opened, Connection.mode_of_openToWrite opened⟩
      · intro held
        cases held

theorem path_of_dropReader (b : Binding) : b.dropReader.path = b.path := by
  unfold dropReader
  split <;> rfl

theorem connection_of_dropReader {c : Connection} (held : b.dropReader.connection = some c) :
    b.connection = some c := by
  unfold dropReader at held
  split at held
  · cases held
  · exact held

/-- Payloads go through a writer to the file of the log. -/
theorem Suited.writer (h : b.Suited) (s : Settings) (d : Disk) :
    (∀ c, (b.writer s d).1 = .ok c → c.path = b.path ∧ c.mode = .write) ∧
      ((b.writer s d).1 ≠ .error (.disk .notWritable)) ∧
      ∀ c, (b.writer s d).2.1.connection = some c → c.path = b.path ∧ c.mode = .write := by
  unfold Binding.writer
  cases left : (b.discardStale d).dropReader.connection with
  | some c =>
    have writes := writes_of_dropReader left
    have named := (h.of_discardStale (connection_of_dropReader left)).1
    simp [left, writes, named]
  | none =>
    simp only [left, path_of_dropReader, path_discardStale]
    split
    · rename_i opened
      have other := Connection.openToWrite_ne_notWritable opened
      exact ⟨by simp, by simpa using other, by simp⟩
    · rename_i opened
      have opening := And.intro (Connection.path_of_openToWrite opened)
        (Connection.mode_of_openToWrite opened)
      simp [opening]

/-- Storing a payload leaves no reader, and is not refused for want of a writer. -/
theorem Suited.store (h : b.Suited) (writes : b.mode = .write) (s : Settings) (d : Disk)
    (payload : Frame.Payload) :
    (b.store s d payload).2.1.Suited ∧
      (b.store s d payload).1 ≠ .error (.disk .notWritable) := by
  obtain ⟨opened, other, holds⟩ := h.writer s d
  have terms := b.terms_store s d payload none
  rw [store_eq] at terms ⊢
  cases written : b.writer s d with
  | mk result rest =>
    obtain ⟨b', d'⟩ := rest
    rw [written] at opened other holds terms
    cases result with
    | error failure =>
      refine ⟨suited_of_terms terms fun c held => ?_, ?_⟩
      · rw [writes]
        exact holds c held
      · dsimp only
        split
        · simp
        · simpa using other
    | ok c =>
      obtain ⟨named, mode⟩ := opened c rfl
      dsimp only at terms ⊢
      cases appended : c.append d' payload with
      | error failure =>
        rw [appended] at terms
        refine ⟨suited_of_terms terms fun c' held => ?_, ?_⟩
        · rw [writes]
          exact holds c' held
        · simpa using Connection.append_ne_notWritable mode appended
      | ok stored =>
        obtain ⟨n, c', d''⟩ := stored
        rw [appended] at terms
        refine ⟨suited_of_terms terms fun c'' held => ?_, by simp⟩
        cases held
        rw [writes]
        exact ⟨(Connection.path_append appended).trans named,
          (Connection.mode_append appended).trans mode⟩

end Binding

/-! Requests. -/

/-- The connection that is held between requests. -/
def held (log : FileLog) : Option Connection := log.binding.bind Binding.connection

def Suited (log : FileLog) : Prop := ∀ b, log.binding = some b → b.Suited

variable {log : FileLog} {codec : Codec} {s : Settings} {b : Binding} {d : Disk}

theorem suited_of_binding (h : b.Suited) : Suited ⟨codec, s, some b⟩ := by
  intro b' bound
  cases bound
  exact h

theorem held_ask (log : FileLog) (d : Disk) (q : Query) :
    (log.serve d (.ask q)).2.1.held =
      log.held.filter fun c => decide (c.mode = .write) && !c.isStale d := by
  rw [serve_ask]
  obtain ⟨codec, s, binding⟩ := log
  cases binding with
  | none => rfl
  | some b => exact b.connection_lease s d

theorem held_of_closing {r : Request} (closing : r = .close ∨ r = .dispose ∨ r = .delete)
    (log : FileLog) (d : Disk) : (log.serve d r).2.1.held = none := by
  obtain ⟨codec, s, binding⟩ := log
  cases binding with
  | none => rcases closing with rfl | rfl | rfl <;> rfl
  | some b =>
    rcases closing with rfl | rfl | rfl
    · exact b.connection_release
    · exact b.connection_release
    · rw [serve, delete_eq]
      exact b.connection_release

/-- A log that was told to write appends through a writer, so the only refusal of this kind is one
that its codec made up. -/
theorem Suited.append (h : log.Suited) (d : Disk) (e : Event) : (log.append d e).2.1.Suited ∧
    ((log.append d e).1 = .error (.disk .notWritable) →
      log.codec.encode e = .error (.disk .notWritable)) := by
  obtain ⟨codec, s, binding⟩ := log
  cases binding with
  | none => exact ⟨h, fun refused => by cases refused⟩
  | some b =>
    cases mode : b.mode with
    | read =>
      have closed := mode_eq_read_iff.1 mode
      simp only [FileLog.append, closed, if_true]
      exact ⟨h, by simp⟩
    | write =>
      have opened : (b.readOnly || b.disposed) = false := by
        rw [← Bool.not_eq_true, ← mode_eq_read_iff, mode]
        simp
      cases encoded : codec.encode e with
      | error failure =>
        simp only [FileLog.append, opened, encoded]
        exact ⟨h, fun refused => by simpa using refused⟩
      | ok payload =>
        simp only [FileLog.append, opened, encoded]
        obtain ⟨suited, other⟩ := (h b rfl).store mode s d payload
        exact ⟨suited_of_binding suited, fun refused => absurd refused other⟩

theorem Suited.serve (h : log.Suited) (d : Disk) (r : Request) : (log.serve d r).2.1.Suited := by
  obtain ⟨codec, s, binding⟩ := log
  cases binding with
  | none =>
    cases r with
    | pointTo path readOnly => exact suited_of_binding (Binding.suited_of_none rfl)
    | ask q =>
      rw [serve_ask]
      exact h
    | _ => exact h
  | some b =>
    have suited := h b rfl
    have released : ∀ b' : Binding, b'.connection = none → Suited ⟨codec, s, some b'⟩ :=
      fun b' none => suited_of_binding (Binding.suited_of_none none)
    cases r with
    | pointTo path readOnly => exact released _ rfl
    | connect => exact suited_of_binding (suited.connect s d)
    | ask q =>
      rw [serve_ask]
      refine suited_of_binding (Binding.suited_of_terms (b.terms_lease s d) fun c held => ?_)
      rw [Binding.connection_lease, Option.filter_eq_some_iff] at held
      exact suited c held.1
    | append e => exact (h.append d e).1
    | close => exact released _ b.connection_release
    | flush => exact h
    | dispose => exact released _ b.connection_release
    | delete =>
      rw [FileLog.serve, delete_eq]
      exact released _ b.connection_release

end FileLog

namespace Session

variable {ι : Type} [DecidableEq ι]

theorem suited_step {s : Session ι} (h : ∀ i, (s.logs i).Suited) (a : Action ι) (i : ι) :
    ((s.step a).logs i).Suited := by
  cases a with
  | edit e => exact h i
  | request j r =>
    by_cases same : i = j
    · subst same
      simpa [step, Session.serve] using (h i).serve s.disk r
    · simpa [step, same] using h i

theorem suited_run {s : Session ι} (h : ∀ i, (s.logs i).Suited) (actions : List (Action ι)) (i : ι) :
    ((s.run actions).logs i).Suited := by
  induction actions generalizing s with
  | nil => exact h i
  | cons a later ih => exact ih (suited_step h a)

omit [DecidableEq ι] in
theorem suited_start (d : Disk) (codecs : ι → Codec) (settings : ι → Settings) (i : ι) :
    ((start d codecs settings).logs i).Suited := by
  intro b bound
  cases bound

theorem logs_step_request (s : Session ι) (i : ι) (r : Request) :
    (s.step (.request i r)).logs i = ((s.logs i).serve s.disk r).2.1 := by
  simp [step, Session.serve]

/-- After any run, honest or not, a connection is held to the file of its log, for writing exactly if
the log takes events, and no writer is held while the loss of one is remembered. A query leaves a
writer whose file is as it was last seen and no other connection; no append is refused for going
through a reader, unless the codec says so; nothing is held once a log was closed. -/
theorem held_of_run {d : Disk} {codecs : ι → Codec} {settings : ι → Settings}
    {actions : List (Action ι)} {s : Session ι}
    (reached : (start d codecs settings).run actions = s) (i : ι) :
    (∀ c, (s.logs i).held = some c → ∃ b, (s.logs i).binding = some b ∧ c.path = b.path ∧
        (c.mode = .write ↔ b.readOnly = false ∧ b.disposed = false) ∧
        (c.mode = .read ↔ b.readOnly = true ∨ b.disposed = true)) ∧
      ((s.logs i).lost = true → ∀ c, (s.logs i).held = some c → c.mode ≠ .write) ∧
      (∀ q c, ((s.step (.request i (.ask q))).logs i).held = some c ↔
        (s.logs i).held = some c ∧ c.mode = .write ∧
          s.disk.fingerprintAt? c.path = some c.index.seen) ∧
      (∀ e, (s.serve i (.append e)).1 = .outcome (.error (.disk .notWritable)) →
        (codecs i).encode e = .error (.disk .notWritable)) ∧
      ∀ r, r = .close ∨ r = .dispose ∨ r = .delete →
        ((s.step (.request i r)).logs i).held = none := by
  have suited := suited_run (suited_start d codecs settings) actions i
  have apart := (@lost_run _ _ (start d codecs settings) i rfl actions).2
  have kind := ((start d codecs settings).settings_run actions i).1
  rw [reached] at suited apart kind
  refine ⟨fun c held => ?_, fun lost c held writes => ?_, fun q c => ?_, fun e refused => ?_,
    fun r closing => ?_⟩
  · obtain ⟨b, bound, inside⟩ := Option.bind_eq_some_iff.1 held
    obtain ⟨named, mode⟩ := suited b bound c inside
    refine ⟨b, bound, named, ?_, ?_⟩
    · rw [mode, FileLog.Binding.mode]
      cases b.readOnly <;> cases b.disposed <;> simp
    · rw [mode, FileLog.mode_eq_read_iff, Bool.or_eq_true]
  · obtain ⟨b, bound, inside⟩ := Option.bind_eq_some_iff.1 held
    have writing := apart lost
    simp [FileLog.writing, FileLog.Binding.writing, bound, inside, writes] at writing
  · rw [logs_step_request, FileLog.held_ask, Option.filter_eq_some_iff]
    simp [Connection.isStale]
  · have failed := (suited.append s.disk e).2 (Reply.outcome.inj refused)
    rwa [kind] at failed
  · rw [logs_step_request]
    exact FileLog.held_of_closing closing (s.logs i) s.disk

/-- A query leaves the writer that a log has; after an overwriting from outside it leaves none. -/
theorem held_of_run_overwriting :
    (∃ c, (((twoLogs.run (overwriting.take 2)).step (.request false (.ask .size))).logs false).held =
      some c ∧ c.path = "f" ∧ c.mode = .write) ∧
    (((twoLogs.run overwriting).step (.request false (.ask .size))).logs false).held = none := by
  constructor
  · obtain ⟨-, -, kept, -⟩ :=
      held_of_run (show twoLogs.run (overwriting.take 2) = _ from rfl) false
    have fresh : ((twoLogs.run (overwriting.take 2)).logs false).held.any (fun c => c.path = "f" ∧
        c.mode = .write ∧ (twoLogs.run (overwriting.take 2)).disk.fingerprintAt? c.path =
          some c.index.seen) = true := by decide +kernel
    obtain ⟨c, held, fits⟩ := (Option.any_eq_true _ _).1 fresh
    obtain ⟨path, writes, seen⟩ := of_decide_eq_true fits
    exact ⟨c, (kept .size c).2 ⟨held, writes, seen⟩, path, writes⟩
  · obtain ⟨-, -, dropped, -⟩ := held_of_run (show twoLogs.run overwriting = _ from rfl) false
    have changed : ((twoLogs.run overwriting).logs false).held.all (fun c =>
        (twoLogs.run overwriting).disk.fingerprintAt? c.path ≠ some c.index.seen) = true := by
      decide +kernel
    refine Option.eq_none_iff_forall_ne_some.2 fun c left => ?_
    obtain ⟨held, -, seen⟩ := (dropped .size c).1 left
    rw [held] at changed
    simp [seen] at changed

end Session
end EventLog
