import EventLog.Proofs.Codec
import EventLog.Proofs.Connection.Carrying
import EventLog.Proofs.Session.Writing

/-! Logs that share a path which nothing else touches. Together they behave as one list of events:
appends go to its end, deleting empties it, and every query of any log is a query of the list. -/
namespace EventLog

open Disk (Past)
open EventLog.Frame (Payload Fits join intact)

/-- A log that is pointed elsewhere takes no part any more. -/
def Request.StaysOn (path : String) : Request → Prop
  | .pointTo other _ => other = path
  | _ => True

/-- Whether a log takes events after the request, if it did or did not before. -/
def Request.takes (before : Bool) : Request → Bool
  | .pointTo _ readOnly => !readOnly
  | .dispose => false
  | _ => before

namespace FileLog

/-- A request changes what a log was told about its file only when it says so. -/
theorem binding_serve {log : FileLog} {b : Binding} (bound : log.binding = some b)
    (d : Disk) {r : Request} (own : r.StaysOn b.path) :
    ∃ b', (log.serve d r).2.1.binding = some b' ∧ b'.path = b.path ∧
      (!(b'.readOnly || b'.disposed)) = r.takes (!(b.readOnly || b.disposed)) := by
  have kept : ∀ b' : Binding, b'.terms = b.terms → b'.path = b.path ∧
      (!(b'.readOnly || b'.disposed)) = (!(b.readOnly || b.disposed)) := by
    intro b' terms
    simp only [Binding.terms, Prod.mk.injEq] at terms
    obtain ⟨path, readOnly, disposed⟩ := terms
    exact ⟨path, by rw [readOnly, disposed]⟩
  obtain ⟨codec, s, binding⟩ := log
  cases bound
  cases r with
  | pointTo other readOnly => exact ⟨_, rfl, own, by simp [Request.takes]⟩
  | connect => exact ⟨_, rfl, kept _ (b.terms_connect s d)⟩
  | ask q =>
    rw [serve_ask]
    exact ⟨_, rfl, kept _ (b.terms_lease s d)⟩
  | append e =>
    cases closed : b.readOnly || b.disposed with
    | true => exact ⟨b, by simp [serve, append, closed], rfl, by rw [closed]; rfl⟩
    | false =>
      rw [← closed]
      cases encoded : codec.encode e with
      | error failure => exact ⟨b, by simp [serve, append, closed, encoded], rfl, rfl⟩
      | ok payload =>
        refine ⟨_, ?_, kept _ (b.terms_store s d payload none)⟩
        simp [serve, append, closed, encoded]
  | close => exact ⟨_, rfl, kept _ b.terms_release⟩
  | flush => exact ⟨b, rfl, rfl, rfl⟩
  | dispose => exact ⟨_, rfl, b.path_release, by simp [Request.takes]⟩
  | delete =>
    rw [serve, delete_eq]
    exact ⟨_, rfl, kept _ b.terms_release⟩

end FileLog

/-- What logs on one path amount to: the events in the file, and which logs take more of them. -/
structure Shared (ι : Type) where
  events : ListLog
  accepts : ι → Bool

namespace Shared

variable {ι : Type} [DecidableEq ι]

/-- The reply of the list to a request. Whether a connection is held is not for it to say. -/
def reply? (shared : Shared ι) (codec : Codec) (maximum : Nat) (i : ι) : Request → Option Reply
  | .ask q => some (.answer (ListLog.ask shared.events q))
  | .append e =>
    match shared.accepts i, codec.encode e with
    | true, .ok payload =>
      if payload.length ≤ maximum then some (.outcome (.ok ()))
      else some (.outcome (.error (.tooLarge payload.length maximum)))
    | true, .error failure => some (.outcome (.error failure))
    | false, _ => some (.outcome (.ok ()))
  | .connect => none
  | _ => some (.outcome (.ok ()))

def serve (shared : Shared ι) (codec : Codec) (maximum : Nat) (i : ι) : Request → Shared ι
  | .append e =>
    match shared.accepts i, codec.encode e with
    | true, .ok payload =>
      if payload.length ≤ maximum then { shared with events := shared.events.append e } else shared
    | _, _ => shared
  | .delete => { shared with events := [] }
  | .dispose => { shared with accepts := Function.update shared.accepts i false }
  | .pointTo _ readOnly => { shared with accepts := Function.update shared.accepts i (!readOnly) }
  | _ => shared

def run (shared : Shared ι) (codec : Codec) (maximum : Nat) (requests : List (ι × Request)) :
    Shared ι :=
  requests.foldl (fun shared (i, r) => shared.serve codec maximum i r) shared

theorem accepts_serve (shared : Shared ι) (codec : Codec) (maximum : Nat) (i : ι) (r : Request) :
    (shared.serve codec maximum i r).accepts =
      Function.update shared.accepts i (r.takes (shared.accepts i)) := by
  cases r with
  | append e =>
    have kept : Function.update shared.accepts i (Request.takes (shared.accepts i) (.append e)) =
        shared.accepts := Function.update_eq_self i shared.accepts
    rw [kept, serve]
    split
    · split <;> rfl
    · rfl
  | pointTo path readOnly => rfl
  | dispose => rfl
  | _ => exact (Function.update_eq_self i shared.accepts).symm

end Shared

namespace Session

variable {ι : Type} [DecidableEq ι]

/-- Logs of one kind, all pointed to one path. -/
def onePath (d : Disk) (codec : Codec) (s : Settings) (path : String) (readOnly : ι → Bool) :
    Session ι :=
  ⟨d, fun i => FileLog.pointTo ⟨codec, s, none⟩ path (readOnly i)⟩

/-- The file holds the events and, if it may be torn, what is left of a frame behind them. -/
def Stores (codec : Codec) (setting : Settings) (path : String) (torn : Bool) (d : Disk)
    (events : ListLog) : Prop :=
  ∃ payloads damage, (∀ p ∈ payloads, Fits setting.maxRecordSize.toNat p) ∧
    payloads.map .ok = events.map codec.encode ∧
    Frame.first? setting.maxRecordSize.toNat damage = none ∧ (damage = [] ∨ torn = true) ∧
    Disk.Carries setting path d (join payloads ++ damage)

/-- Logs of one kind, each of them on one path, and which of them take events. -/
structure OnPath (codec : Codec) (setting : Settings) (path : String) (s : Session ι)
    (accepts : ι → Bool) : Prop where
  grounded : ∃ history, s.Grounded history
  kind : ∀ i, (s.logs i).codec = codec ∧ (s.logs i).settings = setting
  bound : ∀ i, ∃ b, (s.logs i).binding = some b ∧ b.path = path ∧
    (!(b.readOnly || b.disposed)) = accepts i

/-- The logs and the file at their path behave as the list. -/
structure Refines (codec : Codec) (setting : Settings) (path : String) (torn : Bool) (s : Session ι)
    (shared : Shared ι) : Prop extends OnPath codec setting path s shared.accepts where
  stored : Stores codec setting path torn s.disk shared.events

variable {codec : Codec} {setting : Settings} {path : String} {torn : Bool} {s : Session ι}
  {shared : Shared ι} {accepts : ι → Bool}

/-! Which logs take events. -/

theorem OnPath.step (h : OnPath codec setting path s accepts) (i : ι) {r : Request}
    (own : r.StaysOn path) : OnPath codec setting path (s.step (.request i r))
      (Function.update accepts i (r.takes (accepts i))) where
  grounded := by
    obtain ⟨history, grounded⟩ := h.grounded
    exact ⟨_, grounded.request i r⟩
  kind j := by
    obtain ⟨codec', setting'⟩ := s.settings_step (.request i r) j
    rw [codec', setting']
    exact h.kind j
  bound j := by
    by_cases same : j = i
    · subst same
      obtain ⟨b, bound, named, takes⟩ := h.bound j
      obtain ⟨b', bound', named', takes'⟩ := FileLog.binding_serve bound s.disk (named ▸ own)
      rw [takes] at takes'
      exact ⟨b', by simpa [Session.step, serve] using bound', named'.trans named, by simpa using takes'⟩
    · simpa [Session.step, same] using h.bound j

/-! What the file holds. -/

theorem Stores.split {d : Disk} {events : ListLog} (h : Stores codec setting path torn d events) :
    ∃ payloads, (∀ p ∈ payloads, Fits setting.maxRecordSize.toNat p) ∧
      payloads.map .ok = events.map codec.encode ∧
      (∃ id d₁, d.openPrepared setting path = (.ok id, d₁)) ∧
      (Frame.split setting.maxRecordSize.toNat (d.bytesAt path)).1 = payloads ∧
      intact setting.maxRecordSize.toNat ((d.prepare setting path).2.bytesAt path) = join payloads := by
  obtain ⟨payloads, damage, fits, encoded, damaged, -, carries⟩ := h
  have row := Frame.split_row fits damaged
  refine ⟨payloads, fits, encoded, carries.opens, ?_, ?_⟩
  · rw [carries.now, row]
  · rw [intact, carries.prepared, row]

/-- A file that is all frames. -/
theorem stores_of_bytesAt? {d : Disk} {events : ListLog} {payloads : List Payload}
    (fits : ∀ p ∈ payloads, Fits setting.maxRecordSize.toNat p)
    (encoded : payloads.map .ok = events.map codec.encode)
    (bytes : d.bytesAt? path = some (join payloads)) : Stores codec setting path torn d events :=
  ⟨payloads, [], fits, encoded, rfl, .inl rfl, Disk.carries_of_bytesAt? (by simpa using bytes)⟩

/-- A file that is not torn is the frames of the events. -/
theorem Stores.row {d : Disk} {events : ListLog} (h : Stores codec setting path false d events) :
    ∃ payloads, (∀ p ∈ payloads, Fits setting.maxRecordSize.toNat p) ∧
      payloads.map .ok = events.map codec.encode ∧ d.bytesAt path = join payloads := by
  obtain ⟨payloads, damage, fits, encoded, -, rfl | torn, carries⟩ := h
  · exact ⟨payloads, fits, encoded, by rw [carries.now, List.append_nil]⟩
  · cases torn

theorem stores_nil {d : Disk} (h : Disk.Carries setting path d []) :
    Stores codec setting path torn d [] :=
  ⟨[], [], fun _ inside => (by cases inside), rfl, rfl, .inl rfl, h⟩

/-- Encoded events that fit a frame are read back. -/
theorem decode_of_encoded (faithful : codec.Faithful) {maximum : Nat} {payloads : List Payload}
    {events : List Event} (fits : ∀ p ∈ payloads, Fits maximum p)
    (encoded : payloads.map .ok = events.map codec.encode) :
    payloads.map codec.decode = events.map .ok := by
  induction payloads generalizing events with
  | nil =>
    cases events with
    | nil => rfl
    | cons e later => cases encoded
  | cons p rest ih =>
    cases events with
    | nil => cases encoded
    | cons e later =>
      obtain ⟨first, others⟩ := List.cons.inj encoded
      have read := faithful.decodes e p first.symm (fits p (by simp)).2
      have reads := ih (fun q inside => fits q (List.mem_cons_of_mem _ inside)) others
      rw [List.map_cons, List.map_cons, read, reads]

omit [DecidableEq ι] in
/-- A query is answered from the list. -/
theorem Refines.ask (faithful : codec.Faithful) (h : Refines codec setting path torn s shared) (i : ι)
    (q : Query) : (s.serve i (.ask q)).1 = .answer (ListLog.ask shared.events q) := by
  obtain ⟨history, grounded⟩ := h.grounded
  obtain ⟨b, bound, named, -⟩ := h.bound i
  obtain ⟨payloads, fits, encoded, -, split, -⟩ := h.stored.split
  obtain ⟨kind, setting'⟩ := h.kind i
  have records : (s.logs i).stored s.disk b.path = shared.events.map .ok := by
    rw [FileLog.stored, setting', kind, named, split, decode_of_encoded faithful fits encoded]
  have answer := (grounded.logs i).answer grounded.past bound q
  rw [records, Query.answerFrom_ok] at answer
  exact congrArg Reply.answer answer

theorem Refines.connect (h : Refines codec setting path torn s shared) (i : ι) :
    Stores codec setting path torn (s.step (.request i .connect)).disk shared.events := by
  obtain ⟨history, grounded⟩ := h.grounded
  obtain ⟨b, bound, named, -⟩ := h.bound i
  have disk : (s.step (.request i .connect)).disk = (b.connect setting s.disk).2 := by
    simp [Session.step, serve, FileLog.serve, FileLog.connect, bound, (h.kind i).2]
  obtain ⟨payloads, fits, encoded, ⟨id, d₁, opens⟩, -, kept⟩ := h.stored.split
  obtain ⟨-, -, -, effect⟩ := (grounded.logs i b bound).connect_cases grounded.past
  rw [(h.kind i).2, named] at effect
  rw [disk]
  rcases effect with same | ⟨fault, refused⟩ | ⟨-, bytes⟩
  · rw [same]
    exact h.stored
  · rw [opens] at refused
    cases refused
  · rw [kept] at bytes
    exact stores_of_bytesAt? fits encoded bytes

/-- A payload is stored behind the events or refused for its length, whichever log it is for. Either
way, nothing is left behind the events but frames. -/
theorem Stores.store {d : Disk} {events : ListLog} {history : List Disk} {b : FileLog.Binding}
    {payload : Payload} (h : Stores codec setting path torn d events)
    (known : b.Grounded history setting) (past : Past history d) (named : b.path = path)
    (nonempty : payload ≠ []) :
    (setting.maxRecordSize.toNat < payload.length ∧
        (b.store setting d payload).1 =
          .error (.tooLarge payload.length setting.maxRecordSize.toNat) ∧
        Stores codec setting path false (b.store setting d payload).2.2 events) ∨
      payload.length ≤ setting.maxRecordSize.toNat ∧ (b.store setting d payload).1 = .ok () ∧
        ∀ e, codec.encode e = .ok payload →
          Stores codec setting path false (b.store setting d payload).2.2 (events.append e) := by
  obtain ⟨payloads, fits, encoded, ⟨id, d₁, opens⟩, -, kept⟩ := h.split
  rcases known.store_cases past payload with ⟨fault, d', unopened, -⟩ |
    ⟨-, c, b', d', -, -, -, -, -, ⟨length, refused, bytes⟩ | ⟨fitting, stored, bytes⟩⟩
  · rw [named, opens] at unopened
    cases unopened
  · rw [named, kept] at bytes
    have long : setting.maxRecordSize.toNat < payload.length := by
      have some := List.length_pos_iff.2 nonempty
      simp only [Frame.inBounds, Bool.and_eq_false_iff, decide_eq_false_iff_not] at length
      omega
    rw [refused]
    exact .inl ⟨long, rfl, stores_of_bytesAt? fits encoded bytes⟩
  · rw [named, kept] at bytes
    have short : payload.length ≤ setting.maxRecordSize.toNat := by
      have bounds := fitting.1
      simp only [Frame.inBounds, Bool.and_eq_true, decide_eq_true_eq] at bounds
      exact bounds.2
    rw [stored]
    refine .inr ⟨short, rfl, fun e payload_e => ?_⟩
    refine @stores_of_bytesAt? _ _ _ _ _ _ (payloads ++ [payload]) ?_ ?_ (by simpa using bytes)
    · intro p member
      rcases List.mem_append.1 member with old | new
      · exact fits p old
      · rw [List.mem_singleton.1 new]
        exact fitting
    · simp [encoded, ListLog.append, payload_e]

theorem Stores.mono {d : Disk} {events : ListLog} (h : Stores codec setting path false d events) :
    Stores codec setting path torn d events := by
  obtain ⟨payloads, damage, fits, encoded, damaged, whole | torn, carries⟩ := h
  · exact ⟨payloads, damage, fits, encoded, damaged, .inl whole, carries⟩
  · cases torn

omit [DecidableEq ι] in
/-- A log that takes no events answers an append without doing anything. -/
theorem OnPath.append_closed (h : OnPath codec setting path s accepts) {i : ι}
    (refuses : accepts i = false) (e : Event) :
    (s.logs i).serve s.disk (.append e) = (.outcome (.ok ()), s.logs i, s.disk) := by
  obtain ⟨b, bound, -, takes⟩ := h.bound i
  have closed : (b.readOnly || b.disposed) = true := @Bool.not_inj _ true (takes.trans refuses)
  simp [FileLog.serve, FileLog.append, bound, closed]

/-- An append goes to the end of the list or is refused for its length, if the log takes events. -/
theorem Refines.append (faithful : codec.Faithful) (h : Refines codec setting path torn s shared)
    (i : ι) (e : Event) : shared.reply? codec setting.maxRecordSize.toNat i (.append e) =
        some (s.serve i (.append e)).1 ∧
      Stores codec setting path (torn && !shared.accepts i) (s.step (.request i (.append e))).disk
        (shared.serve codec setting.maxRecordSize.toNat i (.append e)).events := by
  cases takes : shared.accepts i with
  | false =>
    have served := h.append_closed takes e
    have disk : (s.step (.request i (.append e))).disk = s.disk := congrArg (·.2.2) served
    rw [disk]
    simpa [Shared.reply?, Shared.serve, takes, serve, served] using h.stored
  | true =>
    obtain ⟨history, grounded⟩ := h.grounded
    obtain ⟨b, bound, named, accepts⟩ := h.bound i
    obtain ⟨kind, setting'⟩ := h.kind i
    obtain ⟨payload, encoded, nonempty⟩ := faithful.encodes e
    have encoded' : (s.logs i).codec.encode e = .ok payload := by rw [kind, encoded]
    have opened : (b.readOnly || b.disposed) = false := by simpa [takes] using accepts
    have served : (s.logs i).serve s.disk (.append e) =
        (.outcome (b.store setting s.disk payload).1,
          { s.logs i with binding := some (b.store setting s.disk payload).2.1 },
          (b.store setting s.disk payload).2.2) := by
      rw [FileLog.serve, FileLog.append_of_encoded bound opened encoded', ← setting']
    have disk : (s.step (.request i (.append e))).disk = (b.store setting s.disk payload).2.2 :=
      congrArg (·.2.2) served
    have known : b.Grounded history setting := setting' ▸ grounded.logs i b bound
    rw [disk]
    rcases h.stored.store known grounded.past named nonempty with
      ⟨long, refused, stores⟩ | ⟨short, accepted, stores⟩
    · have long' : ¬ payload.length ≤ setting.maxRecordSize.toNat := Nat.not_le.2 long
      simpa [Shared.reply?, Shared.serve, takes, encoded, long', serve, served, refused] using stores
    · simpa [Shared.reply?, Shared.serve, takes, encoded, short, serve, served, accepted]
        using stores e encoded

theorem Refines.delete (h : Refines codec setting path torn s shared) (i : ι) :
    (s.serve i .delete).1 = .outcome (.ok ()) ∧
      Stores codec setting path torn (s.step (.request i .delete)).disk [] := by
  obtain ⟨b, bound, named, -⟩ := h.bound i
  obtain ⟨payloads, damage, -, -, -, -, carries⟩ := h.stored
  obtain ⟨removed, after⟩ := carries.removeFile
  have served : (s.logs i).serve s.disk .delete = (.outcome (.ok ()),
      { s.logs i with binding := some { b.release with remembered := none } },
      (s.disk.removeFile path).2) := by
    have log : s.logs i = ⟨(s.logs i).codec, (s.logs i).settings, some b⟩ := by
      rw [← bound]
    rw [FileLog.serve, log, FileLog.delete_eq, named]
    rcases removed with done | missing
    · rw [done]
    · rw [missing]
  have disk : (s.step (.request i .delete)).disk = (s.disk.removeFile path).2 :=
    congrArg (·.2.2) served
  rw [disk]
  exact ⟨congrArg (·.1) served, stores_nil after⟩

/-- One request to one of the logs. -/
theorem Refines.step (faithful : codec.Faithful) (h : Refines codec setting path torn s shared)
    (i : ι) {r : Request} (own : r.StaysOn path) :
    (∀ reply, shared.reply? codec setting.maxRecordSize.toNat i r = some reply →
        (s.serve i r).1 = reply) ∧
      Refines codec setting path torn (s.step (.request i r))
        (shared.serve codec setting.maxRecordSize.toNat i r) := by
  have onPath := h.toOnPath.step i own
  rw [← shared.accepts_serve codec setting.maxRecordSize.toNat] at onPath
  cases r with
  | ask q => exact ⟨fun reply said => (by cases said; exact h.ask faithful i q), onPath, h.stored⟩
  | append e =>
    obtain ⟨answer, stored⟩ := h.append faithful i e
    refine ⟨fun reply said => ?_, onPath, ?_⟩
    · rw [answer] at said
      exact Option.some.inj said
    · cases takes : shared.accepts i with
      | false => simpa [takes] using stored
      | true =>
        rw [takes, Bool.not_true, Bool.and_false] at stored
        exact stored.mono
  | connect => exact ⟨fun reply said => (by cases said), onPath, h.connect i⟩
  | delete =>
    obtain ⟨answer, stored⟩ := h.delete i
    exact ⟨fun reply said => (by cases said; exact answer), onPath, stored⟩
  | pointTo other readOnly => exact ⟨fun reply said => (by cases said; rfl), onPath, h.stored⟩
  | close => exact ⟨fun reply said => (by cases said; rfl), onPath, h.stored⟩
  | flush => exact ⟨fun reply said => (by cases said; rfl), onPath, h.stored⟩
  | dispose => exact ⟨fun reply said => (by cases said; rfl), onPath, h.stored⟩

theorem Refines.run (faithful : codec.Faithful) (h : Refines codec setting path torn s shared)
    {requests : List (ι × Request)} (own : ∀ p ∈ requests, p.2.StaysOn path) :
    Refines codec setting path torn (s.run (requests.map fun p => .request p.1 p.2))
      (shared.run codec setting.maxRecordSize.toNat requests) := by
  induction requests generalizing s shared with
  | nil => exact h
  | cons p later ih =>
    have first := h.step faithful p.1 (own p List.mem_cons_self)
    exact ih first.2 fun q member => own q (List.mem_cons_of_mem p member)

omit [DecidableEq ι] in
theorem onPath_onePath {d : Disk} (sound : d.Sound) (distinct : d.Distinct) (readOnly : ι → Bool) :
    OnPath codec setting path (onePath d codec setting path readOnly) fun i => !readOnly i where
  grounded := ⟨[d], (sound.past distinct).cons, List.mem_singleton_self d, fun i =>
    FileLog.grounded_pointTo [d] ⟨codec, setting, none⟩ path (readOnly i)⟩
  kind _ := ⟨rfl, rfl⟩
  bound i := ⟨{ path, readOnly := readOnly i }, rfl, rfl, by simp⟩

omit [DecidableEq ι] in
theorem refines_onePath {d : Disk} (sound : d.Sound) (distinct : d.Distinct)
    (opens : ∃ id d₁, d.openPrepared setting path = (.ok id, d₁))
    (missing : (d.prepare setting path).2.bytesAt? path = none) (readOnly : ι → Bool) :
    Refines codec setting path false (onePath d codec setting path readOnly)
      ⟨[], fun i => !readOnly i⟩ where
  toOnPath := onPath_onePath sound distinct readOnly
  stored := stores_nil (Disk.carries_of_missing opens missing)

/-- Logs on a path that starts without a file reply as one list of events does, whatever was
requested of any of them before. -/
theorem replies_of_onePath {codec : Codec} (kind : codec = .compact ∨ codec = .json)
    {setting : Settings} {path : String} {d : Disk} (sound : d.Sound) (distinct : d.Distinct)
    (opens : ∃ id d₁, d.openPrepared setting path = (.ok id, d₁))
    (missing : (d.prepare setting path).2.bytesAt? path = none) (readOnly : ι → Bool)
    {requests : List (ι × Request)} (own : ∀ p ∈ requests, p.2.StaysOn path) (i : ι) {r : Request}
    (own' : r.StaysOn path) {reply : Reply}
    (said : (Shared.run ⟨[], fun i => !readOnly i⟩ codec setting.maxRecordSize.toNat
      requests).reply? codec setting.maxRecordSize.toNat i r = some reply) :
    (((onePath d codec setting path readOnly).run
      (requests.map fun p => .request p.1 p.2)).serve i r).1 = reply := by
  have faithful : codec.Faithful := by
    rcases kind with rfl | rfl
    · exact Codec.faithful_compact
    · exact Codec.faithful_json
  have start := @refines_onePath ι codec setting path d sound distinct opens missing readOnly
  exact ((start.run faithful own).step faithful i own').1 reply said

/-- One log appends, another deletes, and a third refuses an event that is too long for it. -/
def sharing : List (Fin 3 × Request) := [
  (0, .append shortEvent), (1, .delete), (2, .append longEvent), (1, .append shortEvent),
  (0, .dispose), (0, .append shortEvent), (2, .append shortEvent)]

theorem replies_of_onePath_sharing :
    (((onePath {} .compact { maxRecordSize := 30 } "f" fun _ : Fin 3 => false).run
      (sharing.map fun p => .request p.1 p.2)).serve 0 (.ask .size)).1 = .answer (.count 2) := by
  have free : (Disk.prepare { maxRecordSize := 30 } {} "f").2.bytesAt? "f" = none := by
    decide +kernel
  have own : ∀ p ∈ sharing, p.2.StaysOn "f" := by simp [sharing, Request.StaysOn]
  have query : Request.StaysOn "f" (.ask .size) := trivial
  have count : ListLog.ask (Shared.run ⟨[], fun _ : Fin 3 => true⟩ .compact 30 sharing).events
      .size = .count 2 := by decide +kernel
  exact replies_of_onePath (.inl rfl) Disk.sound_empty Disk.distinct_empty ⟨_, _, rfl⟩ free _ own 0
    query (congrArg (fun a => some (Reply.answer a)) count)

/-- A log on a path that leads to the record of another log once its directory is made. -/
def turning : Session Unit :=
  onePath (twoLogs.run (meeting "f")).disk .compact { maxRecordSize := 30 } "new/../f" fun _ => false

/-- There the first event comes behind the record. -/
theorem replies_of_onePath_turning : turning.disk.Sound ∧ turning.disk.Distinct ∧
    turning.disk.bytesAt? "new/../f" = none ∧
    (∃ id d₁, turning.disk.openPrepared { maxRecordSize := 30 } "new/../f" = (.ok id, d₁)) ∧
    (Shared.run ⟨[], fun _ => true⟩ .compact 30 [((), .append shortEvent)]).reply? .compact 30 ()
      (.ask .size) = some (.answer (.count 1)) ∧
    ((turning.run [.request () (.append shortEvent)]).serve () (.ask .size)).1 =
      .answer (.count 2) := by
  obtain ⟨history, grounded⟩ := grounded_run Disk.sound_empty (honest_meeting "f")
  have opened : (turning.disk.openPrepared { maxRecordSize := 30 } "new/../f").1 = .ok 0 := by
    decide +kernel
  have listed : ListLog.ask (Shared.run ⟨[], fun _ : Unit => true⟩ .compact 30
      [((), .append shortEvent)]).events .size = .count 1 := by decide +kernel
  have stored : (((turning.run [.request () (.append shortEvent)]).logs ()).ask
      (turning.run [.request () (.append shortEvent)]).disk .size).1 = .count 2 := by decide +kernel
  exact ⟨grounded.past.sound, grounded.past.distinct, by decide +kernel, ⟨0, _, Prod.ext opened rfl⟩,
    congrArg (fun a => some (Reply.answer a)) listed, congrArg Reply.answer stored⟩

end Session
end EventLog
