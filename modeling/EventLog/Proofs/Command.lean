import EventLog.Proofs.Command.Arguments
import EventLog.Proofs.Command.Diagnostics
import EventLog.Proofs.Json.Visible
import EventLog.Proofs.Session.Confinement
import EventLog.Proofs.Session.Sharing

/-! Invocations of the command line on one file, each with a log of its own. Main statement: what was
appended by invocations that succeeded is shown by any later one, an event on a line, and each line is
read back as its event. -/
namespace EventLog

open EventLog.Frame (Payload Fits join)

namespace Disk

/-- What was done by others left alone what is in the file at the path, also once its directories are
made. -/
structure Untouched (s : Settings) (path : String) (d d' : Disk) : Prop where
  sound : d'.Sound
  distinct : d'.Distinct
  now : d'.bytesAt path = d.bytesAt path
  prepared : (d'.prepare s path).2.bytesAt path = (d.prepare s path).2.bytesAt path

/-- If there is nothing in the file once the directories are made, there was nothing before. -/
theorem bytesAt_of_prepared {s : Settings} {path : String} {d : Disk}
    (h : (d.prepare s path).2.bytesAt path = []) : d.bytesAt path = [] := by
  by_cases there : ∃ id, d.lookup path = .ok (.file id)
  · obtain ⟨id, found⟩ := there
    obtain ⟨place, reaches, -⟩ := lookup_eq_file_iff.1 found
    rwa [prepare_of_reaches reaches] at h
  · have missing : d.bytesAt? path = none :=
      bytesAt?_eq_none_iff.2 fun id found => there ⟨id, found⟩
    rw [bytesAt, missing]
    rfl

end Disk

namespace Command

/-- The file at the path is the frames of the events, also once its directories are made. No file is
as good as an empty one. -/
structure Holds (codec : Codec) (s : Settings) (path : String) (d : Disk) (events : List Event) :
    Prop where
  sound : d.Sound
  distinct : d.Distinct
  row : ∃ payloads, (∀ p ∈ payloads, Fits s.maxRecordSize.toNat p) ∧
    payloads.map .ok = events.map codec.encode ∧ d.bytesAt path = join payloads ∧
      (d.prepare s path).2.bytesAt path = join payloads

variable {codec : Codec} {s : Settings} {path : String} {d d' : Disk} {events : ListLog}

theorem Holds.untouched (h : Holds codec s path d events) (others : d.Untouched s path d') :
    Holds codec s path d' events where
  sound := others.sound
  distinct := others.distinct
  row := by
    obtain ⟨payloads, fits, encoded, now, prepared⟩ := h.row
    exact ⟨payloads, fits, encoded, others.now.trans now, others.prepared.trans prepared⟩

theorem Holds.stores (h : Holds codec s path d events)
    (opens : ∃ id d₁, d.openPrepared s path = (.ok id, d₁)) :
    Session.Stores codec s path false d events := by
  obtain ⟨payloads, fits, encoded, now, prepared⟩ := h.row
  exact ⟨payloads, [], fits, encoded, rfl, .inl rfl, opens, by simpa using now, by simpa using prepared⟩

theorem holds_of_stores (sound : d.Sound) (distinct : d.Distinct)
    (h : Session.Stores codec s path false d events) :
    Holds codec s path d events := by
  obtain ⟨payloads, damage, fits, encoded, -, rfl | torn, carries⟩ := h
  · exact ⟨sound, distinct, payloads, fits, encoded, by simpa using carries.now,
      by simpa using carries.prepared⟩
  · cases torn

/-- A log that was just made and accepts an event has stored it: it has lost no file before. -/
theorem Holds.append (faithful : codec.Faithful) (h : Holds codec s path d events) {e : Event}
    (accepted : ((FileLog.pointTo ⟨codec, s, none⟩ path false).append d e).1 = .ok ()) :
    Holds codec s path ((FileLog.pointTo ⟨codec, s, none⟩ path false).append d e).2.2
      (events ++ [e]) := by
  obtain ⟨payload, encoded, nonempty⟩ := faithful.encodes e
  have past := (h.sound.past h.distinct).cons
  have known := FileLog.Binding.grounded_start [d] s path false
  obtain ⟨advances, sound⟩ :
      d.Advances ((FileLog.pointTo ⟨codec, s, none⟩ path false).append d e).2.2 ∧
        ((FileLog.pointTo ⟨codec, s, none⟩ path false).append d e).2.2.Sound :=
    ((FileLog.grounded_pointTo [d] ⟨codec, s, none⟩ path false).append past e).2
  have stored := @FileLog.append_of_encoded (FileLog.pointTo ⟨codec, s, none⟩ path false) d _ e payload
    rfl rfl encoded
  rw [stored] at accepted advances sound ⊢
  rcases known.store_cases past payload with ⟨fault, d', -, refused⟩ | ⟨opens, -⟩
  · have error := accepted.symm.trans (congrArg (·.1) refused)
    cases error
  · refine holds_of_stores sound (advances.distinct h.distinct) ?_
    rcases (h.stores opens).store known past rfl nonempty with ⟨-, refused, -⟩ | ⟨-, -, stores⟩
    · have error := accepted.symm.trans refused
      cases error
    · exact stores e encoded

/-- A log that was just made answers from the list. -/
theorem Holds.ask (faithful : codec.Faithful) (h : Holds codec s path d events) (readOnly : Bool)
    (q : Query) : ((FileLog.pointTo ⟨codec, s, none⟩ path readOnly).ask d q).1 =
      ListLog.ask events q := by
  obtain ⟨payloads, fits, encoded, now, -⟩ := h.row
  have records : (FileLog.pointTo ⟨codec, s, none⟩ path readOnly).stored d path = events.map .ok := by
    rw [FileLog.stored, now]
    show (Frame.split s.maxRecordSize.toNat (join payloads)).1.map codec.decode = _
    rw [Frame.split_join fits, Session.decode_of_encoded faithful fits encoded]
  have answer := (FileLog.grounded_pointTo [d] ⟨codec, s, none⟩ path readOnly).answer
    (h.sound.past h.distinct).cons rfl q
  rw [answer, ← Query.answerFrom_ok, ← records]

/-- An invocation that appends and succeeds is an event that its log accepts. -/
theorem run_append {v : Invocation} {severity : Severity} {message : String} {texts : List String}
    {cause : Option String} (asked : v.action = .append severity message texts cause) (now : Int64) :
    (v.run s now d).2 = ((FileLog.pointTo ⟨v.form.codec, s, none⟩ v.file false).append d
        { severity, message, arguments := texts, cause, time := now }).2.2 ∧
      ((v.run s now d).1.exit = 0 → ((FileLog.pointTo ⟨v.form.codec, s, none⟩ v.file false).append d
        { severity, message, arguments := texts, cause, time := now }).1 = .ok ()) := by
  have log : v.log s = FileLog.pointTo ⟨v.form.codec, s, none⟩ v.file false := by
    rw [Invocation.log, asked]
    rfl
  unfold Invocation.run
  rw [log, asked]
  dsimp only
  generalize FileLog.append _ d _ = result
  obtain ⟨outcome, log', d'⟩ := result
  cases outcome with
  | ok _ => exact ⟨rfl, fun _ => rfl⟩
  | error failure => exact ⟨rfl, fun succeeded => absurd succeeded Nat.one_ne_zero⟩

theorem Form.faithful (form : Form) : form.codec.Faithful := by
  cases form with
  | compact => exact Codec.faithful_compact
  | json => exact Codec.faithful_json

/-- Events that were given to invocations which append to a path and succeed, one after the other from
a first disk to a last. In between others leave the file alone. -/
inductive Appended (path : String) (form : Form) (environment : String → Option String) (d : Disk) :
    List Event → Disk → Prop
  | nothing : Appended path form environment d [] d
  | append {events : List Event} {before : Disk}
      (earlier : Appended path form environment d events before) {arguments : List String}
      {v : Invocation} (parsed : parse? arguments = some (.run v)) (file : v.file = path)
      (kind : v.form = form) {severity : Severity} {message : String} {texts : List String}
      {cause : Option String} (asked : v.action = .append severity message texts cause) {now : Int64}
      {emitted : List (Int64 × Trace.Notice)}
      (succeeded : (run arguments environment now before emitted).1.exit = 0) :
      Appended path form environment d
        (events ++ [{ severity, message, arguments := texts, cause, time := now }])
        (run arguments environment now before emitted).2
  | others {events : List Event} {before after : Disk}
      (earlier : Appended path form environment d events before)
      (alone : before.Untouched (Settings.ofEnvironment environment) path after) :
      Appended path form environment d events after

variable {form : Form} {environment : String → Option String}

theorem Appended.holds (sound : d.Sound) (distinct : d.Distinct)
    (clear : (d.prepare (Settings.ofEnvironment environment) path).2.bytesAt path = [])
    (h : Appended path form environment d events d') :
    Holds form.codec (Settings.ofEnvironment environment) path d' events := by
  induction h with
  | nothing => exact ⟨sound, distinct, [], by simp, rfl, Disk.bytesAt_of_prepared clear, clear⟩
  | @append _ before _ arguments v parsed file kind _ _ _ _ asked now emitted succeeded ih =>
    subst file kind
    obtain ⟨stderr, ran⟩ := run_of_parsed parsed environment now before emitted
    rw [ran] at succeeded ⊢
    obtain ⟨disk, accepted⟩ := run_append asked _
    rw [disk]
    exact ih.append (Form.faithful _) (accepted succeeded)
  | others _ alone ih => exact ih.untouched alone

end Command
end EventLog
