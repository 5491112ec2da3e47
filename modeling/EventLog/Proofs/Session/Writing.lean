import EventLog.Proofs.Connection.Failing
import EventLog.Proofs.Session.Lost
import EventLog.Proofs.Session.Reading

/-! What appends do to the file at the path. An accepted event is one more frame behind the intact
part, or was dropped because the file was lost; a refused one leaves the intact part alone. Making
missing directories can turn a path that steps back out of them to another file, so the file that
counts is the one at the path once these directories are there. -/
namespace EventLog

open Disk (Past)
open EventLog.Frame (Payload Fits IsIntact intact)

namespace FileLog

variable {history : List Disk} {log log' : FileLog} {d d' : Disk} {b : Binding} {e : Event}

theorem append_of_encoded {payload : Payload} (bound : log.binding = some b)
    (accepts : (b.readOnly || b.disposed) = false) (encoded : log.codec.encode e = .ok payload)
    (fault : Option Connection.Fault) :
    log.append d e fault = ((b.store log.settings d payload fault).1,
      { log with binding := some (b.store log.settings d payload fault).2.1 },
      (b.store log.settings d payload fault).2.2) := by
  unfold append
  simp [bound, accepts, encoded]

/-- An event with a payload of a length that is allowed is stored if the path can be opened;
otherwise nothing is written, and the event is refused unless a writer was lost. -/
theorem Grounded.append_cases (h : log.Grounded history) (past : Past history d)
    (bound : log.binding = some b) (accepts : (b.readOnly || b.disposed) = false) {payload : Payload}
    (encoded : log.codec.encode e = .ok payload)
    (allowed : Frame.inBounds log.settings.maxRecordSize.toNat payload.length = true) :
    (∃ fault log' d', d.openPrepared log.settings b.path = (.error fault, d') ∧
      log.append d e = (if log'.lost then .ok () else .error (.disk fault), log', d') ∧
      d'.files = d.files) ∨
    ∃ id d₁ log' d', d.openPrepared log.settings b.path = (.ok id, d₁) ∧
      log.append d e = (.ok (), log', d') ∧ d'.bytesAt? b.path = some
        (intact log.settings.maxRecordSize.toNat ((d.prepare log.settings b.path).2.bytesAt b.path)
          ++ Frame.encode payload) := by
  rw [append_of_encoded bound accepts encoded]
  rcases (h b bound).store_cases past payload with ⟨fault, d', opened, stored⟩ |
      ⟨⟨id, d₁, opened⟩, c, b', d', -, -, -, -, -, ⟨refused, -, -⟩ | ⟨-, stored, bytes⟩⟩
  · obtain ⟨-, -, files⟩ := Disk.missing_of_openPrepared opened
    let b' : Binding := { b.discardStale d with connection := none, remembered := none }
    rw [stored]
    exact .inl ⟨fault, { log with binding := some b' }, d', opened, rfl, files⟩
  · rw [allowed] at refused
    cases refused
  · rw [stored]
    exact .inr ⟨id, d₁, _, d', opened, rfl, bytes⟩

end FileLog

namespace Session

variable {ι : Type} [DecidableEq ι]

/-- An event that takes 31 bytes. -/
def longEvent : Event := { severity := .info, message := "longer than twenty-five b.", time := 0 }

/-- One log writes to a file, then another is pointed to a path. -/
def meeting (path : String) : List (Action Bool) := [
  .request false (.pointTo "f" false),
  .request false (.append shortEvent),
  .request true (.pointTo path false)]

theorem honest_meeting (path : String) : twoLogs.Honest (meeting path) := by
  apply honest_of_fresh Disk.sound_empty Disk.distinct_empty
  intro e inside
  simp [meeting] at inside

/-- An event that is accepted by a log for writing is stored behind the intact part of the file, or
it is dropped: then a writer was lost, none was opened since, and the path cannot be opened. It is
stored whenever the path can be opened, and refused if it cannot and no writer was lost. -/
theorem acknowledged_append {d : Disk} (sound : d.Sound) {codecs : ι → Codec}
    {settings : ι → Settings} {actions : List (Action ι)}
    (honest : (start d codecs settings).Honest actions) {s : Session ι}
    (reached : (start d codecs settings).run actions = s) {i : ι} {b : FileLog.Binding}
    (bound : (s.logs i).binding = some b) (writable : b.readOnly = false)
    (undisposed : b.disposed = false) {e : Event} {payload : Payload}
    (encoded : (codecs i).encode e = .ok payload) (nonempty : 1 ≤ payload.length)
    (allowed : payload.length ≤ (settings i).maxRecordSize.toNat) {front : List UInt8}
    (longest : IsIntact (settings i).maxRecordSize.toNat
      ((s.disk.prepare (settings i) b.path).2.bytesAt b.path) front)
    {result : Except Failure Unit} {log : FileLog} {d' : Disk}
    (appended : (s.logs i).append s.disk e = (result, log, d')) :
    (result = .ok () → d'.bytesAt? b.path = some (front ++ Frame.encode payload) ∨
        d'.files = s.disk.files ∧
          (start d codecs settings).WriterLost i (actions ++ [.request i (.append e)]) ∧
          ∃ fault d₁, s.disk.openPrepared (settings i) b.path = (.error fault, d₁)) ∧
      (∀ fault d₁, s.disk.openPrepared (settings i) b.path = (.error fault, d₁) →
        ¬ (start d codecs settings).WriterLost i (actions ++ [.request i (.append e)]) →
          result = .error (.disk fault)) ∧
      (∀ id d₁, s.disk.openPrepared (settings i) b.path = (.ok id, d₁) →
        result = .ok () ∧ d'.bytesAt? b.path = some (front ++ Frame.encode payload)) ∧
      (s.disk.Steady (settings i) b.path →
        IsIntact (settings i).maxRecordSize.toNat (s.disk.bytesAt b.path) front) := by
  obtain ⟨history, grounded⟩ := grounded_run sound honest
  obtain ⟨codec, setting⟩ := (start d codecs settings).settings_run actions i
  obtain ⟨lost, -⟩ := @lost_run _ _ (start d codecs settings) i rfl
    (actions ++ [.request i (.append e)])
  rw [run_append] at lost
  rw [reached] at grounded codec setting lost
  have setting : (s.logs i).settings = settings i := setting
  have encoded : (s.logs i).codec.encode e = .ok payload := (congrArg (·.encode e) codec).trans encoded
  have accepts : (b.readOnly || b.disposed) = false := by simp [writable, undisposed]
  have inBounds : Frame.inBounds (s.logs i).settings.maxRecordSize.toNat payload.length = true := by
    rw [setting]
    simp [Frame.inBounds, nonempty, allowed]
  have after : (s.run [.request i (.append e)]).logs i = log := by
    have served := congrArg (·.2.1) appended
    simpa [step, serve, FileLog.serve] using served
  have intact := longest.eq
  have now : s.disk.Steady (settings i) b.path →
      IsIntact (settings i).maxRecordSize.toNat (s.disk.bytesAt b.path) front := by
    intro steady
    rwa [steady.bytesAt grounded.past.sound] at longest
  rw [after] at lost
  rcases (grounded.logs i).append_cases grounded.past bound accepts encoded inBounds with
    ⟨fault, log', d₁, opened, dropped, files⟩ | ⟨id, d₁, log', d₂, opened, stored, bytes⟩
  · rw [appended] at dropped
    rw [setting] at opened
    obtain ⟨rfl, rfl, rfl⟩ : result = _ ∧ log = log' ∧ d' = d₁ := by simpa using dropped
    refine ⟨fun accepted => .inr ⟨files, ?_, fault, d', opened⟩, ?_, ?_, now⟩
    · apply lost.1
      by_contra kept
      simp [kept] at accepted
    · intro fault' d₁ refused kept
      rw [opened] at refused
      cases refused
      rw [if_neg (mt lost.1 kept)]
    · intro id d₁ found
      rw [opened] at found
      cases found
  · rw [appended] at stored
    rw [setting] at opened bytes
    obtain ⟨rfl, rfl, rfl⟩ : result = _ ∧ log = log' ∧ d' = d₂ := by simpa using stored
    rw [← intact] at bytes
    refine ⟨fun _ => .inl bytes, ?_, fun _ _ _ => ⟨rfl, bytes⟩, now⟩
    intro fault d₃ refused
    rw [opened] at refused
    cases refused

/-- After an overwriting from outside, the next event stands behind the record found there. -/
theorem acknowledged_append_overwriting :
    ((twoLogs.run overwriting).serve false (.append shortEvent)).1 = .outcome (.ok ()) ∧
      ((twoLogs.run overwriting).serve false (.append shortEvent)).2.2.bytesAt? "f" =
        some ([0, 0, 0, 1, 7] ++ Frame.encode (Compact.encode shortEvent)) := by
  obtain ⟨b, bound, path, writable, undisposed⟩ :
      ∃ b, ((twoLogs.run overwriting).logs false).binding = some b ∧ b.path = "f" ∧
        b.readOnly = false ∧ b.disposed = false := ⟨_, rfl, by decide +kernel⟩
  have front : intact 30 (((twoLogs.run overwriting).disk.prepare { maxRecordSize := 30 }
      b.path).2.bytesAt b.path) = [0, 0, 0, 1, 7] := by
    rw [path]
    decide +kernel
  have opened : (twoLogs.run overwriting).disk.openPrepared { maxRecordSize := 30 } b.path =
      (.ok 0, (twoLogs.run overwriting).disk) := by
    rw [path]
    decide +kernel
  obtain ⟨-, -, stored, -⟩ := acknowledged_append Disk.sound_empty honest_overwriting rfl bound
    writable undisposed (show Codec.compact.encode shortEvent = .ok _ from rfl)
    (by decide +kernel) (by decide +kernel) (Frame.isIntact_iff.2 front.symm) rfl
  obtain ⟨accepted, bytes⟩ := stored 0 _ opened
  exact ⟨congrArg Reply.outcome accepted, path ▸ bytes⟩

/-- On a path that steps back out of a directory that is made, an event is stored behind records of
another file, where no file was before. -/
theorem acknowledged_append_turning :
    (((twoLogs.run (meeting "new/../f")).logs true).append
        (twoLogs.run (meeting "new/../f")).disk shortEvent).1 = .ok () ∧
      (twoLogs.run (meeting "new/../f")).disk.bytesAt? "new/../f" = none ∧
      (((twoLogs.run (meeting "new/../f")).logs true).append
        (twoLogs.run (meeting "new/../f")).disk shortEvent).2.2.bytesAt? "new/../f" =
          some (Frame.encode (Compact.encode shortEvent) ++
            Frame.encode (Compact.encode shortEvent)) := by
  decide +kernel

end Session
end EventLog
