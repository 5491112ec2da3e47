import EventLog.Proofs.FileLog.Failing
import EventLog.Proofs.Session.Writing

/-! What a refused event does to the file at the path. Appends may fail at any call to the system, and
others may have failed before. Main statement: readers see what they saw before, or one record more if
the failure came behind its whole frame. -/
namespace EventLog

open Disk (Past)
open EventLog.Frame (Payload Fits IsIntact intact)

namespace FileLog

variable {history : List Disk} {log log' : FileLog} {d d' : Disk} {b : Binding} {e : Event}
  {fault : Option Connection.Fault}

/-- The disk that an event is written on, once the file is opened. -/
def reach (log : FileLog) (d : Disk) (e : Event) (fault : Option Connection.Fault) : Disk :=
  match log.binding with
  | none => d
  | some b =>
    if b.readOnly || b.disposed then d
    else match log.codec.encode e with
      | .error _ => d
      | .ok _ => (b.writer log.settings d fault).2.2

/-- What the log saw of its file last, if it has counted in an event since then without looking at the
file again. -/
def overlooked (log : FileLog) : List Fingerprint := (log.binding.map Binding.overlooked).getD []

/-- The log describes files, or what it was taken from is not on the disk any more. -/
structure Accounts (history : List Disk) (d : Disk) (log : FileLog) : Prop where
  grounded : log.Grounded (history ++ log.overlooked.map Disk.ruledOut)
  behind : ∀ f ∈ log.overlooked, d.Behind f

theorem Grounded.accounts (h : log.Grounded history) (past : Past history d) (later : List Disk) :
    log.Accounts (later ++ history) d where
  grounded := h.mono fun _ before => by simp [before]
  behind f inside := by
    unfold overlooked at inside
    cases bound : log.binding with
    | none => simp [bound] at inside
    | some b =>
      rw [bound] at inside
      exact past.behind ((h b bound).ruledOut_overlooked inside)

theorem accounts_of_binding {codec : Codec} {s : Settings} (h : b.Accounts history s d) :
    Accounts history d ⟨codec, s, some b⟩ := ⟨grounded_of_binding h.grounded, h.behind⟩

/-- An event is written on a disk that comes from the one before, and the log accounts for what it
holds, whatever fails. -/
theorem Grounded.append_accounts (h : log.Grounded history) (past : Past history d) (e : Event)
    (fault : Option Connection.Fault) :
    (d.Advances (log.reach d e fault) ∧ (log.reach d e fault).Sound) ∧
    ((log.reach d e fault).Advances (log.append d e fault).2.2 ∧ (log.append d e fault).2.2.Sound) ∧
    (log.append d e fault).2.1.Accounts
      ((log.append d e fault).2.2 :: log.reach d e fault :: history) (log.append d e fault).2.2 := by
  have idle : (d.Advances d ∧ d.Sound) ∧ (d.Advances d ∧ d.Sound) ∧
      log.Accounts (d :: d :: history) d :=
    ⟨⟨.refl d, past.sound⟩, ⟨.refl d, past.sound⟩, h.accounts past [d, d]⟩
  obtain ⟨codec, s, binding⟩ := log
  cases binding with
  | none => exact idle
  | some b =>
    cases closed : (b.readOnly || b.disposed) with
    | true => simpa only [reach, FileLog.append, closed, if_true] using idle
    | false =>
      cases encoded : codec.encode e with
      | error failure =>
        simpa only [reach, FileLog.append, closed, encoded, Bool.false_eq_true, if_false] using idle
      | ok payload =>
        rw [append_of_encoded rfl closed encoded fault]
        simp only [reach, closed, encoded, Bool.false_eq_true, if_false]
        obtain ⟨first, second, accounts⟩ := (h b rfl).store_accounts past payload fault
        exact ⟨first, second, accounts_of_binding accounts⟩

/-- A refused event leaves the records at the path alone, or stands behind them whole. -/
theorem Grounded.append_refused (h : log.Grounded history) (past : Past history d)
    (bound : log.binding = some b) (steady : d.Steady log.settings b.path) {failure : Failure}
    (refused : log.append d e fault = (.error failure, log', d')) :
    intact log.settings.maxRecordSize.toNat (d'.bytesAt b.path) =
        intact log.settings.maxRecordSize.toNat (d.bytesAt b.path) ∨
      (∃ cause, fault.bind Connection.Fault.late? = some cause ∧ failure = .disk cause) ∧
        ∃ payload, log.codec.encode e = .ok payload ∧
          Fits log.settings.maxRecordSize.toNat payload ∧ d'.bytesAt? b.path =
            some (intact log.settings.maxRecordSize.toNat (d.bytesAt b.path) ++
              Frame.encode payload) := by
  cases closed : (b.readOnly || b.disposed) with
  | true => simp [FileLog.append, bound, closed] at refused
  | false =>
    cases encoded : log.codec.encode e with
    | error failure =>
      simp only [FileLog.append, bound, closed, encoded] at refused
      cases refused
      exact .inl rfl
    | ok payload =>
      rw [append_of_encoded bound closed encoded] at refused
      cases stored : b.store log.settings d payload fault with
      | mk result rest =>
        obtain ⟨b', d₁⟩ := rest
        rw [stored] at refused
        cases refused
        refine ((h b bound).store_refused past steady stored).imp_right ?_
        rintro ⟨late, fits, there⟩
        exact ⟨late, payload, rfl, fits, there⟩

end FileLog

namespace Session

variable {ι : Type} [DecidableEq ι]

/-- An event is appended where the system may fail. -/
def append (s : Session ι) (i : ι) (e : Event) (fault : Option Connection.Fault) : Session ι :=
  ⟨((s.logs i).append s.disk e fault).2.2,
    Function.update s.logs i ((s.logs i).append s.disk e fault).2.1⟩

@[simp] theorem logs_append_self (s : Session ι) (i : ι) (e : Event)
    (fault : Option Connection.Fault) :
    (s.append i e fault).logs i = ((s.logs i).append s.disk e fault).2.1 := Function.update_self ..

theorem logs_append_of_ne (s : Session ι) {i j : ι} (other : j ≠ i) (e : Event)
    (fault : Option Connection.Fault) : (s.append i e fault).logs j = s.logs j :=
  Function.update_of_ne other ..

/-- Sessions that can come about, with the disks that were seen on the way and the fingerprints that some
log overlooked a change of. A change from outside gives a file no length and stamp that stood for another
file or for other bytes, nor those that a file had before a change that was overlooked. Appends may fail
anywhere. -/
inductive Arises (d : Disk) (codecs : ι → Codec) (settings : ι → Settings) :
    List Disk → List Fingerprint → Session ι → Prop
  | start : Arises d codecs settings [d] [] (start d codecs settings)
  | request {history : List Disk} {gone : List Fingerprint} {s : Session ι}
      (earlier : Arises d codecs settings history gone s) (i : ι) (r : Request) :
      Arises d codecs settings ((s.step (.request i r)).disk :: history) gone (s.step (.request i r))
  | edit {history : List Disk} {gone : List Fingerprint} {s : Session ι}
      (earlier : Arises d codecs settings history gone s) (e : Disk.Edit)
      (agrees : ∀ p ∈ (s.step (.edit e)).disk :: history, p.Agrees (s.step (.edit e)).disk)
      (unseen : ∀ f ∈ gone, ∀ id < (s.step (.edit e)).disk.files.length,
        (s.step (.edit e)).disk.fingerprint id ≠ f) :
      Arises d codecs settings ((s.step (.edit e)).disk :: history) gone (s.step (.edit e))
  | failing {history : List Disk} {gone : List Fingerprint} {s : Session ι}
      (earlier : Arises d codecs settings history gone s) (i : ι) (e : Event)
      (fault : Connection.Fault) :
      Arises d codecs settings
        ((s.append i e (some fault)).disk :: (s.logs i).reach s.disk e (some fault) :: history)
        (gone ++ ((s.append i e (some fault)).logs i).overlooked) (s.append i e (some fault))

variable {d : Disk} {codecs : ι → Codec} {settings : ι → Settings} {history : List Disk}
  {gone : List Fingerprint} {s : Session ι}

theorem Arises.kind (h : Arises d codecs settings history gone s) (i : ι) :
    (s.logs i).codec = codecs i ∧ (s.logs i).settings = settings i := by
  induction h with
  | start => exact ⟨rfl, rfl⟩
  | request earlier j r ih =>
    obtain ⟨codec, setting⟩ := settings_step _ (.request j r) i
    exact ⟨codec.trans ih.1, setting.trans ih.2⟩
  | edit earlier e agrees unseen ih => exact ih
  | failing earlier j e fault ih =>
    by_cases same : i = j
    · subst same
      rw [logs_append_self]
      obtain ⟨codec, setting⟩ := FileLog.settings_append _ _ e _
      exact ⟨codec.trans ih.1, setting.trans ih.2⟩
    · rw [logs_append_of_ne _ same]
      exact ih

/-- All logs know no more than what was on the disks of the session after an append, even if it failed,
once the fingerprints that were overlooked are ruled out. -/
theorem Grounded.append (h : s.Grounded history) (i : ι) (e : Event)
    (fault : Option Connection.Fault) :
    (s.append i e fault).Grounded ((s.append i e fault).disk ::
      (s.logs i).reach s.disk e fault :: history ++
        ((s.append i e fault).logs i).overlooked.map Disk.ruledOut) := by
  obtain ⟨⟨opens, opened⟩, ⟨writes, written⟩, accounts⟩ := (h.logs i).append_accounts h.past e fault
  have past := ((h.past.advance opens opened).cons.advance writes written).cons
  rw [logs_append_self]
  refine ⟨past.ruleOut accounts.behind, by simp, fun j => ?_⟩
  by_cases same : j = i
  · subst same
    rw [logs_append_self]
    exact accounts.grounded
  · rw [logs_append_of_ne _ same]
    exact (h.logs j).mono fun _ inside => by simp [inside]

/-- Whatever fails on the way, the logs know no more than what was on the disks. -/
theorem Arises.grounded (h : Arises d codecs settings history gone s) (sound : d.Sound)
    (distinct : d.Distinct) : s.Grounded (history ++ gone.map Disk.ruledOut) := by
  -- On how the session came about; what was overlooked stays ruled out at the end of the history.
  induction h with
  | start => exact grounded_start sound distinct codecs settings
  | request earlier i r ih => exact ih.request i r
  | edit earlier e agrees unseen ih =>
    refine ih.step (.edit e) fun p before => ?_
    rw [← List.cons_append, List.mem_append] at before
    rcases before with seen | ruled
    · exact agrees p seen
    · obtain ⟨f, inside, rfl⟩ := List.mem_map.1 ruled
      exact Disk.agrees_ruledOut (unseen f inside)
  | failing earlier i e fault ih =>
    have after := ih.append i e (some fault)
    rwa [List.map_append, ← List.append_assoc, List.cons_append, List.cons_append]

end Session
end EventLog
