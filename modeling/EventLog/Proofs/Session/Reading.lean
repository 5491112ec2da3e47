import EventLog.Proofs.Session

/-! What readers see. Main statement: whatever was done before, every query answers from the file
that is at the path now, and so answers as a log would that has just been pointed there. -/
namespace EventLog

open Disk (Past)

namespace FileLog

/-- The records of the file at a path, none if there is no file. -/
def stored (log : FileLog) (d : Disk) (path : String) : List Record :=
  (Frame.split log.settings.maxRecordSize.toNat (d.bytesAt path)).1.map log.codec.decode

variable {history : List Disk} {log : FileLog} {d : Disk} {b : Binding}

theorem leased_eq (bound : log.binding = some b) (d : Disk) :
    log.leased d = (b.lease log.settings d).1 := by
  rw [leased, bound]
  rfl

theorem Grounded.leased_ready (h : log.Grounded history) (past : Past history d)
    (bound : log.binding = some b) :
    (∀ c, log.leased d = some c → c.Ready d b.path log.settings.maxRecordSize.toNat) ∧
      (log.leased d = none → d.bytesAt? b.path = none) := by
  rw [leased_eq bound]
  exact (h b bound).lease_ready past

theorem Grounded.knows (h : log.Grounded history) (past : Past history d) : log.Knows d := by
  intro c leased
  cases bound : log.binding with
  | none =>
    rw [FileLog.leased, bound] at leased
    cases leased
  | some b => exact ((h.leased_ready past bound).1 c leased).current

theorem Grounded.records_eq (h : log.Grounded history) (past : Past history d)
    (bound : log.binding = some b) : log.records d = log.stored d b.path := by
  obtain ⟨ready, missing⟩ := h.leased_ready past bound
  cases leased : log.leased d with
  | none =>
    have empty : Frame.split log.settings.maxRecordSize.toNat [] = ([], []) :=
      Frame.split_of_damage rfl
    rw [records_of_not_leased leased, stored, Disk.bytesAt, missing leased, Option.getD_none, empty]
    rfl
  | some c =>
    have there := ready c leased
    rw [records_of_leased leased, stored, Disk.bytesAt, there.bytesAt?, Connection.payloads,
      there.limit]
    rfl

/-- The answer comes from the file at the path, as it is now. -/
theorem Grounded.answer (h : log.Grounded history) (past : Past history d)
    (bound : log.binding = some b) (q : Query) :
    (log.ask d q).1 = q.answerFrom (log.stored d b.path) := by
  rw [ask_eq (h.knows past), h.records_eq past bound]

theorem grounded_pointTo (history : List Disk) (log : FileLog) (path : String) (readOnly : Bool) :
    (log.pointTo path readOnly).Grounded history :=
  grounded_of_binding (Binding.grounded_start history log.settings path readOnly)

/-! A request changes neither the codec nor the settings. -/

theorem settings_append (log : FileLog) (d : Disk) (e : Event) (fault : Option Connection.Fault) :
    (log.append d e fault).2.1.codec = log.codec ∧
      (log.append d e fault).2.1.settings = log.settings := by
  obtain ⟨codec, s, binding⟩ := log
  cases binding with
  | none => exact ⟨rfl, rfl⟩
  | some b =>
    simp only [FileLog.append]
    split
    · exact ⟨rfl, rfl⟩
    · split <;> exact ⟨rfl, rfl⟩

theorem settings_serve (log : FileLog) (d : Disk) (r : Request) :
    (log.serve d r).2.1.codec = log.codec ∧ (log.serve d r).2.1.settings = log.settings := by
  obtain ⟨codec, s, binding⟩ := log
  cases r with
  | ask q =>
    show (ask ⟨codec, s, binding⟩ d q).2.codec = codec ∧ (ask ⟨codec, s, binding⟩ d q).2.settings = s
    rw [snd_ask]
    exact ⟨rfl, rfl⟩
  | append e => exact settings_append ⟨codec, s, binding⟩ d e none
  | delete =>
    cases binding with
    | none => exact ⟨rfl, rfl⟩
    | some b =>
      simp [serve, delete_eq]
  | connect => cases binding <;> exact ⟨rfl, rfl⟩
  | _ => exact ⟨rfl, rfl⟩

end FileLog

namespace Session

variable {ι : Type} [DecidableEq ι]

theorem settings_step (s : Session ι) (a : Action ι) (i : ι) :
    ((s.step a).logs i).codec = (s.logs i).codec ∧
      ((s.step a).logs i).settings = (s.logs i).settings := by
  cases a with
  | edit e => exact ⟨rfl, rfl⟩
  | request j r =>
    by_cases same : i = j
    · subst same
      simpa [step, serve] using (s.logs i).settings_serve s.disk r
    · simp [step, same]

theorem settings_run (s : Session ι) (actions : List (Action ι)) (i : ι) :
    ((s.run actions).logs i).codec = (s.logs i).codec ∧
      ((s.run actions).logs i).settings = (s.logs i).settings := by
  induction actions generalizing s with
  | nil => exact ⟨rfl, rfl⟩
  | cons a later ih =>
    obtain ⟨codec, settings⟩ := s.settings_step a i
    rw [run_cons, ← codec, ← settings]
    exact ih (s.step a)

/-- After any honest run, a log that points to a path answers every query as a new log of its kind
that was just pointed there for reading, and both answer from the records now in the file. -/
theorem ask_of_run {d : Disk} (sound : d.Sound) {codecs : ι → Codec} {settings : ι → Settings}
    {actions : List (Action ι)} (honest : (start d codecs settings).Honest actions)
    {s : Session ι} (reached : (start d codecs settings).run actions = s)
    {i : ι} {b : FileLog.Binding} (bound : (s.logs i).binding = some b) (q : Query) :
    ((s.logs i).ask s.disk q).1 =
        ((FileLog.pointTo ⟨codecs i, settings i, none⟩ b.path true).ask s.disk q).1 ∧
      ((s.logs i).ask s.disk q).1 = q.answerFrom ((s.logs i).stored s.disk b.path) := by
  obtain ⟨history, grounded⟩ := grounded_run sound honest
  rw [reached] at grounded
  obtain ⟨codec, setting⟩ := (start d codecs settings).settings_run actions i
  rw [reached] at codec setting
  have answer := (grounded.logs i).answer grounded.past bound q
  have new := (FileLog.grounded_pointTo history ⟨codecs i, settings i, none⟩ b.path true).answer
    grounded.past rfl q
  have stored : (s.logs i).stored s.disk b.path =
      FileLog.stored (.pointTo ⟨codecs i, settings i, none⟩ b.path true) s.disk b.path := by
    rw [FileLog.stored, FileLog.stored, codec, setting]
    rfl
  refine ⟨?_, answer⟩
  rw [answer, new, stored]

/-- Two logs that point to no file, on an empty disk. -/
def twoLogs : Session Bool := start {} (fun _ => .compact) (fun _ => { maxRecordSize := 30 })

def shortEvent : Event := { severity := .info, message := "m", time := 0 }

/-- A file is overwritten while a log still writes to it. -/
def overwriting : List (Action Bool) := [
  .request false (.pointTo "f" false),
  .request false (.append shortEvent),
  .edit (.write "f" [0, 0, 0, 1, 7] false)]

theorem honest_overwriting : twoLogs.Honest overwriting := by
  apply honest_of_fresh Disk.sound_empty Disk.distinct_empty
  intro e inside
  simp only [overwriting, List.mem_cons, Action.edit.injEq, reduceCtorEq, false_or,
    List.not_mem_nil, or_false] at inside
  rw [inside]
  rfl

theorem ask_of_run_overwriting : ∃ b, ((twoLogs.run overwriting).logs false).binding = some b ∧
    (((twoLogs.run overwriting).logs false).ask (twoLogs.run overwriting).disk .size).1 =
        ((FileLog.pointTo ⟨.compact, { maxRecordSize := 30 }, none⟩ b.path true).ask
          (twoLogs.run overwriting).disk .size).1 ∧
      (((twoLogs.run overwriting).logs false).ask (twoLogs.run overwriting).disk .size).1 =
        Query.size.answerFrom (((twoLogs.run overwriting).logs false).stored
          (twoLogs.run overwriting).disk b.path) := by
  obtain ⟨b, bound⟩ : ∃ b, ((twoLogs.run overwriting).logs false).binding = some b := ⟨_, rfl⟩
  exact ⟨b, bound, ask_of_run Disk.sound_empty honest_overwriting rfl bound .size⟩

/-- A copy with the stamp of the file takes the place of the file, which is overwritten under another
name. -/
def swapping : List (Action Bool) := [
  .request false (.pointTo "f" false),
  .request false (.append shortEvent),
  .edit (.write "g" (Frame.encode (Compact.encode shortEvent)) false),
  .edit (.restamp "g" 1),
  .edit (.rename "f" "h"),
  .edit (.rename "g" "f"),
  .edit (.write "h" [0, 0, 0, 1, 7] false)]

/-- Equal bytes are not enough. The log takes the copy for its file, and reads the other one. -/
theorem ask_of_run_swapping : Disk.AlikeAlong step disk twoLogs swapping ∧
    ((twoLogs.run swapping).logs false).binding.map FileLog.Binding.path = some "f" ∧
    (((twoLogs.run swapping).logs false).ask (twoLogs.run swapping).disk (.get 0)).1 =
      .event none ∧
    ((FileLog.pointTo ⟨.compact, { maxRecordSize := 30 }, none⟩ "f" true).ask
      (twoLogs.run swapping).disk (.get 0)).1 = .event (some shortEvent) := by
  decide +kernel

end Session
end EventLog
