import EventLog.Proofs.Disk.Parents
import EventLog.Trace.Subscriber
import Mathlib.Data.List.Induction

/-! Installations that are refused, and the files that were there before. Main statement: every name
still leads to its file, and every file holds what it held, but for the one at the path of a sink
without rotation when another subscriber is installed: it was opened before that was asked, and it
is empty. -/
namespace EventLog

namespace Disk

/-- Nothing that was there is gone or changed. -/
structure Grows (d d' : Disk) : Prop where
  keeps : ∀ place e, d.find? place = some e → d'.find? place = some e
  length : d.files.length ≤ d'.files.length
  files : ∀ id < d.files.length, d'.bytes id = d.bytes id

theorem Grows.refl (d : Disk) : d.Grows d := ⟨fun _ _ h => h, Nat.le_refl _, fun _ _ => rfl⟩

variable {d d' d'' : Disk} {path : String} {id : Nat}

theorem Grows.trans (h : d.Grows d') (h' : d'.Grows d'') : d.Grows d'' where
  keeps place e there := h'.keeps place e (h.keeps place e there)
  length := Nat.le_trans h.length h'.length
  files id inside := (h'.files id (Nat.lt_of_lt_of_le inside h.length)).trans (h.files id inside)

theorem Extends.grows (h : d.Extends d') : d.Grows d' where
  keeps := h.keeps
  length := Nat.le_of_eq (congrArg List.length h.files).symm
  files id _ := by rw [bytes, bytes, file, file, h.files]

theorem grows_create {place : Place} (free : d.find? place = none) :
    d.Grows (d.create place).2 where
  keeps other e there := by
    have different : other ≠ place := by
      rintro rfl
      rw [free] at there
      cases there
    simpa [find?_create, different] using there
  length := by simp [create]
  files id inside := by simp [bytes, file, create, List.getElem?_append_left inside]

theorem grows_openForAppending (d : Disk) (path : String) :
    d.Grows (d.openForAppending path).2 := by
  generalize opened : d.openForAppending path = result
  obtain ⟨answer, d'⟩ := result
  cases answer with
  | error fault =>
    rw [openForAppending_error opened]
    exact .refl d
  | ok id =>
    obtain ⟨place, -, ⟨-, rfl⟩ | ⟨free, -, rfl⟩⟩ := reaches_of_openForAppending opened
    · exact .refl _
    · exact grows_create free

/-- What is opened is the file at the path, or a new one. -/
theorem lookup_of_opened (opened : d.openForAppending path = (.ok id, d'))
    (old : id < d.files.length) : d.lookup path = .ok (.file id) ∧ d' = d := by
  obtain ⟨place, reaches, ⟨entry, same⟩ | ⟨-, rfl, -⟩⟩ := reaches_of_openForAppending opened
  · exact ⟨lookup_eq_file_iff.2 ⟨place, reaches, entry⟩, same⟩
  · exact absurd old (Nat.lt_irrefl _)

end Disk

namespace Trace

namespace FileSink

variable {f : FileSink} {now : Int64} {d : Disk}

theorem grows_openRotating (path : String) (d : Disk) : d.Grows (openRotating path d).2 := by
  unfold openRotating
  have first := d.grows_openForAppending path
  split
  · rename_i opened
    rw [opened] at first
    exact first
  · rename_i d₁ opened
    rw [opened] at first
    have made := (d₁.extends_makeParents path).grows
    split <;> rename_i d₂ parents <;> rw [parents] at made
    · exact first.trans made
    · exact (first.trans made).trans (d₂.grows_openForAppending path)

/-- The file is the one at the path of a sink without rotation, once its directory is made. -/
structure Empties (f : FileSink) (now : Int64) (d : Disk) (id : Nat) : Prop where
  rotation : f.rotation = .never
  there : (d.makeDirectories f.directory).2.lookup (f.path now) = .ok (.file id)

/-- Nothing is changed but, where there is no rotation, the file that is opened. -/
theorem openFile_cases (f : FileSink) (now : Int64) (d : Disk) :
    d.Grows (f.openFile now d).2 ∨ ∃ id d', d.Grows d' ∧
      f.openFile now d = (.ok id, d'.put id []) ∧ (id < d.files.length → f.Empties now d id) := by
  have made := (d.extends_makeDirectories f.directory).grows
  unfold openFile
  split <;> rename_i d₁ directories <;> rw [directories] at made
  · exact .inl made
  · split
    · rename_i never
      generalize opened : d₁.openForAppending (f.path now) = result
      obtain ⟨answer, d₂⟩ := result
      rw [Disk.openEmptied, opened]
      cases answer with
      | error fault =>
        rw [Disk.openForAppending_error opened]
        exact .inl made
      | ok id =>
        have grown := d₁.grows_openForAppending (f.path now)
        rw [opened] at grown
        refine .inr ⟨id, d₂, made.trans grown, rfl, fun old => ⟨never, ?_⟩⟩
        rw [directories]
        exact (Disk.lookup_of_opened opened (Nat.lt_of_lt_of_le old made.length)).1
    · exact .inl (made.trans (grows_openRotating _ d₁))
    · exact .inl (made.trans (grows_openRotating _ d₁))

theorem keeps_openFile (f : FileSink) (now : Int64) {d : Disk} {place : Place} {e : Entry}
    (there : d.find? place = some e) : (f.openFile now d).2.find? place = some e := by
  rcases f.openFile_cases now d with grown | ⟨id, d', grown, opened, -⟩
  · exact grown.keeps place e there
  · rw [opened]
    exact grown.keeps place e there

theorem bytes_openFile {id : Nat} (spared : ¬ f.Empties now d id) (old : id < d.files.length) :
    (f.openFile now d).2.bytes id = d.bytes id := by
  rcases f.openFile_cases now d with grown | ⟨other, d', grown, opened, empties⟩
  · exact grown.files id old
  · have different : other ≠ id := by
      rintro rfl
      exact spared (empties old)
    rw [opened, Disk.bytes_put_of_ne different]
    exact grown.files id old

theorem grows_of_openFile_error {fault : DiskFault} (failed : (f.openFile now d).1 = .error fault) :
    d.Grows (f.openFile now d).2 := by
  rcases f.openFile_cases now d with grown | ⟨id, d', -, opened, -⟩
  · exact grown
  · rw [opened] at failed
    cases failed

theorem Empties.bytes_openFile {id opened : Nat} (h : f.Empties now d id)
    (old : id < d.files.length) (ok : (f.openFile now d).1 = .ok opened) :
    (f.openFile now d).2.bytes id = [] := by
  have made := (d.extends_makeDirectories f.directory).grows
  have there := h.there
  unfold openFile at ok ⊢
  split at ok
  · cases ok
  · rename_i d₁ directories
    rw [directories] at made there
    simp only [h.rotation, Disk.openEmptied, Disk.openForAppending_of_lookup there]
    exact Disk.bytes_put (Nat.lt_of_lt_of_le old made.length) [] false

theorem openFile_of_panics (h : f.panics now d = true) :
    ∃ fault, (f.openFile now d).1 = .error fault := by
  unfold panics at h
  unfold openFile
  generalize d.makeDirectories f.directory = made at h
  obtain ⟨_ | _, d₁⟩ := made
  · cases rotation : f.rotation <;> rw [rotation] at h <;> cases h
  · cases rotation : f.rotation with
    | never => simp [rotation] at h
    | daily | hourly =>
      rw [rotation] at h
      dsimp only at h ⊢
      cases opened : (openRotating (f.path now) d₁).1 with
      | ok id => simp [opened, Except.isOk, Except.toBool] at h
      | error fault => exact ⟨fault, rfl⟩

end FileSink

namespace Plan

variable {σ : Type}

/-- An installation opens its file, and then is refused or not. -/
theorem install_cases (p : Plan σ) (override : Option String) (now : Int64) (w : World σ) :
    ∃ stderr, ∃ w' : World σ, w' = { w with
        disk := (p.openFile now w.disk).2, stderr,
        panicked := p.setup.file.any (·.panics now w.disk) } ∧
      ((∃ fault, (p.openFile now w.disk).1 = .error fault ∧
          p.install override now w = (.error (.disk fault), w')) ∨
        ∃ file, (p.openFile now w.disk).1 = .ok file ∧
          (p.install override now w = (.error .active, w') ∨
            ∃ s, p.install override now w = (.ok file.isSome, { w' with active := some s }))) := by
  obtain ⟨stderr, warned⟩ := w.warned (p.filter override).2
  refine ⟨stderr, _, rfl, ?_⟩
  unfold install
  dsimp only
  rw [warned]
  dsimp only
  cases (p.openFile now w.disk).1 with
  | error fault => exact .inl ⟨fault, rfl, rfl⟩
  | ok file =>
    refine .inr ⟨file, rfl, ?_⟩
    dsimp only
    rw [Option.isSome_map]
    split
    · exact .inl rfl
    · exact .inr ⟨_, rfl⟩

/-- Whatever comes of an installation, its file was opened. -/
theorem disk_install (p : Plan σ) (override : Option String) (now : Int64) (w : World σ) :
    (p.install override now w).2.disk = (p.openFile now w.disk).2 := by
  obtain ⟨stderr, w', rfl, ⟨fault, -, result⟩ | ⟨file, -, result | ⟨s, result⟩⟩⟩ :=
    p.install_cases override now w
  all_goals rw [result]

theorem disk_installQuietly (p : Plan σ) (override : Option String) (now : Int64) (w : World σ) :
    (p.installQuietly override now w).2.disk = (p.install override now w).2.disk := by
  unfold installQuietly
  generalize p.install override now w = result
  obtain ⟨_ | _, w'⟩ := result
  · dsimp only
    split
    · rfl
    · exact World.disk_say w' ..
  · rfl

theorem openFile_of_refused {p : Plan σ} {override : Option String} {now : Int64} {w : World σ}
    {refusal : Refusal} (refused : (p.install override now w).1 = .error refusal) :
    (∃ fault, refusal = .disk fault ∧ (p.openFile now w.disk).1 = .error fault) ∨
      refusal = .active ∧ ∃ file, (p.openFile now w.disk).1 = .ok file := by
  obtain ⟨stderr, w', -, ⟨fault, failed, result⟩ | ⟨file, opened, result | ⟨s, result⟩⟩⟩ :=
    p.install_cases override now w
  all_goals rw [result] at refused; cases refused
  · exact .inl ⟨fault, rfl, failed⟩
  · exact .inr ⟨rfl, file, opened⟩

/-- An installation that panics installs nothing, and takes nothing away from the disk. -/
theorem install_of_panicked {p : Plan σ} {override : Option String} {now : Int64} {w : World σ}
    (panicked : (p.install override now w).2.panicked = true) :
    (p.install override now w).2.active = w.active ∧
      w.disk.Grows (p.install override now w).2.disk := by
  obtain ⟨stderr, w', rfl, result⟩ := p.install_cases override now w
  have sinks : p.setup.file.any (·.panics now w.disk) = true := by
    rcases result with ⟨fault, -, result⟩ | ⟨file, -, result | ⟨s, result⟩⟩
    all_goals rw [result] at panicked; exact panicked
  cases sink : p.setup.file with
  | none => simp [sink] at sinks
  | some f =>
    rw [sink, Option.any_some] at sinks
    obtain ⟨fault, failed⟩ := FileSink.openFile_of_panics sinks
    have opened : p.openFile now w.disk = (.error fault, (f.openFile now w.disk).2) := by
      simp only [openFile, sink, failed]
      rfl
    rcases result with ⟨fault, -, result⟩ | ⟨file, answered, -⟩
    · rw [result]
      refine ⟨rfl, ?_⟩
      rw [opened]
      exact FileSink.grows_of_openFile_error failed
    · rw [opened] at answered
      cases answered

/-- The refused installation empties this file. -/
structure Empties (p : Plan σ) (now : Int64) (d : Disk) (refusal : Refusal) (id : Nat) : Prop where
  active : refusal = .active
  sink : ∃ f, p.setup.file = some f ∧ f.Empties now d id

section Refused

variable {p : Plan σ} {override : Option String} {now : Int64} {w : World σ} {refusal : Refusal}
  {id : Nat}

theorem keeps_openFile (p : Plan σ) (now : Int64) {d : Disk} {place : Place} {e : Entry}
    (there : d.find? place = some e) : (p.openFile now d).2.find? place = some e := by
  unfold openFile
  split
  · exact there
  · rename_i f _
    exact f.keeps_openFile now there

theorem bytes_of_spared (refused : (p.install override now w).1 = .error refusal)
    (spared : ¬ p.Empties now w.disk refusal id) (old : id < w.disk.files.length) :
    (p.openFile now w.disk).2.bytes id = w.disk.bytes id := by
  have opened := openFile_of_refused refused
  unfold openFile at opened ⊢
  cases sink : p.setup.file with
  | none => rfl
  | some f =>
    simp only [sink] at opened ⊢
    rcases opened with ⟨fault, -, failed⟩ | ⟨active, -⟩
    · have failed : (f.openFile now w.disk).1 = .error fault := by
        cases answer : (f.openFile now w.disk).1 with
        | error other =>
          rw [answer] at failed
          cases failed
          rfl
        | ok id =>
          rw [answer] at failed
          cases failed
      exact (FileSink.grows_of_openFile_error failed).files id old
    · exact FileSink.bytes_openFile (fun empties => spared ⟨active, f, sink, empties⟩) old

theorem bytes_of_empties (refused : (p.install override now w).1 = .error refusal)
    (h : p.Empties now w.disk refusal id) (old : id < w.disk.files.length) :
    (p.openFile now w.disk).2.bytes id = [] := by
  obtain ⟨rfl, f, sink, empties⟩ := h
  rcases openFile_of_refused refused with ⟨fault, active, -⟩ | ⟨-, file, opened⟩
  · cases active
  · unfold openFile at opened ⊢
    simp only [sink] at opened ⊢
    cases answer : (f.openFile now w.disk).1 with
    | error fault =>
      rw [answer] at opened
      cases opened
    | ok id => exact empties.bytes_openFile old answer

/-- A refused installation takes no name away. Every file holds what it held, except when another
subscriber is installed and the sink has no rotation: then the file at its path is empty. So all
files are spared just if there was nothing in that one. A quiet installation does the same to the
disk. -/
theorem install_refused (refused : (p.install override now w).1 = .error refusal) :
    (∀ place e, w.disk.find? place = some e →
      (p.install override now w).2.disk.find? place = some e) ∧
    (∀ id < w.disk.files.length,
      (p.Empties now w.disk refusal id → (p.install override now w).2.disk.bytes id = []) ∧
      (¬ p.Empties now w.disk refusal id →
        (p.install override now w).2.disk.bytes id = w.disk.bytes id)) ∧
    ((∀ id < w.disk.files.length, (p.install override now w).2.disk.bytes id = w.disk.bytes id) ↔
      ∀ id < w.disk.files.length, p.Empties now w.disk refusal id → w.disk.bytes id = []) ∧
    (p.installQuietly override now w).2.disk = (p.install override now w).2.disk := by
  rw [disk_installQuietly, disk_install]
  refine ⟨fun place e there => p.keeps_openFile now there,
    fun id old => ⟨fun empties => bytes_of_empties refused empties old,
      fun spared => bytes_of_spared refused spared old⟩, ⟨fun same id old empties => ?_,
    fun empty id old => ?_⟩, rfl⟩
  · rw [← same id old]
    exact bytes_of_empties refused empties old
  · by_cases empties : p.Empties now w.disk refusal id
    · rw [bytes_of_empties refused empties old, empty id old empties]
    · exact bytes_of_spared refused empties old

end Refused

/-- One file, without rotation. -/
def onlyFile : Plan Unit where
  setup := { console := { enabled := false }, file := some { stem := "app", rotation := .never } }

/-- The subscriber has written a line into its file. -/
def written : World Unit :=
  (onlyFile.install none 0 { log := () }).2.emit 0
    { severity := .error, target := "app", file := "f.rs", line := 7, fields := [] }

theorem install_refused_written :
    written.disk.bytes 0 ≠ [] ∧ (onlyFile.install none 0 written).2.disk.bytes 0 = [] := by
  have refused : (onlyFile.install none 0 written).1 = .error .active := by decide +kernel
  have here : onlyFile.Empties 0 written.disk .active 0 :=
    ⟨rfl, _, rfl, rfl, by decide +kernel⟩
  exact ⟨by decide +kernel, ((install_refused refused).2.1 0 (by decide +kernel)).1 here⟩

end Plan
end Trace
end EventLog
