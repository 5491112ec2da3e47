import EventLog.Proofs.Connection.Writing
import EventLog.Proofs.Frame.Cutting

/-! Writers that the system fails. An opening that is broken off leaves a disk on which its path leads to
the same records as before, and so does a write, unless its whole frame got into the file. -/
namespace EventLog

open EventLog.Frame (Payload intact)

namespace Disk

variable {s : Settings} {d : Disk} {path : String}

/-- The path does not step back, or nothing has to be made for it: it leads to the same file once
its parents are there. -/
def Steady (s : Settings) (d : Disk) (path : String) : Prop :=
  Step.up ∉ (Route.read path).steps ∨ (d.prepare s path).2 = d

theorem Steady.bytesAt (h : d.Steady s path) (sound : d.Sound) :
    (d.prepare s path).2.bytesAt path = d.bytesAt path := by
  rcases h with straight | made
  · rw [Disk.bytesAt, bytesAt?_of_extends sound (extends_prepare s d path) straight]
    rfl
  · rw [made]

theorem Steady.bytesAt_makeSomeParents (h : d.Steady s path) (sound : d.Sound)
    (create : s.createParents = true) (count : Nat) :
    (d.makeSomeParents path count).bytesAt path = d.bytesAt path := by
  rcases h with straight | made
  · rw [Disk.bytesAt, bytesAt?_of_extends sound (extends_makeSomeParents d path count) straight]
    rfl
  · rw [prepare, if_pos create] at made
    rw [makeSomeParents_of_makeParents made]

end Disk

namespace Connection

variable {c : Connection} {d : Disk} {s : Settings} {path : String} {remembered : Option Index}

/-- What an opening can leave that is broken off. -/
inductive Unfinished (s : Settings) (path : String) (remembered : Option Index) (d : Disk) : Disk → Prop
  | making (create : s.createParents = true) (count : Nat) :
      Unfinished s path remembered d (d.makeSomeParents path count)
  | made : Unfinished s path remembered d (d.prepare s path).2
  | opened {id : Nat} {d' : Disk} (opened : d.openPrepared s path = (.ok id, d')) :
      Unfinished s path remembered d d'
  | repaired {id : Nat} {d' : Disk} (opened : d.openPrepared s path = (.ok id, d')) :
      Unfinished s path remembered d ((attach s path .write remembered d' id).repair d').2

theorem writerOf_failing (s : Settings) (path : String) (remembered : Option Index) (d : Disk)
    (file : Nat) (fault : Option Fault) :
    writerOf s path remembered d file fault = writerOf s path remembered d file ∨
    ∃ cause d', writerOf s path remembered d file fault = (.error (.disk cause), d') ∧
      (d' = d ∨ d' = ((attach s path .write remembered d file).repair d).2) := by
  unfold writerOf
  dsimp only
  split
  · exact .inr ⟨_, _, rfl, .inl rfl⟩
  · split
    · exact .inr ⟨_, _, rfl, .inr rfl⟩
    · exact .inl rfl
  · exact .inl rfl

theorem openToWrite_examined {fault : Fault} {cause : DiskFault}
    (examined : fault = .examining cause ∨ fault = .reexamining cause) :
    openToWrite s path remembered d (some fault) = match d.openPrepared s path with
      | (.error cause, d) => (.error (.disk cause), d)
      | (.ok id, d) => writerOf s path remembered d id (some fault) := by
  unfold openToWrite Disk.openPrepared Disk.prepare
  rcases examined with rfl | rfl
  all_goals
    dsimp only
    generalize (if s.createParents then d.makeParents path else (.ok (), d)) = made
    obtain ⟨result, d'⟩ := made
    cases result with
    | error _ => rfl
    | ok _ => rfl

theorem failing_of_examined {fault : Fault} {cause : DiskFault}
    (examined : fault = .examining cause ∨ fault = .reexamining cause) :
    openToWrite s path remembered d (some fault) = openToWrite s path remembered d ∨
    ∃ cause d', openToWrite s path remembered d (some fault) = (.error (.disk cause), d') ∧
      Unfinished s path remembered d d' := by
  rw [openToWrite_examined examined, openToWrite_eq_repair]
  cases opened : d.openPrepared s path with
  | mk result d₁ =>
    cases result with
    | error _ => exact .inl rfl
    | ok id =>
      refine (writerOf_failing s path remembered d₁ id (some fault)).imp_right ?_
      rintro ⟨cause, d', broken, rfl | rfl⟩
      · exact ⟨cause, _, broken, .opened opened⟩
      · exact ⟨cause, _, broken, .repaired opened⟩

/-- A fault breaks an opening off, or does not concern it. -/
theorem openToWrite_failing (s : Settings) (path : String) (remembered : Option Index) (d : Disk)
    (fault : Option Fault) :
    openToWrite s path remembered d fault = openToWrite s path remembered d ∨
    ∃ cause d', openToWrite s path remembered d fault = (.error (.disk cause), d') ∧
      Unfinished s path remembered d d' := by
  cases fault with
  | none => exact .inl rfl
  | some fault =>
    cases fault with
    | making count cause =>
      by_cases create : s.createParents = true
      · exact .inr ⟨cause, _, by simp [openToWrite, create], .making create count⟩
      · left
        simp only [openToWrite, create, if_false, Bool.false_eq_true]
        rfl
    | opening cause =>
      unfold openToWrite
      dsimp only
      cases made : d.prepare s path with
      | mk result d' =>
        have left : d' = (d.prepare s path).2 := by rw [made]
        unfold Disk.prepare at made
        rw [made]
        cases result with
        | error _ => exact .inl rfl
        | ok _ => exact .inr ⟨cause, d', rfl, left ▸ .made⟩
    | examining cause => exact failing_of_examined (.inl rfl)
    | reexamining cause => exact failing_of_examined (.inr rfl)
    | writing | syncing | looking => exact .inl rfl

theorem Unfinished.advances {d' : Disk} (h : Unfinished s path remembered d d') (sound : d.Sound) :
    d.Advances d' ∧ d'.Sound := by
  cases h with
  | making create count =>
    exact ⟨(Disk.extends_makeSomeParents d path count).advances, sound.makeSomeParents path count⟩
  | made => exact ⟨(Disk.extends_prepare s d path).advances, sound.prepare s path⟩
  | opened opened =>
    have advances := sound.advances_openPrepared s path
    have sound' := sound.openPrepared s path
    rw [opened] at advances sound'
    exact ⟨advances, sound'⟩
  | repaired opened =>
    have advances := sound.advances_openPrepared s path
    have sound' := sound.openPrepared s path
    rw [opened] at advances sound'
    exact ⟨advances.trans (advances_repair _ sound'), sound_repair _ sound'⟩

/-- What is left of an opening has the same records at its path as before. -/
theorem Unfinished.intact {history : List Disk} {d' : Disk} (h : Unfinished s path remembered d d')
    (past : Disk.Past history d) (known : ∀ x ∈ remembered, x.Known history s.maxRecordSize.toNat)
    (steady : d.Steady s path) : intact s.maxRecordSize.toNat (d'.bytesAt path) =
      intact s.maxRecordSize.toNat (d.bytesAt path) := by
  rw [← steady.bytesAt past.sound]
  cases h with
  | making create count =>
    rw [steady.bytesAt past.sound, steady.bytesAt_makeSomeParents past.sound create]
  | made => rfl
  | opened opened =>
    have bytes := Disk.bytes_of_openPrepared opened
    have there := Disk.bytesAt?_of_lookup (Disk.lookup_of_openPrepared opened)
    rw [Disk.bytesAt, there, ← bytes]
    rfl
  | repaired opened =>
    rename_i id d'
    have found := Disk.lookup_of_openPrepared opened
    have later := past.sound.openPrepared s path
    have serves := fun x kept => (known x kept).serves
      (past.advance (past.sound.advances_openPrepared s path) later)
    rw [opened] at serves later
    rw [attach_eq serves (Disk.lookup_file_lt later found)]
    obtain ⟨-, -, -, -, stored⟩ := repair_ready (@ready_attach _ s _ _ found .write) later rfl
    rw [Disk.bytesAt, stored, Option.getD_some, Frame.intact_intact]
    exact congrArg _ (Disk.bytes_of_openPrepared opened)

/-! Frames. -/

/-- What a write of a frame can leave that fails. The frame is not whole in the file unless the failure
comes behind it. -/
inductive Failed (c : Connection) (d : Disk) (payload : Payload) :
    Fault → DiskFault → Connection → Disk → Prop
  | nothing {count : Nat} {cause : DiskFault} : Failed c d payload (.writing count cause) cause c d
  | part {count k : Nat} {cause : DiskFault} (short : k < (Frame.encode payload).length) :
      Failed c d payload (.writing count cause) cause c
        (d.append c.file ((Frame.encode payload).take k))
  | unsynced {cause : DiskFault} :
      Failed c d payload (.syncing cause) cause c (d.append c.file (Frame.encode payload))
  | unseen {cause : DiskFault} :
      Failed c d payload (.looking cause) cause
        { c with index := ⟨c.index.offsets ++ [c.index.stop],
          c.index.stop + (Frame.encode payload).length, c.index.seen⟩ }
        (d.append c.file (Frame.encode payload))

/-- A fault keeps a frame from being written, or does not concern it. -/
theorem write_failing (writes : c.mode = .write) (payload : Payload) (fault : Fault) :
    c.write d payload (some fault) = c.write d payload ∨
    Frame.inBounds c.maxRecordSize payload.length = true ∧ ∃ cause c' d',
      c.write d payload (some fault) = (.error (.disk cause), c', d') ∧
        Failed c d payload fault cause c' d' := by
  cases allowed : Frame.inBounds c.maxRecordSize payload.length with
  | false =>
    left
    simp [write, writes, allowed]
  | true =>
    unfold write
    simp only [if_neg (not_not_intro writes), allowed, Bool.not_true, Bool.false_eq_true, if_false,
      true_and]
    cases fault with
    | writing count cause =>
      right
      dsimp only
      split
      · exact ⟨cause, c, d, rfl, .nothing⟩
      · rw [List.dropLast_eq_take, List.take_take]
        have whole := Frame.length_encode payload
        exact ⟨cause, c, _, rfl, .part (by omega)⟩
    | syncing cause =>
      dsimp only
      split
      · exact .inr ⟨cause, c, _, rfl, .unsynced⟩
      · exact .inl rfl
    | looking cause => exact .inr ⟨cause, _, _, rfl, .unseen⟩
    | making | opening | examining | reexamining => exact .inl rfl

/-- The cause of a failure that comes when the frame is in the file. -/
def Fault.late? : Fault → Option DiskFault
  | .syncing cause | .looking cause => some cause
  | _ => none

variable {c' : Connection} {d' : Disk} {payload : Payload} {fault : Fault} {cause : DiskFault}
  {maximum : Nat}

theorem Failed.advances (h : Failed c d payload fault cause c' d') (sound : d.Sound) :
    d.Advances d' ∧ d'.Sound := by
  cases h with
  | nothing => exact ⟨.refl d, sound⟩
  | part | unsynced | unseen => exact ⟨sound.advances_put _ _, sound.put _ _ _⟩

theorem bytesAt?_append (ready : c.Ready d path maximum) (sound : d.Sound) (more : List UInt8) :
    (d.append c.file more).bytesAt? path = some (d.bytes c.file ++ more) := by
  have found : (d.append c.file more).lookup path = .ok (.file c.file) := by
    rw [Disk.append, Disk.lookup_put, ready.found]
  rw [Disk.bytesAt?_of_lookup found]
  exact congrArg some (Disk.bytes_put (ready.there sound) _ false)

/-- A frame that was not written whole adds nothing to the records of the file. -/
theorem Failed.intact (h : Failed c d payload fault cause c' d') (early : fault.late? = none)
    (ready : c.Ready d path maximum) (tight : c.Tight d) (sound : d.Sound)
    (fits : Frame.Fits maximum payload) :
    Frame.intact maximum (d'.bytesAt path) = Frame.intact maximum (d.bytesAt path) := by
  cases h with
  | nothing => rfl
  | part short =>
    have whole := tight.intact ready
    rw [Disk.bytesAt, Disk.bytesAt, bytesAt?_append ready sound, ready.bytesAt?]
    show Frame.intact maximum (d.bytes c.file ++ _) = Frame.intact maximum (d.bytes c.file)
    rw [Frame.intact_append_part whole fits short, whole]
  | unsynced => cases early
  | unseen => cases early

theorem Failed.late (h : Failed c d payload fault cause c' d') :
    fault.late? = none ∨ fault.late? = some cause := by
  cases h with
  | nothing | part => exact .inl rfl
  | unsynced | unseen => exact .inr rfl

theorem Failed.bytesAt? (h : Failed c d payload fault cause c' d') (late : fault.late? ≠ none)
    (ready : c.Ready d path maximum) (sound : d.Sound) :
    d'.bytesAt? path = some (d.bytes c.file ++ Frame.encode payload) := by
  cases h with
  | nothing | part => exact absurd rfl late
  | unsynced | unseen => exact bytesAt?_append ready sound _

end Connection
end EventLog
