import EventLog.Proofs.Connection.Opening

/-! Writing through a connection. A writer first cuts off what follows the last complete record, and
from then on its index, the file and the bytes at its end go together. Main statement: a record that
is accepted is one more frame behind those of the file. -/
namespace EventLog

open EventLog.Frame (Payload Fits join intact)

namespace Frame

theorem offsets_append (position : Nat) (earlier later : List Payload) :
    offsets position (earlier ++ later) =
      offsets position earlier ++ offsets (position + (join earlier).length) later := by
  induction earlier generalizing position with
  | nil => simp [offsets]
  | cons payload earlier ih =>
    simp only [List.cons_append, offsets, ih, join_cons, List.length_append, Nat.add_assoc]

end Frame

/-! Repair. -/

namespace Disk

/-- A file without what follows its last complete frame. -/
def repaired (d : Disk) (maximum id : Nat) : Disk :=
  if (Frame.split maximum (d.bytes id)).2 = [] then d else d.put id (intact maximum (d.bytes id))

variable (d : Disk) (maximum id : Nat)

@[simp] theorem lookup_repaired (path : String) :
    (d.repaired maximum id).lookup path = d.lookup path := by
  unfold repaired
  split
  · rfl
  · exact lookup_put d id _ false path

@[simp] theorem length_repaired : (d.repaired maximum id).files.length = d.files.length := by
  unfold repaired
  split <;> simp

theorem bytes_repaired : (d.repaired maximum id).bytes id = intact maximum (d.bytes id) := by
  have row := Frame.join_split maximum (d.bytes id)
  unfold repaired
  split
  · rename_i whole
    rw [whole, List.append_nil] at row
    exact row.symm
  · rename_i torn
    rcases Nat.lt_or_ge id d.files.length with there | beyond
    · exact bytes_put there _ false
    · rw [bytes_of_beyond beyond, Frame.split_of_damage rfl] at torn
      exact absurd rfl torn

theorem split_repaired : Frame.split maximum ((d.repaired maximum id).bytes id) =
    ((Frame.split maximum (d.bytes id)).1, []) := by
  rw [bytes_repaired, Frame.split_intact]

theorem repaired_repaired :
    (d.repaired maximum id).repaired maximum id = d.repaired maximum id := by
  rw [repaired, split_repaired, if_pos rfl]

end Disk

namespace Index

/-- An index says where the frames of a file are, and no more. -/
theorem ofFile_eq (maximum : Nat) (file : File) : ofFile maximum file =
    ⟨Frame.offsets 0 (Frame.split maximum file.bytes).1,
      (join (Frame.split maximum file.bytes).1).length, file.fingerprint⟩ := by
  rw [← intact, Frame.length_intact]
  rfl

variable {d : Disk} {maximum id : Nat}

/-- The index of a file goes on serving once the file is repaired. -/
theorem ofFile_repaired (d : Disk) (maximum id : Nat) :
    ofFile maximum ((d.repaired maximum id).file id) =
      { ofFile maximum (d.file id) with seen := (d.repaired maximum id).fingerprint id } := by
  have parts : Frame.split maximum ((d.repaired maximum id).file id).bytes =
      ((Frame.split maximum (d.bytes id)).1, []) := d.split_repaired maximum id
  rw [ofFile_eq, ofFile_eq, parts]
  rfl

/-- Something follows the last complete frame of a file. -/
theorem stop_ofFile_lt_iff : (ofFile maximum (d.file id)).stop < (d.bytes id).length ↔
    (Frame.split maximum (d.bytes id)).2 ≠ [] := by
  have lengths := congrArg List.length (Frame.join_split maximum (d.bytes id))
  rw [List.length_append] at lengths
  rw [ofFile_eq, ← List.length_pos_iff, ← lengths]
  exact Nat.lt_add_right_iff_pos

theorem cut_stop_ofFile (torn : (Frame.split maximum (d.bytes id)).2 ≠ []) :
    d.cut id (ofFile maximum (d.file id)).stop = d.repaired maximum id := by
  have stop : (ofFile maximum (d.file id)).stop = (intact maximum (d.bytes id)).length := by
    rw [ofFile_eq]
    rfl
  rw [stop, Disk.cut, Frame.take_intact]
  exact (if_neg torn).symm

/-- Nothing follows the last complete frame of a file. -/
theorem split_of_stop (whole : (ofFile maximum (d.file id)).stop = (d.bytes id).length) :
    (Frame.split maximum (d.bytes id)).2 = [] := by
  by_cases torn : (Frame.split maximum (d.bytes id)).2 = []
  · exact torn
  · exact absurd whole (Nat.ne_of_lt (stop_ofFile_lt_iff.2 torn))

theorem bytes_of_stop (whole : (ofFile maximum (d.file id)).stop = (d.bytes id).length) :
    d.bytes id = join (Frame.split maximum (d.bytes id)).1 := by
  have row := Frame.join_split maximum (d.bytes id)
  rw [split_of_stop whole, List.append_nil] at row
  exact row.symm

/-- A frame behind the last one of a file that ends with it. -/
theorem split_append (there : id < d.files.length)
    (whole : (ofFile maximum (d.file id)).stop = (d.bytes id).length) {payload : Payload}
    (fits : Fits maximum payload) :
    Frame.split maximum ((d.append id (Frame.encode payload)).bytes id) =
      ((Frame.split maximum (d.bytes id)).1 ++ [payload], []) := by
  have row : (d.append id (Frame.encode payload)).bytes id =
      join ((Frame.split maximum (d.bytes id)).1 ++ [payload]) := by
    rw [Disk.append, Disk.bytes_put there, Frame.join_append, ← bytes_of_stop whole]
    simp
  rw [row]
  refine Frame.split_join fun p inside => ?_
  rcases List.mem_append.1 inside with old | new
  · exact Frame.fits_of_mem_split old
  · rw [List.mem_singleton.1 new]
    exact fits

theorem ofFile_append (there : id < d.files.length)
    (whole : (ofFile maximum (d.file id)).stop = (d.bytes id).length) {payload : Payload}
    (fits : Fits maximum payload) :
    ofFile maximum ((d.append id (Frame.encode payload)).file id) =
      ⟨(ofFile maximum (d.file id)).offsets ++ [(ofFile maximum (d.file id)).stop],
        (ofFile maximum (d.file id)).stop + (Frame.encode payload).length,
        (d.append id (Frame.encode payload)).fingerprint id⟩ := by
  have parts : Frame.split maximum ((d.append id (Frame.encode payload)).file id).bytes =
      ((Frame.split maximum (d.bytes id)).1 ++ [payload], []) := split_append there whole fits
  rw [ofFile_eq, ofFile_eq, parts]
  simp [Frame.offsets_append, Frame.offsets, Disk.bytes, Disk.fingerprint]

end Index

namespace Connection

open Disk (Past)

/-- The connection writes, and nothing follows the last complete record of its file. -/
structure Tight (c : Connection) (d : Disk) : Prop where
  writes : c.mode = .write
  stop : c.index.stop = (d.bytes c.file).length

variable {c : Connection} {d : Disk} {s : Settings} {path : String} {maximum : Nat}

/-- A file that is all records is its own intact part. -/
theorem Tight.intact (h : c.Ready d path maximum) (tight : c.Tight d) :
    Frame.intact maximum (d.bytes c.file) = d.bytes c.file := by
  have length : (Frame.intact maximum (d.bytes c.file)).length = (d.bytes c.file).length :=
    h.stop.symm.trans tight.stop
  exact (Frame.isIntact_intact maximum (d.bytes c.file)).starts.eq_of_length length

/-- A writer that knows its file repairs it and knows it again. -/
theorem repair_eq (index : c.index = .ofFile maximum (d.file c.file)) : c.repair d =
    ({ c with index := .ofFile maximum ((d.repaired maximum c.file).file c.file) },
      d.repaired maximum c.file) := by
  unfold repair
  rw [index]
  by_cases torn : (Frame.split maximum (d.bytes c.file)).2 = []
  · have same : d.repaired maximum c.file = d := if_pos torn
    rw [if_neg (mt Index.stop_ofFile_lt_iff.1 (not_not_intro torn)), same, ← index]
  · rw [if_pos (Index.stop_ofFile_lt_iff.2 torn), Index.cut_stop_ofFile torn,
      Index.ofFile_repaired]

/-! Whatever a writer knows of its file. -/

@[simp] theorem path_repair (c : Connection) (d : Disk) : (c.repair d).1.path = c.path := by
  unfold repair
  split <;> rfl

@[simp] theorem mode_repair (c : Connection) (d : Disk) : (c.repair d).1.mode = c.mode := by
  unfold repair
  split <;> rfl

@[simp] theorem file_repair (c : Connection) (d : Disk) : (c.repair d).1.file = c.file := by
  unfold repair
  split <;> rfl

@[simp] theorem maxRecordSize_repair (c : Connection) (d : Disk) :
    (c.repair d).1.maxRecordSize = c.maxRecordSize := by
  unfold repair
  split <;> rfl

theorem advances_repair (c : Connection) (sound : d.Sound) : d.Advances (c.repair d).2 := by
  unfold repair
  split
  · exact sound.advances_put c.file _
  · exact .refl d

theorem sound_repair (c : Connection) (sound : d.Sound) : (c.repair d).2.Sound := by
  unfold repair
  split
  · exact sound.put c.file _ false
  · exact sound

/-- Cutting off damage leaves the records and a writer that knows them. -/
theorem repair_ready (h : c.Ready d path maximum) (sound : d.Sound) (writes : c.mode = .write) :
    (c.repair d).1.Ready (c.repair d).2 path maximum ∧ (c.repair d).1.Tight (c.repair d).2 ∧
      d.Advances (c.repair d).2 ∧ (c.repair d).2.Sound ∧
      (c.repair d).2.bytesAt? path = some (intact maximum (d.bytes c.file)) := by
  have found : (d.repaired maximum c.file).lookup path = .ok (.file c.file) := by
    rw [Disk.lookup_repaired, h.found]
  have advances := c.advances_repair sound
  have sound' := c.sound_repair sound
  rw [repair_eq h.index] at advances sound' ⊢
  refine ⟨⟨h.named, h.limit, found, ?_⟩, ⟨writes, ?_⟩, advances, sound', ?_⟩
  · rw [← h.limit]
    rfl
  · show (Index.ofFile maximum ((d.repaired maximum c.file).file c.file)).stop = _
    rw [Index.ofFile_repaired, Index.ofFile_eq, Disk.bytes_repaired]
    rfl
  · rw [Disk.bytesAt?_of_lookup found, Disk.bytes_repaired]

/-- A writer is opened whenever its path can be opened, and stands behind the intact part of what
was there. -/
theorem openToWrite_cases {history : List Disk} {remembered : Option Index} (past : Past history d)
    (known : ∀ x ∈ remembered, x.Known history s.maxRecordSize.toNat) :
    (∃ fault d', d.openPrepared s path = (.error fault, d') ∧
      openToWrite s path remembered d = (.error (.disk fault), d')) ∨
    ∃ id d₁ c d', d.openPrepared s path = (.ok id, d₁) ∧
      openToWrite s path remembered d = (.ok c, d') ∧
      c.Ready d' path s.maxRecordSize.toNat ∧ c.Tight d' ∧ d.Advances d' ∧ d'.Sound ∧
      d'.bytesAt? path = some
        (intact s.maxRecordSize.toNat ((d.prepare s path).2.bytesAt path)) := by
  rw [openToWrite_of_known past known, openToWrite_eq_repair]
  have advances := past.sound.advances_openPrepared s path
  have sound := past.sound.openPrepared s path
  cases opened : d.openPrepared s path with
  | mk result d₁ =>
    rw [opened] at advances sound
    cases result with
    | error fault => exact .inl ⟨fault, d₁, rfl, rfl⟩
    | ok id =>
      have found := Disk.lookup_of_openPrepared opened
      have bytes := Disk.bytes_of_openPrepared opened
      obtain ⟨ready, tight, later, sound', stored⟩ :=
        repair_ready (@ready_attach _ s _ _ found .write) sound rfl
      rw [← bytes]
      exact .inr ⟨id, d₁, _, _, rfl, rfl, ready, tight, advances.trans later, sound', stored⟩

/-- A record of a length that is not allowed is refused. -/
theorem append_refused (writes : c.mode = .write) {payload : Payload}
    (length : Frame.inBounds c.maxRecordSize payload.length = false) :
    c.append d payload = .error (.tooLarge payload.length c.maxRecordSize) := by
  simp [append, write, writes, length]

/-- Only a writer accepts a record, and puts it behind all that its file holds. -/
theorem append_cases (c : Connection) (d : Disk) (payload : Payload) :
    (∃ failure, c.append d payload = .error failure) ∨
      c.mode = .write ∧ Frame.inBounds c.maxRecordSize payload.length = true ∧ ∃ index,
        c.append d payload =
          .ok (c.size, { c with index }, d.append c.file (Frame.encode payload)) := by
  unfold append write
  by_cases writes : c.mode = .write
  · cases allowed : Frame.inBounds c.maxRecordSize payload.length with
    | false => simp [writes]
    | true => simp [writes]
  · simp [writes]

theorem eq_of_append {payload : Payload} {number : Nat} {c' : Connection} {d' : Disk}
    (h : c.append d payload = .ok (number, c', d')) :
    Frame.inBounds c.maxRecordSize payload.length = true ∧ (∃ index, c' = { c with index }) ∧
      d' = d.append c.file (Frame.encode payload) := by
  rcases c.append_cases d payload with ⟨failure, refused⟩ | ⟨-, allowed, index, accepted⟩
  · rw [refused] at h
    cases h
  · rw [accepted] at h
    cases h
    exact ⟨allowed, ⟨index, rfl⟩, rfl⟩

/-- Without a fault, what refuses a record leaves all as it is. -/
theorem write_eq_append (c : Connection) (d : Disk) (payload : Payload) :
    c.write d payload = match c.append d payload with
      | .error failure => (.error failure, c, d)
      | .ok (number, c, d) => (.ok number, c, d) := by
  unfold append write
  by_cases writes : c.mode = .write
  · cases allowed : Frame.inBounds c.maxRecordSize payload.length with
    | false => simp [writes]
    | true => simp [writes]
  · simp [writes]

/-- A writer that knows a file of frames knows it again when a frame was added. -/
theorem append_eq (index : c.index = .ofFile maximum (d.file c.file)) (tight : c.Tight d)
    (there : c.file < d.files.length) {payload : Payload} (fits : Fits maximum payload)
    (allowed : Frame.inBounds c.maxRecordSize payload.length = true) :
    c.append d payload = .ok (c.size,
      { c with index := .ofFile maximum ((d.append c.file (Frame.encode payload)).file c.file) },
      d.append c.file (Frame.encode payload)) := by
  have whole : (Index.ofFile maximum (d.file c.file)).stop = (d.bytes c.file).length :=
    index ▸ tight.stop
  rw [Index.ofFile_append there whole fits, ← index]
  simp [append, write, tight.writes, allowed]

/-- An accepted record is one more frame at the end of the file. -/
theorem append_ready (h : c.Ready d path maximum) (tight : c.Tight d) (sound : d.Sound)
    {payload : Payload} (fits : Fits maximum payload) : ∃ c' d',
      c.append d payload = .ok (c.size, c', d') ∧ c'.Ready d' path maximum ∧ c'.Tight d' ∧
        d.Advances d' ∧ d'.Sound ∧
        d'.bytesAt? path = some (d.bytes c.file ++ Frame.encode payload) := by
  have there := h.there sound
  have whole : (Index.ofFile maximum (d.file c.file)).stop = (d.bytes c.file).length :=
    h.index ▸ tight.stop
  have bytes : (d.append c.file (Frame.encode payload)).bytes c.file =
      d.bytes c.file ++ Frame.encode payload := Disk.bytes_put there _ false
  have found : (d.append c.file (Frame.encode payload)).lookup path = .ok (.file c.file) := by
    rw [Disk.append, Disk.lookup_put, h.found]
  refine ⟨_, _, append_eq h.index tight there fits (h.limit ▸ fits.1), ⟨h.named, h.limit, found, ?_⟩,
    ⟨tight.writes, ?_⟩, sound.advances_put _ _, sound.put _ _ _, ?_⟩
  · rw [← h.limit]
    rfl
  · show (Index.ofFile maximum ((d.append c.file (Frame.encode payload)).file c.file)).stop = _
    rw [Index.ofFile_append there whole fits, bytes, List.length_append, whole]
  · rw [Disk.bytesAt?_of_lookup found, bytes]

end Connection
end EventLog
