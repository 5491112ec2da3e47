import EventLog.Proofs.Connection.Framing
import EventLog.Proofs.FileLog.Binding
import Mathlib.Logic.Function.Basic

/-! Pools: connections that share a disk, indexes that are kept when connections are given up, and
changes of the disk from outside, in any order. A connection that is opened may be handed an index
that was kept. Main statement: along a run, the index of every connection that was never written
through while it was stale describes its file as it was on one of the disks before. -/
namespace EventLog

open Disk (Past)
open EventLog.Frame (Payload Fits join)

namespace Pool

/-- An index that was kept, and what there is to know of its past. -/
structure Kept where
  index : Index
  /-- The maximum that its records were held to. -/
  limit : Nat
  /-- No connection that it was in was written through while it was stale. -/
  careful : Bool
  deriving DecidableEq

/-- A connection, and what there is to know of its past. -/
structure Held where
  connection : Connection
  /-- Its index is from an earlier connection. -/
  inherited : Bool
  limit : Nat
  careful : Bool
  /-- What was accepted, under the numbers that were given out. -/
  accepted : List (Nat × Payload)
  deriving DecidableEq

/-- The disk on which a connection finds its file, before it repairs it. -/
def reach (mode : Mode) (s : Settings) (path : String) (d : Disk) : Disk :=
  match mode with
  | .read => d
  | .write => (d.openPrepared s path).2

/-- The index that a connection takes over: one that was kept of its file as it is. -/
def takenOver (remembered : Option Kept) (d : Disk) (file : Nat) : Option Kept :=
  remembered.filter fun k => k.index.seen = d.fingerprint file

/-- A connection as it is opened on a disk. -/
def Held.opened (c : Connection) (s : Settings) (source : Option Kept) : Held where
  connection := c
  inherited := source.isSome
  limit := (source.map Kept.limit).getD s.maxRecordSize.toNat
  careful := (source.map Kept.careful).getD true
  accepted := []

def connect (mode : Mode) (s : Settings) (path : String) (remembered : Option Kept) (d : Disk) :
    Option Held × Disk :=
  match Connection.openIn mode s path (remembered.map Kept.index) d with
  | (.ok (some c), d') =>
    (some (.opened c s (takenOver remembered (reach mode s path d) c.file)), d')
  | (_, d') => (none, d')

namespace Held

def append (h : Held) (d : Disk) (payload : Payload) : Held × Disk :=
  match h.connection.append d payload with
  | .error _ => (h, d)
  | .ok (number, c, d') =>
    ({ h with
        connection := c
        limit := max h.limit c.maxRecordSize
        careful := h.careful && !h.connection.isStale d
        accepted := h.accepted ++ [(number, payload)] }, d')

def release (h : Held) : Kept := ⟨h.connection.index, h.limit, h.careful⟩

end Held

/-- What is done with connections and indexes, both by their names, or to the disk. -/
inductive Action (ι : Type)
  /-- The second name is that of an index to start from. -/
  | connect (i : ι) (mode : Mode) (s : Settings) (path : String) (x : Option ι)
  | read (i : ι) (codec : Codec) (number : Nat)
  | visit (i : ι) (codec : Codec) (first last : Nat)
  | append (i : ι) (payload : Payload)
  | flush (i : ι)
  | release (i x : ι)
  | edit (e : Disk.Edit)

end Pool

structure Pool (ι : Type) where
  disk : Disk
  held : ι → Option Pool.Held
  kept : ι → Option Pool.Kept

namespace Pool

variable {ι : Type} [DecidableEq ι]

def start (ι : Type) (d : Disk) : Pool ι := ⟨d, fun _ => none, fun _ => none⟩

/-- Reading and visiting leave all as it is, and so does flushing, as nothing is held back. -/
def step (p : Pool ι) : Action ι → Pool ι
  | .connect i mode s path x =>
    let (h, d) := Pool.connect mode s path (x.bind p.kept) p.disk
    { p with disk := d, held := Function.update p.held i h }
  | .append i payload =>
    match p.held i with
    | none => p
    | some h =>
      let (h, d) := h.append p.disk payload
      { p with disk := d, held := Function.update p.held i (some h) }
  | .release i x =>
    match p.held i with
    | none => p
    | some h =>
      { p with
        held := Function.update p.held i none
        kept := Function.update p.kept x (some h.release) }
  | .edit e => { p with disk := (p.disk.edit e).2 }
  | .read .. | .visit .. | .flush _ => p

def run (p : Pool ι) (actions : List (Action ι)) : Pool ι := actions.foldl step p

/-- Along the run a length and a stamp stand for one file with the same bytes. -/
def Honest (p : Pool ι) (actions : List (Action ι)) : Prop :=
  Disk.AgreesAlong step disk p actions

/-! What is known of a file. -/

/-- The index describes the file on this disk, and the payloads that were accepted are in it. -/
structure Held.Describes (h : Held) (d : Disk) : Prop where
  there : h.connection.file < d.files.length
  index : h.connection.index = .ofFile h.limit (d.file h.connection.file)
  tight : h.connection.mode = .write → h.connection.Tight d
  accepted : ∀ e ∈ h.accepted,
    (Frame.split h.limit (d.bytes h.connection.file)).1[e.1]? = some e.2

/-- A connection that was used with care describes its file as it was on one of these disks. -/
structure Held.Grounded (history : List Disk) (h : Held) : Prop where
  word : h.connection.maxRecordSize < 0x100000000
  own : h.inherited = false → h.limit = h.connection.maxRecordSize
  known : h.careful = true → ∃ p ∈ history, h.Describes p

def Kept.Grounded (history : List Disk) (k : Kept) : Prop :=
  k.careful = true → k.index.Known history k.limit

variable {history : List Disk} {h : Held} {d d' : Disk}

theorem Held.Grounded.mono {later : List Disk} (h' : h.Grounded history) (more : history ⊆ later) :
    h.Grounded later where
  word := h'.word
  own := h'.own
  known careful := by
    obtain ⟨p, before, describes⟩ := h'.known careful
    exact ⟨p, more before, describes⟩

theorem Kept.Grounded.mono {k : Kept} {later : List Disk} (h : k.Grounded history)
    (more : history ⊆ later) : k.Grounded later := fun careful => (h careful).mono more

theorem Held.Grounded.release (h' : h.Grounded history) : h.release.Grounded history := by
  intro careful
  obtain ⟨p, before, describes⟩ := h'.known careful
  exact .inl ⟨p, before, h.connection.file, describes.there, describes.index⟩

/-- A connection that was used with care and is not stale describes the file at its path. -/
theorem Held.Grounded.describes (h' : h.Grounded history) (past : Past history d)
    (careful : h.careful = true) (fresh : h.connection.isStale d = false) :
    d.lookup h.connection.path = .ok (.file h.connection.file) ∧ h.Describes d := by
  obtain ⟨p, before, there, index, tight, accepted⟩ := h'.known careful
  obtain ⟨found, file⟩ := Connection.found_of_fresh past before there (by rw [index]; rfl) fresh
  have bytes : p.bytes h.connection.file = d.bytes h.connection.file := congrArg File.bytes file
  refine ⟨found, Disk.lookup_file_lt past.sound found, file ▸ index, fun writes => ?_, ?_⟩
  · exact ⟨writes, bytes ▸ (tight writes).stop⟩
  · rwa [← bytes]

/-! Appending. -/

theorem fits_of_le {limit limit' : Nat} {p : Payload} (fits : Fits limit p) (le : limit ≤ limit') :
    Fits limit' p := by
  simp only [Fits, Frame.inBounds, Bool.and_eq_true, decide_eq_true_eq] at fits ⊢
  omega

/-- A file of frames is the same to whoever allows longer ones. -/
theorem Held.Describes.split (h' : h.Describes d) (writes : h.connection.mode = .write)
    {limit : Nat} (le : h.limit ≤ limit) :
    Frame.split limit (d.bytes h.connection.file) =
      ((Frame.split h.limit (d.bytes h.connection.file)).1, []) := by
  have row := Index.bytes_of_stop (h'.index ▸ (h'.tight writes).stop)
  conv_lhs => rw [row]
  exact Frame.split_join fun p inside => fits_of_le (Frame.fits_of_mem_split inside) le

/-- What was accepted is one more frame, and the index has it. -/
theorem Held.Describes.append (h' : h.Describes d)
    (word : h.connection.maxRecordSize < 0x100000000) {payload : Payload}
    (writes : h.connection.mode = .write)
    (allowed : Frame.inBounds h.connection.maxRecordSize payload.length = true) :
    (h.append d payload).1.Describes (h.append d payload).2 := by
  have lower : h.limit ≤ max h.limit h.connection.maxRecordSize := Nat.le_max_left _ _
  have fits : Fits (max h.limit h.connection.maxRecordSize) payload := by
    refine fits_of_le ⟨allowed, ?_⟩ (Nat.le_max_right _ _)
    simp only [Frame.inBounds, Bool.and_eq_true, decide_eq_true_eq] at allowed
    omega
  have split := h'.split writes lower
  have index : h.connection.index =
      .ofFile (max h.limit h.connection.maxRecordSize) (d.file h.connection.file) := by
    rw [h'.index, Index.ofFile_eq, Index.ofFile_eq,
      show (d.file h.connection.file).bytes = d.bytes h.connection.file from rfl, split]
  have tight := h'.tight writes
  have whole := index ▸ tight.stop
  have parts := Index.split_append h'.there whole fits
  have size : h.connection.size =
      (Frame.split h.limit (d.bytes h.connection.file)).1.length := by
    rw [Connection.size, h'.index, Index.size_ofFile]
    rfl
  rw [split] at parts
  unfold Held.append
  rw [Connection.append_eq index tight h'.there fits allowed]
  refine ⟨?_, rfl, fun _ => ⟨writes, ?_⟩, fun e inside => ?_⟩
  · simpa [Disk.append] using h'.there
  · show (Index.ofFile _ _).stop = _
    rw [Index.ofFile_append h'.there whole fits, Disk.append, Disk.bytes_put h'.there,
      List.length_append, whole]
  · show (Frame.split _ ((d.append h.connection.file (Frame.encode payload)).bytes _)).1[e.1]? = _
    rw [parts]
    rcases List.mem_append.1 inside with old | new
    · have before := h'.accepted e old
      obtain ⟨short, -⟩ := List.getElem?_eq_some_iff.1 before
      rw [List.getElem?_append_left short, before]
    · rw [List.mem_singleton.1 new]
      simp [size]

theorem Held.Grounded.append (h' : h.Grounded history) (past : Past history d)
    (payload : Payload) :
    (h.append d payload).1.Grounded ((h.append d payload).2 :: history) ∧
      d.Advances (h.append d payload).2 ∧ (h.append d payload).2.Sound := by
  rcases h.connection.append_cases d payload with ⟨failure, refused⟩ |
      ⟨writes, allowed, index, accepted⟩
  · have same : h.append d payload = (h, d) := by
      unfold Held.append
      rw [refused]
    rw [same]
    exact ⟨h'.mono (List.subset_cons_self d history), .refl d, past.sound⟩
  · have describes := fun careful fresh =>
      (h'.describes past careful fresh).2.append h'.word writes allowed
    unfold Held.append at describes ⊢
    rw [accepted] at describes ⊢
    refine ⟨⟨h'.word, fun own => ?_, fun careful => ?_⟩, past.sound.advances_put _ _,
      past.sound.put _ _ _⟩
    · have limit : h.limit = h.connection.maxRecordSize := h'.own own
      simp [limit]
    · have both : h.careful = true ∧ h.connection.isStale d = false := by simpa using careful
      exact ⟨_, List.mem_cons_self, describes both.1 both.2⟩

/-! Opening. -/

variable {remembered : Option Kept} {s : Settings} {path : String} {mode : Mode} {id : Nat}

/-- A connection that was just attached knows its file, from its own look or an earlier one. -/
theorem index_attach (past : Past history d) (known : ∀ k ∈ remembered, k.Grounded history)
    (there : id < d.files.length)
    (careful : (Held.opened (.attach s path mode (remembered.map Kept.index) d id) s
      (takenOver remembered d id)).careful = true) :
    (Connection.attach s path mode (remembered.map Kept.index) d id).index =
      .ofFile (Held.opened (.attach s path mode (remembered.map Kept.index) d id) s
        (takenOver remembered d id)).limit (d.file id) := by
  cases remembered with
  | none => rfl
  | some k =>
    by_cases seen : k.index.seen = d.fingerprint id
    · have taken : takenOver (some k) d id = some k := by simp [takenOver, seen]
      rw [taken] at careful ⊢
      simp only [Connection.attach, Connection.indexFor, Option.map_some, if_pos seen]
      exact (known k rfl careful).serves past id there seen
    · have own : takenOver (some k) d id = none := by simp [takenOver, seen]
      rw [own]
      simp only [Connection.attach, Connection.indexFor, Option.map_some, if_neg seen]
      rfl

theorem own_opened (c : Connection) (s : Settings) (source : Option Kept)
    (limit : c.maxRecordSize = s.maxRecordSize.toNat) :
    (Held.opened c s source).inherited = false →
      (Held.opened c s source).limit = (Held.opened c s source).connection.maxRecordSize := by
  intro own
  cases source with
  | none => exact limit.symm
  | some k => cases own

theorem connect_read (s : Settings) (path : String) (remembered : Option Kept) (d : Disk) :
    connect .read s path remembered d = match d.lookup path with
      | .ok (.file id) =>
        (some (.opened (.attach s path .read (remembered.map Kept.index) d id) s
          (takenOver remembered d id)), d)
      | _ => (none, d) := by
  unfold connect Connection.openIn Connection.openToRead
  cases d.lookup path with
  | error fault => cases fault <;> rfl
  | ok e => cases e <;> rfl

theorem connect_write (s : Settings) (path : String) (remembered : Option Kept) (d : Disk) :
    connect .write s path remembered d = match d.openPrepared s path with
      | (.error _, d) => (none, d)
      | (.ok id, d) =>
        let c := Connection.attach s path .write (remembered.map Kept.index) d id
        (some (.opened (c.repair d).1 s (takenOver remembered d id)), (c.repair d).2) := by
  unfold connect
  simp only [Connection.openIn, Connection.openToWrite_eq_repair, reach]
  cases d.openPrepared s path with
  | mk result d' =>
    cases result with
    | error fault => rfl
    | ok id => simp [Except.map, Connection.attach]

/-- A writer that repairs its file describes what is left of it. -/
theorem describes_repair {c : Connection} {source : Option Kept} (there : c.file < d.files.length)
    (writes : c.mode = .write)
    (index : c.index = .ofFile (Held.opened c s source).limit (d.file c.file)) :
    (Held.opened (c.repair d).1 s source).Describes (c.repair d).2 := by
  rw [Connection.repair_eq index]
  refine ⟨by simpa [Held.opened] using there, rfl, fun _ => ⟨writes, ?_⟩, ?_⟩
  · show (Index.ofFile _ ((d.repaired _ c.file).file c.file)).stop = _
    rw [Index.ofFile_repaired, Index.ofFile_eq]
    exact congrArg List.length (Disk.bytes_repaired d _ c.file).symm
  · intro e inside
    cases inside

theorem grounded_connect (past : Past history d) (known : ∀ k ∈ remembered, k.Grounded history)
    (mode : Mode) (s : Settings) (path : String) :
    (∀ h, (connect mode s path remembered d).1 = some h →
        h.Grounded ((connect mode s path remembered d).2 :: history)) ∧
      d.Advances (connect mode s path remembered d).2 ∧
      (connect mode s path remembered d).2.Sound := by
  have word := s.maxRecordSize.toNat_lt
  cases mode with
  | read =>
    rw [connect_read]
    split
    · rename_i id found
      have there := Disk.lookup_file_lt past.sound found
      refine ⟨?_, .refl d, past.sound⟩
      rintro h ⟨⟩
      refine ⟨word, own_opened _ s _ rfl, fun careful => ⟨d, by simp, there, ?_, ?_, ?_⟩⟩
      · exact index_attach past known there careful
      · intro writes
        cases writes
      · intro e inside
        cases inside
    · exact ⟨fun h none => (by cases none), .refl d, past.sound⟩
  | write =>
    have advances := past.sound.advances_openPrepared s path
    have sound := past.sound.openPrepared s path
    have later := past.advance advances sound
    rw [connect_write]
    split
    · rename_i fault d₁ opened
      rw [opened] at advances sound
      exact ⟨fun h none => (by cases none), advances, sound⟩
    · rename_i id d₁ opened
      rw [opened] at advances sound later
      have there := Disk.lookup_file_lt sound (Disk.lookup_of_openPrepared opened)
      refine ⟨?_, advances.trans (Connection.advances_repair _ sound),
        Connection.sound_repair _ sound⟩
      intro h held
      cases held
      have limit := Connection.maxRecordSize_repair
        (.attach s path .write (remembered.map Kept.index) d₁ id) d₁
      refine ⟨?_, own_opened _ s _ limit, fun careful =>
        ⟨_, List.mem_cons_self, describes_repair there rfl ?_⟩⟩
      · exact lt_of_eq_of_lt limit word
      · exact index_attach later known there careful

/-! Runs. -/

section Runs

variable {ι : Type} {p : Pool ι}

/-- Nothing in the pool knows more than what was on these disks, the last of which is there now. -/
structure Grounded (history : List Disk) (p : Pool ι) : Prop where
  past : Past history p.disk
  now : p.disk ∈ history
  held : ∀ i h, p.held i = some h → h.Grounded history
  kept : ∀ x k, p.kept x = some k → k.Grounded history

theorem grounded_start (ι : Type) (sound : d.Sound) (distinct : d.Distinct) :
    (start ι d).Grounded [d] where
  past := (sound.past distinct).cons
  now := by simp [start]
  held i h none := by cases none
  kept x k none := by cases none

theorem Grounded.named (h : p.Grounded history) (x : Option ι) :
    ∀ k ∈ x.bind p.kept, k.Grounded history := by
  intro k there
  obtain ⟨y, -, there⟩ := Option.bind_eq_some_iff.1 there
  exact h.kept y k there

variable [DecidableEq ι]

/-- What is done through connections cannot be mistaken for anything before. -/
theorem Grounded.advances (h : p.Grounded history) (a : Action ι)
    (fresh : ∀ e, a = .edit e → e.keeps = false) :
    p.disk.Advances (p.step a).disk ∧ (p.step a).disk.Sound := by
  cases a with
  | connect i mode s path x => exact (grounded_connect h.past (h.named x) mode s path).2
  | append i payload =>
    simp only [step]
    split
    · exact ⟨.refl _, h.past.sound⟩
    · rename_i c held
      exact ((h.held i c held).append h.past payload).2
  | release i x =>
    simp only [step]
    split <;> exact ⟨.refl _, h.past.sound⟩
  | edit e => exact ⟨h.past.sound.advances_edit (fresh e rfl), h.past.sound.edit e⟩
  | read | visit | flush => exact ⟨.refl _, h.past.sound⟩

/-- Connections and indexes that were there before know what they knew; one that was used knows the
disk that it left. -/
theorem Grounded.step_held (h : p.Grounded history) (a : Action ι) (i : ι) (c : Held)
    (held : (p.step a).held i = some c) : c.Grounded ((p.step a).disk :: history) := by
  have others := fun d j c held => (h.held j c held).mono (List.subset_cons_self d history)
  cases a with
  | connect j mode s path x =>
    have opened := (grounded_connect h.past (h.named x) mode s path).1
    by_cases same : i = j
    · subst same
      exact opened c (by simpa [step] using held)
    · exact others _ i c (by simpa [step, same] using held)
  | append j payload =>
    simp only [step] at held ⊢
    split at held
    · exact others _ i c held
    · rename_i b before
      by_cases same : i = j
      · subst same
        have now : (b.append p.disk payload).1 = c := by simpa using held
        rw [← now]
        exact ((h.held i b before).append h.past payload).1
      · exact others _ i c (by simpa [same] using held)
  | release j x =>
    simp only [step] at held ⊢
    split at held
    · exact others _ i c held
    · by_cases same : i = j
      · simp [same] at held
      · exact others _ i c (by simpa [same] using held)
  | edit | read | visit | flush => exact others _ i c held

theorem Grounded.step_kept (h : p.Grounded history) (a : Action ι) (x : ι) (k : Kept)
    (kept : (p.step a).kept x = some k) : k.Grounded ((p.step a).disk :: history) := by
  have others := fun d y k kept => (h.kept y k kept).mono (List.subset_cons_self d history)
  cases a with
  | release i y =>
    simp only [step] at kept ⊢
    split at kept
    · exact others _ x k kept
    · rename_i c held
      by_cases same : x = y
      · subst same
        have now : c.release = k := by simpa using kept
        rw [← now]
        exact ((h.held i c held).mono (List.subset_cons_self _ history)).release
      · exact others _ x k (by simpa [same] using kept)
  | append i payload =>
    simp only [step] at kept ⊢
    split at kept <;> exact others _ x k kept
  | connect | edit | read | visit | flush => exact others _ x k kept

theorem Grounded.step (h : p.Grounded history) (a : Action ι)
    (agrees : ∀ q ∈ (p.step a).disk :: history, q.Agrees (p.step a).disk) :
    (p.step a).Grounded ((p.step a).disk :: history) where
  past := by
    by_cases outside : ∃ e, a = .edit e
    · obtain ⟨e, rfl⟩ := outside
      exact (h.past.evolve (h.past.sound.evolves_edit e) (h.past.sound.edit e) agrees).cons
    · have advances := h.advances a fun e same => absurd ⟨e, same⟩ outside
      exact (h.past.advance advances.1 advances.2).cons
  now := List.mem_cons_self
  held := h.step_held a
  kept := h.step_kept a

/-- From a start on, an honest run leaves a pool that knows no more than what was on its disks. -/
theorem grounded_run (sound : d.Sound) {actions : List (Action ι)}
    (honest : (start ι d).Honest actions) : ∃ history, ((start ι d).run actions).Grounded history :=
  ⟨_, Disk.knows_of_agree (grounded_start ι sound (Disk.AgreesAlong.distinct step disk honest))
    (fun _ _ a grounded => grounded.step a) honest⟩

/-- Runs in which no edit gives a stamp that was seen are honest. -/
theorem honest_of_fresh (sound : d.Sound) (distinct : d.Distinct) {actions : List (Action ι)}
    (fresh : ∀ e, .edit e ∈ actions → e.keeps = false) : (start ι d).Honest actions :=
  Disk.agree_of_advances (grounded_start ι sound distinct) (fun _ _ a grounded => grounded.step a)
    (fun _ _ grounded => grounded.past) fun _ _ grounded a inside =>
      grounded.advances a fun e edits => fresh e (edits ▸ inside)

end Runs

end Pool
end EventLog
