import EventLog.Proofs.Pool.Answers

/-! Indexes that are used again. An index is recognised by a fingerprint of its file, which says
neither which lengths were allowed when it was made nor whether its connections were stale when they
were written through. Main statement: as long as neither matters, a connection that starts from a
kept index is the one that goes through the file. -/
namespace EventLog

open Disk (Past)

/-- An index from under another maximum serves as well, over a file whose frames are the same under
both. -/
theorem Index.Known.serves_under {history : List Disk} {limit maximum : Nat} {x : Index} {d d' : Disk}
    (h : x.Known history limit) (past : Past history d) (advances : d.Advances d') (sound : d'.Sound)
    (alike : ∀ id < d.files.length, x.seen = d.fingerprint id →
      (Frame.split limit (d.bytes id)).1 = (Frame.split maximum (d.bytes id)).1) :
    x.Serves maximum d' := by
  intro id there seen
  have later := past.advance advances sound
  have index := h.serves later id there seen
  have was : id < d.files.length ∧ d'.file id = d.file id := by
    rcases h with ⟨p, before, i, inside, made⟩ | ruled
    · have same : p.fingerprint i = d'.fingerprint id := by
        rw [← seen, made]
        rfl
      exact past.unchanged advances before inside there same
    · exact absurd seen.symm ((later.behind ruled).unseen id there)
  obtain ⟨old, kept⟩ := was
  have rows := alike id old (by rw [seen, Disk.fingerprint, kept]; rfl)
  rw [index, Index.ofFile_eq, Index.ofFile_eq, kept]
  exact rows ▸ rfl

theorem Connection.openIn_of_serves {x : Index} {s : Settings} {path : String} {d : Disk}
    (sound : d.Sound) (serves : ∀ d', d.Advances d' → d'.Sound → x.Serves s.maxRecordSize.toNat d')
    (mode : Mode) : openIn mode s path (some x) d = openIn mode s path none d := by
  cases mode with
  | read =>
    have now : ∀ y ∈ some x, y.Serves s.maxRecordSize.toNat d := by
      rintro _ ⟨⟩
      exact serves d (.refl d) sound
    rw [openIn, openIn, openToRead_eq sound now]
  | write =>
    have later : ∀ y ∈ some x, y.Serves s.maxRecordSize.toNat (d.openPrepared s path).2 := by
      rintro _ ⟨⟩
      exact serves _ (sound.advances_openPrepared s path) (sound.openPrepared s path)
    rw [openIn, openIn, openToWrite_eq sound later]

namespace Pool

variable {ι : Type} [DecidableEq ι] {d : Disk}

/-- After any honest run, a kept index that was only in connections used with care makes no
difference to the connection that is opened, to what becomes of the disk, or to a failure. The
lengths that are allowed now must give the file the frames that the index has. -/
theorem openIn_of_run (sound : d.Sound) {actions : List (Action ι)}
    (honest : (start ι d).Honest actions) {p : Pool ι} (ran : (start ι d).run actions = p) {x : ι}
    {k : Kept} (kept : p.kept x = some k) (careful : k.careful = true) (s : Settings)
    (alike : ∀ id < p.disk.files.length, k.index.seen = p.disk.fingerprint id →
      (Frame.split k.limit (p.disk.bytes id)).1 =
        (Frame.split s.maxRecordSize.toNat (p.disk.bytes id)).1)
    (mode : Mode) (path : String) :
    Connection.openIn mode s path (some k.index) p.disk =
      Connection.openIn mode s path none p.disk := by
  obtain ⟨history, grounded⟩ := grounded_run sound honest
  rw [ran] at grounded
  have known := grounded.kept x k kept careful
  exact Connection.openIn_of_serves grounded.past.sound
    (fun d' advances sound' => known.serves_under grounded.past advances sound' alike) mode

/-- A payload of six bytes is written, and the index of its connection is kept. -/
def keeping : List (Action Nat) :=
  [.connect 0 .write { maxRecordSize := 30 } "f" none, .append 0 [2, 1, 109, 0, 0, 0], .release 0 7]

theorem openIn_of_run_keeping :
    ((start Nat {}).run keeping).kept 7 = some ⟨⟨[0], 10, ⟨10, 1⟩⟩, 30, true⟩ ∧
      Connection.openIn .write { maxRecordSize := 50 } "f" (some ⟨[0], 10, ⟨10, 1⟩⟩)
          ((start Nat {}).run keeping).disk =
        Connection.openIn .write { maxRecordSize := 50 } "f" none
          ((start Nat {}).run keeping).disk := by
  have honest : (start Nat {}).Honest keeping :=
    honest_of_fresh Disk.sound_empty Disk.distinct_empty fun e inside => by simp [keeping] at inside
  have kept : ((start Nat {}).run keeping).kept 7 = some ⟨⟨[0], 10, ⟨10, 1⟩⟩, 30, true⟩ := by
    decide +kernel
  exact ⟨kept, openIn_of_run Disk.sound_empty honest rfl kept rfl { maxRecordSize := 50 }
    (by decide +kernel) .write "f"⟩

/-- Then a connection goes through the file for payloads of five bytes, and its index is kept. -/
def narrowing : List (Action Nat) :=
  keeping ++ [.connect 1 .read { maxRecordSize := 5 } "f" none, .release 1 7]

/-- The index of a connection that was overtaken goes through a reader. -/
def passing : List (Action Nat) :=
  overtaking ++ [.release 0 7, .connect 2 .read {} "f" (some 7), .release 2 7]

/-- A copy takes the place of a file that is damaged elsewhere. The connection writes to that one, which
then gets its name back. -/
def trading : List (Action Nat) :=
  swapping ++ [.append 0 [2, 1, 109, 0, 0, 0, 0], .edit (.rename "h" "f"), .release 0 7]

/-- With the index of the first two runs, a writer cuts off what it would keep without. With that of the
third, it keeps what it would cut off. -/
theorem openIn_differs :
    ((start Nat {}).Honest narrowing ∧
      ((start Nat {}).run narrowing).kept 7 = some ⟨⟨[], 0, ⟨10, 1⟩⟩, 5, true⟩ ∧
      (Connection.openIn .write { maxRecordSize := 30 } "f" none
        ((start Nat {}).run narrowing).disk).2.bytesAt? "f" =
          some (Frame.join [[2, 1, 109, 0, 0, 0]]) ∧
      (Connection.openIn .write { maxRecordSize := 30 } "f" (some ⟨[], 0, ⟨10, 1⟩⟩)
        ((start Nat {}).run narrowing).disk).2.bytesAt? "f" = some []) ∧
    ((start Nat {}).Honest passing ∧
      ((start Nat {}).run passing).kept 7 = some ⟨⟨[0], 10, ⟨20, 2⟩⟩, 10485760, false⟩ ∧
      (Connection.openIn .write {} "f" none ((start Nat {}).run passing).disk).2.bytesAt? "f" =
        some (Frame.join [[2, 1, 109, 0, 0, 0], [2, 1, 110, 0, 0, 0]]) ∧
      (Connection.openIn .write {} "f" (some ⟨[0], 10, ⟨20, 2⟩⟩)
        ((start Nat {}).run passing).disk).2.bytesAt? "f" =
          some (Frame.join [[2, 1, 109, 0, 0, 0]])) ∧
    Disk.AlikeAlong step disk (start Nat {}) trading ∧
      ((start Nat {}).run trading).kept 7 =
        some ⟨⟨[0, 11, 22], 33, ⟨33, 6⟩⟩, 10485760, true⟩ ∧
      ((Connection.openIn .write {} "f" none ((start Nat {}).run trading).disk).2.bytesAt?
        "f").map List.length = some 10 ∧
      ((Connection.openIn .write {} "f" (some ⟨[0, 11, 22], 33, ⟨33, 6⟩⟩)
        ((start Nat {}).run trading).disk).2.bytesAt? "f").map List.length = some 33 := by
  have narrow : (start Nat {}).Honest narrowing :=
    honest_of_fresh Disk.sound_empty Disk.distinct_empty fun e inside => by
      simp [narrowing, keeping] at inside
  have overtook : (start Nat {}).Honest passing :=
    honest_of_fresh Disk.sound_empty Disk.distinct_empty fun e inside => by
      simp [passing, overtaking] at inside
  refine ⟨⟨narrow, ?_, ?_, ?_⟩, ⟨overtook, ?_, ?_, ?_⟩, ?_, ?_, ?_, ?_⟩ <;> decide +kernel

end Pool
end EventLog
