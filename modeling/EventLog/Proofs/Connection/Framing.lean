import EventLog.Proofs.Connection.Writing

/-! Files of any bytes. Main statement: whoever opens a file finds the one way to take it apart into
frames and a rest that begins with no frame; a reader leaves it as it is, and a writer cuts off the
rest and nothing else. -/
namespace EventLog

namespace Frame

/-- Bytes are a row of frames with payloads of allowed lengths, and a rest in front of which stands
no such frame. -/
structure Framed (maximum : Nat) (bytes : List UInt8) (payloads : List Payload) (rest : List UInt8) :
    Prop where
  row : bytes = join payloads ++ rest
  lengths : ∀ p ∈ payloads, 1 ≤ p.length ∧ p.length ≤ maximum
  torn : ∀ p after, 1 ≤ p.length → p.length ≤ maximum → rest ≠ encode p ++ after

variable {maximum : Nat}

theorem fits_iff_length (word : maximum < 0x100000000) {p : Payload} :
    Fits maximum p ↔ 1 ≤ p.length ∧ p.length ≤ maximum := by
  simp only [Fits, inBounds, Bool.and_eq_true, decide_eq_true_eq]
  omega

theorem first?_damage (maximum : Nat) (bytes : List UInt8) :
    first? maximum (split maximum bytes).2 = none := by
  fun_induction split maximum bytes with
  | case1 bytes damaged => exact damaged
  | case2 bytes payload rest first payloads damage later ih => rwa [later] at ih

/-- There is one way to take bytes apart, and splitting finds it. -/
theorem framed_iff (word : maximum < 0x100000000) {bytes rest : List UInt8}
    {payloads : List Payload} :
    Framed maximum bytes payloads rest ↔ split maximum bytes = (payloads, rest) := by
  constructor
  · rintro ⟨rfl, lengths, torn⟩
    refine split_row (fun p inside => (fits_iff_length word).2 (lengths p inside)) ?_
    cases front : first? maximum rest with
    | none => rfl
    | some found =>
      obtain ⟨p, after⟩ := found
      obtain ⟨shape, fits⟩ := eq_of_first? front
      obtain ⟨nonempty, allowed⟩ := (fits_iff_length word).1 fits
      exact absurd shape (torn p after nonempty allowed)
  · intro parts
    have row := join_split maximum bytes
    have damaged := first?_damage maximum bytes
    rw [parts] at row damaged
    refine ⟨row.symm, fun p inside => ?_, ?_⟩
    · have found : p ∈ (split maximum bytes).1 := by rwa [parts]
      exact (fits_iff_length word).1 (fits_of_mem_split found)
    · rintro p after nonempty allowed rfl
      rw [first?_encode_append ((fits_iff_length word).2 ⟨nonempty, allowed⟩)] at damaged
      cases damaged

end Frame

namespace Connection

open EventLog.Frame (Payload Framed join)

/-- Opens a connection of either kind. -/
def openIn (mode : Mode) (s : Settings) (path : String) (remembered : Option Index) (d : Disk) :
    Except Failure (Option Connection) × Disk :=
  match mode with
  | .read => (openToRead s path remembered d, d)
  | .write =>
    let (result, d) := openToWrite s path remembered d
    (result.map some, d)

variable {c : Connection} {d : Disk} {s : Settings} {path : String} {id : Nat}

/-- A writer that repairs a file is the one that would be attached to the repaired file. -/
theorem repair_attach (s : Settings) (path : String) (d : Disk) (id : Nat) :
    (attach s path .write none d id).repair d =
      (attach s path .write none (d.repaired s.maxRecordSize.toNat id) id,
        d.repaired s.maxRecordSize.toNat id) :=
  repair_eq rfl

theorem openIn_read_of_lookup (found : d.lookup path = .ok (.file id)) (s : Settings) :
    openIn .read s path none d = (.ok (some (attach s path .read none d id)), d) := by
  simp only [openIn, openToRead, found]

theorem openIn_write_of_lookup (found : d.lookup path = .ok (.file id)) (s : Settings) :
    openIn .write s path none d =
      (.ok (some (attach s path .write none (d.repaired s.maxRecordSize.toNat id) id)),
        d.repaired s.maxRecordSize.toNat id) := by
  simp only [openIn, openToWrite_eq_repair, Disk.openPrepared_of_lookup found, repair_attach]
  rfl

/-- A file that is opened is taken apart in the one way in which it can be. A reader leaves it as it
is. A writer leaves its frames alone, and another writer then finds nothing to do. -/
theorem open_framed (found : d.lookup path = .ok (.file id)) (s : Settings) :
    ∃ payloads rest, Framed s.maxRecordSize.toNat (d.bytes id) payloads rest ∧
      (∀ others rest', Framed s.maxRecordSize.toNat (d.bytes id) others rest' →
        others = payloads ∧ rest' = rest) ∧
      (∃ reader, openIn .read s path none d = (.ok (some reader), d) ∧ reader.Reads d payloads) ∧
      ∃ writer d', openIn .write s path none d = (.ok (some writer), d') ∧
        writer.Reads d' payloads ∧ d'.bytesAt? path = some (join payloads) ∧
        d' = (if rest = [] then d else d.put id (join payloads)) ∧
        ∀ again : Settings, again.maxRecordSize = s.maxRecordSize →
          openIn .write again path none d' =
            (.ok (some { writer with syncOnWrite := again.syncOnWrite }), d') := by
  have word := s.maxRecordSize.toNat_lt
  have framed : Framed s.maxRecordSize.toNat (d.bytes id)
      (Frame.split s.maxRecordSize.toNat (d.bytes id)).1
      (Frame.split s.maxRecordSize.toNat (d.bytes id)).2 := (Frame.framed_iff word).2 rfl
  refine ⟨_, _, framed, ?_, ?_, ?_⟩
  · intro others rest' other
    have same := (Frame.framed_iff word).1 other
    exact ⟨(congrArg Prod.fst same).symm, (congrArg Prod.snd same).symm⟩
  · exact ⟨_, openIn_read_of_lookup found s, (ready_attach found .read).current.reads⟩
  · have found' : (d.repaired s.maxRecordSize.toNat id).lookup path = .ok (.file id) := by
      rwa [Disk.lookup_repaired]
    have current := (ready_attach (s := s) found' .write).current
    have payloads : (attach s path .write none (d.repaired s.maxRecordSize.toNat id) id).payloads
        (d.repaired s.maxRecordSize.toNat id) =
          (Frame.split s.maxRecordSize.toNat (d.bytes id)).1 := by
      show (Frame.split s.maxRecordSize.toNat
        ((d.repaired s.maxRecordSize.toNat id).bytes id)).1 = _
      rw [Disk.split_repaired]
    refine ⟨_, _, openIn_write_of_lookup found s, payloads ▸ current.reads, ?_, rfl, ?_⟩
    · rw [Disk.bytesAt?_of_lookup found', Disk.bytes_repaired]
      rfl
    · intro again same
      rw [openIn_write_of_lookup found' again, same, Disk.repaired_repaired, attach, attach, same]

/-- Two frames, and the beginning of a third that announces fifty bytes. -/
def tornFile : Disk :=
  (Disk.edit {} (.write "f" (join [[2, 1, 109, 0, 0, 0], [7]] ++ [0, 0, 0, 50, 1, 2]) false)).2

theorem open_framed_torn : tornFile.lookup "f" = .ok (.file 0) ∧ ∃ writer d',
    openIn .write { maxRecordSize := 30 } "f" none tornFile = (.ok (some writer), d') ∧
      writer.Reads d' [[2, 1, 109, 0, 0, 0], [7]] ∧
      d'.bytesAt? "f" = some (join [[2, 1, 109, 0, 0, 0], [7]]) := by
  have found : tornFile.lookup "f" = .ok (.file 0) := rfl
  have parts : Framed 30 (tornFile.bytes 0) [[2, 1, 109, 0, 0, 0], [7]] [0, 0, 0, 50, 1, 2] :=
    (Frame.framed_iff (by decide)).2 (by decide +kernel)
  obtain ⟨payloads, rest, -, only, -, writer, d', opened, reads, bytes, -⟩ :=
    open_framed found { maxRecordSize := 30 }
  obtain ⟨rfl, -⟩ := only _ _ parts
  exact ⟨found, writer, d', opened, reads, bytes⟩

end Connection
end EventLog
