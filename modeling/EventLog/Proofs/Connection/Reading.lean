import EventLog.Connection
import EventLog.Proofs.Frame.Grammar

/-! Reading through a connection whose index describes its file. What is read depends on the
payloads of the file alone, whether records are looked up or visited one after the other. -/
namespace EventLog

namespace Frame

theorem getElem?_offsets (position : Nat) (payloads : List Payload) (i : Nat) :
    (offsets position payloads)[i]? =
      if i < payloads.length then some (position + (join (payloads.take i)).length) else none := by
  induction payloads generalizing position i with
  | nil => simp [offsets]
  | cons payload later ih =>
    cases i with
    | zero => simp [offsets]
    | succ i =>
      simp only [offsets, List.getElem?_cons_succ, ih, List.length_cons, Nat.add_lt_add_iff_right,
        List.take_succ_cons, join_cons, List.length_append, Nat.add_assoc]

/-- What stands from the place of a record on. -/
theorem drop_offset (payloads : List Payload) (damage : List UInt8) (i : Nat) :
    (join payloads ++ damage).drop (join (payloads.take i)).length =
      join (payloads.drop i) ++ damage := by
  have parts : join payloads = join (payloads.take i) ++ join (payloads.drop i) := by
    rw [← join_append, List.take_append_drop]
  rw [parts, List.append_assoc, List.drop_left]

theorem read_encode_append {maximum : Nat} {payload : Payload} (fits : Fits maximum payload)
    (rest : List UInt8) : read maximum (encode payload ++ rest) = .ok (payload, rest) :=
  read_of_first? (first?_encode_append fits rest)

end Frame

namespace Connection

open EventLog.Frame (Payload Fits join)

/-- The payloads of the file that the connection is open to. -/
def payloads (c : Connection) (d : Disk) : List Payload :=
  (Frame.split c.maxRecordSize (d.bytes c.file)).1

/-- The index describes the file as it is now. -/
def IsCurrent (c : Connection) (d : Disk) : Prop :=
  c.index = .ofFile c.maxRecordSize (d.file c.file)

theorem bytes_eq (c : Connection) (d : Disk) : ∃ damage,
    d.bytes c.file = join (c.payloads d) ++ damage ∧
      (d.bytes c.file).length - damage.length = (join (c.payloads d)).length := by
  refine ⟨_, (Frame.join_split c.maxRecordSize (d.bytes c.file)).symm, ?_⟩
  exact (Frame.length_intact c.maxRecordSize (d.bytes c.file)).symm

theorem fits_of_mem_payloads {c : Connection} {d : Disk} {p : Payload} (h : p ∈ c.payloads d) :
    Fits c.maxRecordSize p := Frame.fits_of_mem_split h

variable {c : Connection} {d : Disk}

theorem IsCurrent.size (h : c.IsCurrent d) : c.size = (c.payloads d).length := by
  rw [Connection.size, show c.index = _ from h, Index.size_ofFile]
  rfl

theorem IsCurrent.offset (h : c.IsCurrent d) (i : Nat) : c.index.offsets[i]? =
    if i < (c.payloads d).length then some (join ((c.payloads d).take i)).length else none := by
  have table : c.index.offsets = Frame.offsets 0 (c.payloads d) := by
    rw [show c.index = _ from h]
    rfl
  rw [table, Frame.getElem?_offsets]
  simp

theorem IsCurrent.stop (h : c.IsCurrent d) : c.index.stop = (join (c.payloads d)).length := by
  rw [show c.index = _ from h]
  exact (Frame.length_intact c.maxRecordSize (d.bytes c.file)).symm

theorem IsCurrent.seen (h : c.IsCurrent d) : c.index.seen = d.fingerprint c.file := by
  rw [show c.index = _ from h]
  rfl

/-- A record that is looked up is the decoded payload of that number. -/
theorem IsCurrent.read? (h : c.IsCurrent d) (codec : Codec) (i : Nat) :
    c.read? d codec i = match (c.payloads d)[i]? with
      | none => .ok none
      | some p => (codec.decode p).map some := by
  obtain ⟨damage, bytes, -⟩ := c.bytes_eq d
  unfold Connection.read?
  rw [h.offset]
  by_cases inside : i < (c.payloads d).length
  · have payload : (c.payloads d)[i]? = some (c.payloads d)[i] := List.getElem?_eq_getElem inside
    have fits : Fits c.maxRecordSize (c.payloads d)[i] :=
      fits_of_mem_payloads (List.getElem_mem inside)
    have there : (d.bytes c.file).drop (join ((c.payloads d).take i)).length =
        Frame.encode (c.payloads d)[i] ++ (join ((c.payloads d).drop (i + 1)) ++ damage) := by
      rw [bytes, Frame.drop_offset, List.drop_eq_getElem_cons inside, Frame.join_cons,
        List.append_assoc]
    simp only [inside, if_true, payload, there, Frame.read_encode_append fits]
    cases decoded : codec.decode (c.payloads d)[i] <;>
      simp [Bind.bind, Except.bind, decoded, pure, Except.pure, Except.map]
  · have beyond : (c.payloads d)[i]? = none := List.getElem?_eq_none (Nat.not_lt.1 inside)
    simp only [inside, if_false, beyond]

/-- The connection counts these payloads, and reads of each what a codec makes of it. -/
structure Reads (c : Connection) (d : Disk) (payloads : List Payload) : Prop where
  size : c.size = payloads.length
  inside : ∀ codec i p, payloads[i]? = some p → c.read? d codec i = (codec.decode p).map some
  beyond : ∀ codec i, payloads.length ≤ i → c.read? d codec i = .ok none

theorem IsCurrent.reads (h : c.IsCurrent d) : c.Reads d (c.payloads d) where
  size := h.size
  inside codec i p there := by rw [h.read?, there]
  beyond codec i far := by rw [h.read?, List.getElem?_eq_none far]

/-! Visits. -/

/-- A visit of payloads that follow one another. -/
def visitRow (codec : Codec) (visit : Nat → Event → σ → ForInStep σ) :
    List Payload → (i : Nat) → σ → σ × Except Failure Unit
  | [], _, s => (s, .ok ())
  | p :: later, i, s =>
    match codec.decode p with
    | .error failure => (s, .error failure)
    | .ok e =>
      match visit i e s with
      | .done s => (s, .ok ())
      | .yield s => visitRow codec visit later (i + 1) s

/-- Visiting frames visits their payloads, whatever follows the frames. -/
theorem visitFrom_join {maximum : Nat} (codec : Codec) (visit : Nat → Event → σ → ForInStep σ)
    {row : List Payload} (fits : ∀ p ∈ row, Fits maximum p) (rest : List UInt8) (i : Nat) (s : σ) :
    visitFrom maximum codec visit row.length i (join row ++ rest) s =
      visitRow codec visit row i s := by
  induction row generalizing i s with
  | nil => rfl
  | cons p later ih =>
    have first := Frame.read_encode_append (fits p (by simp)) (join later ++ rest)
    have others := fun i s => ih (fun q hq => fits q (by simp [hq])) i s
    rw [List.length_cons, visitFrom, Frame.join_cons, List.append_assoc, first, visitRow]
    dsimp only
    cases codec.decode p with
    | error failure => rfl
    | ok e =>
      dsimp only
      cases visit i e s with
      | done s => rfl
      | yield s => exact others (i + 1) s

theorem IsCurrent.visit (h : c.IsCurrent d) (codec : Codec) (first last : Nat)
    (visitor : Nat → Event → σ → ForInStep σ) (s : σ) :
    c.visit d codec first last visitor s =
      visitRow codec visitor (((c.payloads d).take last).drop first) first s := by
  obtain ⟨damage, bytes, -⟩ := c.bytes_eq d
  have clamped : (c.payloads d).take (min last (c.payloads d).length) = (c.payloads d).take last := by
    simp [← List.take_take]
  unfold Connection.visit
  rw [h.offset, h.size]
  by_cases inside : first < (c.payloads d).length
  · by_cases some : first < min last (c.payloads d).length
    · have count : (((c.payloads d).take last).drop first).length =
          min last (c.payloads d).length - first := by simp
      have row : join ((c.payloads d).drop first) =
          join (((c.payloads d).take last).drop first) ++
            join (((c.payloads d).drop first).drop (last - first)) := by
        rw [List.drop_take, ← Frame.join_append, List.take_append_drop]
      simp only [inside, if_true, some]
      rw [bytes, Frame.drop_offset, row, List.append_assoc, ← count]
      refine visitFrom_join codec visitor ?_ _ first s
      intro p hp
      exact fits_of_mem_payloads (List.mem_of_mem_take (List.mem_of_mem_drop hp))
    · have nothing : ((c.payloads d).take last).drop first = [] := by
        apply List.drop_eq_nil_of_le
        rw [List.length_take]
        exact Nat.not_lt.1 some
      simp only [inside, if_true, some, if_false, nothing]
      rfl
  · have nothing : ((c.payloads d).take last).drop first = [] := by
      apply List.drop_eq_nil_of_le
      rw [List.length_take]
      omega
    simp only [inside, if_false, nothing]
    rfl

theorem visitRow_collect (codec : Codec) (row : List Payload) (i : Nat) (found : List Event) :
    (visitRow codec (fun _ e events => .yield (e :: events)) row i found).2.map
        (fun _ => (visitRow codec (fun _ e events => .yield (e :: events)) row i found).1.reverse) =
      (row.mapM codec.decode).map (found.reverse ++ ·) := by
  induction row generalizing i found with
  | nil => simp [visitRow, pure, Except.pure, Except.map]
  | cons p later ih =>
    rw [visitRow, List.mapM_cons]
    cases decoded : codec.decode p with
    | error failure => rfl
    | ok e =>
      simp only [ih, List.reverse_cons]
      cases later.mapM codec.decode with
      | error failure => rfl
      | ok events => simp [Bind.bind, Except.bind, pure, Except.pure, Except.map]

theorem IsCurrent.readRange (h : c.IsCurrent d) (codec : Codec) (first last : Nat) :
    c.readRange d codec first last =
      (((c.payloads d).take last).drop first).mapM codec.decode := by
  have collected := visitRow_collect codec (((c.payloads d).take last).drop first) first []
  unfold Connection.readRange
  rw [h.visit]
  simp only at collected ⊢
  rw [collected]
  cases List.mapM codec.decode (((c.payloads d).take last).drop first) <;> rfl

end Connection
end EventLog
