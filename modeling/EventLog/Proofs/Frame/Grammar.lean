import EventLog.Frame

/-! Frames as a grammar. Every file is a row of frames and the bytes that follow them, and no
frame begins with those bytes. Main statement: splitting finds the longest row in front. -/
namespace EventLog.Frame

/-- Payloads that four bytes of length can announce and that the maximum allows. -/
def Fits (maximum : Nat) (payload : Payload) : Prop :=
  inBounds maximum payload.length = true ∧ payload.length < 0x100000000

instance (maximum : Nat) (payload : Payload) : Decidable (Fits maximum payload) :=
  inferInstanceAs (Decidable (_ ∧ _))

/-- The bytes of a row of frames. -/
def join (payloads : List Payload) : List UInt8 := payloads.flatMap encode

@[simp] theorem join_nil : join [] = [] := rfl

@[simp] theorem join_cons (payload : Payload) (later : List Payload) :
    join (payload :: later) = encode payload ++ join later := rfl

@[simp] theorem join_append (earlier later : List Payload) :
    join (earlier ++ later) = join earlier ++ join later := by simp [join]

/-! One frame. -/

theorem lengthBytes_of_bytes (a b c d : UInt8) :
    lengthBytes (16777216 * a.toNat + 65536 * b.toNat + 256 * c.toNat + d.toNat) = [a, b, c, d] := by
  have ha := a.toNat_lt
  have hb := b.toNat_lt
  have hc := c.toNat_lt
  have hd := d.toNat_lt
  simp only [lengthBytes, List.cons.injEq, and_true]
  refine ⟨?_, ?_, ?_, ?_⟩ <;> apply UInt8.toNat_inj.1 <;>
    simp only [Nat.toUInt8_eq, UInt8.toNat_ofNat'] <;> omega

theorem eq_of_announced? {bytes rest : List UInt8} {n : Nat}
    (h : announced? bytes = some (n, rest)) :
    bytes = lengthBytes n ++ rest ∧ n < 0x100000000 := by
  unfold announced? at h
  split at h
  · rename_i a b c d tail
    cases h
    refine ⟨by rw [lengthBytes_of_bytes]; rfl, ?_⟩
    have ha := a.toNat_lt
    have hb := b.toNat_lt
    have hc := c.toNat_lt
    have hd := d.toNat_lt
    omega
  · cases h

theorem first?_encode_append {maximum : Nat} {payload : Payload} (fits : Fits maximum payload)
    (rest : List UInt8) : first? maximum (encode payload ++ rest) = some (payload, rest) := by
  have announced : announced? (encode payload ++ rest) = some (payload.length, payload ++ rest) := by
    rw [encode, List.append_assoc, announced?_lengthBytes fits.2]
  simp [first?, announced, fits.1]

theorem eq_of_first? {maximum : Nat} {bytes rest : List UInt8} {payload : Payload}
    (h : first? maximum bytes = some (payload, rest)) :
    bytes = encode payload ++ rest ∧ Fits maximum payload := by
  unfold first? at h
  split at h
  · rename_i length after announced
    obtain ⟨shape, word⟩ := eq_of_announced? announced
    split at h
    · rename_i whole
      simp only [Bool.and_eq_true, decide_eq_true_eq] at whole
      cases h
      have taken : (after.take length).length = length := by simp [whole.2]
      refine ⟨?_, by rw [taken]; exact whole.1, by rw [taken]; exact word⟩
      rw [encode, taken, List.append_assoc, List.take_append_drop]
      exact shape
    · cases h
  · cases h

/-! Rows of frames. -/

theorem split_of_damage {maximum : Nat} {bytes : List UInt8} (h : first? maximum bytes = none) :
    split maximum bytes = ([], bytes) := by
  rw [split]
  split
  · rfl
  · rename_i first
    rw [first] at h
    cases h

theorem split_encode_append {maximum : Nat} {payload : Payload} (fits : Fits maximum payload)
    (rest : List UInt8) : split maximum (encode payload ++ rest) =
      (payload :: (split maximum rest).1, (split maximum rest).2) := by
  have first := first?_encode_append fits rest
  rw [split]
  split
  · rename_i none
    rw [first] at none
    cases none
  · rename_i found
    rw [first] at found
    cases found
    rfl

/-- A row of frames in front is found whatever follows it. -/
theorem split_join_append {maximum : Nat} {payloads : List Payload}
    (fits : ∀ p ∈ payloads, Fits maximum p) (rest : List UInt8) :
    split maximum (join payloads ++ rest) =
      (payloads ++ (split maximum rest).1, (split maximum rest).2) := by
  induction payloads with
  | nil => simp
  | cons payload later ih =>
    have first := fits payload (by simp)
    have others := ih fun p hp => fits p (by simp [hp])
    rw [join_cons, List.append_assoc, split_encode_append first, others]
    rfl

/-- A row of frames and the bytes behind it are told apart if no frame begins with these bytes. -/
theorem split_row {maximum : Nat} {payloads : List Payload} {damage : List UInt8}
    (fits : ∀ p ∈ payloads, Fits maximum p) (damaged : first? maximum damage = none) :
    split maximum (join payloads ++ damage) = (payloads, damage) := by
  rw [split_join_append fits, split_of_damage damaged, List.append_nil]

theorem split_join {maximum : Nat} {payloads : List Payload}
    (fits : ∀ p ∈ payloads, Fits maximum p) : split maximum (join payloads) = (payloads, []) := by
  have row := split_row fits (show first? maximum [] = none from rfl)
  rwa [List.append_nil] at row

theorem join_split (maximum : Nat) (bytes : List UInt8) :
    join (split maximum bytes).1 ++ (split maximum bytes).2 = bytes := by
  fun_induction split maximum bytes with
  | case1 bytes damaged => rfl
  | case2 bytes payload rest first payloads damage later ih =>
    rw [later] at ih
    rw [join_cons, List.append_assoc, ih]
    exact (eq_of_first? first).1.symm

theorem fits_of_mem_split {maximum : Nat} {bytes : List UInt8} {payload : Payload}
    (h : payload ∈ (split maximum bytes).1) : Fits maximum payload := by
  fun_induction split maximum bytes with
  | case1 bytes damaged => cases h
  | case2 bytes front rest first payloads damage later ih =>
    rw [later] at ih
    rcases List.mem_cons.1 h with same | behind
    · rw [same]
      exact (eq_of_first? first).2
    · exact ih behind

/-! The part of a file that can be relied on. -/

/-- The longest part of a file from its start on that is a row of frames. -/
structure IsIntact (maximum : Nat) (bytes part : List UInt8) : Prop where
  starts : part <+: bytes
  frames : ∃ payloads, (∀ p ∈ payloads, Fits maximum p) ∧ part = join payloads
  longest : ∀ payloads, (∀ p ∈ payloads, Fits maximum p) → join payloads <+: bytes →
    join payloads <+: part

def intact (maximum : Nat) (bytes : List UInt8) : List UInt8 := join (split maximum bytes).1

theorem isIntact_intact (maximum : Nat) (bytes : List UInt8) :
    IsIntact maximum bytes (intact maximum bytes) where
  starts := ⟨(split maximum bytes).2, join_split maximum bytes⟩
  frames := ⟨_, fun _ => fits_of_mem_split, rfl⟩
  longest := by
    rintro payloads fits ⟨rest, rfl⟩
    rw [intact, split_join_append fits]
    exact ⟨join (split maximum rest).1, by simp⟩

theorem IsIntact.eq {maximum : Nat} {bytes part : List UInt8} (h : IsIntact maximum bytes part) :
    part = intact maximum bytes := by
  have other := isIntact_intact maximum bytes
  obtain ⟨payloads, fits, rfl⟩ := h.frames
  have there := other.longest payloads fits h.starts
  have back := h.longest _ (fun _ => fits_of_mem_split) other.starts
  exact there.eq_of_length_le back.length_le

theorem isIntact_iff {maximum : Nat} {bytes part : List UInt8} :
    IsIntact maximum bytes part ↔ part = intact maximum bytes :=
  ⟨IsIntact.eq, fun h => h ▸ isIntact_intact maximum bytes⟩

theorem length_intact (maximum : Nat) (bytes : List UInt8) :
    (intact maximum bytes).length = bytes.length - (split maximum bytes).2.length := by
  have lengths := congrArg List.length (join_split maximum bytes)
  rw [List.length_append] at lengths
  rw [intact]
  omega

theorem take_intact (maximum : Nat) (bytes : List UInt8) :
    bytes.take (intact maximum bytes).length = intact maximum bytes :=
  (List.prefix_iff_eq_take.1 (isIntact_intact maximum bytes).starts).symm

theorem split_intact (maximum : Nat) (bytes : List UInt8) :
    split maximum (intact maximum bytes) = ((split maximum bytes).1, []) :=
  split_join fun _ => fits_of_mem_split

theorem intact_join {maximum : Nat} {payloads : List Payload}
    (fits : ∀ p ∈ payloads, Fits maximum p) : intact maximum (join payloads) = join payloads := by
  rw [intact, split_join fits]

theorem IsIntact.payloads {maximum : Nat} {bytes : List UInt8} {payloads : List Payload}
    (h : IsIntact maximum bytes (join payloads)) (fits : ∀ p ∈ payloads, Fits maximum p) :
    (split maximum bytes).1 = payloads := by
  have whole := split_join fits
  rw [h.eq, split_intact] at whole
  exact congrArg Prod.fst whole

end EventLog.Frame
