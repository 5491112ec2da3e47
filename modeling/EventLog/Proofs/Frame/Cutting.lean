import EventLog.Proofs.Frame.Grammar

/-! What is left of a row of frames that is cut. Main statements: a reader with a smaller maximum
keeps the frames before the first that is too long for it, and a cut at any byte keeps the frames
that end before it. -/
namespace EventLog.Frame

/-- The longest length that four bytes can announce. -/
def capacity : Nat := 0xffffffff

theorem Fits.whole {maximum : Nat} {payload : Payload} (h : Fits maximum payload) :
    Fits capacity payload := by
  obtain ⟨bounds, word⟩ := h
  refine ⟨?_, word⟩
  simp only [inBounds, Bool.and_eq_true, decide_eq_true_eq] at bounds ⊢
  exact ⟨bounds.1, Nat.le_of_lt_succ word⟩

/-- The maximum is all that a payload of a frame can fail to fit. -/
theorem fits_iff {maximum : Nat} {payload : Payload} (h : Fits capacity payload) :
    Fits maximum payload ↔ payload.length ≤ maximum := by
  obtain ⟨bounds, word⟩ := h
  simp only [Fits, inBounds, Bool.and_eq_true, decide_eq_true_eq] at bounds ⊢
  omega

theorem encode_ne_nil (payload : Payload) : encode payload ≠ [] := by
  simp [encode, lengthBytes]

theorem join_eq_nil {payloads : List Payload} (h : join payloads = []) : payloads = [] := by
  cases payloads with
  | nil => rfl
  | cons p later => exact absurd (List.append_eq_nil_iff.1 h).1 (encode_ne_nil p)

theorem join_injective {maximum : Nat} {payloads others : List Payload}
    (fits : ∀ p ∈ payloads, Fits maximum p) (fits' : ∀ p ∈ others, Fits maximum p)
    (same : join payloads = join others) : payloads = others := by
  have first := split_join fits
  rw [same, split_join fits'] at first
  exact (congrArg Prod.fst first).symm

theorem intact_intact (maximum : Nat) (bytes : List UInt8) :
    intact maximum (intact maximum bytes) = intact maximum bytes :=
  intact_join fun _ => fits_of_mem_split

/-- A frame that is too long for a reader is damage to it. -/
theorem first?_of_long {maximum : Nat} {payload : Payload} (whole : Fits capacity payload)
    (long : maximum < payload.length) (rest : List UInt8) :
    first? maximum (encode payload ++ rest) = none := by
  have announced : announced? (encode payload ++ rest) = some (payload.length, payload ++ rest) := by
    rw [encode, List.append_assoc, announced?_lengthBytes whole.2]
  simp [first?, announced, inBounds, Nat.not_le.2 long]

/-- A reader relies on the frames before the first that is too long for it. -/
theorem intact_join_of_whole {payloads : List Payload} (whole : ∀ p ∈ payloads, Fits capacity p)
    (maximum : Nat) :
    intact maximum (join payloads) = join (payloads.takeWhile (·.length ≤ maximum)) := by
  induction payloads with
  | nil => exact intact_join (by simp)
  | cons p later ih =>
    have others := ih fun q inside => whole q (List.mem_cons_of_mem _ inside)
    have first := whole p (by simp)
    by_cases short : p.length ≤ maximum
    · rw [intact, join_cons, split_encode_append ((fits_iff first).2 short),
        List.takeWhile_cons_of_pos (by simpa using short), join_cons, join_cons, ← others]
      rfl
    · rw [intact, join_cons, split_of_damage (first?_of_long first (Nat.not_le.1 short) _)]
      rw [List.takeWhile_cons_of_neg (by simpa using short)]

/-- A frame without its last bytes is no frame. -/
theorem first?_take_encode {maximum : Nat} {payload : Payload} (fits : Fits maximum payload) {k : Nat}
    (short : k < (encode payload).length) : first? maximum ((encode payload).take k) = none := by
  cases found : first? maximum ((encode payload).take k) with
  | none => rfl
  | some front =>
    obtain ⟨other, rest⟩ := front
    obtain ⟨shape, fitting⟩ := eq_of_first? found
    have again : encode payload = encode other ++ (rest ++ (encode payload).drop k) := by
      rw [← List.append_assoc, ← shape, List.take_append_drop]
    have first := first?_encode_append fitting (rest ++ (encode payload).drop k)
    have whole := first?_encode_append fits []
    rw [List.append_nil, again, first] at whole
    obtain ⟨same, -⟩ := Prod.mk.inj (Option.some.inj whole)
    have length := congrArg List.length shape
    rw [List.length_append, List.length_take, same] at length
    omega

/-- A frame that was not written to its end adds nothing to a row of frames. -/
theorem intact_append_part {maximum : Nat} {bytes : List UInt8} (whole : intact maximum bytes = bytes)
    {payload : Payload} (fits : Fits maximum payload) {k : Nat} (short : k < (encode payload).length) :
    intact maximum (bytes ++ (encode payload).take k) = bytes := by
  have frames : ∀ p ∈ (split maximum bytes).1, Fits maximum p := fun _ => fits_of_mem_split
  have row := split_row frames (first?_take_encode fits short)
  have shape : join (split maximum bytes).1 = bytes := whole
  rw [shape] at row
  rw [intact, row, shape]

/-- A cut keeps the frames that end before it. What is left of the next one is no frame. -/
theorem take_join {maximum : Nat} {payloads : List Payload} (fits : ∀ p ∈ payloads, Fits maximum p)
    (k : Nat) : ∃ n damage, (join payloads).take k = join (payloads.take n) ++ damage ∧
      first? maximum damage = none ∧
      ∀ i < payloads.length, i < n ↔ (join (payloads.take (i + 1))).length ≤ k := by
  induction payloads generalizing k with
  | nil => exact ⟨0, [], by simp, rfl, fun _ inside => absurd inside (Nat.not_lt_zero _)⟩
  | cons p later ih =>
    by_cases inside : (encode p).length ≤ k
    · obtain ⟨n, damage, shape, damaged, kept⟩ :=
        ih (fun q there => fits q (List.mem_cons_of_mem _ there)) (k - (encode p).length)
      refine ⟨n + 1, damage, ?_, damaged, fun i there => ?_⟩
      · rw [join_cons, List.take_append, List.take_of_length_le inside, shape]
        simp
      · rw [List.take_succ_cons, join_cons, List.length_append]
        cases i with
        | zero => simpa using inside
        | succ i =>
          have := kept i (Nat.lt_of_succ_lt_succ there)
          omega
    · have short := Nat.not_le.1 inside
      refine ⟨0, (encode p).take k, ?_, first?_take_encode (fits p (by simp)) short, ?_⟩
      · rw [join_cons, List.take_append_of_le_length (Nat.le_of_lt short)]
        rfl
      · intro i there
        rw [List.take_succ_cons, join_cons, List.length_append]
        omega

end EventLog.Frame
