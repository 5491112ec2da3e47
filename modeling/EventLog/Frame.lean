import EventLog.Failure

/-! Frames of a stored file: four bytes of length, the highest first, and a payload of that length.
A length of zero or above the maximum is damage, and so is a frame that the file cuts short. -/
namespace EventLog.Frame

abbrev Payload := List UInt8

def lengthBytes (n : Nat) : List UInt8 :=
  [(n / 16777216).toUInt8, (n / 65536).toUInt8, (n / 256).toUInt8, n.toUInt8]

def encode (payload : Payload) : List UInt8 := lengthBytes payload.length ++ payload

@[simp] theorem length_encode (payload : Payload) : (encode payload).length = 4 + payload.length := by
  simp [encode, lengthBytes]; omega

/-- The length that the first four bytes announce, and the bytes after them. -/
def announced? : List UInt8 → Option (Nat × List UInt8)
  | a :: b :: c :: d :: rest =>
    some (16777216 * a.toNat + 65536 * b.toNat + 256 * c.toNat + d.toNat, rest)
  | _ => none

theorem announced?_lengthBytes {n : Nat} (h : n < 0x100000000) (rest : List UInt8) :
    announced? (lengthBytes n ++ rest) = some (n, rest) := by
  simp [lengthBytes, announced?]; omega

def inBounds (maximum length : Nat) : Bool := 1 ≤ length && length ≤ maximum

/-- The payload of a complete frame in front, and the bytes after the frame. -/
def first? (maximum : Nat) (bytes : List UInt8) : Option (Payload × List UInt8) :=
  match announced? bytes with
  | some (length, rest) =>
    if inBounds maximum length && length ≤ rest.length then
      some (rest.take length, rest.drop length)
    else none
  | none => none

theorem length_of_announced? {bytes rest : List UInt8} {n : Nat}
    (h : announced? bytes = some (n, rest)) : bytes.length = rest.length + 4 := by
  unfold announced? at h
  split at h <;> simp_all

theorem length_of_first? {maximum : Nat} {bytes rest : List UInt8} {payload : Payload}
    (h : first? maximum bytes = some (payload, rest)) :
    bytes.length = 4 + payload.length + rest.length := by
  unfold first? at h
  split at h
  · rename_i length after announced
    have := length_of_announced? announced
    split at h
    · rename_i fits
      simp only [Bool.and_eq_true, decide_eq_true_eq] at fits
      cases h
      simp; omega
    · cases h
  · cases h

/-- The payloads of all complete frames from the start on, and the bytes from the first damage. -/
def split (maximum : Nat) (bytes : List UInt8) : List Payload × List UInt8 :=
  match _h : first? maximum bytes with
  | none => ([], bytes)
  | some (payload, rest) =>
    let (payloads, damage) := split maximum rest
    (payload :: payloads, damage)
termination_by bytes.length
decreasing_by have := length_of_first? _h; omega

/-- Where each frame starts, when the first starts at `position`. -/
def offsets (position : Nat) : List Payload → List Nat
  | [] => []
  | payload :: later => position :: offsets (position + (encode payload).length) later

@[simp] theorem length_offsets (position : Nat) (payloads : List Payload) :
    (offsets position payloads).length = payloads.length := by
  induction payloads generalizing position with
  | nil => rfl
  | cons payload later ih => simp [offsets, ih]

/-- The payload of the frame in front, for a reader that was told to expect one. -/
def read (maximum : Nat) (bytes : List UInt8) : Except Failure (Payload × List UInt8) :=
  match announced? bytes with
  | none => .error (.disk .endOfFile)
  | some (length, rest) =>
    if !inBounds maximum length then .error (.decoding (.recordLength length))
    else if rest.length < length then .error (.disk .endOfFile)
    else .ok (rest.take length, rest.drop length)

theorem read_of_first? {maximum : Nat} {bytes rest : List UInt8} {payload : Payload}
    (h : first? maximum bytes = some (payload, rest)) : read maximum bytes = .ok (payload, rest) := by
  unfold first? at h
  unfold read
  split at h <;> simp_all

end EventLog.Frame
