import EventLog.Codec.Reader

/-! Numbers as groups of seven bits, lowest first; every byte but the last has its high bit set.
A reader allows over-long forms up to the width of its type, whose last byte is bounded. -/
namespace EventLog.Compact.Varint

def encode (n : Nat) : List UInt8 :=
  if n < 128 then [n.toUInt8] else (n % 128 + 128).toUInt8 :: encode (n / 128)
termination_by n
decreasing_by omega

/-- At most `count` bytes; a byte in the last place is at most `last`. -/
def read (last : UInt8) : (count : Nat) → Reader Nat
  | 0 => throw .unterminatedNumber
  | count + 1 => do
    let b ← Reader.byte
    if b.toNat < 128 then
      if count = 0 ∧ last < b then throw .unterminatedNumber else return b.toNat
    else
      let high ← read last count
      return b.toNat - 128 + 128 * high

def read32 : Reader Nat := read 0x0f 5

def read64 : Reader Nat := read 0x01 10

theorem encode_ne_nil (n : Nat) : encode n ≠ [] := by
  rw [encode]; split <;> simp

/-- Signed numbers alternate with the distance from zero: 0, -1, 1, -2, 2. -/
def zigzag (n : Int) : Nat := if 0 ≤ n then 2 * n.toNat else 2 * n.natAbs - 1

def unzigzag (n : Nat) : Int := if n % 2 = 0 then (n / 2 : Nat) else -((n / 2 : Nat) + 1 : Int)

@[simp] theorem unzigzag_zigzag (n : Int) : unzigzag (zigzag n) = n := by
  unfold zigzag unzigzag
  split <;> split <;> omega

@[simp] theorem zigzag_unzigzag (n : Nat) : zigzag (unzigzag n) = n := by
  unfold zigzag unzigzag
  split <;> split <;> omega

end EventLog.Compact.Varint
