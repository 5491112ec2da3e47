/-! Windows of a sequence: a start that counts as zero when negative, and an optional count. -/
namespace EventLog.Window

/-- The positions from the first component on and below the second, both within `length`. -/
def bounds (start : Int) (count : Option Nat) (length : Nat) : Nat × Nat :=
  let first := min start.toNat length
  (first, match count with
    | some n => min (first + n) length
    | none => length)

theorem bounds_fst_le_snd (start : Int) (count : Option Nat) (length : Nat) :
    (bounds start count length).1 ≤ (bounds start count length).2 := by
  cases count with
  | none => exact Nat.min_le_right ..
  | some n => simp only [bounds]; omega

theorem bounds_snd_le (start : Int) (count : Option Nat) (length : Nat) :
    (bounds start count length).2 ≤ length := by
  cases count with
  | none => exact Nat.le_refl _
  | some n => exact Nat.min_le_right ..

/-- The elements of a window. -/
def slice (start : Int) (count : Option Nat) (xs : List α) : List α :=
  let (first, last) := bounds start count xs.length
  (xs.take last).drop first

/-! On a machine a start is a signed word of 64 bits, and counts and lengths are unsigned ones. -/

/-- A sum that no word holds stays at the largest word. -/
def cappedSum (a b : UInt64) : UInt64 := if a + b < a then 0xffffffffffffffff else a + b

/-- The bounds as they are computed on words. A start is taken for an unsigned word once it is not
negative. -/
def wordBounds (start : Int64) (count : Option UInt64) (length : UInt64) : UInt64 × UInt64 :=
  let first := min (max start 0).toUInt64 length
  (first, match count with
    | some n => min (cappedSum first n) length
    | none => length)

/-- The elements from one position up to another. Positions out of order or beyond the end are no
part of a list. -/
def part? (first last : Nat) (xs : List α) : Option (List α) :=
  if first ≤ last ∧ last ≤ xs.length then some ((xs.take last).drop first) else none

theorem part?_bounds (start : Int) (count : Option Nat) (xs : List α) :
    part? (bounds start count xs.length).1 (bounds start count xs.length).2 xs =
      some (slice start count xs) :=
  if_pos ⟨bounds_fst_le_snd start count xs.length, bounds_snd_le start count xs.length⟩

end EventLog.Window
