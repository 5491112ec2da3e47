import EventLog.ListLog
import Mathlib.Data.List.Basic

/-! Windows computed on words of 64 bits. Main statement: for every start, count and length that are
words, the bounds are those of unbounded integers, so that no window goes beyond its list, and
windows of one size, one behind the other, tile it. -/
namespace EventLog

namespace Window

theorem toNat_cappedSum (a b : UInt64) :
    (cappedSum a b).toNat = min (a.toNat + b.toNat) 0xffffffffffffffff := by
  have first := a.toNat_lt
  have second := b.toNat_lt
  have sum := UInt64.toNat_add a b
  unfold cappedSum
  split
  · rename_i wrapped
    rw [UInt64.lt_iff_toNat_lt] at wrapped
    show 0xffffffffffffffff = _
    omega
  · rename_i exact
    rw [UInt64.lt_iff_toNat_lt] at exact
    omega

theorem toNat_min (a b : UInt64) : (min a b).toNat = min a.toNat b.toNat := by
  show (if a ≤ b then a else b).toNat = _
  split <;> rename_i order <;> rw [UInt64.le_iff_toNat_le] at order <;> omega

theorem toNat_max_zero (start : Int64) : (max start 0).toUInt64.toNat = start.toInt.toNat := by
  have zero : (0 : Int64).toInt = 0 := rfl
  show (if start ≤ 0 then 0 else start).toUInt64.toNat = _
  split
  · rename_i negative
    rw [Int64.le_iff_toInt_le, zero] at negative
    rw [Int.toNat_of_nonpos negative]
    rfl
  · rename_i positive
    rw [Int64.le_iff_toInt_le, zero] at positive
    have nonnegative : 0 ≤ start := by
      rw [Int64.le_iff_toInt_le, zero]
      omega
    exact Int64.toNat_toUInt64_of_le nonnegative

/-- A sum that is capped is beyond the length, as the sum itself is. -/
theorem toNat_wordBounds (start : Int64) (count : Option UInt64) (length : UInt64) :
    ((wordBounds start count length).1.toNat, (wordBounds start count length).2.toNat) =
      bounds start.toInt (count.map UInt64.toNat) length.toNat := by
  have word := length.toNat_lt
  have first : (min (max start 0).toUInt64 length).toNat = min start.toInt.toNat length.toNat := by
    rw [toNat_min, toNat_max_zero]
  cases count with
  | none => simp only [wordBounds, bounds, Option.map_none, first]
  | some n =>
    simp only [wordBounds, bounds, Option.map_some, first, toNat_min, toNat_cappedSum]
    congr 1
    omega

theorem mem_bounds_iff {start : Int} {count : Option Nat} {length i : Nat} (inside : i < length) :
    (bounds start count length).1 ≤ i ∧ i < (bounds start count length).2 ↔
      max start 0 ≤ i ∧ ∀ n ∈ count, (i : Int) < max start 0 + n := by
  cases count with
  | none =>
    simp only [bounds, Option.not_mem_none, false_imp_iff, implies_true, and_true]
    omega
  | some n =>
    simp only [bounds, Option.mem_some_iff, forall_eq']
    omega

/-- A window as what is left of a list without the elements before it, up to its size. -/
theorem slice_eq (start : Int) (count : Option Nat) (xs : List α) :
    slice start count xs = (xs.drop start.toNat).take (count.getD xs.length) := by
  rcases Nat.le_total start.toNat xs.length with inside | beyond
  · cases count with
    | none => simp [slice, bounds, Nat.min_eq_left inside, List.take_of_length_le]
    | some n =>
      have rest : xs.length - start.toNat = (xs.drop start.toNat).length := by simp
      have size : min (start.toNat + n) xs.length - start.toNat =
          min n (xs.length - start.toNat) := by omega
      simp only [slice, bounds, Nat.min_eq_left inside, Option.getD_some, List.drop_take]
      rw [size, rest, ← List.take_take, List.take_length]
  · cases count <;> simp [slice, bounds, Nat.min_eq_right beyond, List.drop_eq_nil_of_le beyond]

/-- Windows of one size, each where the one before it ends. -/
theorem flatten_windows (size n : Nat) (xs : List α) :
    ((List.range n).map fun j => (xs.drop (j * size)).take size).flatten = xs.take (n * size) := by
  induction n with
  | zero => simp
  | succ n ih =>
    rw [List.range_succ, List.map_append, List.flatten_append, ih, Nat.succ_mul, List.take_add]
    simp

/-- As many windows as begin inside a list are the whole list. -/
theorem exists_windows {size : Nat} (positive : 0 < size) (xs : List α) :
    ∃ n, (∀ j < n, j * size < xs.length) ∧ xs.length ≤ n * size := by
  refine ⟨(xs.length + (size - 1)) / size, fun j inside => ?_, ?_⟩
  · have multiple := (Nat.le_div_iff_mul_le positive).1 (Nat.succ_le_of_lt inside)
    rw [Nat.succ_mul] at multiple
    omega
  · have rest := Nat.lt_mul_div_succ (xs.length + (size - 1)) positive
    rw [Nat.mul_succ, Nat.mul_comm] at rest
    omega

end Window

namespace ListLog

open Window

variable {log : ListLog}

theorem wordRange?_eq (fits : log.length < UInt64.size) (start : Int64) (count : Option UInt64) :
    log.wordRange? start count = some (log.range start.toInt (count.map UInt64.toNat)) := by
  have length : log.length.toUInt64.toNat = log.length := by simpa using fits
  have words := toNat_wordBounds start count log.length.toUInt64
  rw [length, Prod.mk.injEq] at words
  rw [wordRange?, words.1, words.2]
  exact part?_bounds _ _ log

theorem wordRange?_eq_take (fits : log.length < UInt64.size) (start : Int64) (n : UInt64) :
    log.wordRange? start (some n) = some ((log.drop (max start.toInt 0).toNat).take n.toNat) := by
  have first : (max start.toInt 0).toNat = start.toInt.toNat := by omega
  rw [wordRange?_eq fits, range, slice_eq, first]
  rfl

theorem wordRange?_eq_drop (fits : log.length < UInt64.size) (start : Int64) :
    log.wordRange? start none = some (log.drop (max start.toInt 0).toNat) := by
  have first : (max start.toInt 0).toNat = start.toInt.toNat := by omega
  rw [wordRange?_eq fits, range, slice_eq, first]
  exact congrArg some (List.take_of_length_le (by simp))

/-- Windows on words are those of the integers, at every limit: a position is in a window as it is
without any overflow, and no window goes beyond its list. A window of a list is what is left of the
list without the elements before it, up to its size, and windows of one size that begin at each
multiple of it inside a list are, one behind the other, the whole list. (A list in memory has fewer
elements than there are starts.) -/
theorem wordRange?_exact :
    (∀ (start : Int64) (count : Option UInt64) (length : UInt64),
      (wordBounds start count length).1 ≤ (wordBounds start count length).2 ∧
      (wordBounds start count length).2 ≤ length ∧
      ∀ i < length, ((wordBounds start count length).1 ≤ i ∧ i < (wordBounds start count length).2 ↔
        max start.toInt 0 ≤ i.toNat ∧ ∀ n ∈ count, (i.toNat : Int) < max start.toInt 0 + n.toNat)) ∧
    (∀ (log : ListLog) (start : Int64) (count : Option UInt64), log.length < UInt64.size →
      log.wordRange? start count = some (log.range start.toInt (count.map UInt64.toNat)) ∧
      log.wordRange? start count = some (match count with
        | some n => (log.drop (max start.toInt 0).toNat).take n.toNat
        | none => log.drop (max start.toInt 0).toNat)) ∧
    ∀ (log : ListLog) (size : UInt64), log.length ≤ 0x8000000000000000 → 0 < size →
      ∃ windows : List (List Event), windows.flatten = log ∧
        ∀ j < windows.length, j * size.toNat < log.length ∧
          log.wordRange? (Int64.ofNat (j * size.toNat)) (some size) = windows[j]? := by
  refine ⟨fun start count length => ?_,
    fun log start count fits => ⟨wordRange?_eq fits start count, ?_⟩,
    fun log size fits positive => ?_⟩
  · have words := toNat_wordBounds start count length
    rw [Prod.ext_iff] at words
    obtain ⟨first, last⟩ := words
    dsimp only at first last
    simp only [UInt64.le_iff_toNat_le, UInt64.lt_iff_toNat_lt, first, last]
    refine ⟨bounds_fst_le_snd _ _ _, bounds_snd_le _ _ _, fun i inside => ?_⟩
    rw [mem_bounds_iff inside]
    simp
  · cases count with
    | none => exact wordRange?_eq_drop fits start
    | some n => exact wordRange?_eq_take fits start n
  · obtain ⟨n, inside, enough⟩ := exists_windows (UInt64.lt_iff_toNat_lt.1 positive) log
    refine ⟨(List.range n).map fun j => (log.drop (j * size.toNat)).take size.toNat, ?_, ?_⟩
    · rw [flatten_windows, List.take_of_length_le enough]
    · intro j member
      have member : j < n := by simpa using member
      have start : (Int64.ofNat (j * size.toNat)).toInt = (j * size.toNat : Nat) :=
        Int64.toInt_ofNat_of_lt (Nat.lt_of_lt_of_le (inside j member) fits)
      have first : (max ((j * size.toNat : Nat) : Int) 0).toNat = j * size.toNat := by omega
      refine ⟨inside j member, ?_⟩
      rw [wordRange?_eq_take (Nat.lt_of_le_of_lt fits (by decide)), start, first]
      simp [member]

/-- Three events at one instant. -/
def threeEvents : ListLog :=
  [.stamped 0 .info "a", .stamped 0 .warn "b", .stamped 0 .error "c"]

/-- The largest count behind the first, the second and no event, and windows of two events. -/
theorem wordRange?_exact_limits :
    threeEvents.wordRange? Int64.minValue (some 0xffffffffffffffff) = some threeEvents ∧
    threeEvents.wordRange? 1 (some 0xffffffffffffffff) = some (threeEvents.drop 1) ∧
    threeEvents.wordRange? Int64.maxValue (some 0xffffffffffffffff) = some [] ∧
    ∃ windows : List (List Event), windows.flatten = threeEvents ∧
      ∀ j < windows.length, j * 2 < 3 ∧
        threeEvents.wordRange? (Int64.ofNat (j * 2)) (some 2) = windows[j]? := by
  obtain ⟨-, ranges, tiles⟩ := wordRange?_exact
  refine ⟨?_, ?_, ?_, tiles threeEvents 2 (by decide) (by decide)⟩
  · exact (ranges threeEvents Int64.minValue (some 0xffffffffffffffff) (by decide)).2
  · exact (ranges threeEvents 1 (some 0xffffffffffffffff) (by decide)).2
  · exact (ranges threeEvents Int64.maxValue (some 0xffffffffffffffff) (by decide)).2

end ListLog
end EventLog
