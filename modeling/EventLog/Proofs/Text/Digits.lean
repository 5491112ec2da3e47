import EventLog.Text.Numeral
import EventLog.Text.Padding

/-! Decimal digits: they are read back, also behind zeros, and digits of one width stand in the
order of their numbers. -/
namespace EventLog

namespace Text.Numeral

theorem isDigit_eq (c : Char) : isDigit c = c.isDigit := by
  simp [isDigit, Char.isDigit, Char.le_def]

theorem isDigit_of_mem_toDigits {n : Nat} {c : Char} (h : c ∈ Nat.toDigits 10 n) :
    isDigit c = true := by
  rw [isDigit_eq]
  exact Nat.isDigit_of_mem_toDigits (by decide) (by decide) h

theorem value_toDigits (n : Nat) : value (Nat.toDigits 10 n) = n :=
  Nat.ofDigitChars_ten_toDigits

theorem digits?_toDigits (n : Nat) : digits? (Nat.toDigits 10 n) = some n := by
  have digits : (Nat.toDigits 10 n).all isDigit = true :=
    List.all_eq_true.2 fun c member => isDigit_of_mem_toDigits member
  have some := Nat.toDigits_ne_nil (n := n) (b := 10)
  simp [digits?, digits, some, value_toDigits]

theorem value_zeros (n : Nat) (digits : List Char) :
    value (List.replicate n '0' ++ digits) = value digits := by
  induction n with
  | zero => rfl
  | succ n ih =>
    rw [List.replicate_succ, List.cons_append, ← ih]
    rfl

/-- Only zero has a zero in front. -/
theorem head?_toDigits {n : Nat} (h : 0 < n) : (Nat.toDigits 10 n).head? ≠ some '0' := by
  induction n using Nat.strongRecOn with
  | ind n ih =>
    by_cases small : n < 10
    · have digit : ∀ d < 10, 0 < d → [Nat.digitChar d].head? ≠ some '0' := by decide
      rw [Nat.toDigits_of_lt_base small]
      exact digit n small h
    · -- The digit in front is that of the tenth part.
      have front := ih (n / 10) (by omega) (by omega)
      rw [Nat.toDigits_of_base_le (by decide) (by omega), List.head?_append]
      cases digits : (Nat.toDigits 10 (n / 10)).head? with
      | none => exact absurd (List.head?_eq_none_iff.1 digits) Nat.toDigits_ne_nil
      | some c =>
        rw [digits] at front
        exact front

theorem toList_toString (n : Int) : (toString n).toList =
    if n < 0 then '-' :: Nat.toDigits 10 n.natAbs else Nat.toDigits 10 n.natAbs := by
  cases n with
  | ofNat m =>
    rw [if_neg (by simp)]
    show (toString m).toList = _
    rw [Nat.toString_eq_ofList_toDigits]
    simp
  | negSucc m =>
    rw [if_pos (by simp)]
    show ("-" ++ toString (m + 1)).toList = _
    rw [Nat.toString_eq_ofList_toDigits]
    simp

end Text.Numeral

namespace Text

open Numeral

theorem toList_digits (width n : Nat) : (digits width n).toList =
    List.replicate (width - (Nat.toDigits 10 n).length) '0' ++ Nat.toDigits 10 n := by
  simp [digits, pad, Alignment.before]

theorem isDigit_of_mem_digits {width n : Nat} {c : Char} (h : c ∈ (digits width n).toList) :
    isDigit c = true := by
  rw [toList_digits] at h
  rcases List.mem_append.1 h with zero | digit
  · rw [List.eq_of_mem_replicate zero]
    rfl
  · exact isDigit_of_mem_toDigits digit

theorem digits?_digits (width n : Nat) : digits? (digits width n).toList = some n := by
  have all : (digits width n).toList.all isDigit = true :=
    List.all_eq_true.2 fun c member => isDigit_of_mem_digits member
  have some : (digits width n).toList ≠ [] := by simp [toList_digits, Nat.toDigits_ne_nil]
  rw [digits?, all, toList_digits, value_zeros, value_toDigits, ← toList_digits]
  simp [some]

/-- A character that is no digit. -/
theorem notMem_digits {c : Char} (other : isDigit c = false) (width n : Nat) :
    c ∉ (digits width n).toList := fun member => by
  rw [isDigit_of_mem_digits member] at other
  cases other

theorem length_digits {width n : Nat} (fits : (Nat.toDigits 10 n).length ≤ width) :
    (digits width n).toList.length = width := by
  rw [toList_digits, List.length_append, List.length_replicate]
  omega

/-- The last digit stands behind those of the tenth part. -/
theorem digits_succ (width n : Nat) : (digits (width + 2) n).toList =
    (digits (width + 1) (n / 10)).toList ++ [Nat.digitChar (n % 10)] := by
  simp only [toList_digits]
  by_cases small : n < 10
  · have front : n / 10 = 0 := by omega
    have last : n % 10 = n := by omega
    rw [front, last, Nat.toDigits_of_lt_base small, Nat.toDigits_zero]
    simp [List.replicate_succ']
  · rw [Nat.toDigits_of_base_le (by decide) (by omega), List.length_append, ← List.append_assoc]
    simp

/-! The order of texts. -/

variable {front front' rest rest' : List Char}

theorem append_lt_append (length : front.length = front'.length) (before : front < front') :
    front ++ rest < front' ++ rest' := by
  induction front generalizing front' with
  | nil =>
    rw [List.eq_nil_of_length_eq_zero length.symm] at before
    exact absurd before (List.lt_irrefl [])
  | cons c front ih =>
    obtain ⟨c', front', rfl⟩ := List.exists_cons_of_length_eq_add_one length.symm
    rw [List.cons_append, List.cons_append, List.cons_lt_cons_iff]
    rcases List.cons_lt_cons_iff.1 before with first | ⟨same, later⟩
    · exact .inl first
    · exact .inr ⟨same, ih (by simpa using length) later⟩

theorem digitChar_lt {n m : Nat} (less : n < m) (small : m < 10) :
    Nat.digitChar n < Nat.digitChar m := by
  rw [Char.lt_def, UInt32.lt_iff_toNat_lt]
  show (Nat.digitChar n).toNat < (Nat.digitChar m).toNat
  rw [Nat.toNat_digitChar_of_lt_ten small, Nat.toNat_digitChar_of_lt_ten (by omega)]
  omega

theorem length_toDigits_div {width n : Nat} (fits : (Nat.toDigits 10 n).length ≤ width + 2) :
    (Nat.toDigits 10 (n / 10)).length ≤ width + 1 := by
  by_cases small : n < 10
  · have front : n / 10 = 0 := by omega
    rw [front, Nat.toDigits_zero]
    exact Nat.le_add_left 1 width
  · rw [Nat.toDigits_of_base_le (by decide) (by omega), List.length_append] at fits
    exact Nat.le_of_succ_le_succ fits

theorem digits_lt {width n m : Nat} (less : n < m) (fits : (Nat.toDigits 10 n).length ≤ width + 1)
    (fits' : (Nat.toDigits 10 m).length ≤ width + 1) :
    (digits (width + 1) n).toList < (digits (width + 1) m).toList := by
  induction width generalizing n m with
  | zero =>
    have small := (Nat.length_toDigits_le_iff (by decide) (by decide)).1 fits'
    rw [toList_digits, toList_digits, Nat.toDigits_of_lt_base small,
      Nat.toDigits_of_lt_base (Nat.lt_trans less small)]
    exact List.cons_lt_cons_iff.2 (.inl (digitChar_lt less small))
  | succ width ih =>
    have front := length_toDigits_div fits
    have front' := length_toDigits_div fits'
    rw [digits_succ, digits_succ]
    rcases (by omega : n / 10 < m / 10 ∨ n / 10 = m / 10 ∧ n % 10 < m % 10) with tens | ⟨tens, last⟩
    · refine append_lt_append ?_ (ih tens front front')
      rw [length_digits front, length_digits front']
    · rw [tens]
      exact List.append_left_lt (List.cons_lt_cons_iff.2 (.inl (digitChar_lt last (by omega))))

/-- Numbers of one width in front decide the order, or leave it to what follows. -/
theorem digits_append_lt (separator : Char) {width n m : Nat}
    (fits : (Nat.toDigits 10 n).length ≤ width + 1) (fits' : (Nat.toDigits 10 m).length ≤ width + 1)
    (less : n < m ∨ n = m ∧ rest < rest') :
    (digits (width + 1) n).toList ++ separator :: rest <
      (digits (width + 1) m).toList ++ separator :: rest' := by
  rcases less with before | ⟨same, later⟩
  · refine append_lt_append ?_ (digits_lt before fits fits')
    rw [length_digits fits, length_digits fits']
  · rw [same]
    exact List.append_left_lt (List.cons_lt_cons_iff.2 (.inr ⟨rfl, later⟩))

end Text
end EventLog
