import EventLog.Json.Field
import EventLog.Proofs.Json.Scanning
import EventLog.Proofs.Text.Digits

/-! Numbers of the grammar are read as numbers. Integers in decimal digits are among them, and are
read back. -/
namespace EventLog

namespace Json

open Text.Numeral

theorem digits_toDigits (n : Nat) : Digits (Nat.toDigits 10 n) where
  nonempty := Nat.toDigits_ne_nil
  digit := fun _ => isDigit_of_mem_toDigits

/-- Zero is one digit, and other numbers begin with another. -/
theorem whole_toDigits (n : Nat) : Whole (Nat.toDigits 10 n) where
  toDigits := digits_toDigits n
  front := by
    rcases Nat.eq_zero_or_pos n with zero | positive
    · subst zero
      exact .inl rfl
    · exact .inr (head?_toDigits positive)

theorem Digits.unsigned {digits : List Char} (h : Digits digits) :
    ∃ c rest, digits = c :: rest ∧ c ≠ '+' ∧ c ≠ '-' := by
  obtain ⟨c, rest, rfl⟩ := List.exists_cons_of_ne_nil h.nonempty
  have digit := h.digit c List.mem_cons_self
  refine ⟨c, rest, rfl, ?_, ?_⟩
  · rintro rfl
    cases digit
  · rintro rfl
    cases digit

theorem Exponent.isExponent {text : List Char} (h : Exponent text) :
    Lexeme.isExponent text = true := by
  cases h with
  | absent => rfl
  | @present mark sign digits marked signed valid =>
    have letter : (mark == 'e' || mark == 'E') = true := by simpa using marked
    have digit : digits.all isDigit = true := List.all_eq_true.2 valid.digit
    obtain ⟨c, rest, rfl, plus, minus⟩ := valid.unsigned
    rcases signed with rfl | rfl | rfl <;> simp [Lexeme.isExponent, letter, digit, plus, minus]

theorem Exponent.ends {text : List Char} (h : Exponent text) :
    ∀ c ∈ text.head?, isDigit c = false := by
  cases h with
  | absent => simp
  | present marked => rcases marked with rfl | rfl <;> simp <;> decide

variable {fraction exponent : List Char}

theorem Fraction.isFraction (h : Fraction fraction) (h' : Exponent exponent) :
    Lexeme.isFraction (fraction ++ exponent) = true := by
  cases h with
  | absent =>
    cases h' with
    | absent => rfl
    | present marked signed valid =>
      have whole := (Exponent.present marked signed valid).isExponent
      rcases marked with rfl | rfl <;> exact whole
  | @present digits valid =>
    rw [List.cons_append, Lexeme.isFraction, takeWhile_exact valid.digit h'.ends,
      dropWhile_exact valid.digit h'.ends, h'.isExponent]
    simp [valid.nonempty]

theorem Fraction.ends (h : Fraction fraction) (h' : Exponent exponent) :
    ∀ c ∈ (fraction ++ exponent).head?, isDigit c = false := by
  cases h with
  | absent => exact h'.ends
  | present => simp; decide

theorem Number.isNumber {lexeme : List Char} (h : Number lexeme) :
    Lexeme.isNumber lexeme = true := by
  cases h with
  | @mk sign whole fraction exponent signed valid point scale =>
    have ends := point.ends scale
    have front : (whole == ['0'] || whole.head? != some '0') = true := by simpa using valid.front
    have unsigned : (!((whole ++ (fraction ++ exponent)).takeWhile isDigit).isEmpty
        && ((whole ++ (fraction ++ exponent)).takeWhile isDigit == ['0']
          || ((whole ++ (fraction ++ exponent)).takeWhile isDigit).head? != some '0')
        && Lexeme.isFraction ((whole ++ (fraction ++ exponent)).dropWhile isDigit)) = true := by
      rw [takeWhile_exact valid.digit ends, dropWhile_exact valid.digit ends, front,
        point.isFraction scale]
      simp [valid.nonempty]
    rcases signed with rfl | rfl
    · -- A digit in front is no sign.
      obtain ⟨c, rest, rfl, -, minus⟩ := valid.unsigned
      rw [List.nil_append, Lexeme.isNumber.eq_def]
      split
      · rename_i same
        exact absurd (List.cons.inj same).1 minus
      · exact unsigned
    · exact unsigned

theorem toDigits_unsigned (n : Nat) (rest : List Char) : Nat.toDigits 10 n ≠ '-' :: rest := by
  intro signed
  have digit := @isDigit_of_mem_toDigits n '-' (by simp [signed])
  cases digit

theorem Token.ofWord?_of_isNumber {word : List Char} (h : Lexeme.isNumber word = true) :
    ofWord? word = some (number word) := by
  have null : word ≠ ['n', 'u', 'l', 'l'] := by
    rintro rfl
    cases h
  have yes : word ≠ ['t', 'r', 'u', 'e'] := by
    rintro rfl
    cases h
  have no : word ≠ ['f', 'a', 'l', 's', 'e'] := by
    rintro rfl
    cases h
  rw [ofWord?, if_neg null, if_neg yes, if_neg no, if_pos h]

theorem number_toString (n : Int) : Number (toString n).toList := by
  have positive := Number.mk (.inl rfl) (whole_toDigits n.natAbs) .absent .absent
  have negative := Number.mk (.inr rfl) (whole_toDigits n.natAbs) .absent .absent
  rw [toList_toString]
  split
  · simpa using negative
  · simpa using positive

theorem inWord_of_isDigit {c : Char} (h : isDigit c = true) :
    c.toNat < 128 ∧ Token.inWord c.toUInt8 = true := by
  have digits : ∀ n < 58, 48 ≤ n → Token.inWord (Char.ofNat n).toUInt8 = true := by decide
  simp only [isDigit, Char.le_def, Bool.and_eq_true, decide_eq_true_eq, UInt32.le_iff_toNat_le] at h
  obtain ⟨low, high⟩ := h
  have low : 48 ≤ c.toNat := low
  have high : c.toNat ≤ 57 := high
  have word := digits c.toNat (by omega) low
  rw [Char.ofNat_toNat] at word
  exact ⟨by omega, word⟩

theorem Number.inWord {lexeme : List Char} (h : Number lexeme) :
    ∀ c ∈ lexeme, c.toNat < 128 ∧ Token.inWord c.toUInt8 = true := by
  have digits : ∀ {digits : List Char}, Digits digits →
      ∀ c ∈ digits, c.toNat < 128 ∧ Token.inWord c.toUInt8 = true :=
    fun valid c member => inWord_of_isDigit (valid.digit c member)
  cases h with
  | @mk sign whole fraction exponent signed valid point scale =>
    simp only [List.mem_append]
    rintro c (member | member | member | member)
    · rcases signed with rfl | rfl
      · cases member
      · cases List.mem_singleton.1 member
        decide
    · exact digits valid.toDigits c member
    · cases point with
      | absent => cases member
      | present valid =>
        rcases List.mem_cons.1 member with rfl | member
        · decide
        · exact digits valid c member
    · cases scale with
      | absent => cases member
      | present marked signed valid =>
        rcases List.mem_cons.1 member with rfl | member
        · rcases marked with rfl | rfl <;> decide
        rcases List.mem_append.1 member with member | member
        · rcases signed with rfl | rfl | rfl
          · cases member
          · cases List.mem_singleton.1 member
            decide
          · cases List.mem_singleton.1 member
            decide
        · exact digits valid c member

theorem Number.spells {lexeme : List Char} (h : Number lexeme) :
    Token.Spells (lexeme.map Char.toUInt8) [.number lexeme] := by
  have back : (lexeme.map Char.toUInt8).map Char.ofUInt8 = lexeme := by
    rw [List.map_map]
    have same : ∀ c ∈ lexeme, (Char.ofUInt8 ∘ Char.toUInt8) c = id c :=
      fun c member => Text.Utf8.ofUInt8_toUInt8 (h.inWord c member).1
    rw [List.map_congr_left same, List.map_id]
  have nonempty : lexeme ≠ [] := by
    rintro rfl
    cases h.isNumber
  have inside : ∀ b ∈ lexeme.map Char.toUInt8, Token.inWord b = true := by
    intro b member
    obtain ⟨c, here, rfl⟩ := List.mem_map.1 member
    exact (h.inWord c here).2
  refine Token.spells_word (by simpa using nonempty) inside ?_
  rw [back]
  exact Token.ofWord?_of_isNumber h.isNumber

theorem encode_toString (n : Int) :
    Text.Utf8.encode (toString n) = (toString n).toList.map Char.toUInt8 :=
  Text.Utf8.encode_of_ascii fun c member => ((number_toString n).inWord c member).1

theorem integer?_toString (n : Int) : (Value.number (toString n).toList).integer? = some n := by
  rw [toList_toString]
  split
  · rename_i negative
    have nonzero : Nat.toDigits 10 n.natAbs ≠ ['0'] := by
      intro zero
      have front := head?_toDigits (Int.natAbs_pos.2 (by omega : n ≠ 0))
      rw [zero] at front
      exact front rfl
    rw [Value.integer?, if_neg nonzero, digits?_toDigits]
    show some (-(n.natAbs : Int)) = some n
    congr 1
    omega
  · rename_i positive
    rw [Value.integer?.eq_def]
    split
    · rename_i digits same
      exact absurd (Value.number.inj same) (toDigits_unsigned n.natAbs digits)
    · rename_i digits same
      rw [← Value.number.inj same, digits?_toDigits]
      show some (n.natAbs : Int) = some n
      congr 1
      omega
    · rename_i other
      exact absurd rfl (other _)

end Json
end EventLog
