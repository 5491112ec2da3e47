import EventLog.Codec
import EventLog.Proofs.Codec.Compact
import EventLog.Proofs.Codec.Layout

/-! Payloads in any spelling that the reader takes. A number may be written with needless groups up to
the width of its type, so an event has many spellings, of which its payload is the shortest. Main
statement: whatever the bytes are, an event that is read from them stands in front of them in one of
its spellings, and a refusal stands unless the input was at its end. -/
namespace EventLog.Compact

namespace Varint

/-- Groups of seven bits in at most `count` bytes, the last of so many at most `last`. Groups at the
end may be needless. -/
structure Spells (last : UInt8) (count n : Nat) (bytes : List UInt8) : Prop where
  value : value bytes = n
  ends : ∃ front final, bytes = front ++ [final] ∧ (∀ b ∈ front, 128 ≤ b.toNat) ∧ final.toNat < 128 ∧
    (front.length + 1 < count ∨ front.length + 1 = count ∧ final ≤ last)

/-- The last of several groups is zero. -/
def Overlong (bytes : List UInt8) : Prop := ∃ front, front ≠ [] ∧ bytes = front ++ [0]

theorem not_spells_zero {last : UInt8} {n : Nat} {bytes : List UInt8} :
    ¬ Spells last 0 n bytes := by
  rintro ⟨-, front, final, -, -, -, room⟩
  omega

/-- A spelling is one byte, or a byte with its high bit in front of another spelling. -/
theorem spells_iff {last : UInt8} {count n : Nat} {bytes : List UInt8} :
    Spells last (count + 1) n bytes ↔ ∃ b back, bytes = b :: back ∧
      ((back = [] ∧ b.toNat = n ∧ b.toNat < 128 ∧ (count = 0 → b ≤ last)) ∨
        ∃ m, b.toNat - 128 + 128 * m = n ∧ 128 ≤ b.toNat ∧ Spells last count m back) := by
  constructor
  · rintro ⟨rfl, front, final, rfl, goesOn, stops, room⟩
    cases front with
    | nil =>
      refine ⟨final, [], rfl, .inl ⟨rfl, by simp; omega, stops, fun none => ?_⟩⟩
      rcases room with room | ⟨-, low⟩
      · omega
      · exact low
    | cons b front =>
      have high := goesOn b List.mem_cons_self
      have size := b.toNat_lt
      refine ⟨b, front ++ [final], rfl, .inr ⟨Varint.value (front ++ [final]), ?_, high, rfl, front,
        final, rfl, fun c inside => goesOn c (List.mem_cons_of_mem b inside), stops, ?_⟩⟩
      · rw [List.cons_append, value_cons]
        omega
      · exact room.imp Nat.lt_of_succ_lt_succ (And.imp_left Nat.succ.inj)
  · rintro ⟨b, _, rfl, ⟨rfl, rfl, stops, low⟩ |
      ⟨m, rfl, high, rfl, front, final, rfl, goesOn, stops, room⟩⟩
    · refine ⟨by simp; omega, [], b, rfl, by simp, stops, ?_⟩
      rcases Nat.eq_zero_or_pos count with none | some
      · exact .inr ⟨by simp [none], low none⟩
      · exact .inl (by simp; omega)
    · have size := b.toNat_lt
      refine ⟨by rw [value_cons]; omega, b :: front, final, rfl, ?_, stops, ?_⟩
      · intro c inside
        rcases List.mem_cons.1 inside with rfl | inside
        · exact high
        · exact goesOn c inside
      · exact room.imp Nat.succ_lt_succ (And.imp_left (congrArg Nat.succ))

theorem limit_pos (last : UInt8) (count : Nat) : 0 < limit last count := by
  induction count with
  | zero => exact Nat.succ_pos _
  | succ count ih => exact Nat.mul_pos (by decide) ih

theorem Spells.lt_limit {last : UInt8} {count n : Nat} {bytes : List UInt8}
    (h : Spells last (count + 1) n bytes) : n < limit last count := by
  induction count generalizing n bytes with
  | zero =>
    obtain ⟨b, back, -, ⟨-, rfl, -, low⟩ | ⟨m, -, -, more⟩⟩ := spells_iff.1 h
    · exact Nat.lt_succ_of_le (low rfl)
    · exact absurd more not_spells_zero
  | succ count ih =>
    have some := limit_pos last count
    obtain ⟨b, back, -, ⟨-, rfl, stops, -⟩ | ⟨m, rfl, -, more⟩⟩ := spells_iff.1 h
    · simp only [limit]
      omega
    · have size := b.toNat_lt
      have below := ih more
      simp only [limit]
      omega

theorem length_encode_value {bytes : List UInt8} (h : bytes ≠ []) :
    (encode (value bytes)).length ≤ bytes.length := by
  induction bytes with
  | nil => exact absurd rfl h
  | cons b later ih =>
    rw [encode]
    split
    · simp
    · rename_i large
      rw [value_cons] at large ⊢
      have rest : (b.toNat % 128 + 128 * value later) / 128 = value later := by omega
      have more : later ≠ [] := by
        rintro rfl
        simp at large
        omega
      rw [rest]
      exact Nat.succ_le_succ (ih more)

theorem value_concat_zero (front : List UInt8) : value (front ++ [0]) = value front := by
  induction front with
  | nil => rfl
  | cons b front ih => rw [List.cons_append, value_cons, value_cons, ih]

theorem Overlong.length_lt {bytes : List UInt8} (h : Overlong bytes) :
    (encode (value bytes)).length < bytes.length := by
  obtain ⟨front, some, rfl⟩ := h
  rw [value_concat_zero]
  have := length_encode_value some
  simp only [List.length_append, List.length_singleton]
  omega

end Varint

/-- What is written is no longer than what is spelled, and the same just when none of the numbers in
it is over-long. -/
structure Shortens (written spelled : List UInt8) (numbers : List (List UInt8)) : Prop where
  le : written.length ≤ spelled.length
  eq : (∀ n ∈ numbers, ¬ Varint.Overlong n) → spelled = written
  lt : ∀ n ∈ numbers, Varint.Overlong n → written.length < spelled.length

namespace Shortens

variable {written written' spelled spelled' : List UInt8} {numbers numbers' : List (List UInt8)}

theorem refl (bytes : List UInt8) : Shortens bytes bytes [] where
  le := Nat.le_refl _
  eq _ := rfl
  lt _ inside := by cases inside

theorem append (first : Shortens written spelled numbers)
    (second : Shortens written' spelled' numbers') :
    Shortens (written ++ written') (spelled ++ spelled') (numbers ++ numbers') where
  le := by
    have := first.le
    have := second.le
    simp only [List.length_append]
    omega
  eq short := by
    rw [first.eq fun n inside => short n (List.mem_append_left numbers' inside),
      second.eq fun n inside => short n (List.mem_append_right numbers inside)]
  lt n inside overlong := by
    have := first.le
    have := second.le
    simp only [List.length_append]
    rcases List.mem_append.1 inside with inside | inside
    · have := first.lt n inside overlong
      omega
    · have := second.lt n inside overlong
      omega

theorem eq_iff (h : Shortens written spelled numbers) :
    written = spelled ↔ ∀ n ∈ numbers, ¬ Varint.Overlong n := by
  constructor
  · rintro rfl n inside overlong
    exact Nat.lt_irrefl _ (h.lt n inside overlong)
  · exact fun short => (h.eq short).symm

end Shortens

theorem Varint.Spells.shortens {last : UInt8} {count n : Nat} {bytes : List UInt8}
    (h : Varint.Spells last count n bytes) : Shortens (Varint.encode n) bytes [bytes] := by
  obtain ⟨rfl, front, final, rfl, goesOn, stops, -⟩ := h
  refine ⟨Varint.length_encode_value (by simp), fun short => ?_, fun bytes inside overlong => ?_⟩
  · refine (Varint.encode_of_value goesOn stops fun some zero => ?_).symm
    refine short _ List.mem_cons_self ⟨front, some, ?_⟩
    rw [UInt8.toNat_inj.1 (zero.trans UInt8.toNat_zero.symm)]
  · rw [List.mem_singleton.1 inside] at overlong
    exact overlong.length_lt

/-- The number of bytes of a text, and these bytes. -/
structure TextSpelling where
  length : List UInt8
  content : List UInt8

namespace TextSpelling

def bytes (s : TextSpelling) : List UInt8 := s.length ++ s.content

structure Of (s : TextSpelling) (text : String) : Prop where
  length : Varint.Spells 1 10 (Text.Utf8.encode text).length s.length
  content : s.content = Text.Utf8.encode text

theorem Of.shortens {s : TextSpelling} {text : String} (h : s.Of text) :
    Shortens (encodeText text) s.bytes [s.length] := by
  rw [bytes, h.content]
  exact h.length.shortens.append (.refl _)

theorem shortens_list {spellings : List TextSpelling} {texts : List String}
    (h : List.Forall₂ Of spellings texts) :
    Shortens (texts.flatMap encodeText) (spellings.flatMap bytes) (spellings.map length) := by
  induction h with
  | nil => exact .refl []
  | cons first _ ih => exact first.shortens.append ih

/-- The byte 0 for nothing, the byte 1 in front of a text. -/
def optional : Option TextSpelling → List UInt8
  | none => [0]
  | some s => 1 :: s.bytes

theorem shortens_optional {spelling : Option TextSpelling} {cause : Option String}
    (h : Option.Rel Of spelling cause) :
    Shortens (encodeCause cause) (optional spelling) (spelling.toList.map length) := by
  cases h with
  | none => exact .refl [0]
  | some spells => exact (Shortens.refl [1]).append spells.shortens

end TextSpelling

/-- The bytes of the parts of an event. -/
structure Spelling where
  severity : List UInt8
  message : TextSpelling
  count : List UInt8
  arguments : List TextSpelling
  cause : Option TextSpelling
  time : List UInt8

namespace Spelling

def bytes (s : Spelling) : List UInt8 :=
  s.severity ++ s.message.bytes ++ s.count ++ s.arguments.flatMap TextSpelling.bytes
    ++ TextSpelling.optional s.cause ++ s.time

/-- All numbers in it, as they are spelled. -/
def numbers (s : Spelling) : List (List UInt8) :=
  [s.severity] ++ [s.message.length] ++ [s.count] ++ s.arguments.map TextSpelling.length
    ++ s.cause.toList.map TextSpelling.length ++ [s.time]

/-- The severity has 32 bits, the other numbers have 64, and the time has its sign in the lowest. -/
structure Of (s : Spelling) (e : Event) : Prop where
  severity : Varint.Spells 0x0f 5 e.severity.rank s.severity
  message : s.message.Of e.message
  count : Varint.Spells 1 10 e.arguments.length s.count
  arguments : List.Forall₂ TextSpelling.Of s.arguments e.arguments
  cause : Option.Rel TextSpelling.Of s.cause e.cause
  time : Varint.Spells 1 10 ((e.time <<< 1) ^^^ (e.time >>> 63)).toUInt64.toNat s.time

/-- Of all spellings of an event its payload is the shortest. -/
theorem Of.shortens {s : Spelling} {e : Event} (h : s.Of e) :
    Shortens (encode e) s.bytes s.numbers := by
  have time := h.time
  rw [← Varint.zigzag_toInt] at time
  have shortens := h.severity.shortens.append h.message.shortens |>.append h.count.shortens
    |>.append (TextSpelling.shortens_list h.arguments)
    |>.append (TextSpelling.shortens_optional h.cause) |>.append time.shortens
  simpa [encode, encodeTexts, bytes, numbers] using shortens

end Spelling
end EventLog.Compact
