import EventLog.Codec
import EventLog.Proofs.Codec.Compact
import Mathlib.Data.List.Forall2

/-! The layout of compact payloads, said without their encoder: how numbers, texts and options lie in
the bytes. Main statement: a payload is the only bytes of this layout, ends where it says, and is
read back whatever follows it, while no part of it is a payload. -/
namespace EventLog.Compact

namespace Varint

/-- Groups of seven bits as a number, the lowest first. -/
def value (bytes : List UInt8) : Nat := bytes.foldr (fun b high => b.toNat % 128 + 128 * high) 0

@[simp] theorem value_nil : value [] = 0 := rfl

@[simp] theorem value_cons (b : UInt8) (later : List UInt8) :
    value (b :: later) = b.toNat % 128 + 128 * value later := rfl

/-- Groups of seven bits in bytes whose high bit says that another follows. No group is needless. -/
structure Layout (n : Nat) (bytes : List UInt8) : Prop where
  value : value bytes = n
  ends : ∃ front last, bytes = front ++ [last] ∧ (∀ b ∈ front, 128 ≤ b.toNat) ∧ last.toNat < 128 ∧
    (front ≠ [] → last.toNat ≠ 0)

theorem encode_of_value {front : List UInt8} {last : UInt8} (goesOn : ∀ b ∈ front, 128 ≤ b.toNat)
    (stops : last.toNat < 128) (needed : front ≠ [] → last.toNat ≠ 0) :
    encode (value (front ++ [last])) = front ++ [last] := by
  induction front with
  | nil =>
    have small : value ([] ++ [last]) = last.toNat := by simp; omega
    rw [small, encode, if_pos stops]
    simp
  | cons b front ih =>
    have high := goesOn b List.mem_cons_self
    have byte : b.toNat % 128 + 128 = b.toNat := by
      have := b.toNat_lt
      omega
    -- What follows the first group is not zero, or it would not be there.
    have more : value (front ++ [last]) ≠ 0 := by
      have nonzero := needed (by simp)
      clear ih goesOn needed high byte
      induction front with
      | nil => simp; omega
      | cons c front ih => simp; omega
    have later := ih (fun c inside => goesOn c (List.mem_cons_of_mem b inside))
      (fun _ => needed (by simp))
    rw [List.cons_append, value_cons, encode, if_neg (by omega)]
    have low : (b.toNat % 128 + 128 * value (front ++ [last])) % 128 + 128 = b.toNat := by omega
    have rest : (b.toNat % 128 + 128 * value (front ++ [last])) / 128 = value (front ++ [last]) := by
      omega
    rw [low, rest, later]
    simp

theorem layout_encode (n : Nat) : Layout n (encode n) := by
  induction n using Nat.strongRecOn with
  | ind n ih =>
    rw [encode]
    split
    · rename_i small
      have byte : n.toUInt8.toNat = n := by simp; omega
      exact ⟨by rw [value_cons, byte]; simp; omega,
        [], n.toUInt8, rfl, by simp, by rw [byte]; exact small, by simp⟩
    · rename_i large
      have byte : (n % 128 + 128).toUInt8.toNat = n % 128 + 128 := by simp; omega
      obtain ⟨whole, front, last, shape, goesOn, stops, needed⟩ := ih (n / 128) (by omega)
      refine ⟨by rw [value_cons, byte, whole]; omega, _ :: front, last, by rw [shape]; rfl, ?_,
        stops, fun _ => ?_⟩
      · intro b inside
        rcases List.mem_cons.1 inside with rfl | later
        · rw [byte]
          omega
        · exact goesOn b later
      · cases front with
        | nil =>
          rw [shape] at whole
          simp at whole
          omega
        | cons b front => exact needed (by simp)

theorem layout_iff {n : Nat} {bytes : List UInt8} : Layout n bytes ↔ bytes = encode n := by
  constructor
  · rintro ⟨rfl, front, last, rfl, goesOn, stops, needed⟩
    exact (encode_of_value goesOn stops needed).symm
  · rintro rfl
    exact layout_encode n

/-- The sign goes to the lowest bit, and turns the others over. -/
theorem zigzag_bits (v : BitVec 64) : zigzag v.toInt = ((v <<< 1) ^^^ v.sshiftRight 63).toNat := by
  have size := v.isLt
  cases sign : v.msb with
  | false =>
    have low : v.toNat < 2 ^ 63 := by
      have := BitVec.msb_eq_false_iff_two_mul_lt.1 sign
      omega
    have none : v.sshiftRight 63 = 0#64 := by
      rw [BitVec.sshiftRight_eq_of_msb_false sign]
      apply BitVec.eq_of_toNat_eq
      simp [BitVec.toNat_ushiftRight, Nat.shiftRight_eq_div_pow]
      omega
    rw [none, BitVec.xor_zero, BitVec.toInt_eq_toNat_of_msb sign, zigzag, if_pos (by omega)]
    simp [BitVec.toNat_shiftLeft, Nat.shiftLeft_eq]
    omega
  | true =>
    have high : 2 ^ 63 ≤ v.toNat := by
      have := BitVec.msb_eq_true_iff_two_mul_ge.1 sign
      omega
    have all : v.sshiftRight 63 = BitVec.allOnes 64 := by
      rw [BitVec.sshiftRight_eq_of_msb_true sign]
      apply BitVec.eq_of_toNat_eq
      simp [BitVec.toNat_ushiftRight, Nat.shiftRight_eq_div_pow]
      omega
    have number : v.toInt = v.toNat - 2 ^ 64 := by
      rw [BitVec.toInt_eq_msb_cond, sign]
      simp
    rw [all, BitVec.xor_allOnes, number, zigzag, if_neg (by omega)]
    simp [BitVec.toNat_shiftLeft, Nat.shiftLeft_eq]
    omega

theorem zigzag_toInt (n : Int64) : zigzag n.toInt = ((n <<< 1) ^^^ (n >>> 63)).toUInt64.toNat :=
  zigzag_bits n.toBitVec

end Varint

/-- The number of bytes of a text in UTF-8, and these bytes. -/
def TextLayout (text : String) (bytes : List UInt8) : Prop :=
  ∃ length, Varint.Layout (Text.Utf8.encode text).length length ∧
    bytes = length ++ Text.Utf8.encode text

/-- The byte 0 for nothing, the byte 1 in front of a text. -/
def CauseLayout : Option String → List UInt8 → Prop
  | none, bytes => bytes = [0]
  | some text, bytes => ∃ content, TextLayout text content ∧ bytes = 1 :: content

/-- The parts of an event one behind the other: the rank of its severity, its message, the number of
its arguments and the arguments, its cause, and its time with the sign in the lowest bit. -/
def Layout (e : Event) (bytes : List UInt8) : Prop :=
  ∃ severity message count arguments cause time,
    bytes = severity ++ message ++ count ++ List.flatten arguments ++ cause ++ time ∧
    Varint.Layout e.severity.rank severity ∧ TextLayout e.message message ∧
    Varint.Layout e.arguments.length count ∧ List.Forall₂ TextLayout e.arguments arguments ∧
    CauseLayout e.cause cause ∧
    Varint.Layout ((e.time <<< 1) ^^^ (e.time >>> 63)).toUInt64.toNat time

theorem textLayout_iff {text : String} {bytes : List UInt8} :
    TextLayout text bytes ↔ bytes = encodeText text := by
  simp only [TextLayout, Varint.layout_iff, exists_eq_left, encodeText]

theorem textLayouts_iff {texts : List String} {parts : List (List UInt8)} :
    List.Forall₂ TextLayout texts parts ↔ parts = texts.map encodeText := by
  induction texts generalizing parts with
  | nil => simp
  | cons text later ih => cases parts <;> simp [ih, textLayout_iff]

theorem causeLayout_iff {cause : Option String} {bytes : List UInt8} :
    CauseLayout cause bytes ↔ bytes = encodeCause cause := by
  cases cause with
  | none => rfl
  | some text => simp only [CauseLayout, textLayout_iff, exists_eq_left, encodeCause]

theorem layout_iff {e : Event} {bytes : List UInt8} : Layout e bytes ↔ bytes = encode e := by
  simp only [Layout, Varint.layout_iff, textLayout_iff, textLayouts_iff, causeLayout_iff,
    ← Varint.zigzag_toInt]
  constructor
  · rintro ⟨_, _, _, _, _, _, rfl, rfl, rfl, rfl, rfl, rfl, rfl⟩
    simp [encode, encodeTexts, List.flatMap]
  · rintro rfl
    exact ⟨_, _, _, _, _, _, by simp [encode, encodeTexts, List.flatMap], rfl, rfl, rfl, rfl, rfl, rfl⟩

theorem decode_of_short {e : Event} (measured : Measured e) {part : List UInt8}
    (beginning : part <+: encode e) (other : part ≠ encode e) :
    decode part = .error .endOfInput := by
  rw [decode, (takes_event measured).short part beginning other]
  rfl

/-- Of two payloads, neither is the beginning of the other. -/
theorem eq_of_prefix {e e' : Event} (measured : Measured e) (measured' : Measured e')
    (beginning : encode e' <+: encode e) : e' = e := by
  obtain ⟨rest, whole⟩ := beginning
  have read := decode_encode_append measured' rest
  have same := decode_encode_append measured []
  rw [List.append_nil, ← whole, read] at same
  exact Except.ok.inj same

/-- An event whose lengths have room in 64 bits, as those of all texts in memory do, has one payload,
the bytes of the layout. It is read back whatever follows it, a part of it is refused for want of
input, and no payload of another event is the same or its beginning. -/
theorem self_delimiting {e : Event} (measured : Measured e) :
    ∃ payload, Codec.compact.encode e = .ok payload ∧ (∀ bytes, Layout e bytes ↔ bytes = payload) ∧
      (∀ rest, Codec.compact.decode (payload ++ rest) = .ok e) ∧
      (∀ part, part <+: payload → part ≠ payload →
        ∃ fault, Codec.compact.decode part = .error (.decoding fault) ∧
          fault.message = "Hit the end of buffer, expected more data") ∧
      ∀ e', Measured e' → ∀ payload', Codec.compact.encode e' = .ok payload' →
        payload' <+: payload → e' = e := by
  refine ⟨encode e, rfl, fun bytes => layout_iff, fun rest => ?_, fun part beginning other => ?_, ?_⟩
  · show (decode (encode e ++ rest)).mapError _ = _
    rw [decode_encode_append measured rest]
    rfl
  · refine ⟨.compact .endOfInput, ?_, rfl⟩
    show (decode part).mapError _ = _
    rw [decode_of_short measured beginning other]
    rfl
  · intro e' measured' payload' encoded beginning
    cases encoded
    exact eq_of_prefix measured measured' beginning

/-- An event with everything in it, before the epoch. -/
def fullEvent : Event :=
  { severity := .error, message := "é", arguments := ["", "\x00"], cause := some "disk",
    time := -1 }

/-- Bytes that follow the payload are left alone, and nothing is read without its last byte. -/
theorem self_delimiting_full : Measured fullEvent ∧
    Codec.compact.decode (encode fullEvent ++ [0xff]) = .ok fullEvent ∧
    ∃ fault, Codec.compact.decode (encode fullEvent).dropLast = .error (.decoding fault) ∧
      fault.message = "Hit the end of buffer, expected more data" := by
  have measured : Measured fullEvent := measured_of_length (by decide +kernel)
  obtain ⟨payload, encoded, -, whole, short, -⟩ := self_delimiting measured
  cases encoded
  exact ⟨measured, whole [0xff], short _ (List.dropLast_prefix _) (by decide +kernel)⟩

end EventLog.Compact
