import EventLog.Codec

/-! Compact payloads are read back. A reader of what was written uses up exactly the written bytes,
whatever follows them, and runs out of input on fewer. -/
namespace EventLog.Compact

open Text.Utf8 (decode?_encode)

/-- The reader takes exactly these bytes off its input and returns the value. -/
structure Reader.Takes {α : Type} (r : Reader α) (taken : List UInt8) (a : α) : Prop where
  whole : ∀ rest, r (taken ++ rest) = .ok (a, rest)
  short : ∀ part, part <+: taken → part ≠ taken → r part = .error .endOfInput

namespace Reader

variable {α β : Type} {r : Reader α} {f : α → Reader β} {taken later : List UInt8} {a : α} {b : β}

theorem bind_of_ok {input rest : List UInt8} (h : r input = .ok (a, rest)) :
    (r >>= f) input = f a rest := by
  show (r input >>= fun p => f p.1 p.2) = f a rest
  rw [h]
  rfl

theorem bind_of_error {input : List UInt8} {fault : Fault} (h : r input = .error fault) :
    (r >>= f) input = .error fault := by
  show (r input >>= fun p => f p.1 p.2) = .error fault
  rw [h]
  rfl

theorem takes_pure (a : α) : Takes (pure a) [] a where
  whole _ := rfl
  short _ beginning other := absurd (List.prefix_nil.1 beginning) other

theorem Takes.bind (first : r.Takes taken a) (second : (f a).Takes later b) :
    (r >>= f).Takes (taken ++ later) b where
  whole rest := by
    rw [List.append_assoc, bind_of_ok (first.whole (later ++ rest))]
    exact second.whole rest
  short part beginning other := by
    -- The part ends within what the first reader takes, or goes on into what the second takes.
    rcases List.prefix_or_prefix_of_prefix beginning (List.prefix_append taken later) with
      inside | ⟨more, rfl⟩
    · by_cases all : part = taken
      · subst all
        have left : f a [] = .error .endOfInput := by
          refine second.short [] List.nil_prefix fun none => other ?_
          rw [← none, List.append_nil]
        have read := first.whole []
        rw [List.append_nil] at read
        rw [bind_of_ok read, left]
      · exact bind_of_error (first.short part inside all)
    · have here := (List.prefix_append_right_inj taken).1 beginning
      rw [bind_of_ok (first.whole more)]
      exact second.short more here fun same => other (by rw [same])

theorem Takes.returning (first : r.Takes taken a) (value : f a = pure b) :
    (r >>= f).Takes taken b := by
  rw [← List.append_nil taken]
  refine first.bind ?_
  rw [value]
  exact takes_pure b

theorem takes_byte (b : UInt8) : byte.Takes [b] b where
  whole _ := rfl
  short part beginning other := by
    cases part with
    | nil => rfl
    | cons c rest =>
      have length := beginning.length_le
      have whole : c :: rest = [b] := beginning.eq_of_length (by simp at length; simp [length])
      exact absurd whole other

theorem takes_bytes (taken : List UInt8) : (bytes taken.length).Takes taken taken where
  whole rest := bytes_append taken rest
  short part beginning other := by
    have shorter : part.length < taken.length := by
      rcases Nat.lt_or_eq_of_le beginning.length_le with less | equal
      · exact less
      · exact absurd (beginning.eq_of_length equal) other
    simp [bytes, Nat.not_le.2 shorter]

end Reader

/-- The first number that is too large for a last byte after so many others. -/
def Varint.limit (last : UInt8) : (count : Nat) → Nat
  | 0 => last.toNat + 1
  | count + 1 => 128 * limit last count

/-- Numbers within the width of the type are read from their shortest form. -/
theorem Varint.takes_read (last : UInt8) (low : last < 0x80) (count n : Nat)
    (fits : n < limit last count) : (read last (count + 1)).Takes (encode n) n := by
  induction count generalizing n with
  | zero =>
    have small : n ≤ last.toNat := Nat.le_of_lt_succ fits
    have below : last.toNat < 128 := low
    have byte : n.toUInt8.toNat = n := by simp; omega
    rw [encode, if_pos (by omega), read]
    refine (Reader.takes_byte n.toUInt8).returning ?_
    have within : ¬ last < n.toUInt8 := by
      rw [UInt8.lt_iff_toNat_lt, byte]
      omega
    rw [byte, if_pos (by omega), if_neg (by simp [within])]
  | succ count ih =>
    rw [encode, read]
    split
    · rename_i small
      have byte : n.toUInt8.toNat = n := by simp; omega
      refine (Reader.takes_byte n.toUInt8).returning ?_
      rw [byte, if_pos small, if_neg (by simp)]
    · have byte : (n % 128 + 128).toUInt8.toNat = n % 128 + 128 := by simp; omega
      have higher : n / 128 < limit last count := Nat.div_lt_of_lt_mul fits
      have value : n % 128 + 128 - 128 + 128 * (n / 128) = n := by omega
      refine (Reader.takes_byte _).bind ?_
      rw [byte, if_neg (by omega)]
      exact (ih (n / 128) higher).returning (by rw [value])

theorem Varint.takes_read64 {n : Nat} (h : n < 0x10000000000000000) : read64.Takes (encode n) n :=
  takes_read 1 (by decide) 9 n h

theorem Varint.takes_read32 {n : Nat} (h : n < 0x100000000) : read32.Takes (encode n) n :=
  takes_read 15 (by decide) 4 n h

namespace Reader

theorem takes_text {t : String} (h : (Text.Utf8.encode t).length < 0x10000000000000000) :
    text.Takes (encodeText t) t := by
  refine (Varint.takes_read64 h).bind ?_
  refine (takes_bytes (Text.Utf8.encode t)).returning ?_
  rw [decode?_encode]

theorem takes_texts {ts : List String} (h : ∀ t ∈ ts, (Text.Utf8.encode t).length < 0x10000000000000000) :
    (texts ts.length).Takes (ts.flatMap encodeText) ts := by
  induction ts with
  | nil => exact takes_pure []
  | cons t later ih =>
    have first := takes_text (h t List.mem_cons_self)
    have rest := ih fun u member => h u (List.mem_cons_of_mem t member)
    rw [List.flatMap_cons]
    exact first.bind (rest.returning rfl)

theorem takes_severity (s : Severity) : severity.Takes (Varint.encode s.rank) s := by
  have rank : s.rank < 0x100000000 := by
    have := s.rank_lt
    omega
  refine (Varint.takes_read32 rank).returning ?_
  rw [Severity.ofRank?_rank]

theorem takes_cause {c : Option String}
    (h : ∀ t, c = some t → (Text.Utf8.encode t).length < 0x10000000000000000) :
    cause.Takes (encodeCause c) c := by
  cases c with
  | none => exact (takes_byte 0).returning rfl
  | some t =>
    refine (takes_byte 1).bind ?_
    rw [if_neg (by decide), if_pos rfl]
    exact (takes_text (h t rfl)).returning rfl

end Reader

/-- The lengths that are put in front of texts and lists have room in 64 bits. -/
structure Measured (e : Event) : Prop where
  message : (Text.Utf8.encode e.message).length < 0x10000000000000000
  arguments : ∀ t ∈ e.arguments, (Text.Utf8.encode t).length < 0x10000000000000000
  count : e.arguments.length < 0x10000000000000000
  cause : ∀ t, e.cause = some t → (Text.Utf8.encode t).length < 0x10000000000000000

theorem length_encodeText (t : String) :
    (Text.Utf8.encode t).length ≤ (encodeText t).length := by simp [encodeText]

theorem length_le_flatMap_encodeText (ts : List String) :
    ts.length ≤ (ts.flatMap encodeText).length := by
  induction ts with
  | nil => simp
  | cons t later ih =>
    have some := List.length_pos_iff.2 (Varint.encode_ne_nil (Text.Utf8.encode t).length)
    simp only [List.flatMap_cons, List.length_append, List.length_cons, encodeText] at ih ⊢
    omega

theorem measured_of_length {e : Event} (h : (encode e).length < 0x10000000000000000) : Measured e := by
  have message := length_encodeText e.message
  have count := length_le_flatMap_encodeText e.arguments
  simp only [encode, encodeTexts, List.length_append] at h
  refine ⟨by omega, fun t member => ?_, by omega, fun t there => ?_⟩
  · have inside : (encodeText t).length ≤ (e.arguments.flatMap encodeText).length :=
      (List.sublist_flatten_of_mem (List.mem_map_of_mem member)).length_le
    have own := length_encodeText t
    omega
  · have own := length_encodeText t
    simp only [there, encodeCause, List.length_cons] at h
    omega

theorem takes_event {e : Event} (h : Measured e) : Reader.event.Takes (encode e) e := by
  have number : Varint.zigzag e.time.toInt < 0x10000000000000000 := by
    have low := e.time.le_toInt
    have high := e.time.toInt_lt
    unfold Varint.zigzag
    split <;> omega
  have time : Int64.ofInt (Varint.unzigzag (Varint.zigzag e.time.toInt)) = e.time := by simp
  simp only [encode, encodeTexts, List.append_assoc]
  refine (Reader.takes_severity e.severity).bind ?_
  refine (Reader.takes_text h.message).bind ?_
  refine (Varint.takes_read64 h.count).bind ?_
  refine (Reader.takes_texts h.arguments).bind ?_
  refine (Reader.takes_cause h.cause).bind ?_
  refine (Varint.takes_read64 number).returning ?_
  rw [time]

theorem decode_encode_append {e : Event} (h : Measured e) (rest : List UInt8) :
    decode (encode e ++ rest) = .ok e := by
  rw [decode, (takes_event h).whole rest]
  rfl

theorem encode_ne_nil (e : Event) : encode e ≠ [] := by
  simp [encode, Varint.encode_ne_nil]

end EventLog.Compact
