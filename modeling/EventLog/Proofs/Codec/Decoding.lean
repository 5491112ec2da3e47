import EventLog.Proofs.Codec.Spelling

/-! Reading compact payloads from any bytes. Each reader takes the spellings of its values off its
input, and a refusal for another reason than the end of the input stands whatever follows. Main
statement: an event that is read stands in front of the input in one of its spellings, what follows
it does not matter, and its payload is the shortest of these spellings. -/
namespace EventLog.Compact

open Text.Utf8 (decode?_eq_some_iff)

namespace Reader

variable {α β : Type} {r : Reader α} {f : α → Reader β} {S S' : α → List UInt8 → Prop}
  {T : α → β → List UInt8 → Prop}

/-- The reader takes what spells a value, and nothing else. -/
structure Follows (r : Reader α) (spells : α → List UInt8 → Prop) : Prop where
  takes : ∀ {a taken}, spells a taken → r.Takes taken a
  spelled : ∀ {input rest a}, r input = .ok (a, rest) →
    ∃ taken, input = taken ++ rest ∧ spells a taken
  settled : ∀ {input fault}, r input = .error fault → fault ≠ .endOfInput →
    ∀ more, r (input ++ more) = .error fault

theorem Follows.congr (h : r.Follows S) (same : ∀ a taken, S a taken ↔ S' a taken) :
    r.Follows S' where
  takes spells := h.takes ((same _ _).2 spells)
  spelled read := by
    obtain ⟨taken, whole, spells⟩ := h.spelled read
    exact ⟨taken, whole, (same _ _).1 spells⟩
  settled := h.settled

theorem follows_pure (a : α) : (pure a : Reader α).Follows fun b taken => b = a ∧ taken = [] where
  takes := by
    rintro _ _ ⟨rfl, rfl⟩
    exact takes_pure _
  spelled read := by
    cases read
    exact ⟨[], rfl, rfl, rfl⟩
  settled read := by cases read

theorem follows_throw (fault : Fault) : (throw fault : Reader α).Follows fun _ _ => False where
  takes spells := spells.elim
  spelled read := by cases read
  settled read _ _ := by
    cases read
    rfl

/-- A reader behind another takes what is spelled behind what the other takes. -/
theorem Follows.bind (first : r.Follows S) (second : ∀ a, (f a).Follows (T a)) :
    (r >>= f).Follows fun b taken =>
      ∃ a front back, taken = front ++ back ∧ S a front ∧ T a b back where
  takes := by
    rintro b _ ⟨a, front, back, rfl, spells, follows⟩
    exact (first.takes spells).bind ((second a).takes follows)
  spelled {input rest b} read := by
    cases begun : r input with
    | error fault =>
      rw [bind_of_error begun] at read
      cases read
    | ok p =>
      rw [bind_of_ok begun] at read
      obtain ⟨front, rfl, spells⟩ := first.spelled begun
      obtain ⟨back, behind, follows⟩ := (second p.1).spelled read
      exact ⟨front ++ back, by rw [behind, List.append_assoc], p.1, front, back, rfl, spells,
        follows⟩
  settled {input fault} read other more := by
    cases begun : r input with
    | error fault' =>
      rw [bind_of_error begun] at read
      cases read
      exact bind_of_error (first.settled begun other more)
    | ok p =>
      rw [bind_of_ok begun] at read
      obtain ⟨front, rfl, spells⟩ := first.spelled begun
      -- What the first reader took is all that it looks at.
      rw [List.append_assoc, bind_of_ok ((first.takes spells).whole (p.2 ++ more))]
      exact (second p.1).settled read other more

theorem follows_byte : byte.Follows fun b taken => taken = [b] where
  takes := by
    rintro b _ rfl
    exact takes_byte b
  spelled {input rest b} read := by
    cases input with
    | nil => cases read
    | cons c later =>
      cases read
      exact ⟨[b], rfl, rfl⟩
  settled {input fault} read other := by
    cases input with
    | nil =>
      cases read
      exact absurd rfl other
    | cons c later => cases read

theorem follows_bytes (count : Nat) :
    (bytes count).Follows fun content taken => taken = content ∧ content.length = count where
  takes := by
    rintro _ taken ⟨rfl, rfl⟩
    exact takes_bytes taken
  spelled {input rest content} read := by
    unfold bytes at read
    split at read
    · rename_i enough
      cases read
      exact ⟨_, (List.take_append_drop count input).symm, rfl, List.length_take_of_le enough⟩
    · cases read
  settled {input fault} read other := by
    unfold bytes at read
    split at read
    · cases read
    · cases read
      exact absurd rfl other

end Reader

open Reader (Follows follows_byte follows_bytes follows_pure follows_throw)

theorem Varint.follows_read (last : UInt8) (count : Nat) :
    (read last count).Follows (Spells last count) := by
  induction count with
  | zero => exact (follows_throw _).congr fun _ _ => iff_of_false id not_spells_zero
  | succ count ih =>
    refine (follows_byte.bind (T := fun b n back =>
        (back = [] ∧ b.toNat = n ∧ b.toNat < 128 ∧ (count = 0 → b ≤ last)) ∨
          ∃ m, b.toNat - 128 + 128 * m = n ∧ 128 ≤ b.toNat ∧ Spells last count m back)
      fun b => ?_).congr fun n taken => ?_
    · split
      · rename_i stops
        split
        · rename_i high
          refine (follows_throw _).congr fun n taken => iff_of_false id ?_
          rintro (⟨-, -, -, low⟩ | ⟨m, -, goesOn, -⟩)
          · exact UInt8.not_lt.2 (low high.1) high.2
          · omega
        · rename_i low
          refine (follows_pure _).congr fun n taken => ⟨?_, ?_⟩
          · rintro ⟨rfl, rfl⟩
            exact .inl ⟨rfl, rfl, stops, fun none => UInt8.not_lt.1 fun high => low ⟨none, high⟩⟩
          · rintro (⟨rfl, rfl, -⟩ | ⟨m, -, goesOn, -⟩)
            · exact ⟨rfl, rfl⟩
            · omega
      · rename_i goesOn
        refine (ih.bind fun m => follows_pure _).congr fun n taken => ⟨?_, ?_⟩
        · rintro ⟨m, front, back, rfl, spells, rfl, rfl⟩
          exact .inr ⟨m, rfl, by omega, by rwa [List.append_nil]⟩
        · rintro (⟨-, -, stops, -⟩ | ⟨m, rfl, -, spells⟩)
          · omega
          · exact ⟨m, taken, [], (List.append_nil taken).symm, spells, rfl, rfl⟩
    · rw [spells_iff]
      constructor
      · rintro ⟨b, _, back, rfl, rfl, cases⟩
        exact ⟨b, back, rfl, cases⟩
      · rintro ⟨b, back, rfl, cases⟩
        exact ⟨b, [b], back, rfl, rfl, cases⟩

theorem Varint.zigzag_ofInt_unzigzag {n : Nat} (h : n < 0x10000000000000000) :
    zigzag (Int64.ofInt (unzigzag n)).toInt = n := by
  have low : -2 ^ 63 ≤ unzigzag n := by
    unfold unzigzag
    split <;> omega
  have high : unzigzag n < 2 ^ 63 := by
    unfold unzigzag
    split <;> omega
  rw [Int64.toInt_ofInt_of_le low high, zigzag_unzigzag]

namespace Reader

theorem follows_severity : severity.Follows fun s taken => Varint.Spells 0x0f 5 s.rank taken := by
  refine ((Varint.follows_read 0x0f 5).bind
    (T := fun n s back => s.rank = n ∧ back = []) fun n => ?_).congr
    fun s taken => ⟨?_, fun spells => ?_⟩
  · split
    · rename_i s known
      refine (follows_pure s).congr fun t taken => and_congr_left fun _ => ?_
      rw [← Severity.ofRank?_eq_some_iff, known, Option.some.injEq, eq_comm]
    · rename_i unknown
      refine (follows_throw _).congr fun t taken => iff_of_false id ?_
      rintro ⟨rank, -⟩
      rw [Severity.ofRank?_eq_some_iff.2 rank] at unknown
      cases unknown
  · rintro ⟨_, front, _, rfl, spells, rfl, rfl⟩
    rwa [List.append_nil]
  · exact ⟨s.rank, taken, [], (List.append_nil taken).symm, spells, rfl, rfl⟩

theorem follows_text : text.Follows fun t taken => ∃ s : TextSpelling, s.Of t ∧ s.bytes = taken := by
  refine ((Varint.follows_read 1 10).bind fun length => (follows_bytes length).bind
    (T := fun content t back => content = Text.Utf8.encode t ∧ back = []) fun content => ?_).congr
    fun t taken => ⟨?_, ?_⟩
  · split
    · rename_i t valid
      refine (follows_pure t).congr fun u taken => and_congr_left fun _ => ?_
      rw [← decode?_eq_some_iff, valid, Option.some.injEq, eq_comm]
    · rename_i invalid
      refine (follows_throw _).congr fun u taken => iff_of_false id ?_
      rintro ⟨same, -⟩
      rw [decode?_eq_some_iff.2 same] at invalid
      cases invalid
  · rintro ⟨_, front, _, rfl, spells, _, _, _, rfl, ⟨rfl, rfl⟩, rfl, rfl⟩
    exact ⟨⟨front, Text.Utf8.encode t⟩, ⟨spells, rfl⟩, by rw [List.append_nil]; rfl⟩
  · rintro ⟨⟨front, content⟩, ⟨spells, rfl⟩, rfl⟩
    exact ⟨_, front, _, rfl, spells, _, _, [], (List.append_nil _).symm, ⟨rfl, rfl⟩, rfl, rfl⟩

theorem follows_texts (count : Nat) : (texts count).Follows fun ts taken =>
    ∃ spellings, List.Forall₂ TextSpelling.Of spellings ts ∧ ts.length = count ∧
      spellings.flatMap TextSpelling.bytes = taken := by
  induction count with
  | zero =>
    refine (follows_pure []).congr fun ts taken => ⟨?_, ?_⟩
    · rintro ⟨rfl, rfl⟩
      exact ⟨[], .nil, rfl, rfl⟩
    · rintro ⟨_, spells, none, rfl⟩
      cases List.length_eq_zero_iff.1 none
      cases spells
      exact ⟨rfl, rfl⟩
  | succ count ih =>
    refine (follows_text.bind fun t => ih.bind fun ts => follows_pure (t :: ts)).congr
      fun us taken => ⟨?_, ?_⟩
    · rintro ⟨t, _, _, rfl, ⟨s, spells, rfl⟩, ts, _, _, rfl, ⟨later, follow, rfl, rfl⟩, rfl, rfl⟩
      exact ⟨s :: later, .cons spells follow, rfl, by simp⟩
    · rintro ⟨_, _ | ⟨spells, follow⟩, length, rfl⟩
      · cases length
      · exact ⟨_, _, _, rfl, ⟨_, spells, rfl⟩, _, _, [], (List.append_nil _).symm,
          ⟨_, follow, Nat.succ.inj length, rfl⟩, rfl, rfl⟩

theorem follows_cause : cause.Follows fun c taken =>
    ∃ s, Option.Rel TextSpelling.Of s c ∧ TextSpelling.optional s = taken := by
  refine (follows_byte.bind (T := fun tag c back =>
      ∃ s, Option.Rel TextSpelling.Of s c ∧ TextSpelling.optional s = tag :: back)
    fun tag => ?_).congr fun c taken => ⟨?_, ?_⟩
  · split
    · rename_i zero
      subst zero
      refine (follows_pure none).congr fun c taken => ⟨?_, ?_⟩
      · rintro ⟨rfl, rfl⟩
        exact ⟨none, .none, rfl⟩
      · rintro ⟨_, _ | _, same⟩
        · cases same
        · cases same
          exact ⟨rfl, rfl⟩
    · split
      · rename_i one
        subst one
        refine (follows_text.bind fun t => follows_pure (some t)).congr fun c taken => ⟨?_, ?_⟩
        · rintro ⟨t, _, _, rfl, ⟨s, spells, rfl⟩, rfl, rfl⟩
          exact ⟨some s, .some spells, by rw [List.append_nil]; rfl⟩
        · rintro ⟨_, spells | _, same⟩
          · cases same
            exact ⟨_, _, [], (List.append_nil _).symm, ⟨_, spells, rfl⟩, rfl, rfl⟩
          · cases same
      · rename_i notZero notOne
        refine (follows_throw _).congr fun c taken => iff_of_false id ?_
        rintro ⟨_, _ | _, same⟩
        · cases same
          exact notOne rfl
        · cases same
          exact notZero rfl
  · rintro ⟨tag, _, back, rfl, rfl, s, spells, same⟩
    exact ⟨s, spells, same⟩
  · rintro ⟨s, spells, rfl⟩
    cases s with
    | none => exact ⟨0, [0], [], rfl, rfl, none, spells, rfl⟩
    | some s => exact ⟨1, [1], s.bytes, rfl, rfl, some s, spells, rfl⟩

theorem follows_event : event.Follows fun e taken => ∃ s : Spelling, s.Of e ∧ s.bytes = taken := by
  refine (follows_severity.bind fun severity => follows_text.bind fun message =>
    (Varint.follows_read 1 10).bind fun count => (follows_texts count).bind fun arguments =>
    follows_cause.bind fun cause => (Varint.follows_read 1 10).bind fun time =>
    follows_pure (⟨severity, message, arguments, cause, Int64.ofInt (Varint.unzigzag time)⟩ : Event)
    ).congr fun e taken => ⟨?_, ?_⟩
  · -- Each reader leaves its value, what spells it, and what stands behind.
    rintro ⟨_, severity, _, rfl, hseverity, _, _, _, rfl, ⟨message, hmessage, rfl⟩, _, count, _, rfl,
      hcount, _, _, _, rfl, ⟨arguments, harguments, rfl, rfl⟩, _, _, _, rfl, ⟨cause, hcause, rfl⟩, n,
      time, _, rfl, htime, rfl, rfl⟩
    refine ⟨⟨severity, message, count, arguments, cause, time⟩,
      ⟨hseverity, hmessage, hcount, harguments, hcause, ?_⟩, by simp [Spelling.bytes]⟩
    rwa [← Varint.zigzag_toInt, Varint.zigzag_ofInt_unzigzag htime.lt_limit]
  · rintro ⟨⟨severity, message, count, arguments, cause, time⟩, h, rfl⟩
    have htime := h.time
    rw [← Varint.zigzag_toInt] at htime
    refine ⟨_, _, _, ?_, h.severity, _, _, _, rfl, ⟨_, h.message, rfl⟩, _, _, _, rfl, h.count, _, _, _,
      rfl, ⟨_, h.arguments, rfl, rfl⟩, _, _, _, rfl, ⟨_, h.cause, rfl⟩, _, _, [], rfl, htime, ?_, rfl⟩
    · simp [Spelling.bytes]
    · simp

/-- The rounds of the loop over the arguments: each reads one more of them, and the first that is no
text ends the loop. -/
inductive Rounds : (count : Nat) → List UInt8 → (rounds : Nat) →
    Except Fault (List String × List UInt8) → Prop
  | done (input : List UInt8) : Rounds 0 input 0 (.ok ([], input))
  | refused {count : Nat} {input : List UInt8} {fault : Fault} (read : text input = .error fault) :
      Rounds (count + 1) input 1 (.error fault)
  | next {count rounds : Nat} {input rest : List UInt8} {t : String}
      {result : Except Fault (List String × List UInt8)} (read : text input = .ok (t, rest))
      (later : Rounds count rest rounds result) :
      Rounds (count + 1) input (rounds + 1) (result.map fun p => (t :: p.1, p.2))

theorem texts_of_ok {count : Nat} {input rest : List UInt8} {t : String}
    (read : text input = .ok (t, rest)) :
    texts (count + 1) input = (texts count rest).map fun p => (t :: p.1, p.2) := by
  rw [texts, bind_of_ok read]
  cases later : texts count rest with
  | error fault => exact bind_of_error later
  | ok p => exact bind_of_ok later

theorem length_of_text {input rest : List UInt8} {t : String} (read : text input = .ok (t, rest)) :
    rest.length < input.length := by
  obtain ⟨_, rfl, s, spells, rfl⟩ := follows_text.spelled read
  obtain ⟨-, front, final, length, -⟩ := spells.length
  simp only [TextSpelling.bytes, length, List.length_append, List.length_singleton]
  omega

theorem rounds_texts (count : Nat) (input : List UInt8) :
    ∃ rounds, rounds ≤ input.length + 1 ∧ Rounds count input rounds (texts count input) := by
  induction count generalizing input with
  | zero => exact ⟨0, Nat.zero_le _, .done input⟩
  | succ count ih =>
    cases read : text input with
    | error fault =>
      rw [texts, bind_of_error read]
      exact ⟨1, by omega, .refused read⟩
    | ok p =>
      obtain ⟨rounds, few, later⟩ := ih p.2
      have shorter := length_of_text read
      rw [texts_of_ok read]
      exact ⟨rounds + 1, by omega, .next read later⟩

/-- There is one way for the loop to go. -/
theorem Rounds.unique {count rounds rounds' : Nat} {input : List UInt8}
    {result result' : Except Fault (List String × List UInt8)} (h : Rounds count input rounds result)
    (h' : Rounds count input rounds' result') : rounds = rounds' ∧ result = result' := by
  induction h generalizing rounds' result' with
  | done input =>
    cases h'
    exact ⟨rfl, rfl⟩
  | refused read =>
    cases h' with
    | refused read' =>
      cases read.symm.trans read'
      exact ⟨rfl, rfl⟩
    | next read' => cases read.symm.trans read'
  | next read later ih =>
    cases h' with
    | refused read' => cases read.symm.trans read'
    | next read' later' =>
      cases read.symm.trans read'
      obtain ⟨rfl, rfl⟩ := ih later'
      exact ⟨rfl, rfl⟩

end Reader

theorem TextSpelling.length_lt_of_mem {spellings : List TextSpelling} {texts : List String}
    (h : List.Forall₂ Of spellings texts) :
    ∀ t ∈ texts, (Text.Utf8.encode t).length < 0x10000000000000000 := by
  induction h with
  | nil => simp
  | cons spells _ ih =>
    intro t inside
    rcases List.mem_cons.1 inside with rfl | inside
    · exact spells.length.lt_limit
    · exact ih t inside

/-- Whatever is read has lengths with room in 64 bits. -/
theorem Spelling.Of.measured {s : Spelling} {e : Event} (h : s.Of e) : Measured e where
  message := h.message.length.lt_limit
  arguments := TextSpelling.length_lt_of_mem h.arguments
  count := h.count.lt_limit
  cause t there := by
    have spells := h.cause
    rw [there] at spells
    generalize s.cause = spelling at spells
    cases spells with
    | some spells => exact spells.length.lt_limit

theorem decode_eq_ok_iff {input : List UInt8} {e : Event} :
    decode input = .ok e ↔ ∃ s : Spelling, s.Of e ∧ s.bytes <+: input := by
  constructor
  · intro read
    cases begun : Reader.event input with
    | error fault =>
      rw [decode, begun] at read
      cases read
    | ok p =>
      rw [decode, begun] at read
      cases read
      obtain ⟨_, whole, s, spells, rfl⟩ := Reader.follows_event.spelled begun
      exact ⟨s, spells, p.2, whole.symm⟩
  · rintro ⟨s, spells, rest, rfl⟩
    rw [decode, (Reader.follows_event.takes ⟨s, spells, rfl⟩).whole rest]
    rfl

theorem decode_append_of_error {input : List UInt8} {fault : Fault}
    (refused : decode input = .error fault) (other : fault ≠ .endOfInput) (rest : List UInt8) :
    decode (input ++ rest) = .error fault := by
  cases begun : Reader.event input with
  | error fault' =>
    rw [decode, begun] at refused
    cases refused
    rw [decode, Reader.follows_event.settled begun other rest]
    rfl
  | ok p =>
    rw [decode, begun] at refused
    cases refused

theorem codec_decode_eq_ok_iff {input : List UInt8} {e : Event} :
    Codec.compact.decode input = .ok e ↔ decode input = .ok e := by
  show (decode input).mapError _ = _ ↔ _
  cases decode input <;> simp [Except.mapError]

theorem codec_decode_eq_error_iff {input : List UInt8} {failure : Failure} :
    Codec.compact.decode input = .error failure ↔
      ∃ fault, decode input = .error fault ∧ failure = .decoding (.compact fault) := by
  show (decode input).mapError _ = _ ↔ _
  cases decode input <;> simp [Except.mapError, eq_comm]

/-- Whatever the bytes are: an event that is read has one of its spellings in front of them, which
is read alike whatever follows it, while no part of it is read. The payload of the event is no longer,
is read back, and is that spelling just when no number in it is over-long. A refusal other than for
want of input stands whatever follows. The loop over the arguments takes no more rounds than there are
bytes, however many arguments are announced. -/
theorem decode_normalizes (input : List UInt8) :
    (∀ e, Codec.compact.decode input = .ok e → ∃ taken payload, taken <+: input ∧
      (∀ rest, Codec.compact.decode (taken ++ rest) = .ok e) ∧
      (∀ part, part <+: taken → part ≠ taken →
        ∃ failure, Codec.compact.decode part = .error failure) ∧
      Codec.compact.encode e = .ok payload ∧ payload.length ≤ taken.length ∧
      Codec.compact.decode payload = .ok e ∧
      (∃ s : Spelling, s.Of e ∧ s.bytes = taken) ∧
      ∀ s : Spelling, s.Of e → s.bytes = taken →
        (payload = taken ↔ ∀ n ∈ s.numbers, ¬ Varint.Overlong n)) ∧
    (∀ failure, Codec.compact.decode input = .error failure →
      failure.message ≠ "Deserialization error: Hit the end of buffer, expected more data" →
      ∀ rest, Codec.compact.decode (input ++ rest) = .error failure) ∧
    ∀ severity message count later later' body, Reader.severity input = .ok (severity, later) →
      Reader.text later = .ok (message, later') → Varint.read64 later' = .ok (count, body) →
      ∃ rounds, rounds ≤ input.length ∧ ∀ n result,
        Reader.Rounds count body n result ↔ n = rounds ∧ result = Reader.texts count body := by
  refine ⟨fun e read => ?_, fun failure refused other rest => ?_, ?_⟩
  · obtain ⟨s, spells, inside⟩ := decode_eq_ok_iff.1 (codec_decode_eq_ok_iff.1 read)
    have shortens := spells.shortens
    have readBack := decode_encode_append spells.measured []
    rw [List.append_nil] at readBack
    refine ⟨s.bytes, encode e, inside, fun rest => ?_, fun part beginning other => ?_, rfl,
      shortens.le, codec_decode_eq_ok_iff.2 readBack, ⟨s, spells, rfl⟩, fun s' spells' same => ?_⟩
    · exact codec_decode_eq_ok_iff.2 (decode_eq_ok_iff.2 ⟨s, spells, List.prefix_append _ _⟩)
    · have short := (Reader.follows_event.takes ⟨s, spells, rfl⟩).short part beginning other
      exact ⟨_, codec_decode_eq_error_iff.2 ⟨.endOfInput, by rw [decode, short]; rfl, rfl⟩⟩
    · rw [← same]
      exact spells'.shortens.eq_iff
  · obtain ⟨fault, ended, rfl⟩ := codec_decode_eq_error_iff.1 refused
    refine codec_decode_eq_error_iff.2 ⟨fault, decode_append_of_error ended ?_ rest, rfl⟩
    rintro rfl
    exact other rfl
  · intro severity message count later later' body hseverity hmessage hcount
    obtain ⟨rounds, few, loop⟩ := Reader.rounds_texts count body
    refine ⟨rounds, ?_, fun n result => ⟨fun other => other.unique loop, ?_⟩⟩
    · obtain ⟨front, rfl, -⟩ := Reader.follows_severity.spelled hseverity
      have shorter := Reader.length_of_text hmessage
      obtain ⟨digits, rfl, -⟩ := (Varint.follows_read 1 10).spelled hcount
      simp only [List.length_append] at shorter ⊢
      omega
    · rintro ⟨rfl, rfl⟩
      exact loop

/-- A payload whose severity is spelled with two bytes. -/
def looseBytes : List UInt8 := [0x82, 0x00, 0x01, 0x6d, 0x00, 0x00, 0x00]

/-- A payload that announces 2^64-1 arguments and has one. -/
def boastingBytes : List UInt8 :=
  [0x02, 0x00, 0xff, 0xff, 0xff, 0xff, 0xff, 0xff, 0xff, 0xff, 0xff, 0x01, 0x00]

theorem decode_normalizes_loose :
    (∃ taken payload, taken <+: looseBytes ++ [0xff] ∧
      (∀ rest, Codec.compact.decode (taken ++ rest) =
        .ok { severity := .info, message := "m", time := 0 }) ∧
      Codec.compact.decode payload = .ok { severity := .info, message := "m", time := 0 }) ∧
    (∀ rest, Codec.compact.decode ([0x05] ++ rest) =
      .error (.decoding (.compact .unknownVariant))) ∧
    ∃ rounds, rounds ≤ boastingBytes.length ∧ ∀ n result,
      Reader.Rounds 0xffffffffffffffff [0x00] n result ↔
        n = rounds ∧ result = Reader.texts 0xffffffffffffffff [0x00] := by
  refine ⟨?_, ?_, ?_⟩
  · obtain ⟨taken, payload, inside, whole, -, -, -, read, -⟩ :=
      (decode_normalizes (looseBytes ++ [0xff])).1 { severity := .info, message := "m", time := 0 }
        (by rfl)
    exact ⟨taken, payload, inside, whole, read⟩
  · exact (decode_normalizes [0x05]).2.1 _ (by rfl) (by decide)
  · exact (decode_normalizes boastingBytes).2.2 .info "" _ (boastingBytes.drop 1)
      (boastingBytes.drop 2) _ (by rfl) (by rfl) (by rfl)

end EventLog.Compact
