import EventLog.Proofs.Connection.Reading

/-! Records in a stream and records one by one. A visit finds its way from frame to frame, and a
look-up goes where the index points. Main statement: over a file that the index describes, a visit
shows what look-ups find, and decodes nothing behind the record at which it ends. -/
namespace EventLog.Connection

open EventLog.Frame (Payload)

/-- How a visit goes that looks up one record after the other, from number `i` on and below `last`:
what the visitor is shown, and what comes of it. -/
inductive Streams (c : Connection) (d : Disk) (codec : Codec)
    (visitor : Nat → Event → σ → ForInStep σ) (last : Nat) :
    (i : Nat) → σ → List (Nat × Event) → σ × Except Failure Unit → Prop
  | ended {i : Nat} {s : σ} (finished : last ≤ i) : Streams c d codec visitor last i s [] (s, .ok ())
  | failed {i : Nat} {s : σ} {failure : Failure} (inside : i < last)
      (read : c.read? d codec i = .error failure) :
      Streams c d codec visitor last i s [] (s, .error failure)
  | stopped {i : Nat} {s s' : σ} {e : Event} (inside : i < last)
      (read : c.read? d codec i = .ok (some e)) (stops : visitor i e s = .done s') :
      Streams c d codec visitor last i s [(i, e)] (s', .ok ())
  | continued {i : Nat} {s s' : σ} {e : Event} {shown : List (Nat × Event)}
      {outcome : σ × Except Failure Unit} (inside : i < last)
      (read : c.read? d codec i = .ok (some e)) (goes : visitor i e s = .yield s')
      (later : Streams c d codec visitor last (i + 1) s' shown outcome) :
      Streams c d codec visitor last i s ((i, e) :: shown) outcome

/-- How many records were decoded: those that were shown, and the one that was no event. -/
def decoded (shown : List (Nat × Event)) : Except Failure Unit → Nat
  | .ok _ => shown.length
  | .error _ => shown.length + 1

variable {c : Connection} {d : Disk} {codec other : Codec}
  {visitor : Nat → Event → σ → ForInStep σ} {last i : Nat} {s : σ}
  {shown shown' : List (Nat × Event)} {outcome outcome' : σ × Except Failure Unit}

/-- There is one way for a visit to go. -/
theorem Streams.unique (h : Streams c d codec visitor last i s shown outcome)
    (h' : Streams c d codec visitor last i s shown' outcome') :
    shown = shown' ∧ outcome = outcome' := by
  induction h generalizing shown' with
  | ended finished =>
    cases h' with
    | ended => exact ⟨rfl, rfl⟩
    | failed inside | stopped inside | continued inside => omega
  | failed inside read =>
    cases h' with
    | ended finished => omega
    | failed _ read' =>
      cases read.symm.trans read'
      exact ⟨rfl, rfl⟩
    | stopped _ read' | continued _ read' => cases read.symm.trans read'
  | stopped inside read stops =>
    cases h' with
    | ended finished => omega
    | failed _ read' => cases read.symm.trans read'
    | stopped _ read' stops' =>
      cases read.symm.trans read'
      cases stops.symm.trans stops'
      exact ⟨rfl, rfl⟩
    | continued _ read' goes' =>
      cases read.symm.trans read'
      cases stops.symm.trans goes'
  | continued inside read goes later ih =>
    cases h' with
    | ended finished => omega
    | failed _ read' => cases read.symm.trans read'
    | stopped _ read' stops' =>
      cases read.symm.trans read'
      cases goes.symm.trans stops'
    | continued _ read' goes' later' =>
      cases read.symm.trans read'
      cases goes.symm.trans goes'
      obtain ⟨rfl, rfl⟩ := ih later'
      exact ⟨rfl, rfl⟩

/-- A codec that makes the same of the records up to the end of a visit is visited alike. -/
theorem Streams.of_decoded (h : Streams c d codec visitor last i s shown outcome)
    (same : ∀ j, i ≤ j → j < i + decoded shown outcome.2 → c.read? d other j = c.read? d codec j) :
    Streams c d other visitor last i s shown outcome := by
  induction h with
  | ended finished => exact .ended finished
  | failed inside read =>
    exact .failed inside ((same _ (Nat.le_refl _) (by simp [decoded])).trans read)
  | stopped inside read stops =>
    exact .stopped inside ((same _ (Nat.le_refl _) (by simp [decoded])).trans read) stops
  | @continued i s s' e shown outcome inside read goes later ih =>
    have counted : decoded ((i, e) :: shown) outcome.2 = decoded shown outcome.2 + 1 := by
      cases outcome.2 <;> rfl
    rw [counted] at same
    refine .continued inside ((same i (Nat.le_refl _) (by omega)).trans read) goes (ih ?_)
    exact fun j from_ below => same j (by omega) (by omega)

/-- The part of a row from a record on begins with this record. -/
theorem getElem?_of_drop_take {payloads later : List Payload} {p : Payload}
    (h : (payloads.take last).drop i = p :: later) :
    i < last ∧ payloads[i]? = some p ∧ (payloads.take last).drop (i + 1) = later := by
  have front : (payloads.take last)[i]? = some p := by
    rw [← List.head?_drop, h]
    rfl
  rw [List.getElem?_take] at front
  split at front
  · rename_i inside
    refine ⟨inside, front, ?_⟩
    rw [← List.drop_drop, h]
    rfl
  · cases front

theorem drop_split {first middle : Nat} (before : first ≤ middle) (row : List Payload) :
    row.drop first = (row.take middle).drop first ++ row.drop middle := by
  have rest : row.drop middle = (row.drop first).drop (middle - first) := by
    rw [List.drop_drop, Nat.add_sub_cancel' before]
  rw [List.drop_take, rest, List.take_append_drop]

theorem IsCurrent.streams_visitRow (h : c.IsCurrent d) (codec : Codec)
    (visitor : Nat → Event → σ → ForInStep σ) (whole : last ≤ (c.payloads d).length)
    {row : List Payload} (shape : ((c.payloads d).take last).drop i = row) (s : σ) :
    ∃ shown, Streams c d codec visitor last i s shown (visitRow codec visitor row i s) := by
  induction row generalizing i s with
  | nil =>
    rw [List.drop_eq_nil_iff, List.length_take, Nat.min_eq_left whole] at shape
    exact ⟨[], .ended shape⟩
  | cons p later ih =>
    obtain ⟨inside, payload, rest⟩ := getElem?_of_drop_take shape
    have read := h.reads.inside codec i p payload
    rw [visitRow]
    cases decoded : codec.decode p with
    | error failure =>
      rw [decoded] at read
      exact ⟨[], .failed inside read⟩
    | ok e =>
      rw [decoded] at read
      dsimp only
      cases visited : visitor i e s with
      | done s' => exact ⟨_, .stopped inside read visited⟩
      | yield s' =>
        obtain ⟨shown, streams⟩ := ih rest s'
        exact ⟨_, .continued inside read visited streams⟩

theorem IsCurrent.mapM_decode (h : c.IsCurrent d) (codec : Codec) {row : List Payload}
    (shape : ((c.payloads d).take last).drop i = row) :
    (row.mapM codec.decode).map (List.map some) =
      (List.range' i row.length).mapM (c.read? d codec) := by
  induction row generalizing i with
  | nil => rfl
  | cons p later ih =>
    obtain ⟨-, payload, rest⟩ := getElem?_of_drop_take shape
    have read := h.reads.inside codec i p payload
    rw [List.length_cons, List.range'_succ, List.mapM_cons, List.mapM_cons, read, ← ih rest]
    cases codec.decode p with
    | error failure => rfl
    | ok e => cases later.mapM codec.decode <;> rfl

/-- What is read in a stream is what look-ups find. -/
structure Streaming (c : Connection) (d : Disk) (codec : Codec) : Prop where
  /-- Nothing behind the record at which a visit ends has an influence on it. -/
  visit : ∀ {σ : Type} (visitor : Nat → Event → σ → ForInStep σ) (first last : Nat) (s : σ),
    ∃ shown, Streams c d codec visitor (min last c.size) first s shown
        (c.visit d codec first last visitor s) ∧
      ∀ other : Codec, (∀ i, first ≤ i →
          i < first + decoded shown (c.visit d codec first last visitor s).2 →
            c.read? d other i = c.read? d codec i) →
        c.visit d other first last visitor s = c.visit d codec first last visitor s
  range : ∀ first last, (c.readRange d codec first last).map (List.map some) =
    (List.range' first (min last c.size - first)).mapM (c.read? d codec)
  joined : ∀ first middle last, first ≤ middle → middle ≤ last →
    c.readRange d codec first last = do
      let earlier ← c.readRange d codec first middle
      let later ← c.readRange d codec middle last
      return earlier ++ later

theorem IsCurrent.streams (h : c.IsCurrent d) (codec : Codec)
    (visitor : Nat → Event → σ → ForInStep σ) (first last : Nat) (s : σ) :
    ∃ shown, Streams c d codec visitor (min last c.size) first s shown
      (c.visit d codec first last visitor s) := by
  have clamped : (c.payloads d).take (min last c.size) = (c.payloads d).take last := by
    rw [h.size, ← List.take_take, List.take_length]
  rw [h.visit]
  exact h.streams_visitRow codec visitor (h.size ▸ Nat.min_le_right _ _) (by rw [clamped]) s

theorem IsCurrent.streaming (h : c.IsCurrent d) (codec : Codec) : c.Streaming d codec where
  visit visitor first last s := by
    obtain ⟨shown, streams⟩ := h.streams codec visitor first last s
    refine ⟨shown, streams, fun other same => ?_⟩
    obtain ⟨_, others⟩ := h.streams other visitor first last s
    exact (others.unique (streams.of_decoded same)).2
  range first last := by
    have count : (((c.payloads d).take last).drop first).length = min last c.size - first := by
      simp [h.size]
    rw [h.readRange, ← count]
    exact h.mapM_decode codec rfl
  joined first middle last before after := by
    have front : (c.payloads d).take middle = ((c.payloads d).take last).take middle := by
      rw [List.take_take, Nat.min_eq_left after]
    rw [h.readRange, h.readRange, h.readRange, front, drop_split before, List.mapM_append]

end EventLog.Connection
