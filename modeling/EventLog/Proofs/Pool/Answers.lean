import EventLog.Proofs.Connection.Streaming
import EventLog.Proofs.Pool

/-! What connections answer. A connection that is not stale has seen the file at its path as it is
now, but its own writing may have hidden from it what others had written. Main statements: if it was
not written through while it was stale, it knows the frames that the file has, and what it accepted is
among them; and then records in a stream are records one by one. -/
namespace EventLog.Pool

open EventLog.Frame (Framed)

variable {ι : Type} [DecidableEq ι] {d : Disk}

/-- With an index of its own, a connection that is not stale describes the file at its path under
its own maximum. -/
theorem current_of_run (sound : d.Sound) {actions : List (Action ι)}
    (honest : (start ι d).Honest actions) {p : Pool ι} (ran : (start ι d).run actions = p) {i : ι}
    {h : Held} (held : p.held i = some h) (own : h.inherited = false) (careful : h.careful = true)
    (fresh : h.connection.isStale p.disk = false) :
    h.connection.maxRecordSize < 0x100000000 ∧
      p.disk.lookup h.connection.path = .ok (.file h.connection.file) ∧
      h.connection.IsCurrent p.disk ∧
      ∀ e ∈ h.accepted, (h.connection.payloads p.disk)[e.1]? = some e.2 := by
  obtain ⟨history, grounded⟩ := grounded_run sound honest
  rw [ran] at grounded
  have known := grounded.held i h held
  have limit : h.limit = h.connection.maxRecordSize := known.own own
  obtain ⟨found, describes⟩ := known.describes grounded.past careful fresh
  refine ⟨known.word, found, ?_, ?_⟩
  · rw [Connection.IsCurrent, ← limit]
    exact describes.index
  · rw [Connection.payloads, ← limit]
    exact describes.accepted

/-- After any run in which changes from outside give new stamps, a connection that is not stale counts
and reads the frames of the file at its path. A payload that it accepted is read under the number that
was given out for it. -/
theorem reads_of_run (sound : d.Sound) (distinct : d.Distinct) {actions : List (Action ι)}
    (stamped : ∀ e, .edit e ∈ actions → e.keeps = false) {p : Pool ι}
    (ran : (start ι d).run actions = p) {i : ι} {h : Held} (held : p.held i = some h)
    (own : h.inherited = false) (careful : h.careful = true)
    (fresh : h.connection.isStale p.disk = false) :
    ∃ bytes payloads rest, p.disk.bytesAt? h.connection.path = some bytes ∧
      Framed h.connection.maxRecordSize bytes payloads rest ∧
      h.connection.Reads p.disk payloads ∧
      ∀ e ∈ h.accepted, ∀ codec,
        h.connection.read? p.disk codec e.1 = (codec.decode e.2).map some := by
  obtain ⟨word, found, current, accepted⟩ :=
    current_of_run sound (honest_of_fresh sound distinct stamped) ran held own careful fresh
  refine ⟨_, _, _, Disk.bytesAt?_of_lookup found, (Frame.framed_iff word).2 rfl, current.reads, ?_⟩
  intro e inside codec
  exact current.reads.inside codec e.1 e.2 (accepted e inside)

/-- A connection writes, its file is damaged behind its back, and another one repairs it and writes. -/
def mending : List (Action Nat) :=
  [.connect 0 .write { maxRecordSize := 30 } "f" none, .append 0 [2, 1, 109, 0, 0, 0],
    .edit (.append "f" [0, 0, 0, 50] false),
    .connect 1 .write { maxRecordSize := 30 } "f" none, .append 1 [2, 1, 110, 0, 0, 0], .flush 1]

/-- The connection that mended the file. -/
def mender : Held where
  connection := ⟨"f", .write, 0, ⟨[0, 10], 20, ⟨20, 4⟩⟩, 30, false⟩
  inherited := false
  limit := 30
  careful := true
  accepted := [(1, [2, 1, 110, 0, 0, 0])]

theorem held_mending : ((start Nat {}).run mending).held 1 = some mender := by decide +kernel

theorem stamped_mending : ∀ e, .edit e ∈ mending → e.keeps = false := by
  intro e inside
  obtain rfl : e = .append "f" [0, 0, 0, 50] false := by simpa [mending] using inside
  rfl

theorem reads_of_run_mending : mender.connection.isStale ((start Nat {}).run mending).disk = false ∧
    ∃ bytes payloads rest, ((start Nat {}).run mending).disk.bytesAt? "f" = some bytes ∧
      Framed 30 bytes payloads rest ∧
      mender.connection.Reads ((start Nat {}).run mending).disk payloads ∧
      ∀ e ∈ mender.accepted, ∀ codec,
        mender.connection.read? ((start Nat {}).run mending).disk codec e.1 =
          (codec.decode e.2).map some := by
  have fresh : mender.connection.isStale ((start Nat {}).run mending).disk = false := by
    decide +kernel
  exact ⟨fresh, reads_of_run Disk.sound_empty Disk.distinct_empty stamped_mending rfl held_mending rfl
    rfl fresh⟩

/-- Two connections write, the first one while it is stale. -/
def overtaking : List (Action Nat) :=
  [.connect 0 .write {} "f" none, .connect 1 .write {} "f" none,
    .append 1 [2, 1, 109, 0, 0, 0], .append 0 [2, 1, 110, 0, 0, 0]]

/-- The connection that was overtaken. -/
def overtaken : Held where
  connection := ⟨"f", .write, 0, ⟨[0], 10, ⟨20, 2⟩⟩, 10485760, false⟩
  inherited := false
  limit := 10485760
  careful := false
  accepted := [(0, [2, 1, 110, 0, 0, 0])]

/-- It is not stale, and knows of one record of two, which is not the one that it accepted. -/
theorem overtaken_misses :
    (∀ e, .edit e ∈ overtaking → e.keeps = false) ∧
      ((start Nat {}).run overtaking).held 0 = some overtaken ∧
      overtaken.connection.isStale ((start Nat {}).run overtaking).disk = false ∧
      ((start Nat {}).run overtaking).disk.bytesAt? "f" =
        some (Frame.join [[2, 1, 109, 0, 0, 0], [2, 1, 110, 0, 0, 0]]) ∧
      overtaken.connection.size = 1 ∧
      overtaken.connection.read? ((start Nat {}).run overtaking).disk .compact 0 =
        (Codec.compact.decode [2, 1, 109, 0, 0, 0]).map some := by
  refine ⟨fun e inside => by simp [overtaking] at inside, ?_⟩
  decide +kernel

/-- After any honest run, a connection that is not stale shows in a stream what it finds one by one, to
any visitor that goes by what it is shown. -/
theorem streaming_of_run (sound : d.Sound) {actions : List (Action ι)}
    (honest : (start ι d).Honest actions) {p : Pool ι} (ran : (start ι d).run actions = p) {i : ι}
    {h : Held} (held : p.held i = some h) (own : h.inherited = false) (careful : h.careful = true)
    (fresh : h.connection.isStale p.disk = false) (codec : Codec) :
    h.connection.Streaming p.disk codec := by
  obtain ⟨-, -, current, -⟩ := current_of_run sound honest ran held own careful fresh
  exact current.streaming codec

theorem streaming_of_run_mending : (start Nat {}).Honest mending ∧
    mender.connection.isStale ((start Nat {}).run mending).disk = false ∧
    mender.connection.Streaming ((start Nat {}).run mending).disk .compact := by
  have honest : (start Nat {}).Honest mending :=
    honest_of_fresh Disk.sound_empty Disk.distinct_empty stamped_mending
  have fresh : mender.connection.isStale ((start Nat {}).run mending).disk = false := by
    decide +kernel
  exact ⟨honest, fresh,
    streaming_of_run Disk.sound_empty honest rfl held_mending rfl rfl fresh .compact⟩

/-- The same payload is written twice, with a byte behind the event. The first length is then made
smaller by one, and the stamp is kept. -/
def shortening : List (Action Nat) :=
  [.connect 0 .write {} "f" none, .append 0 [2, 1, 109, 0, 0, 0, 0],
    .append 0 [2, 1, 109, 0, 0, 0, 0], .edit (.poke "f" 3 [6] true)]

def shortened : Held where
  connection := ⟨"f", .write, 0, ⟨[0, 11], 22, ⟨22, 2⟩⟩, 10485760, false⟩
  inherited := false
  limit := 10485760
  careful := true
  accepted := [(0, [2, 1, 109, 0, 0, 0, 0]), (1, [2, 1, 109, 0, 0, 0, 0])]

/-- A copy with the stamp of the file takes its place before the length is made smaller. -/
def swapping : List (Action Nat) :=
  [.connect 0 .write {} "f" none, .append 0 [2, 1, 109, 0, 0, 0, 0],
    .append 0 [2, 1, 109, 0, 0, 0, 0],
    .edit (.write "g" (Frame.join [[2, 1, 109, 0, 0, 0, 0], [2, 1, 109, 0, 0, 0, 0]]) false),
    .edit (.restamp "g" 2), .edit (.rename "f" "h"), .edit (.rename "g" "f"),
    .edit (.poke "h" 3 [6] false)]

/-- The connection is not stale, and finds both records, but the stream ends behind the first. -/
def Held.Parts (h : Held) (d : Disk) : Prop :=
  h.connection.isStale d = false ∧
    h.connection.read? d .compact 0 = .ok (some ⟨.info, "m", [], none, 0⟩) ∧
    h.connection.read? d .compact 1 = .ok (some ⟨.info, "m", [], none, 0⟩) ∧
    h.connection.visit d .compact 0 2 (fun i e seen => .yield (seen ++ [(i, e.message)])) [] =
      ([(0, "m")], .error (.decoding (.recordLength 0)))

/-- Neither a stamp that is given back nor one that two files have lets a connection know its file. -/
theorem shortened_parts :
    ((start Nat {}).run shortening).held 0 = some shortened ∧
      shortened.Parts ((start Nat {}).run shortening).disk ∧
    Disk.AlikeAlong step disk (start Nat {}) swapping ∧
      ((start Nat {}).run swapping).held 0 = some shortened ∧
      shortened.Parts ((start Nat {}).run swapping).disk := by
  unfold Held.Parts
  decide +kernel

end EventLog.Pool
