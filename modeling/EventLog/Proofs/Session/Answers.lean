import EventLog.Proofs.Session.Reading
import EventLog.Proofs.Window

/-! What the answers say, record by record. A record that is no event counts, and is no answer to
anything: it spoils a window that it is in, and ends a search that gets to it. Main statement: after
any honest run, this is how every log answers over any file at its path. -/
namespace EventLog

/-- The event is of at least the severity asked for. -/
def Event.Passes (threshold : Option Severity) (e : Event) : Prop := ∀ l ∈ threshold, l ≤ e.severity

instance (threshold : Option Severity) (e : Event) : Decidable (e.Passes threshold) :=
  inferInstanceAs (Decidable (∀ l ∈ threshold, l ≤ e.severity))

theorem Event.meetsAny_iff {threshold : Option Severity} {e : Event} :
    e.severity.meetsAny threshold = true ↔ e.Passes threshold := by
  cases threshold with
  | none => simp [Severity.meetsAny, Event.Passes]
  | some l => simp [Severity.meetsAny, Severity.meets, Event.Passes]

theorem Event.filter_meetsAny (threshold : Option Severity) (events : List Event) :
    events.filter (·.severity.meetsAny threshold) = events.filter (·.Passes threshold) := by
  refine List.filter_congr fun e _ => ?_
  rw [Bool.eq_iff_iff, Event.meetsAny_iff, decide_eq_true_iff]

namespace Record

/-- What a search goes past: an event below the severity asked for. -/
def IsBelow (threshold : Option Severity) (r : Record) : Prop := ∃ e, r = .ok e ∧ ¬ e.Passes threshold

/-- All records in their order as events, or nothing if one of them is no event. -/
def Collected (records : List Record) (events : List Event) : Prop :=
  records = events.map .ok ∨ (∃ failure, .error failure ∈ records) ∧ events = []

theorem stops_eq_false_iff {threshold : Option Severity} {r : Record} :
    stops threshold r = false ↔ r.IsBelow threshold := by
  cases r with
  | error failure => simp [stops, IsBelow]
  | ok e =>
    rw [stops, ← Bool.not_eq_true, Event.meetsAny_iff]
    constructor
    · exact fun low => ⟨e, rfl, low⟩
    · rintro ⟨_, same, low⟩
      cases same
      exact low

theorem all?_cases (records : List Record) :
    (∃ events, all? records = some events ∧ records = events.map .ok) ∨
      all? records = none ∧ ∃ failure, .error failure ∈ records := by
  induction records with
  | nil => exact .inl ⟨[], rfl, rfl⟩
  | cons r later ih =>
    rw [all?] at ih ⊢
    rw [List.mapM_cons]
    cases r with
    | error failure => exact .inr ⟨rfl, failure, by simp⟩
    | ok e =>
      rcases ih with ⟨events, all, rfl⟩ | ⟨none, failure, inside⟩
      · exact .inl ⟨e :: events, by rw [all]; rfl, rfl⟩
      · exact .inr ⟨by rw [none]; rfl, failure, List.mem_cons_of_mem _ inside⟩

theorem collected_all? (records : List Record) : Collected records ((all? records).getD []) := by
  rcases all?_cases records with ⟨events, all, shape⟩ | ⟨none, failure, inside⟩
  · rw [all]
    exact .inl shape
  · rw [none]
    exact .inr ⟨⟨failure, inside⟩, rfl⟩

/-- A search finds the event that passes with nothing but events below it on the way. -/
theorem search_eq_some_iff {threshold : Option Severity} {records : List Record} {e : Event} :
    search threshold records = some e ↔ ∃ earlier later, records = earlier ++ .ok e :: later ∧
      e.Passes threshold ∧ ∀ r ∈ earlier, r.IsBelow threshold := by
  constructor
  · intro found
    obtain ⟨r, first, event⟩ := Option.bind_eq_some_iff.1 found
    obtain ⟨stop, earlier, later, shape, before⟩ := List.find?_eq_some_iff_append.1 first
    cases r with
    | error failure => cases event
    | ok e' =>
      cases event
      exact ⟨earlier, later, shape, Event.meetsAny_iff.1 stop,
        fun r inside => stops_eq_false_iff.1 (by simpa using before r inside)⟩
  · rintro ⟨earlier, later, rfl, passes, below⟩
    have first : (earlier ++ .ok e :: later).find? (stops threshold) = some (.ok e) :=
      List.find?_eq_some_iff_append.2 ⟨Event.meetsAny_iff.2 passes, earlier, later, rfl,
        fun r inside => by simpa using stops_eq_false_iff.2 (below r inside)⟩
    rw [search, first]
    rfl

theorem search_reverse_eq_some_iff {threshold : Option Severity} {records : List Record} {e : Event} :
    search threshold records.reverse = some e ↔ ∃ earlier later,
      records = earlier ++ .ok e :: later ∧ e.Passes threshold ∧
        ∀ r ∈ later, r.IsBelow threshold := by
  rw [search_eq_some_iff]
  constructor
  · rintro ⟨earlier, later, shape, passes, below⟩
    refine ⟨later.reverse, earlier.reverse, ?_, passes, ?_⟩
    · simpa using congrArg List.reverse shape
    · exact fun r inside => below r (List.mem_reverse.1 inside)
  · rintro ⟨earlier, later, rfl, passes, below⟩
    refine ⟨later.reverse, earlier.reverse, by simp, passes, ?_⟩
    exact fun r inside => below r (List.mem_reverse.1 inside)

end Record

/-- How queries are answered over records, where some of them may be no events. -/
structure Query.Exact (answer : Query → Answer) (records : List Record) : Prop where
  size : answer .size = .count records.length
  get : ∀ i, ∃ found, answer (.get i) = .event found ∧
    ∀ e, found = some e ↔ records[i]? = some (.ok e)
  /-- Records outside the window are of no account. -/
  range : ∀ start count, ∃ events, answer (.range start count) = .events events ∧
    Record.Collected ((records.drop start.toNat).take (count.getD records.length)) events
  /-- Here a record that is no event spoils the answer wherever it is. -/
  atLeast : ∀ threshold, ∃ events,
    answer (.atLeast threshold) = .events (events.filter (·.Passes threshold)) ∧
      Record.Collected records events
  first : ∀ threshold, ∃ found, answer (.first threshold) = .event found ∧
    ∀ e, found = some e ↔ ∃ earlier later, records = earlier ++ .ok e :: later ∧
      e.Passes threshold ∧ ∀ r ∈ earlier, r.IsBelow threshold
  last : ∀ threshold, ∃ found, answer (.last threshold) = .event found ∧
    ∀ e, found = some e ↔ ∃ earlier later, records = earlier ++ .ok e :: later ∧
      e.Passes threshold ∧ ∀ r ∈ later, r.IsBelow threshold
  has : ∀ severity, ∃ holds, answer (.has severity) = .flag holds ∧
    (holds = true ↔ ∃ e, answer (.first (some severity)) = .event (some e))

namespace Query

theorem exact_answerFrom (records : List Record) : Exact (answerFrom records) records where
  size := rfl
  get i := by
    refine ⟨_, rfl, fun e => ?_⟩
    rcases found : records[i]? with _ | failure | e' <;> simp [Except.toOption]
  range start count := by
    refine ⟨_, rfl, ?_⟩
    rw [← Window.slice_eq]
    exact Record.collected_all? _
  atLeast threshold := by
    refine ⟨_, ?_, Record.collected_all? records⟩
    rw [answerFrom, Event.filter_meetsAny]
  first threshold := ⟨_, rfl, fun _ => Record.search_eq_some_iff⟩
  last threshold := ⟨_, rfl, fun _ => Record.search_reverse_eq_some_iff⟩
  has severity := by
    refine ⟨_, rfl, ?_⟩
    rw [Option.isSome_iff_exists, answerFrom]
    simp only [Answer.event.injEq]

end Query

namespace Session

variable {ι : Type} [DecidableEq ι]

/-- After any honest run, a log answers over the longest row of records of the file at its path,
each of them an event or not, as it should. -/
theorem exact_of_run {d : Disk} (sound : d.Sound) {codecs : ι → Codec} {settings : ι → Settings}
    {actions : List (Action ι)} (honest : (start d codecs settings).Honest actions)
    {s : Session ι} (reached : (start d codecs settings).run actions = s)
    {i : ι} {b : FileLog.Binding} (bound : (s.logs i).binding = some b)
    {bytes : List UInt8} (there : s.disk.bytesAt? b.path = some bytes)
    {payloads : List Frame.Payload}
    (fits : ∀ p ∈ payloads, Frame.Fits (settings i).maxRecordSize.toNat p)
    (longest : Frame.IsIntact (settings i).maxRecordSize.toNat bytes (Frame.join payloads)) :
    Query.Exact (fun q => ((s.logs i).ask s.disk q).1) (payloads.map (codecs i).decode) := by
  obtain ⟨history, grounded⟩ := grounded_run sound honest
  rw [reached] at grounded
  obtain ⟨codec, setting⟩ := (start d codecs settings).settings_run actions i
  rw [reached] at codec setting
  have records : (s.logs i).stored s.disk b.path = payloads.map (codecs i).decode := by
    rw [FileLog.stored, Disk.bytesAt, there, Option.getD_some, codec, setting]
    exact congrArg _ (longest.payloads fits)
  have answers : (fun q => ((s.logs i).ask s.disk q).1) =
      Query.answerFrom (payloads.map (codecs i).decode) := by
    funext q
    rw [(grounded.logs i).answer grounded.past bound q, records]
  rw [answers]
  exact Query.exact_answerFrom _

/-- A file is overwritten with one record that is no event. It counts, and a search ends at it. -/
theorem exact_of_run_overwriting :
    Query.Exact
      (fun q => (((twoLogs.run overwriting).logs false).ask (twoLogs.run overwriting).disk q).1)
      ([[7]].map Codec.compact.decode) := by
  obtain ⟨b, bound, path⟩ : ∃ b, ((twoLogs.run overwriting).logs false).binding = some b ∧
      b.path = "f" := ⟨_, rfl, by decide +kernel⟩
  have there : (twoLogs.run overwriting).disk.bytesAt? b.path = some [0, 0, 0, 1, 7] := by
    rw [path]
    decide +kernel
  have longest : Frame.IsIntact 30 [0, 0, 0, 1, 7] (Frame.join [[7]]) :=
    Frame.isIntact_iff.2 (by decide +kernel)
  exact exact_of_run Disk.sound_empty honest_overwriting rfl bound there (by decide) longest

/-- A copy with the stamp of the file is at the path. Its record is an event, but that is not the
answer. -/
theorem exact_of_run_swapping : Disk.AlikeAlong step disk twoLogs swapping ∧
    ((twoLogs.run swapping).logs false).binding.map FileLog.Binding.path = some "f" ∧
    (twoLogs.run swapping).disk.bytesAt? "f" = some (Frame.join [Compact.encode shortEvent]) ∧
    Frame.IsIntact 30 (Frame.join [Compact.encode shortEvent])
      (Frame.join [Compact.encode shortEvent]) ∧
    ¬ Query.Exact
      (fun q => (((twoLogs.run swapping).logs false).ask (twoLogs.run swapping).disk q).1)
      ([Compact.encode shortEvent].map Codec.compact.decode) := by
  have answered : (((twoLogs.run swapping).logs false).ask (twoLogs.run swapping).disk
      (.get 0)).1 = .event none := by decide +kernel
  refine ⟨by decide +kernel, by decide +kernel, by decide +kernel,
    Frame.isIntact_iff.2 (by decide +kernel), fun exact => ?_⟩
  obtain ⟨found, answer, events⟩ := exact.get 0
  obtain rfl : none = found := Answer.event.inj (answered.symm.trans answer)
  cases (events shortEvent).2 (by decide +kernel)

end Session
end EventLog
