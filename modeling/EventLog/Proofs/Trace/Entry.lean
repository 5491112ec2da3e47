import EventLog.Proofs.Trace.Recording

/-! What the event of a notice says, in terms of the names and texts of its fields. How a field was
recorded matters in one case: an error by the name of the message is no message. Main statement: the
event is what names and texts depict unless there is such a field. -/
namespace EventLog.Trace

/-- The text that stands last under a name. -/
def Latest (name : String) (pairs : List (String × String)) : Option String → Prop
  | none => ∀ p ∈ pairs, p.1 ≠ name
  | some text => ∃ before after, pairs = before ++ (name, text) :: after ∧ ∀ p ∈ after, p.1 ≠ name

/-- The message stands behind the target, and behind it all that is neither message nor error. -/
structure Depicts (target : String) (pairs : List (String × String)) (e : Event) : Prop where
  message : ∃ main, Latest "message" pairs main ∧
    e.message = "[" ++ target ++ "] " ++ main.getD "" ++ String.join
      ((pairs.filter fun p => p.1 ≠ "message" ∧ p.1 ≠ "error").map fun p => " " ++ p.1 ++ "=" ++ p.2)
  cause : Latest "error" pairs e.cause

/-- The names of the fields and their texts, however they were recorded. -/
def Notice.texts (n : Notice) : List (String × String) :=
  n.fields.map fun f => (f.name, f.datum.shown)

theorem filter_eq_nil_of_other {name : String} {pairs : List (String × String)}
    (other : ∀ p ∈ pairs, p.1 ≠ name) : pairs.filter (·.1 = name) = [] :=
  List.filter_eq_nil_iff.2 fun p inside same => other p inside (of_decide_eq_true same)

theorem latest_iff {name : String} {pairs : List (String × String)} {text : Option String} :
    Latest name pairs text ↔ ((pairs.filter (·.1 = name)).getLast?).map Prod.snd = text := by
  constructor
  · intro latest
    cases text with
    | none => rw [filter_eq_nil_of_other latest]; rfl
    | some text =>
      obtain ⟨before, after, rfl, other⟩ := latest
      rw [List.filter_append, List.filter_cons_of_pos (by simp), filter_eq_nil_of_other other,
        List.getLast?_concat]
      rfl
  · rintro rfl
    induction pairs using List.reverseRecOn with
    | nil => simp [Latest]
    | append_singleton pairs p ih =>
      by_cases same : p.1 = name
      · subst same
        rw [List.filter_append, List.filter_cons_of_pos (by simp), List.filter_nil,
          List.getLast?_concat]
        exact ⟨pairs, [], rfl, by simp⟩
      · rw [List.filter_append, List.filter_cons_of_neg (by simpa using same), List.filter_nil,
          List.append_nil]
        cases found : ((pairs.filter (·.1 = name)).getLast?).map Prod.snd with
        | none =>
          rw [found] at ih
          intro q inside
          rcases List.mem_append.1 inside with inside | inside
          · exact ih q inside
          · rwa [List.mem_singleton.1 inside]
        | some text =>
          rw [found] at ih
          obtain ⟨before, after, rfl, other⟩ := ih
          refine ⟨before, after ++ [p], by simp, fun q inside => ?_⟩
          rcases List.mem_append.1 inside with inside | inside
          · exact other q inside
          · rwa [List.mem_singleton.1 inside]

theorem Latest.unique {name : String} {pairs : List (String × String)} {text text' : Option String}
    (h : Latest name pairs text) (h' : Latest name pairs text') : text = text' :=
  (latest_iff.1 h).symm.trans (latest_iff.1 h')

theorem Depicts.unique {target : String} {pairs : List (String × String)} {e e' : Event}
    (h : Depicts target pairs e) (h' : Depicts target pairs e') :
    e.message = e'.message ∧ e.cause = e'.cause := by
  obtain ⟨main, latest, text⟩ := h.message
  obtain ⟨main', latest', text'⟩ := h'.message
  cases latest.unique latest'
  exact ⟨text.trans text'.symm, h.cause.unique h'.cause⟩

namespace Field

def hasName (name : String) (f : Field) : Bool := f.name = name

/-- Neither message nor error by name. -/
def isAside (f : Field) : Bool := f.name ≠ "message" ∧ f.name ≠ "error"

variable {which : Field → Bool} {fields : List Field} {f : Field}

theorem length_named_append (which : Field → Bool) (fields later : List Field) :
    (named which (fields ++ later)).length =
      (named which fields).length + (named which later).length := by
  simp [named, String.join_append]

theorem length_named_singleton (which : Field → Bool) (f : Field) :
    (named which [f]).length = if which f then f.detail.length else 0 := by
  cases chosen : which f <;> simp [named, chosen]

theorem length_detail (f : Field) : f.detail.length = 2 + f.name.length + f.datum.shown.length := by
  simp only [detail, String.length_append]
  show 1 + _ + 1 + _ = _
  omega

/-- An error that is recorded by the name of the message. -/
def IsStray (f : Field) : Prop := f.name = "message" ∧ f.datum.isError = true

theorem hasRole_cause (f : Field) : f.hasRole .cause = f.hasName "error" := by
  unfold hasRole hasName role
  split
  · simp [*]
  · split <;> simp [*]

theorem hasRole_message (regular : ¬ f.IsStray) : f.hasRole .message = f.hasName "message" := by
  unfold hasRole hasName role
  split
  · rename_i error
    simp [error]
  · split
    · rename_i message
      simp [message]
    · rename_i other
      have unnamed : f.name ≠ "message" := fun message =>
        other ⟨message, Bool.eq_false_iff.2 fun error => regular ⟨message, error⟩⟩
      simp [unnamed]

theorem hasRole_detail (regular : ¬ f.IsStray) : f.hasRole .detail = f.isAside := by
  have message := hasRole_message regular
  have cause := hasRole_cause f
  unfold hasRole hasName at message cause
  unfold hasRole isAside
  cases role : f.role <;> simp_all

namespace IsStray

variable (stray : f.IsStray)
include stray

theorem role : f.role = .detail := by
  unfold Field.role
  rw [if_neg (by simp [stray.1]), if_neg (by simp [stray.2])]

theorem hasRole_detail : f.hasRole .detail = true := decide_eq_true stray.role

theorem hasRole_message : f.hasRole .message = false := by simp [hasRole, stray.role]

theorem hasName : f.hasName "message" = true := decide_eq_true stray.1

theorem isAside : f.isAside = false := by simp [Field.isAside, stray.1]

end IsStray

/-- Without stray fields, roles and names choose alike. -/
theorem last_of_regular (regular : ∀ f ∈ fields, ¬ f.IsStray) :
    last (hasRole .message) fields = last (hasName "message") fields := by
  unfold last
  rw [List.filter_congr fun f inside => hasRole_message (regular f inside)]

theorem named_of_regular (regular : ∀ f ∈ fields, ¬ f.IsStray) :
    named (hasRole .detail) fields = named isAside fields := by
  unfold named
  rw [List.filter_congr fun f inside => hasRole_detail (regular f inside)]

/-- By their roles at least as many fields are details as by their names. -/
theorem length_named_le (fields : List Field) :
    (named isAside fields).length ≤ (named (hasRole .detail) fields).length := by
  induction fields with
  | nil => exact Nat.le_refl _
  | cons f later ih =>
    rw [← List.singleton_append, length_named_append, length_named_append, length_named_singleton,
      length_named_singleton]
    by_cases own : f.IsStray
    · rw [own.isAside, own.hasRole_detail, if_neg Bool.false_ne_true]
      omega
    · rw [hasRole_detail own]
      omega

theorem length_named_lt (inside : f ∈ fields) (stray : f.IsStray) :
    (named isAside fields).length < (named (hasRole .detail) fields).length := by
  obtain ⟨before, after, rfl⟩ := List.append_of_mem inside
  have := length_named_le before
  have := length_named_le after
  rw [← List.singleton_append]
  simp only [length_named_append, length_named_singleton, stray.isAside, stray.hasRole_detail,
    length_detail, if_true, Bool.false_eq_true, if_false]
  omega

/-- A stray field makes the text longer than names and texts say: it is not the message, and it
stands among the details with its name. -/
theorem length_lt_of_stray (inside : f ∈ fields) (stray : f.IsStray) :
    ((last (hasName "message") fields).getD "").length + (named isAside fields).length <
      ((last (hasRole .message) fields).getD "").length +
        (named (hasRole .detail) fields).length := by
  induction fields using List.reverseRecOn with
  | nil => cases inside
  | append_singleton fields g ih =>
    simp only [last_concat, length_named_append, length_named_singleton, length_detail]
    by_cases own : g.IsStray
    · -- The field itself is a detail by its role, and the message by its name.
      have := length_named_le fields
      simp only [own.hasRole_detail, own.hasRole_message, own.hasName, own.isAside, if_true,
        Bool.false_eq_true, if_false, Option.getD_some]
      omega
    · have earlier : f ∈ fields := by
        rcases List.mem_append.1 inside with inside | inside
        · exact inside
        · rw [List.mem_singleton.1 inside] at stray
          exact absurd stray own
      rw [hasRole_message own, hasRole_detail own]
      by_cases message : g.hasName "message" = true
      · have := length_named_lt earlier stray
        simp only [message, if_true, Option.getD_some]
        omega
      · have := ih earlier
        simp only [message, Bool.false_eq_true, if_false]
        omega

end Field

namespace Notice

theorem last_texts (n : Notice) (name : String) :
    ((n.texts.filter (·.1 = name)).getLast?).map Prod.snd =
      Field.last (Field.hasName name) n.fields := by
  simp only [texts, List.filter_map, List.getLast?_map, Option.map_map]
  rfl

theorem named_texts (n : Notice) :
    String.join ((n.texts.filter fun p => p.1 ≠ "message" ∧ p.1 ≠ "error").map
      fun p => " " ++ p.1 ++ "=" ++ p.2) = Field.named Field.isAside n.fields := by
  simp only [texts, List.filter_map, List.map_map]
  rfl

theorem entry_message (n : Notice) (now : Int64) :
    (n.entry now).message = "[" ++ n.target ++ "] " ++
      (Field.last (Field.hasRole .message) n.fields).getD "" ++
      Field.named (Field.hasRole .detail) n.fields := rfl

theorem latest_cause (n : Notice) : Latest "error" n.texts (n.last? .cause) := by
  rw [latest_iff, last_texts]
  show Field.last _ _ = Field.last (Field.hasRole .cause) n.fields
  rw [funext Field.hasRole_cause]

theorem depicts_entry_iff (n : Notice) (now : Int64) :
    Depicts n.target n.texts (n.entry now) ↔ ∀ f ∈ n.fields, ¬ f.IsStray := by
  constructor
  · rintro ⟨⟨main, latest, text⟩, -⟩ f inside stray
    rw [latest_iff, last_texts] at latest
    rw [named_texts, entry_message, ← latest] at text
    have lengths := congrArg String.length text
    have longer := Field.length_lt_of_stray inside stray
    simp only [String.length_append] at lengths
    omega
  · intro regular
    refine ⟨⟨_, latest_iff.2 rfl, ?_⟩, n.latest_cause⟩
    rw [named_texts, last_texts, ← Field.last_of_regular regular, ← Field.named_of_regular regular]
    exact n.entry_message now

end Notice
/-- The event that is appended for a notice is what the names and texts of its fields depict, just
when no error is recorded by the name of the message. Its cause is always the last text that is named
an error. Of two notices that are depicted, it does not matter how their fields were recorded. -/
theorem depicts_iff_regular {σ : Type} {r : Recorder σ} {busy : Bool} {now : Int64} {n : Notice}
    {e : Event} (taken : r.accept? busy now n = some e) :
    (Depicts n.target n.texts e ↔ ∀ f ∈ n.fields, f.name = "message" → f.datum.isError = false) ∧
    Latest "error" n.texts e.cause ∧
    ∀ n' e', r.accept? busy now n' = some e' → n'.target = n.target → n'.texts = n.texts →
      (∀ f ∈ n.fields ++ n'.fields, f.name = "message" → f.datum.isError = false) →
      e'.message = e.message ∧ e'.cause = e.cause := by
  have regular_iff (f : Field) : ¬ f.IsStray ↔ (f.name = "message" → f.datum.isError = false) := by
    simp [Field.IsStray]
  obtain ⟨-, -, rfl⟩ := Subscriber.accept?_eq_some_iff.1 taken
  refine ⟨(n.depicts_entry_iff now).trans (forall₂_congr fun f _ => regular_iff f),
    n.latest_cause, ?_⟩
  intro n' e' taken' target texts regular
  obtain ⟨-, -, rfl⟩ := Subscriber.accept?_eq_some_iff.1 taken'
  have depicts := (n.depicts_entry_iff now).2 fun f inside =>
    (regular_iff f).2 (regular f (List.mem_append_left _ inside))
  have depicts' := (n'.depicts_entry_iff now).2 fun f inside =>
    (regular_iff f).2 (regular f (List.mem_append_right _ inside))
  rw [target, texts] at depicts'
  exact depicts'.unique depicts

/-- A message and an error as a program records them. -/
def failedNotice (message : Datum) : Notice where
  severity := .error
  target := "app"
  fields := [⟨"count", .int 3⟩, ⟨"message", message⟩, ⟨"error", .error "disk full"⟩]
  file := "f.rs"
  line := 7

/-- The message as a text and as an error of the same text: only the first is depicted. -/
theorem depicts_iff_regular_failed :
    Depicts "app" [("count", "3"), ("message", "stopped"), ("error", "disk full")]
      ((failedNotice (.text "stopped")).entry 0) ∧
    ¬ Depicts "app" [("count", "3"), ("message", "stopped"), ("error", "disk full")]
      ((failedNotice (.error "stopped")).entry 0) := by
  have taken (message : Datum) : (Recorder.intoList .trace).accept? false 0 (failedNotice message) =
      some ((failedNotice message).entry 0) := by
    have other : "app" ≠ "logtail" ∧ ¬ "logtail::".toList <+: "app".toList := by decide
    exact Subscriber.accept?_eq_some_iff.2 ⟨⟨Nat.zero_le _, other⟩, rfl, rfl⟩
  constructor
  · exact (depicts_iff_regular (taken (.text "stopped"))).1.2 (by decide)
  · intro depicts
    exact absurd ((depicts_iff_regular (taken (.error "stopped"))).1.1 depicts) (by decide)

end EventLog.Trace
