import EventLog.Event

/-! Filled messages as pieces with arguments between them. A message is cut at its places, each of
them the first in what is left of it. Main statement: a filled message has the pieces as they are, and
between them the arguments as they are. -/
namespace EventLog

/-- The pieces of a text around its places: each place is the leftmost in the text behind the last. -/
inductive Cut : List Char → List (List Char) → Prop
  | free {text : List Char} (free : ¬ place <:+: text) : Cut text [text]
  | found {text before after : List Char} {pieces : List (List Char)}
      (here : text = before ++ place ++ after)
      (leftmost : ∀ b a, text = b ++ place ++ a → before.length ≤ b.length)
      (later : Cut after pieces) : Cut text (before :: pieces)

/-- Between pieces stand the arguments in their order, and places where there are no more. -/
def weave (arguments : List (List Char)) : List (List Char) → List Char
  | [] => []
  | first :: later =>
    first ++ (later.mapIdx fun j piece => arguments[j]?.getD place ++ piece).flatten

theorem weave_cons (arguments : List (List Char)) (first second : List Char)
    (later : List (List Char)) :
    weave arguments (first :: second :: later) =
      first ++ (arguments.head?.getD place ++ weave arguments.tail (second :: later)) := by
  simp [weave, List.mapIdx_cons, List.head?_eq_getElem?]

theorem splitPlace?_eq_none_iff {text : List Char} :
    splitPlace? text = none ↔ ¬ place <:+: text := by
  induction text with
  | nil => decide
  | cons c rest ih =>
    rw [List.infix_cons_iff, not_or, ← ih, splitPlace?]
    split <;> simp [*]

theorem leftmost_of_splitPlace? {text before after : List Char}
    (found : splitPlace? text = some (before, after)) :
    text = before ++ place ++ after ∧
      ∀ b a, text = b ++ place ++ a → before.length ≤ b.length := by
  induction text generalizing before with
  | nil => cases found
  | cons c rest ih =>
    rw [splitPlace?] at found
    split at found
    · rename_i begins
      obtain ⟨later, here⟩ := begins
      cases here
      cases found
      exact ⟨rfl, fun _ _ _ => Nat.zero_le _⟩
    · rename_i other
      obtain ⟨p, found', same⟩ := Option.map_eq_some_iff.1 found
      cases same
      obtain ⟨here, leftmost⟩ := ih found'
      refine ⟨congrArg (c :: ·) here, fun b a same => ?_⟩
      cases b with
      | nil => exact absurd ⟨a, same.symm⟩ other
      | cons d b => exact Nat.succ_le_succ (leftmost b a (List.cons.inj same).2)

theorem Cut.unique {text : List Char} {pieces pieces' : List (List Char)} (h : Cut text pieces)
    (h' : Cut text pieces') : pieces = pieces' := by
  induction h generalizing pieces' with
  | free free =>
    cases h' with
    | free => rfl
    | found here => exact absurd ⟨_, _, here.symm⟩ free
  | found here leftmost later ih =>
    cases h' with
    | free free => exact absurd ⟨_, _, here.symm⟩ free
    | found here' leftmost' later' =>
      have length := Nat.le_antisymm (leftmost _ _ here') (leftmost' _ _ here)
      have same := here.symm.trans here'
      rw [List.append_assoc, List.append_assoc] at same
      obtain ⟨rfl, rest⟩ := List.append_inj same length
      rw [ih ((List.append_cancel_left rest) ▸ later')]

/-- Each round of the loop cuts off one piece and takes one argument. -/
theorem exists_cut (arguments : List (List Char)) (text : List Char) :
    ∃ first later, Cut text (first :: later) ∧
      fill arguments text = weave arguments (first :: later) := by
  fun_induction fill arguments text with
  | case1 arguments text none =>
    exact ⟨text, [], .free (splitPlace?_eq_none_iff.1 none), (List.append_nil text).symm⟩
  | case2 arguments text before after found ih =>
    obtain ⟨here, leftmost⟩ := leftmost_of_splitPlace? found
    obtain ⟨first, later, cut, filled⟩ := ih
    refine ⟨before, first :: later, .found here leftmost cut, ?_⟩
    rw [weave_cons, filled, List.append_assoc]

theorem Cut.fill {text : List Char} {pieces : List (List Char)} (h : Cut text pieces)
    (arguments : List (List Char)) : fill arguments text = weave arguments pieces := by
  obtain ⟨first, later, cut, filled⟩ := exists_cut arguments text
  rw [filled, h.unique cut]

theorem Cut.weave_nil {text : List Char} {pieces : List (List Char)} (h : Cut text pieces) :
    weave [] pieces = text := by
  induction h with
  | free free => exact List.append_nil _
  | found here leftmost later ih =>
    rw [here, List.append_assoc]
    cases later <;> rw [weave_cons, List.tail_nil, ih] <;> rfl

/-- As many arguments count as there are places. -/
theorem weave_congr {arguments arguments' : List (List Char)} {first : List Char}
    {later : List (List Char)} (same : ∀ j < later.length, arguments[j]? = arguments'[j]?) :
    weave arguments (first :: later) = weave arguments' (first :: later) := by
  have pieces : (later.mapIdx fun j piece => arguments[j]?.getD place ++ piece) =
      later.mapIdx fun j piece => arguments'[j]?.getD place ++ piece := by
    refine List.ext_getElem (by simp) fun j inside _ => ?_
    rw [List.length_mapIdx] at inside
    simp only [List.getElem_mapIdx, same j inside]
  rw [weave, weave, pieces]

namespace Event

/-- The loop gives the same where it is not run. -/
theorem filled_eq_fill (e : Event) :
    e.filled = String.ofList (fill (e.arguments.map String.toList) e.message.toList) := by
  unfold filled
  split
  · rename_i none
    obtain ⟨first, later, cut, -⟩ := exists_cut [] e.message.toList
    rw [List.isEmpty_iff.1 none, List.map_nil, cut.fill, cut.weave_nil, String.ofList_toList]
  · rfl

theorem toList_filled {e : Event} {pieces : List (List Char)} (cut : Cut e.message.toList pieces) :
    e.filled.toList = weave (e.arguments.map String.toList) pieces := by
  rw [filled_eq_fill, String.toList_ofList, cut.fill]

theorem filled_congr {e e' : Event} {first : List Char} {later : List (List Char)}
    (cut : Cut e.message.toList (first :: later)) (message : e'.message = e.message)
    (same : ∀ j < later.length, e'.arguments[j]? = e.arguments[j]?) : e'.filled = e.filled := by
  have cut' : Cut e'.message.toList (first :: later) := message ▸ cut
  refine String.toList_inj.1 ?_
  rw [toList_filled cut', toList_filled cut]
  refine weave_congr fun j inside => ?_
  rw [List.getElem?_map, List.getElem?_map, same j inside]

/-- A filled message has the pieces of the message around its places, and between them the arguments
one after the other, each as it is; a place stays where there is no argument. Arguments beyond the
places do not matter, and without arguments the loop would give the same as its shortcut. -/
theorem filled_eq_weave (e : Event) :
    ∃ first later, Cut e.message.toList (first :: later) ∧
      (∀ pieces, Cut e.message.toList pieces → pieces = first :: later) ∧
      e.filled.toList = first ++ (later.mapIdx fun j piece =>
        (e.arguments[j]?.getD "\x7b\x7d").toList ++ piece).flatten ∧
      (later.length ≤ e.arguments.length → ∀ more,
        { e with arguments := e.arguments ++ more }.filled = e.filled) ∧
      { e with arguments := e.arguments.take later.length }.filled = e.filled ∧
      e.filled = String.ofList (fill (e.arguments.map String.toList) e.message.toList) := by
  obtain ⟨first, later, cut, -⟩ := exists_cut (e.arguments.map String.toList) e.message.toList
  refine ⟨first, later, cut, fun pieces other => other.unique cut, ?_, fun enough more => ?_, ?_,
    filled_eq_fill e⟩
  · have argument (j : Nat) : (e.arguments.map String.toList)[j]?.getD place =
        (e.arguments[j]?.getD "\x7b\x7d").toList := by
      rw [List.getElem?_map]
      cases e.arguments[j]? <;> rfl
    rw [toList_filled cut, weave]
    simp only [argument]
  · exact filled_congr cut rfl fun j inside => List.getElem?_append_left (by omega)
  · exact filled_congr cut rfl fun j inside => List.getElem?_take_of_lt inside

/-- Braces around places, and arguments that hold places. -/
def bracedEvent : Event :=
  { severity := .info, message := "\x7b\x7b\x7d\x7d\x7b\x7d\x7b\x7b\x7d",
    arguments := ["\x7b\x7d", "\x7b", "x"], time := 0 }

theorem cut_bracedEvent : Cut bracedEvent.message.toList [['{'], ['}'], ['{'], []] := by
  have step {c : Char} {after : List Char} {pieces : List (List Char)}
      (other : ¬ place <+: c :: (place ++ after)) (later : Cut after pieces) :
      Cut (c :: (place ++ after)) ([c] :: pieces) := by
    refine .found rfl (fun b a same => ?_) later
    cases b with
    | nil => exact absurd ⟨a, same.symm⟩ other
    | cons d b => simp
  exact step (by decide) (step (by decide) (step (by decide) (.free (by decide))))

theorem filled_eq_weave_braced :
    bracedEvent.filled = "\x7b\x7b\x7d\x7d\x7b\x7b\x78" ∧
    ∀ more, { bracedEvent with arguments := bracedEvent.arguments ++ more }.filled =
      bracedEvent.filled := by
  obtain ⟨first, later, -, unique, text, surplus, -⟩ := filled_eq_weave bracedEvent
  cases unique _ cut_bracedEvent
  exact ⟨String.toList_inj.1 (text.trans (by rfl)), surplus (by decide)⟩

end Event
end EventLog
