import EventLog.Json.Field
import EventLog.Proofs.Json.Assembly

/-! What the typed readers take from values. The order of an object's members does not matter to
them, nor do members of other names. -/
namespace EventLog.Json.Value

section Object

variable {α : Type} {items : List α} {key : α → Literal} {name : α → String} {value : α → Value}

theorem named?_map (meaning : ∀ a ∈ items, (key a).text? = some (name a)) :
    named? (items.map fun a => (key a, value a)) = some (items.map fun a => (name a, value a)) := by
  induction items with
  | nil => rfl
  | cons a later ih =>
    rw [List.map_cons, named?, meaning a List.mem_cons_self,
      ih fun b member => meaning b (List.mem_cons_of_mem a member)]
    rfl

/-- The members of known names are the fields of a record if no name is there twice. -/
theorem fields?_object (meaning : ∀ a ∈ items, (key a).text? = some (name a))
    (names : List String) :
    (object (items.map fun a => (key a, value a))).fields? names =
      if ((items.map name).filter names.contains).Nodup then
        some ((items.map fun a => (name a, value a)).filter fun m => names.contains m.1)
      else none := by
  have distinct : ((items.map fun a => (name a, value a)).filter fun m => names.contains m.1).map
      Prod.fst = (items.map name).filter names.contains := by
    rw [List.filter_map, List.filter_map, List.map_map]
    rfl
  rw [← distinct, fields?, named?_map meaning]
  rfl

end Object

section Record

variable {β : Type} {fields : List (String × Value)} {name : String} {read : Value → Option β}
  {b : β}

theorem required_eq (present : name ∈ fields.map Prod.fst)
    (reads : ∀ v, (name, v) ∈ fields → read v = some b) : required fields name read = some b := by
  cases found : fields.lookup name with
  | none =>
    obtain ⟨m, member, rfl⟩ := List.mem_map.1 present
    have other := List.lookup_eq_none_iff.1 found m member
    simp at other
  | some v =>
    obtain ⟨front, back, rfl, -⟩ := List.lookup_eq_some_iff.1 found
    rw [required, found, Option.bind_some]
    exact reads v (by simp)

theorem fieldOr_eq {absent : β} (reads : ∀ v, (name, v) ∈ fields → read v = some b)
    (missing : name ∉ fields.map Prod.fst → absent = b) :
    fieldOr fields name read absent = some b := by
  by_cases present : name ∈ fields.map Prod.fst
  · have required := required_eq present reads
    rw [Value.required] at required
    obtain ⟨v, found, value⟩ := Option.bind_eq_some_iff.1 required
    rw [fieldOr, found]
    exact value
  · have nothing : fields.lookup name = none := by
      refine List.lookup_eq_none_iff.2 fun m member => ?_
      have other : name ≠ m.1 := by
        rintro rfl
        exact present (List.mem_map.2 ⟨m, member, rfl⟩)
      simpa using other
    rw [fieldOr, nothing, missing present]

end Record

/-- A list is read if each of its items is. -/
theorem list?_array {β : Type} {read : Value → Option β} {items : List β} {values : List Value}
    (h : List.Forall₂ (fun b v => read v = some b) items values) :
    list? read (.array values) = some items := by
  show values.mapM read = some items
  induction h with
  | nil => rfl
  | cons first _ ih =>
    rw [List.mapM_cons, first, ih]
    rfl

theorem int64?_toString (n : Int64) : (number (toString n.toInt).toList).int64? = some n := by
  have low := n.le_toInt
  have high := n.toInt_lt
  rw [int64?, integer?_toString]
  show (if _ then _ else _) = _
  rw [if_pos ⟨by omega, by omega⟩, Int64.ofInt_toInt]

end EventLog.Json.Value
