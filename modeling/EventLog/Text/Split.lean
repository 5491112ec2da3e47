import EventLog.Text.Category

/-! Pieces of a text between separators. There is always one piece more than separators, and the
pieces joined by the separator are the text. Blanks around a piece can be taken off. -/
namespace EventLog.Text

/-- A text without the blanks around it. -/
def trim (text : List Char) : List Char :=
  ((text.dropWhile isBlank).reverse.dropWhile isBlank).reverse

def split (separator : Char) : List Char → List (List Char)
  | [] => [[]]
  | c :: rest =>
    match split separator rest with
    | [] => [[]]
    | piece :: later => if c = separator then [] :: piece :: later else (c :: piece) :: later

@[simp] theorem split_nil (separator : Char) : split separator [] = [[]] := rfl

theorem split_ne_nil (separator : Char) (text : List Char) : split separator text ≠ [] := by
  cases text with
  | nil => simp
  | cons c rest =>
    rw [split]
    split
    · simp
    · split <;> simp

theorem intercalate_split (separator : Char) (text : List Char) :
    [separator].intercalate (split separator text) = text := by
  induction text with
  | nil => rfl
  | cons c rest ih =>
    rw [split]
    cases h : split separator rest with
    | nil => exact absurd h (split_ne_nil separator rest)
    | cons piece later =>
      rw [h] at ih
      by_cases hc : c = separator
      · subst hc
        simpa [List.intercalate] using ih
      · cases later <;> simp_all [List.intercalate]

theorem split_of_notMem {separator : Char} {text : List Char} (h : separator ∉ text) :
    split separator text = [text] := by
  induction text with
  | nil => rfl
  | cons c rest ih =>
    have other : c ≠ separator := fun same => h (by simp [same])
    rw [split, ih fun later => h (by simp [later])]
    simp [other]

theorem split_append_cons {separator : Char} {piece : List Char} (h : separator ∉ piece)
    (rest : List Char) :
    split separator (piece ++ separator :: rest) = piece :: split separator rest := by
  induction piece with
  | nil =>
    rw [List.nil_append, split]
    split
    · rename_i none
      exact absurd none (split_ne_nil separator rest)
    · rename_i first later pieces
      simp [pieces]
  | cons c piece ih =>
    have other : c ≠ separator := fun same => h (by simp [same])
    rw [List.cons_append, split, ih fun later => h (by simp [later])]
    simp [other]

theorem notMem_of_mem_split {separator : Char} {text piece : List Char}
    (h : piece ∈ split separator text) : separator ∉ piece := by
  induction text generalizing piece with
  | nil => simp_all [split]
  | cons c rest ih =>
    rw [split] at h
    split at h
    · simp_all
    · rename_i first later pieces
      rw [pieces] at ih
      by_cases same : c = separator
      · rw [if_pos same] at h
        rcases List.mem_cons.1 h with rfl | inside
        · simp
        · exact ih inside
      · rw [if_neg same] at h
        rcases List.mem_cons.1 h with rfl | inside
        · have clean := ih (List.mem_cons_self (a := first) (l := later))
          simp [Ne.symm same, clean]
        · exact ih (by simp [inside])

end EventLog.Text
