import EventLog.Proofs.Disk.Opening

/-! The directories above a path. The path of the parent takes the steps of the path before its
last name, so directories that a walk goes through are never made again. -/
namespace EventLog

namespace Text

theorem intercalate_concat (separator : Char) {pieces : List (List Char)} (h : pieces ≠ [])
    (last : List Char) : [separator].intercalate (pieces ++ [last]) =
      [separator].intercalate pieces ++ separator :: last := by
  induction pieces with
  | nil => exact absurd rfl h
  | cons piece later ih =>
    cases later with
    | nil => simp [List.intercalate]
    | cons next later =>
      have rest := ih (by simp)
      simp only [List.intercalate, List.cons_append, List.intersperse_cons_cons, List.flatten_cons]
        at rest ⊢
      rw [rest]
      simp

theorem intercalate_append (separator : Char) (pieces later : List (List Char)) :
    ∃ rest, [separator].intercalate (pieces ++ later) = [separator].intercalate pieces ++ rest := by
  induction pieces with
  | nil => exact ⟨_, rfl⟩
  | cons piece others ih =>
    obtain ⟨rest, h⟩ := ih
    cases others with
    | nil =>
      cases later with
      | nil => exact ⟨[], by simp⟩
      | cons next later =>
        exact ⟨separator :: [separator].intercalate (next :: later), by simp [List.intercalate]⟩
    | cons next others =>
      refine ⟨rest, ?_⟩
      simp only [List.intercalate, List.cons_append, List.intersperse_cons_cons,
        List.flatten_cons] at h ⊢
      rw [h]
      simp

theorem split_intercalate {separator : Char} {pieces : List (List Char)} (some : pieces ≠ [])
    (clean : ∀ p ∈ pieces, separator ∉ p) :
    split separator ([separator].intercalate pieces) = pieces := by
  induction pieces with
  | nil => exact absurd rfl some
  | cons piece later ih =>
    have first := clean piece (by simp)
    cases later with
    | nil => simpa [List.intercalate] using split_of_notMem first
    | cons next later =>
      have rest := ih (by simp) fun p hp => clean p (by simp [hp])
      have shape : [separator].intercalate (piece :: next :: later) =
          piece ++ separator :: [separator].intercalate (next :: later) := by
        simp [List.intercalate]
      rw [shape, split_append_cons first, rest]

end Text

namespace Route

def stepsOf (pieces : List (List Char)) : List Step := (pieces.filter (!·.isEmpty)).map stepOf

@[simp] theorem stepsOf_append (pieces later : List (List Char)) :
    stepsOf (pieces ++ later) = stepsOf pieces ++ stepsOf later := by simp [stepsOf]

theorem steps_read (path : String) : (read path).steps = stepsOf (pieces path) := rfl

/-- A piece that names nothing at the end of a path. -/
def isIdle (piece : List Char) : Bool := piece.isEmpty || piece = ['.']

theorem stepsOf_idle {pieces : List (List Char)} (h : ∀ p ∈ pieces, isIdle p = true) :
    ∃ n, stepsOf pieces = List.replicate n .here := by
  induction pieces with
  | nil => exact ⟨0, rfl⟩
  | cons piece later ih =>
    obtain ⟨n, rest⟩ := ih fun p hp => h p (by simp [hp])
    have idle := h piece (by simp)
    by_cases empty : piece = []
    · subst empty
      exact ⟨n, by simpa [stepsOf] using rest⟩
    · have dot : piece = ['.'] := by simpa [isIdle, empty] using idle
      subst dot
      refine ⟨n + 1, ?_⟩
      rw [List.replicate_succ, ← rest]
      rfl

/-- Trimming takes idle pieces from the end. -/
theorem trimmed_append_idle (pieces : List (List Char)) :
    ∃ idle, pieces = trimmed pieces ++ idle ∧ ∀ p ∈ idle, isIdle p = true := by
  cases pieces with
  | nil => exact ⟨[], rfl, by simp⟩
  | cons first rest =>
    refine ⟨(rest.reverse.takeWhile isIdle).reverse, ?_, ?_⟩
    · have parts := congrArg List.reverse (List.takeWhile_append_dropWhile (p := isIdle)
        (l := rest.reverse))
      rw [List.reverse_append, List.reverse_reverse] at parts
      exact congrArg (first :: ·) parts.symm
    · intro p hp
      exact List.all_eq_true.1 List.all_takeWhile p (List.mem_reverse.1 hp)

theorem trimmed_concat {pieces : List (List Char)} {last : List Char}
    (h : isIdle last = false) : trimmed (pieces ++ [last]) = pieces ++ [last] := by
  cases pieces with
  | nil => rfl
  | cons first rest =>
    have stays : (last.isEmpty || decide (last = ['.'])) = false := h
    simp [trimmed, stays]

theorem parse_eq_read {path : String} {route : Route} (h : parse path = .ok route) :
    route = read path ∧ '\x00' ∉ path.toList ∧ path ≠ "" ∧ path.utf8ByteSize ≤ longestPath := by
  unfold parse at h
  split at h
  · cases h
  · rename_i clean
    split at h
    · cases h
    · rename_i some
      split at h
      · cases h
      · rename_i short
        cases h
        exact ⟨rfl, clean, by simpa using some, Nat.not_lt.1 short⟩

/-- The beginning of a path that can be walked can be walked. -/
theorem parse_of_append {path front back : String} {route : Route} (h : parse path = .ok route)
    (shape : path = front ++ back) (some : front ≠ "") : parse front = .ok (read front) := by
  obtain ⟨-, clean, -, short⟩ := parse_eq_read h
  have frontClean : '\x00' ∉ front.toList := fun inside => clean (by simp [shape, inside])
  have frontShort : ¬ longestPath < front.utf8ByteSize := by
    rw [shape, String.utf8ByteSize_append] at short
    omega
  simp [parse, frontClean, some, frontShort]

theorem getLast_pieces {path : String} (some : path ≠ "") (unslashed : (read path).slashed = false)
    {front : List (List Char)} {last : List Char} (shape : pieces path = front ++ [last]) :
    last ≠ [] := by
  rintro rfl
  have text := ofPieces_pieces path
  rw [shape, ofPieces] at text
  cases front with
  | nil =>
    simp [List.intercalate] at text
    exact some text
  | cons first rest =>
    rw [Text.intercalate_concat '/' (by simp)] at text
    have ends : path.toList.getLast? = .some '/' := by
      rw [← text, String.toList_ofList]
      simp
    simp [read, ends] at unslashed

/-- The last piece of a path is the name that its route ends with, and not an idle one. -/
theorem pieces_of_route {path name : String} {route : Route} {way : List Step}
    (parsed : parse path = .ok route) (unslashed : route.slashed = false)
    (ends : route.steps = way ++ [.into name]) :
    ∃ front last, pieces path = front ++ [last] ∧ isIdle last = false ∧ stepsOf front = way := by
  obtain ⟨rfl, -, some, -⟩ := parse_eq_read parsed
  obtain ⟨front, last, shape⟩ : ∃ front last, pieces path = front ++ [last] :=
    ⟨_, _, (List.dropLast_concat_getLast (Text.split_ne_nil '/' path.toList)).symm⟩
  have full := getLast_pieces some unslashed shape
  have steps : stepsOf front ++ [stepOf last] = way ++ [.into name] := by
    rw [← ends, steps_read, shape, stepsOf_append]
    simp [stepsOf, full]
  obtain ⟨before, into⟩ := List.append_inj' steps rfl
  refine ⟨front, last, shape, ?_, before⟩
  have notDot : last ≠ ['.'] := by
    rintro rfl
    simp [stepOf] at into
  simp [isIdle, full, notDot]

/-- The parent of a path that ends with a name has the steps before it, up to idle ones. -/
theorem parent_route {path name : String} {route : Route} {way : List Step}
    (parsed : parse path = .ok route) (unslashed : route.slashed = false)
    (ends : route.steps = way ++ [.into name]) :
    (∃ n, way = (read (parent path)).steps ++ List.replicate n .here) ∧
      (parent path ≠ "" → parse (parent path) = .ok (read (parent path))) := by
  obtain ⟨front, last, shape, named, before⟩ := pieces_of_route parsed unslashed ends
  obtain ⟨idle, whole, idles⟩ := trimmed_append_idle front
  have parentPieces : parent path = ofPieces (trimmed front) := by
    rw [parent, shape, trimmed_concat named, List.dropLast_concat]
  have clean : ∀ p ∈ trimmed front, '/' ∉ p := by
    intro p hp
    have inPath : p ∈ Text.split '/' path.toList := by
      change p ∈ pieces path
      rw [shape, whole]
      simp [hp]
    exact Text.notMem_of_mem_split inPath
  constructor
  · obtain ⟨n, heres⟩ := stepsOf_idle idles
    refine ⟨n, ?_⟩
    rw [← before, whole, stepsOf_append, heres, steps_read, parentPieces]
    congr 1
    cases kept : trimmed front with
    | nil => rfl
    | cons first rest =>
      rw [kept] at clean
      rw [pieces, ofPieces, String.toList_ofList, Text.split_intercalate (by simp) clean]
  · intro nonempty
    obtain ⟨back, text⟩ := Text.intercalate_append '/' (trimmed front) (idle ++ [last])
    have path_eq : path = parent path ++ String.ofList back := by
      rw [parentPieces, ofPieces, ← String.ofList_append, ← text, ← List.append_assoc, ← whole,
        ← shape]
      exact (ofPieces_pieces path).symm
    exact parse_of_append parsed path_eq nonempty

end Route

namespace Disk

/-- The second disk is the first one with more directories. -/
structure Extends (d d' : Disk) : Prop where
  keeps : ∀ place e, d.find? place = some e → d'.find? place = some e
  fresh : ∀ place e, d'.find? place = some e →
    d.find? place = some e ∨ ∃ id, e = .directory id ∧ d.directories ≤ id
  directories : d.directories ≤ d'.directories
  files : d'.files = d.files
  clock : d'.clock = d.clock

theorem Extends.refl (d : Disk) : d.Extends d :=
  ⟨fun _ _ h => h, fun _ _ h => .inl h, Nat.le_refl _, rfl, rfl⟩

theorem Extends.trans {d₁ d₂ d₃ : Disk} (h : d₁.Extends d₂) (h' : d₂.Extends d₃) :
    d₁.Extends d₃ where
  keeps place e there := h'.keeps place e (h.keeps place e there)
  fresh place e there := by
    rcases h'.fresh place e there with before | ⟨id, rfl, new⟩
    · exact h.fresh place e before
    · exact .inr ⟨id, rfl, Nat.le_trans h.directories new⟩
  directories := Nat.le_trans h.directories h'.directories
  files := h'.files.trans h.files
  clock := h'.clock.trans h.clock

theorem Extends.keepsDirectories {d d' : Disk} (h : d.Extends d') : KeepsDirectories d d' :=
  fun place _ there => h.keeps place _ there

theorem extends_createDirectory {d : Disk} {place : Place} (free : d.find? place = none) :
    d.Extends (d.createDirectory place).2 where
  keeps other e there := by
    have different : other ≠ place := by
      rintro rfl
      rw [free] at there
      cases there
    simpa [find?_createDirectory, different] using there
  fresh other e there := by
    rw [find?_createDirectory] at there
    by_cases same : other = place
    · rw [if_pos same] at there
      cases there
      exact .inr ⟨_, rfl, Nat.le_refl _⟩
    · exact .inl (by simpa [same] using there)
  directories := Nat.le_succ _
  files := rfl
  clock := rfl

theorem extends_makeAlong (d : Disk) (made : Bool) (trail : Trail) (steps : List Step) :
    d.Extends (d.makeAlong made trail steps).2 := by
  fun_induction makeAlong d made trail steps with
  | case1 d => exact .refl d
  | case2 d made trail rest ih => exact ih
  | case3 d made trail rest ih => exact ih
  | case4 d => exact .refl d
  | case5 d made trail name rest short id inside ih => exact ih
  | case6 d => exact .refl d
  | case7 d => exact .refl d
  | case8 d made trail name rest dots short free goesOn id d₁ created ih =>
    have grown := extends_createDirectory free
    rw [created] at grown
    exact grown.trans ih

theorem extends_makeSome (d : Disk) (count : Nat) (trail : Trail) (steps : List Step) :
    d.Extends (d.makeSome count trail steps) := by
  fun_induction makeSome d count trail steps with
  | case1 | case2 => exact .refl _
  | case3 d count trail rest _ ih => exact ih
  | case4 d count trail rest _ ih => exact ih
  | case5 d => exact .refl d
  | case6 d count trail name rest short id inside ih => exact ih
  | case7 d => exact .refl d
  | case8 d => exact .refl d
  | case9 d count trail name rest dots short free goesOn id d₁ created ih =>
    have grown := extends_createDirectory free
    rw [created] at grown
    exact grown.trans ih

/-- Where nothing has to be made, nothing is made. -/
theorem makeSome_of_makeAlong {d : Disk} {made : Bool} {trail : Trail} {steps : List Step}
    (nothing : (d.makeAlong made trail steps).2 = d) (count : Nat) :
    d.makeSome count trail steps = d := by
  fun_induction makeSome d count trail steps generalizing made with
  | case1 d => rfl
  | case2 d => rfl
  | case3 d count trail rest _ ih =>
    rw [makeAlong] at nothing
    exact ih nothing
  | case4 d count trail rest _ ih =>
    rw [makeAlong] at nothing
    exact ih nothing
  | case5 d => rfl
  | case6 d count trail name rest short id inside ih =>
    rw [makeAlong, if_neg short] at nothing
    simp only [inside] at nothing
    exact ih nothing
  | case7 d => rfl
  | case8 d => rfl
  | case9 d count trail name rest dots short free goesOn id d₁ created =>
    rw [makeAlong, if_neg short] at nothing
    simp only [free] at nothing
    rw [if_neg goesOn, created] at nothing
    have one : d₁.directories = d.directories + 1 := congrArg (·.2.directories) created.symm
    have more := (extends_makeAlong d₁ true (id :: trail) rest).directories
    rw [nothing, one] at more
    exact absurd more (Nat.not_succ_le_self _)

theorem extends_makeDirectories (d : Disk) (path : String) :
    d.Extends (d.makeDirectories path).2 := by
  unfold makeDirectories
  split
  · exact .refl d
  · split
    · exact extends_makeAlong d _ _ _
    · exact .refl d

theorem extends_makeParents (d : Disk) (path : String) : d.Extends (d.makeParents path).2 :=
  extends_makeDirectories d _

theorem extends_makeSomeParents (d : Disk) (path : String) (count : Nat) :
    d.Extends (d.makeSomeParents path count) := by
  unfold makeSomeParents
  dsimp only
  split
  · exact .refl d
  · split
    · exact extends_makeSome d _ _ _
    · exact .refl d

theorem makeSomeParents_of_makeParents {d : Disk} {path : String}
    (nothing : (d.makeParents path).2 = d) (count : Nat) : d.makeSomeParents path count = d := by
  unfold makeParents makeDirectories at nothing
  unfold makeSomeParents
  dsimp only
  split
  · rfl
  · rename_i some
    rw [if_neg some] at nothing
    split
    · rename_i parsed
      rw [parsed] at nothing
      exact makeSome_of_makeAlong nothing count
    · rfl

/-- Directories that a walk goes through are not made again. -/
theorem makeAlong_of_walk {d : Disk} {trail : Trail} {way later : List Step} {spot : Spot}
    (made : Bool) (more : later ≠ []) (h : d.walk trail (way ++ later) = .ok spot) :
    d.makeAlong made trail way = (.ok (), d) := by
  induction way generalizing trail with
  | nil => rfl
  | cons step way ih =>
    cases step with
    | here =>
      rw [List.cons_append, walk] at h
      exact ih h
    | up =>
      rw [List.cons_append, walk] at h
      exact ih h
    | into name =>
      have goesOn : (way ++ later).isEmpty = false := by simp [more]
      rw [List.cons_append, walk] at h
      simp only [goesOn, Bool.false_eq_true, if_false] at h
      split at h
      · cases h
      · rename_i short
        split at h
        · rename_i id inside
          rw [makeAlong]
          simp only [short, inside, if_false]
          exact ih h
        · cases h
        · cases h

theorem makeParents_of_reaches {d : Disk} {path : String} {place : Place}
    (h : d.Reaches path place) : d.makeParents path = (.ok (), d) := by
  obtain ⟨route, trail, parsed, unslashed, -, walked⟩ := h
  obtain ⟨way, steps, -⟩ := walk_through walked
  obtain ⟨⟨n, before⟩, parseParent⟩ := Route.parent_route parsed unslashed steps
  unfold makeParents makeDirectories
  split
  · rfl
  · rename_i nonempty
    rw [parseParent (by simpa using nonempty)]
    rw [steps, before, List.append_assoc] at walked
    exact makeAlong_of_walk false (by simp) walked

/-- What could not be made can still not be made. -/
theorem makeAlong_again {d d' : Disk} {made : Bool} {trail : Trail} {steps : List Step}
    {fault : DiskFault} (h : d.makeAlong made trail steps = (.error fault, d')) (made' : Bool) :
    (d'.makeAlong made' trail steps).1 ≠ .ok () := by
  fun_induction makeAlong d made trail steps with
  | case1 d => cases h
  | case2 d made trail rest ih =>
    rw [makeAlong]
    exact ih h
  | case3 d made trail rest ih =>
    rw [makeAlong]
    exact ih h
  | case4 d made trail name rest long =>
    rw [makeAlong]
    simp [long]
  | case5 d made trail name rest short id inside ih =>
    have kept := (extends_makeAlong d made (id :: trail) rest).keeps _ _ inside
    rw [h] at kept
    rw [makeAlong]
    simp only [short, kept, if_false]
    exact ih h
  | case6 d made trail name rest dots short id inside =>
    simp only [Prod.mk.injEq] at h
    obtain ⟨-, rfl⟩ := h
    rw [makeAlong]
    simp [short, inside]
  | case7 d made trail name rest dots short free idle =>
    simp only [Prod.mk.injEq] at h
    obtain ⟨-, rfl⟩ := h
    have idle' : (!rest.isEmpty && rest.all (· = .here)) = true := idle
    rw [makeAlong]
    simp [short, free, idle']
  | case8 d made trail name rest dots short free goesOn id d₁ created ih =>
    have new := find?_of_createDirectory created
    have kept := (extends_makeAlong d₁ true (id :: trail) rest).keeps _ _ new
    rw [h] at kept
    rw [makeAlong]
    simp only [short, kept, if_false]
    exact ih h

/-- What was made is there. -/
theorem makeAlong_done {d d' : Disk} {made : Bool} {trail : Trail} {steps : List Step}
    (h : d.makeAlong made trail steps = (.ok (), d')) (made' : Bool) :
    d'.makeAlong made' trail steps = (.ok (), d') := by
  fun_induction makeAlong d made trail steps generalizing made' with
  | case1 d => rfl
  | case2 d made trail rest ih => exact ih h made'
  | case3 d made trail rest ih => exact ih h made'
  | case4 d made trail name rest long => cases h
  | case5 d made trail name rest short id inside ih =>
    have kept := (extends_makeAlong d made (id :: trail) rest).keeps _ _ inside
    rw [h] at kept
    rw [makeAlong]
    simp only [short, kept, if_false]
    exact ih h made'
  | case6 d made trail name rest dots short id inside => cases h
  | case7 d made trail name rest dots short free idle => cases h
  | case8 d made trail name rest dots short free goesOn id d₁ created ih =>
    have new := find?_of_createDirectory created
    have kept := (extends_makeAlong d₁ true (id :: trail) rest).keeps _ _ new
    rw [h] at kept
    rw [makeAlong]
    simp only [short, kept, if_false]
    exact ih h made'

/-- Making the directories above a path a second time does nothing, or fails as it did before. -/
theorem makeParents_again (d : Disk) (path : String) :
    (d.makeParents path).1 = .ok () ∧
        (d.makeParents path).2.makeParents path = (.ok (), (d.makeParents path).2) ∨
      (∃ fault, (d.makeParents path).1 = .error fault) ∧
        ((d.makeParents path).2.makeParents path).1 ≠ .ok () := by
  unfold makeParents makeDirectories
  by_cases nothing : (Route.parent path).isEmpty
  · simp [nothing]
  · rw [if_neg nothing, if_neg nothing]
    cases parsed : Route.parse (Route.parent path) with
    | error fault => simp
    | ok route =>
      dsimp only
      cases h : d.makeAlong false [] route.steps with
      | mk result d' =>
        cases result with
        | ok _ => exact .inl ⟨rfl, makeAlong_done h false⟩
        | error fault => exact .inr ⟨⟨fault, rfl⟩, makeAlong_again h false⟩

/-- When its parents cannot be made, no file stands at a path. -/
theorem not_reaches_of_makeParents {d d' : Disk} {path : String} {fault : DiskFault}
    (h : d.makeParents path = (.error fault, d')) (place : Place) : ¬ d'.Reaches path place := by
  intro reaches
  have made := makeParents_of_reaches reaches
  rcases d.makeParents_again path with ⟨done, -⟩ | ⟨-, refused⟩
  · rw [h] at done
    cases done
  · rw [h] at refused
    exact refused (congrArg Prod.fst made)

end Disk
end EventLog
