import EventLog.Proofs.Disk.Changes
import Mathlib.Data.List.Induction

/-! What was seen of files before. A length and a stamp tell one state of one file from all others as
long as nobody outside gives them to another file or to other bytes. Main statements: a fingerprint
that was seen once and is seen again belongs to the same file, which is as it was; and what every step
keeps that leaves nothing to mistake is kept by a run. -/
namespace EventLog.Disk

/-- States of files with one length and stamp are states of the same file, with the same bytes. -/
def Agrees (p d : Disk) : Prop :=
  ∀ i < p.files.length, ∀ j < d.files.length, p.fingerprint i = d.fingerprint j →
    i = j ∧ p.bytes i = d.bytes j

/-- States of files with one length and stamp have the same bytes, but may be states of two files, as a
file and a copy with its stamp are. -/
def Alike (p d : Disk) : Prop :=
  ∀ i < p.files.length, ∀ j < d.files.length, p.fingerprint i = d.fingerprint j →
    p.bytes i = d.bytes j

instance (p d : Disk) : Decidable (Alike p d) :=
  inferInstanceAs (Decidable (∀ i < p.files.length, ∀ j < d.files.length,
    p.fingerprint i = d.fingerprint j → p.bytes i = d.bytes j))

variable {history : List Disk} {p d d' : Disk}

theorem Agrees.symm (h : p.Agrees d) : d.Agrees p := by
  intro i hi j hj same
  obtain ⟨equal, bytes⟩ := h j hj i hi same.symm
  exact ⟨equal.symm, bytes.symm⟩

theorem Distinct.agrees (h : d.Distinct) : d.Agrees d := by
  intro i hi j hj same
  have equal := h i hi j hj same
  exact ⟨equal, by rw [equal]⟩

theorem Agrees.distinct (h : d.Agrees d) : d.Distinct := fun i hi j hj same => (h i hi j hj same).1

/-- These disks came before, and nothing that they held can be taken for something else now. -/
structure Past (history : List Disk) (d : Disk) : Prop where
  sound : d.Sound
  distinct : d.Distinct
  earlier : ∀ p ∈ history, p.Sound ∧ p.clock ≤ d.clock ∧ p.Agrees d

theorem Past.same_file (h : Past history d) (before : p ∈ history) {i j : Nat}
    (hi : i < p.files.length) (hj : j < d.files.length)
    (same : p.fingerprint i = d.fingerprint j) : i = j ∧ p.file i = d.file j := by
  obtain ⟨-, -, agrees⟩ := h.earlier p before
  have stamps : (p.file i).stamp = (d.file j).stamp := congrArg Fingerprint.stamp same
  obtain ⟨equal, contents⟩ := agrees i hi j hj same
  have contents : (p.file i).bytes = (d.file j).bytes := contents
  refine ⟨equal, ?_⟩
  cases first : p.file i
  cases second : d.file j
  simp_all

theorem Sound.past (sound : d.Sound) (distinct : d.Distinct) : Past [] d :=
  ⟨sound, distinct, fun _ before => by cases before⟩

theorem Past.cons (h : Past history d) : Past (d :: history) d where
  sound := h.sound
  distinct := h.distinct
  earlier p before := by
    rcases List.mem_cons.1 before with now | earlier
    · rw [now]
      exact ⟨h.sound, Nat.le_refl _, h.distinct.agrees⟩
    · exact h.earlier p earlier

/-- What was seen before changes that give new stamps is not what they made. -/
theorem Past.unchanged (h : Past history d) (advances : d.Advances d') (before : p ∈ history)
    {i j : Nat} (hi : i < p.files.length) (hj : j < d'.files.length)
    (same : p.fingerprint i = d'.fingerprint j) : j < d.files.length ∧ d'.file j = d.file j := by
  obtain ⟨sound, clock, -⟩ := h.earlier p before
  rcases advances.stamped j hj with kept | new
  · exact kept
  · have stamps : (p.file i).stamp = (d'.file j).stamp := congrArg Fingerprint.stamp same
    have past := sound.stamp_lt i hi
    omega

/-- Changes that give new stamps leave nothing to mistake. -/
theorem Past.advance (h : Past history d) (advances : d.Advances d') (sound : d'.Sound) :
    Past history d' where
  sound := sound
  distinct := advances.distinct h.distinct
  earlier p before := by
    obtain ⟨soundBefore, clock, agrees⟩ := h.earlier p before
    refine ⟨soundBefore, Nat.le_trans clock advances.clock, ?_⟩
    intro i hi j hj same
    obtain ⟨old, kept⟩ := h.unchanged advances before hi hj same
    have fingerprints : p.fingerprint i = d.fingerprint j := by
      rw [same, fingerprint, kept]
      rfl
    obtain ⟨equal, contents⟩ := agrees i hi j old fingerprints
    exact ⟨equal, by rw [contents, bytes, bytes, kept]⟩

theorem Past.evolve (h : Past history d) (evolves : d.Evolves d') (sound : d'.Sound)
    (agrees : ∀ p ∈ d' :: history, p.Agrees d') : Past history d' where
  sound := sound
  distinct := (agrees d' (by simp)).distinct
  earlier p before := by
    obtain ⟨soundBefore, clock, -⟩ := h.earlier p before
    exact ⟨soundBefore, Nat.le_trans clock evolves.clock, agrees p (List.mem_cons_of_mem _ before)⟩

/-- A disk that comes after these agrees with them and with itself. -/
theorem Past.agrees (h : Past history d) : ∀ p ∈ d :: history, p.Agrees d := by
  intro p before
  rcases List.mem_cons.1 before with rfl | earlier
  · exact h.distinct.agrees
  · exact (h.earlier p earlier).2.2

/-! Lengths and stamps that are not to come back. -/

/-- Two files with one length and stamp. In a history they keep this length and stamp from being seen
again, since no disk that has them agrees. -/
def ruledOut (f : Fingerprint) : Disk where
  files := List.replicate 2 ⟨List.replicate f.length 0, f.stamp⟩
  clock := f.stamp + 1

variable {f : Fingerprint}

theorem fingerprint_ruledOut {i : Nat} (h : i < (ruledOut f).files.length) :
    (ruledOut f).fingerprint i = f := by
  have same : (ruledOut f).files[i]? = some ⟨List.replicate f.length 0, f.stamp⟩ :=
    List.getElem?_replicate_of_lt h
  simp [fingerprint, file, same, File.fingerprint]

theorem sound_ruledOut (f : Fingerprint) : (ruledOut f).Sound where
  root_lt := Nat.zero_lt_one
  place_lt _ _ h := by cases h
  directory_lt _ _ h := by cases h
  file_lt _ _ h := by cases h
  stamp_lt i h := by
    have stamp : ((ruledOut f).file i).stamp = f.stamp :=
      congrArg Fingerprint.stamp (fingerprint_ruledOut h)
    rw [stamp]
    exact Nat.lt_succ_self _

/-- The length and stamp are older than the disk, and none of its files has them. -/
structure Behind (d : Disk) (f : Fingerprint) : Prop where
  old : f.stamp < d.clock
  unseen : ∀ j < d.files.length, d.fingerprint j ≠ f

theorem agrees_ruledOut (unseen : ∀ j < d.files.length, d.fingerprint j ≠ f) :
    (ruledOut f).Agrees d := by
  intro i hi j hj same
  exact absurd (same.symm.trans (fingerprint_ruledOut hi)) (unseen j hj)

theorem Past.behind (h : Past history d) (ruled : ruledOut f ∈ history) : d.Behind f := by
  obtain ⟨-, clock, agrees⟩ := h.earlier _ ruled
  refine ⟨clock, fun j hj seen => ?_⟩
  have both : ∀ i < 2, i = j := fun i hi =>
    (agrees i hi j hj ((fingerprint_ruledOut hi).trans seen.symm)).1
  have first := both 0 (by decide)
  have second := both 1 (by decide)
  omega

/-- A file that changed has left its length and stamp behind. -/
theorem Past.behind_of_changed (h : Past history d) (before : p ∈ history) {i : Nat}
    (hi : i < p.files.length) (changed : d.fingerprint i ≠ p.fingerprint i) :
    d.Behind (p.fingerprint i) := by
  obtain ⟨sound, clock, -⟩ := h.earlier p before
  refine ⟨Nat.lt_of_lt_of_le (sound.stamp_lt i hi) clock, fun j hj same => ?_⟩
  obtain ⟨rfl, -⟩ := h.same_file before hi hj same.symm
  exact changed same

theorem Past.ruleOut (h : Past history d) {gone : List Fingerprint}
    (behind : ∀ f ∈ gone, d.Behind f) : Past (history ++ gone.map ruledOut) d where
  sound := h.sound
  distinct := h.distinct
  earlier p before := by
    rcases List.mem_append.1 before with earlier | ruled
    · exact h.earlier p earlier
    · obtain ⟨f, inside, rfl⟩ := List.mem_map.1 ruled
      exact ⟨sound_ruledOut f, (behind f inside).old, agrees_ruledOut (behind f inside).unseen⟩

/-! Runs of whatever keeps a disk. -/

section Runs

variable {σ α : Type} (step : σ → α → σ) (disk : σ → Disk)

/-- The disks that a run goes through. -/
def alongRun (s : σ) : List α → List Disk
  | [] => [disk s]
  | a :: later => disk s :: alongRun (step s a) later

theorem alongRun_concat (s : σ) (actions : List α) (a : α) :
    alongRun step disk s (actions ++ [a]) =
      alongRun step disk s actions ++ [disk (step (actions.foldl step s) a)] := by
  induction actions generalizing s with
  | nil => rfl
  | cons b later ih => simpa [alongRun] using ih (step s b)

/-- Any two states of files in a run with one length and stamp are of the same file, with the same
bytes. -/
def AgreesAlong (s : σ) (actions : List α) : Prop :=
  ∀ p ∈ alongRun step disk s actions, ∀ q ∈ alongRun step disk s actions, p.Agrees q

/-- Any two states of files in a run with one length and stamp have the same bytes. -/
def AlikeAlong (s : σ) (actions : List α) : Prop :=
  ∀ p ∈ alongRun step disk s actions, ∀ q ∈ alongRun step disk s actions, p.Alike q

instance (s : σ) (actions : List α) : Decidable (AlikeAlong step disk s actions) :=
  inferInstanceAs (Decidable (∀ p ∈ alongRun step disk s actions,
    ∀ q ∈ alongRun step disk s actions, p.Alike q))

theorem AgreesAlong.distinct {s : σ} {actions : List α} (h : AgreesAlong step disk s actions) :
    (disk s).Distinct := by
  have first : disk s ∈ alongRun step disk s actions := by cases actions <;> simp [alongRun]
  exact (h _ first _ first).distinct

variable {step disk} {Knows : List Disk → σ → Prop} {s : σ} (start : Knows [disk s] s)
  (steps : ∀ history s a, Knows history s →
    (∀ p ∈ disk (step s a) :: history, p.Agrees (disk (step s a))) →
      Knows (disk (step s a) :: history) (step s a))

include start steps

theorem knows_of_agree {actions : List α} (agree : AgreesAlong step disk s actions) :
    Knows (alongRun step disk s actions).reverse (actions.foldl step s) := by
  -- On the last action, which leaves the disk that all others have to agree with.
  induction actions using List.reverseRecOn with
  | nil => exact start
  | append_singleton actions a ih =>
    unfold AgreesAlong at agree
    rw [alongRun_concat] at agree ⊢
    rw [List.foldl_append, List.reverse_concat]
    refine steps _ _ a (ih fun p hp q hq =>
      agree p (List.mem_append_left _ hp) q (List.mem_append_left _ hq)) fun p there => ?_
    refine agree p ?_ _ (by simp)
    simpa [or_comm] using there

/-- Steps that give new stamps make a run in which all disks agree. -/
theorem agree_of_advances (past : ∀ history s, Knows history s → Past history (disk s))
    {actions : List α} (advances : ∀ history s, Knows history s → ∀ a ∈ actions,
      (disk s).Advances (disk (step s a)) ∧ (disk (step s a)).Sound) :
    AgreesAlong step disk s actions := by
  induction actions using List.reverseRecOn with
  | nil =>
    rintro p hp q hq
    rw [List.mem_singleton.1 hp, List.mem_singleton.1 hq]
    exact (past _ _ start).distinct.agrees
  | append_singleton actions a ih =>
    have before := ih fun history s knows a inside =>
      advances history s knows a (List.mem_append_left _ inside)
    have knows := knows_of_agree start steps before
    obtain ⟨new, sound⟩ := advances _ _ knows a (by simp)
    have later := ((past _ _ knows).advance new sound).agrees
    intro p hp q hq
    rw [alongRun_concat] at hp hq
    have last : ∀ r ∈ alongRun step disk s actions ++ [disk (step (actions.foldl step s) a)],
        r.Agrees (disk (step (actions.foldl step s) a)) := fun r there =>
      later r (by simpa [or_comm] using there)
    rcases List.mem_append.1 hp with earlierP | lastP
    · rcases List.mem_append.1 hq with earlierQ | lastQ
      · exact before p earlierP q earlierQ
      · rw [List.mem_singleton.1 lastQ]
        exact last p hp
    · rw [List.mem_singleton.1 lastP]
      exact (last q hq).symm

end Runs

end EventLog.Disk
