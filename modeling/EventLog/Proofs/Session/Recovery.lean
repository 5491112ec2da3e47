import EventLog.Proofs.FileLog.Footprint
import EventLog.Proofs.Session.Sharing

/-! What a crash leaves. Logs share a path, their file is cut at any byte, and they go on. Main
statement: they go on as with the events whose records ended before the cut, and the next event that
is stored comes right behind these records. -/
namespace EventLog

open Disk (Past Change Changes Confined)
open EventLog.Frame (Payload Fits join)

namespace Disk

variable {s : Settings} {path : String} {count : Nat} {d d' : Disk}

/-- All that can be opened at the path was there when there were so many files. -/
structure Old (s : Settings) (path : String) (count : Nat) (d : Disk) : Prop where
  grown : count ≤ d.files.length
  opens : ∀ id d', d.openPrepared s path = (.ok id, d') → id < count

/-- What is opened on the second disk is opened on the first. -/
theorem Old.of_opens (h : d.Old s path count) (grown : d.files.length ≤ d'.files.length)
    (again : ∀ id d₂, d'.openPrepared s path = (.ok id, d₂) →
      ∃ d₁, d.openPrepared s path = (.ok id, d₁)) : d'.Old s path count where
  grown := Nat.le_trans h.grown grown
  opens id d₂ opened := by
    obtain ⟨d₁, before⟩ := again id d₂ opened
    exact h.opens id d₁ before

/-- Nothing new comes to stand at such a path until what stands there is removed. -/
theorem Change.Leads.old {c : Change} (h : c.Leads s path d d') (kept : c ≠ .remove)
    (old : d.Old s path count) : d'.Old s path count := by
  have stays (id : Nat) (found : d.lookup path = .ok (.file id)) : d'.Old s path count := by
    refine old.of_opens h.length fun other d₂ opened => ⟨d, ?_⟩
    rw [openPrepared_of_lookup (h.lookup kept found)] at opened
    cases opened
    exact openPrepared_of_lookup found s
  cases h with
  | parents asked =>
    refine old.of_opens (Change.Leads.parents asked).length fun id d₂ opened => ⟨d₂, ?_⟩
    refine openPrepared_of_prepared ?_
    rwa [prepare, if_pos asked]
  | @create _ place reaches free =>
    have opened : d.openPrepared s path = (.ok d.files.length, (d.create place).2) := by
      rw [openPrepared, prepare_of_reaches reaches]
      exact openForAppending_of_free reaches free
    exact absurd (old.opens _ _ opened) (Nat.not_lt.2 old.grown)
  | cut found longest => exact stays _ found
  | append found fits => exact stays _ found
  | remove reaches there => exact absurd rfl kept

theorem Changes.old {cs : List Change} (h : Changes s path cs d d') (kept : .remove ∉ cs)
    (old : d.Old s path count) : d'.Old s path count := by
  induction h with
  | nil d => exact old
  | cons first rest ih =>
    exact ih (fun later => kept (List.mem_cons_of_mem _ later))
      (first.old (by rintro rfl; simp at kept) old)

theorem Changes.eq_of_remove {cs : List Change} (h : Changes s path cs d d')
    (some : cs.Sublist [.remove]) (missing : ∀ id, d.lookup path ≠ .ok (.file id)) : d' = d := by
  cases h with
  | nil => rfl
  | cons first rest =>
    have removes := some.subset List.mem_cons_self
    rw [List.mem_singleton] at removes
    subst removes
    cases first with
    | remove reaches there => exact absurd (lookup_eq_file_iff.2 ⟨_, reaches, there⟩) (missing _)

/-- Removing what stands at a path leaves it free, or there was no file to remove. -/
theorem removeFile_old_or_carries (s : Settings) (d : Disk) (path : String) :
    (d.removeFile path).2 = d ∨ Carries s path (d.removeFile path).2 [] := by
  by_cases file : ∃ id, d.lookup path = .ok (.file id)
  · obtain ⟨id, found⟩ := file
    exact .inr (removeFile_of_lookup found).2
  · obtain ⟨cs, some, changes⟩ := confined_removeFile s d path
    refine .inl (changes.eq_of_remove some ?_)
    exact fun id found => file ⟨id, found⟩

/-- At the start a path leads to nothing new, or is free for a file. -/
theorem Sound.old_or_carries (sound : d.Sound) (s : Settings) (path : String) :
    d.Old s path d.files.length ∨ Carries s path d [] := by
  by_cases new : ∃ id d', d.openPrepared s path = (.ok id, d') ∧ d.files.length ≤ id
  · right
    obtain ⟨id, d', opened, new⟩ := new
    refine carries_of_missing ⟨id, d', opened⟩ (bytesAt?_eq_none_iff.2 fun other found => ?_)
    have there := lookup_file_lt (sound.prepare s path) found
    rw [(extends_prepare s d path).files] at there
    rw [openPrepared_of_prepared (openPrepared_of_lookup found s)] at opened
    cases opened
    omega
  · refine .inl ⟨Nat.le_refl _, fun id d' opened => ?_⟩
    exact Nat.not_le.1 fun beyond => new ⟨id, d', opened, beyond⟩

/-- A file that is cut holds the first of its bytes. -/
theorem bytesAt?_truncate (sound : d.Sound) {id k : Nat} (found : d.lookup path = .ok (.file id))
    (inside : k ≤ (d.bytes id).length) :
    (d.edit (.truncate path k false)).2.bytesAt? path = some ((d.bytes id).take k) := by
  have resized : Disk.resized k (d.bytes id) = (d.bytes id).take k := by
    simp [Disk.resized, Nat.sub_eq_zero_of_le inside]
  have found' : (d.put id ((d.bytes id).take k)).lookup path = .ok (.file id) := by
    rw [lookup_put, found]
  simp only [edit, revise, found, resized]
  rw [bytesAt?_of_lookup found']
  exact congrArg some (bytes_put (lookup_file_lt sound found) _ false)

end Disk

/-- The bytes are the frames of the events, and nothing else. -/
def Codec.IsRow (codec : Codec) (events : List Event) (bytes : List UInt8) : Prop :=
  ∃ payloads, payloads.map .ok = events.map codec.encode ∧ bytes = join payloads

/-- An event that is accepted goes to the end of the list. -/
theorem Shared.serve_append {ι : Type} [DecidableEq ι] (shared : Shared ι) {codec : Codec}
    {maximum : Nat} {i : ι} {e : Event} (takes : shared.accepts i = true)
    (accepted : shared.reply? codec maximum i (.append e) = some (.outcome (.ok ()))) :
    shared.serve codec maximum i (.append e) = { shared with events := shared.events.append e } := by
  cases encoded : codec.encode e with
  | error failure => simp [Shared.reply?, takes, encoded] at accepted
  | ok payload =>
    by_cases short : payload.length ≤ maximum
    · simp [Shared.serve, takes, encoded, short]
    · simp [Shared.reply?, takes, encoded, short] at accepted

namespace Session

variable {ι : Type} [DecidableEq ι] {codec : Codec} {setting : Settings} {path : String}
  {torn : Bool} {s : Session ι} {shared : Shared ι} {count : Nat}

/-- Every log answers from the list. -/
def Shows (s : Session ι) (events : ListLog) : Prop :=
  ∀ i q, (s.serve i (.ask q)).1 = .answer (ListLog.ask events q)

/-- The file holds the events, or the path leads to no file that is new. -/
def Begun (codec : Codec) (setting : Settings) (path : String) (count : Nat) (s : Session ι)
    (shared : Shared ι) : Prop :=
  OnPath codec setting path s shared.accepts ∧
    (s.disk.Old setting path count ∨ Stores codec setting path false s.disk shared.events)

theorem Begun.step (faithful : codec.Faithful) (h : Begun codec setting path count s shared) (i : ι)
    {r : Request} (own : r.StaysOn path) : Begun codec setting path count (s.step (.request i r))
      (shared.serve codec setting.maxRecordSize.toNat i r) := by
  obtain ⟨onPath, old | stored⟩ := h
  · refine ⟨by rw [Shared.accepts_serve]; exact onPath.step i own, ?_⟩
    obtain ⟨history, grounded⟩ := onPath.grounded
    obtain ⟨b, bound, rfl, -⟩ := onPath.bound i
    have confined := (grounded.logs i).confined_serve grounded.past bound r
    rw [(onPath.kind i).2] at confined
    by_cases deletes : r = .delete
    · subst deletes
      have disk : (s.step (.request i .delete)).disk = (s.disk.removeFile b.path).2 :=
        FileLog.disk_delete bound s.disk
      rw [disk]
      rcases s.disk.removeFile_old_or_carries setting b.path with same | free
      · exact .inl (same.symm ▸ old)
      · exact .inr (stores_nil free)
    · obtain ⟨cs, some, changes⟩ := confined
      have kept : .remove ∉ cs := fun removed =>
        (s.logs i).remove_notMem_changes deletes (some.subset removed)
      exact .inl (changes.old kept old)
  · have refines := (Refines.mk onPath stored).step faithful i own
    exact ⟨refines.2.toOnPath, .inr refines.2.stored⟩

theorem Begun.run (faithful : codec.Faithful) (h : Begun codec setting path count s shared)
    {requests : List (ι × Request)} (own : ∀ p ∈ requests, p.2.StaysOn path) :
    Begun codec setting path count (s.run (requests.map fun p => .request p.1 p.2))
      (shared.run codec setting.maxRecordSize.toNat requests) := by
  induction requests generalizing s shared with
  | nil => exact h
  | cons p later ih =>
    have first := h.step faithful p.1 (own p List.mem_cons_self)
    exact ih first fun q member => own q (List.mem_cons_of_mem p member)

omit [DecidableEq ι] in
/-- A file that is new holds the events. -/
theorem Begun.refines (h : Begun codec setting path count s shared) {id : Nat}
    (there : s.disk.lookup path = .ok (.file id)) (new : count ≤ id) :
    Refines codec setting path false s shared := by
  obtain ⟨onPath, old | stored⟩ := h
  · exact absurd (old.opens _ _ (Disk.openPrepared_of_lookup there setting)) (Nat.not_lt.2 new)
  · exact ⟨onPath, stored⟩

/-- Cutting the file leaves the events whose frames end before the cut. -/
theorem Refines.truncate (h : Refines codec setting path false s shared) {id : Nat}
    (there : s.disk.lookup path = .ok (.file id)) {k : Nat} (inside : k ≤ (s.disk.bytes id).length) :
    ∃ payloads n, payloads.map .ok = shared.events.map codec.encode ∧ s.disk.bytes id = join payloads ∧
      (∀ i < payloads.length, i < n ↔ (join (payloads.take (i + 1))).length ≤ k) ∧
      Refines codec setting path true (s.step (.edit (.truncate path k false)))
        { shared with events := shared.events.take n } := by
  obtain ⟨history, grounded⟩ := h.grounded
  obtain ⟨payloads, fits, encoded, now⟩ := h.stored.row
  have bytes : s.disk.bytes id = join payloads := by
    rw [← now, Disk.bytesAt, Disk.bytesAt?_of_lookup there]
    rfl
  obtain ⟨n, damage, shape, damaged, kept⟩ := Frame.take_join fits k
  have short := Disk.bytesAt?_truncate grounded.past.sound there inside
  rw [bytes, shape] at short
  refine ⟨payloads, n, encoded, bytes, kept, ?_, ?_⟩
  · exact ⟨⟨_, grounded.edit (grounded.past.sound.advances_edit rfl)⟩, h.kind, h.bound⟩
  · refine ⟨payloads.take n, damage, fun p inside => fits p (List.mem_of_mem_take inside), ?_,
      damaged, .inr rfl, Disk.carries_of_bytesAt? short⟩
    rw [List.map_take, List.map_take, encoded]

/-- An accepted event is stored right behind the frames of the others. -/
theorem Refines.append_stored (faithful : codec.Faithful)
    (h : Refines codec setting path torn s shared) {i : ι} (takes : shared.accepts i = true) {e : Event}
    (accepted : (s.serve i (.append e)).1 = .outcome (.ok ())) :
    (∃ bytes, (s.step (.request i (.append e))).disk.bytesAt? path = some bytes ∧
        codec.IsRow (shared.events.append e) bytes) ∧
      (s.step (.request i (.append e))).Shows (shared.events.append e) := by
  obtain ⟨answer, stored⟩ := h.append faithful i e
  have pushed := shared.serve_append takes (answer.trans (congrArg some accepted))
  have refines := (h.step faithful i (r := .append e) trivial).2
  rw [pushed] at stored refines
  refine ⟨?_, fun j q => refines.ask faithful j q⟩
  rw [takes, Bool.not_true, Bool.and_false] at stored
  obtain ⟨payloads, -, encoded, now⟩ := stored.row
  rw [Disk.bytesAt] at now
  cases there : (s.step (.request i (.append e))).disk.bytesAt? path with
  | none =>
    rw [there] at now
    rw [Frame.join_eq_nil now.symm] at encoded
    simp [ListLog.append] at encoded
  | some bytes =>
    rw [there] at now
    exact ⟨bytes, rfl, payloads, encoded, now⟩

/-- The file of logs on one path is cut at any byte. From then on they behave as one list of events
does that starts with those whose frames ended before the cut, and the next event that is accepted
makes the file the frames of all of them again. -/
theorem recovered_of_onePath (kind : codec = .compact ∨ codec = .json) {d : Disk} (sound : d.Sound)
    (distinct : d.Distinct) (readOnly : ι → Bool) {earlier : List (ι × Request)}
    (own : ∀ p ∈ earlier, p.2.StaysOn path)
    (reached : (onePath d codec setting path readOnly).run
      (earlier.map fun p => .request p.1 p.2) = s)
    (listed : Shared.run ⟨[], fun i => !readOnly i⟩ codec setting.maxRecordSize.toNat earlier = shared)
    {id : Nat} (there : s.disk.lookup path = .ok (.file id)) (new : d.files.length ≤ id)
    {k : Nat} (inside : k ≤ (s.disk.bytes id).length) :
    ∃ payloads n, payloads.map .ok = shared.events.map codec.encode ∧
      s.disk.bytes id = join payloads ∧
      (∀ i < payloads.length, i < n ↔ (join (payloads.take (i + 1))).length ≤ k) ∧
      ∀ later : List (ι × Request), (∀ p ∈ later, p.2.StaysOn path) → ∀ t shared',
        (s.step (.edit (.truncate path k false))).run (later.map fun p => .request p.1 p.2) = t →
        Shared.run ⟨shared.events.take n, shared.accepts⟩ codec setting.maxRecordSize.toNat later =
            shared' →
          t.Shows shared'.events ∧ ∀ i e, shared'.accepts i = true →
            (t.serve i (.append e)).1 = .outcome (.ok ()) →
              (∃ bytes, (t.step (.request i (.append e))).disk.bytesAt? path = some bytes ∧
                  codec.IsRow (shared'.events.append e) bytes) ∧
                (t.step (.request i (.append e))).Shows (shared'.events.append e) := by
  have faithful : codec.Faithful := by
    rcases kind with rfl | rfl
    · exact Codec.faithful_compact
    · exact Codec.faithful_json
  have start : Begun codec setting path d.files.length (onePath d codec setting path readOnly)
      ⟨[], fun i => !readOnly i⟩ :=
    ⟨onPath_onePath sound distinct readOnly, (sound.old_or_carries setting path).imp_right stores_nil⟩
  have begun := start.run faithful own
  rw [reached, listed] at begun
  obtain ⟨payloads, n, encoded, bytes, kept, cut⟩ := (begun.refines there new).truncate there inside
  refine ⟨payloads, n, encoded, bytes, kept, fun later own' t shared' reached' listed' => ?_⟩
  have refines := cut.run faithful own'
  rw [reached'] at refines
  rw [show Shared.run _ _ _ _ = _ from listed'] at refines
  exact ⟨refines.ask faithful, fun i e takes accepted =>
    refines.append_stored faithful takes accepted⟩

/-- Two logs on one path, and two records of ten bytes each. -/
def doubled : Session (Fin 2) :=
  (onePath {} .compact { maxRecordSize := 30 } "f" fun _ => false).run
    ([(0, .append shortEvent), (0, .append shortEvent)].map fun p => .request p.1 p.2)

/-- The second record is cut. The log that wrote it, and still has its connection, puts the next event
in its place. -/
theorem recovered_of_onePath_doubled :
    ((doubled.step (.edit (.truncate "f" 13 false))).serve 1 (.ask .size)).1 = .answer (.count 1) ∧
      ∃ bytes, ((doubled.step (.edit (.truncate "f" 13 false))).step
          (.request 0 (.append shortEvent))).disk.bytesAt? "f" = some bytes ∧
        Codec.compact.IsRow [shortEvent, shortEvent] bytes := by
  have own : ∀ p ∈ [((0 : Fin 2), Request.append shortEvent), (0, .append shortEvent)],
      p.2.StaysOn "f" := by simp [Request.StaysOn]
  have there : doubled.disk.lookup "f" = .ok (.file 0) := by decide +kernel
  have inside : 13 ≤ (doubled.disk.bytes 0).length := by decide +kernel
  obtain ⟨payloads, n, encoded, -, kept, after⟩ := recovered_of_onePath (.inl rfl) Disk.sound_empty
    Disk.distinct_empty (fun _ => false) own rfl rfl there (Nat.zero_le 0) inside
  have listed : (Shared.run ⟨[], fun _ : Fin 2 => true⟩ .compact 30
      [(0, .append shortEvent), (0, .append shortEvent)]).events = [shortEvent, shortEvent] := by
    decide +kernel
  have rows : payloads = [Compact.encode shortEvent, Compact.encode shortEvent] :=
    (List.map_inj_right fun _ _ same => Except.ok.inj same).1
      (encoded.trans (congrArg (List.map Codec.compact.encode) listed))
  rw [rows] at kept
  have first : 0 < n := (kept 0 (by decide)).2 (by decide +kernel)
  have second : ¬ 1 < n := fun beyond => absurd ((kept 1 (by decide)).1 beyond) (by decide +kernel)
  have one : n = 1 := by omega
  subst one
  obtain ⟨shows, next⟩ := after [] (by simp) _ _ rfl rfl
  have left := congrArg (List.take 1) listed
  refine ⟨(shows 1 .size).trans ?_, ?_⟩
  · exact congrArg (fun events => Reply.answer (ListLog.ask events .size)) left
  · have accepted : (((doubled.step (.edit (.truncate "f" 13 false))).logs 0).append
        (doubled.step (.edit (.truncate "f" 13 false))).disk shortEvent).1 = .ok () := by
      decide +kernel
    obtain ⟨⟨bytes, found, row⟩, -⟩ :=
      next 0 shortEvent (by decide +kernel) (congrArg Reply.outcome accepted)
    have both := congrArg (fun events : ListLog => events.append shortEvent) left
    exact ⟨bytes, found, (congrArg (Codec.compact.IsRow · bytes) both).mp row⟩

end Session
end EventLog
