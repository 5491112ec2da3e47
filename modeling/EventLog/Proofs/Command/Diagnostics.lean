import EventLog.Command
import EventLog.Proofs.Trace.Recording

/-! What is emitted while a command runs. Main statement: whatever it is, it is seen on standard error
only, and neither the result of the command nor the disk depend on it. -/
namespace EventLog

namespace Trace

variable {σ : Type} {s : Subscriber σ} {w : World σ}

/-- The subscriber writes to standard error and nowhere else. -/
structure Subscriber.Aside (s : Subscriber σ) : Prop where
  console : ∀ p ∈ s.console, p.1 = .stderr
  file : s.file = none
  recorder : s.recorder = none

theorem Subscriber.Aside.dispatch (h : s.Aside) (now : Int64) (n : Notice) (w : World σ) :
    ∃ stderr, s.dispatch now n w = { w with stderr } := by
  by_cases passes : s.filter.lets n = true
  · have left : s.recorder.bind (·.accept? w.busy now n) = none := by rw [h.recorder]; rfl
    rw [dispatch_of_left passes left, print, h.file]
    cases console : s.console with
    | none => exact ⟨w.stderr, rfl⟩
    | some p =>
      have stream := h.console p console
      obtain ⟨_, shape⟩ := p
      subst stream
      exact ⟨_, rfl⟩
  · exact ⟨w.stderr, dispatch_of_stopped (Bool.eq_false_iff.2 passes) now⟩

theorem World.emitAll_aside (active : w.active = some s) (h : s.Aside)
    (sent : List (Int64 × Notice)) : ∃ stderr, w.emitAll sent = { w with stderr } := by
  rw [emitAll_eq active]
  induction sent generalizing w with
  | nil => exact ⟨w.stderr, rfl⟩
  | cons p later ih =>
    obtain ⟨stderr, first⟩ := h.dispatch p.1 p.2 w
    rw [Subscriber.dispatchAll_cons, first]
    exact ih active

theorem Setup.commandLine_aside (verbose : Bool) :
    (commandLine verbose).file = none ∧ (commandLine verbose).console.stream = .stderr := by
  cases verbose <;> exact ⟨rfl, rfl⟩

end Trace

namespace Command

open Trace (Subscriber World Plan Setup)

/-- The subscriber of an invocation is installed, and nothing is on standard output. -/
theorem Invocation.subscribe_aside (v : Invocation) (override : Option String) (now : Int64)
    (d : Disk) : ∃ s stderr, s.Aside ∧
      v.subscribe override now d = { disk := d, stderr, log := (), active := some s } := by
  let plan : Plan Unit := { setup := .commandLine v.verbose }
  let s : Subscriber Unit := { filter := (plan.filter override).1, console := plan.console }
  obtain ⟨file, stream⟩ := Setup.commandLine_aside v.verbose
  obtain ⟨stderr, warned⟩ := World.warned { disk := d, log := () } (plan.filter override).2
  have silent : plan.setup.file = none := file
  have opened : plan.openFile now d = (.ok none, d) := by simp only [Plan.openFile, silent]
  have aside : s.Aside := by
    refine ⟨fun p shown => ?_, rfl, rfl⟩
    simp only [s, plan, Plan.console, Option.mem_def] at shown
    split at shown
    · cases shown
      exact stream
    · cases shown
  have installed : plan.install override now { disk := d, log := () } =
      (.ok false, { disk := d, stderr, log := (), active := some s }) := by
    simp only [Plan.install, warned, opened, silent]
    rfl
  refine ⟨s, stderr, aside, ?_⟩
  rw [Invocation.subscribe, Plan.installQuietly, installed]

/-- An invocation does what its action does. Only what is on standard error depends on what is
emitted. -/
theorem run_of_parsed {arguments : List String} {v : Invocation}
    (parsed : parse? arguments = some (.run v)) (environment : String → Option String) (now : Int64)
    (d : Disk) (emitted : List (Int64 × Trace.Notice)) :
    ∃ stderr, run arguments environment now d emitted =
      ({ (v.run (Settings.ofEnvironment environment) now d).1 with stderr },
        (v.run (Settings.ofEnvironment environment) now d).2) := by
  obtain ⟨s, before, aside, subscribed⟩ := v.subscribe_aside (environment "RUST_LOG") now d
  let done := v.run (Settings.ofEnvironment environment) now d
  let w : World Unit := { disk := done.2, stderr := before, log := (), active := some s }
  obtain ⟨stderr, printed⟩ := World.emitAll_aside (w := w) rfl aside emitted
  refine ⟨stderr ++ done.1.stderr, ?_⟩
  rw [run, parsed]
  dsimp only
  rw [subscribed]
  dsimp only
  rw [printed]
  simp [w, done]

end Command
end EventLog
