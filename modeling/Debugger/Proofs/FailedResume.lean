import Debugger.Proofs.VetoedHit

/-! # Resuming the machine when the machine refuses

The target and every listed thread are made to run before the machine is asked, and nothing takes that
back.  So a refusal goes unnoticed only if everything ran already; suspending the machine asks first.
-/

namespace Debugger

variable {σ : Type} [Session σ] {w : Surroundings σ} {s s' : System σ} {e : DebugError}

/-- When the machine is not suspended, the debugger is as it was. -/
theorem suspendAll_error (h : suspendAll s = .error e s') :
    ∃ (cause : SessionError) (m : σ), Session.suspendVm s.session = .error cause m ∧
      e = .session "suspending VM" cause ∧ s' = { s with session := m } := by
  cases hc : Session.suspendVm s.session with
  | ok a m =>
    simp only [suspendAll, bind, EStateM.bind, askFor_ok hc] at h
    cases h
  | error cause m =>
    simp only [suspendAll, bind, EStateM.bind, askFor_error hc] at h
    cases h
    exact ⟨cause, m, rfl, rfl, rfl⟩

/-- When the machine is not resumed, the debugger is as if it were. -/
theorem resumeAll_error (h : resumeAll s = .error e s') :
    ∃ (cause : SessionError) (m : σ), Session.resumeVm s.session = .error cause m ∧
      e = .session "resuming VM" cause ∧
      s' = { s.resumeListed.fire .target (.resume .clientRequest) with session := m } := by
  have session : (s.resumeListed.fire .target (.resume .clientRequest)).session = s.session :=
    (congrArg System.session (System.resumeListed_rest s) :)
  change askFor "resuming VM" Session.resumeVm (s.resumeListed.fire .target (.resume .clientRequest)) = _ at h
  cases hc : Session.resumeVm s.session with
  | ok a m =>
    rw [askFor_ok (session.symm ▸ hc)] at h
    cases h
  | error cause m =>
    rw [askFor_error (session.symm ▸ hc)] at h
    cases h
    exact ⟨cause, m, rfl, rfl, rfl⟩

/-- After a refusal everything counts as running. -/
private theorem refused_runs (hs : s.Sound) (h : resumeAll s = .error e s') :
    s'.suspended = false ∧ ∀ u ∈ s.registry, (s'.thread u).running ∧ (s'.thread u).breakpoints = [] := by
  obtain ⟨-, m, -, -, rfl⟩ := resumeAll_error h
  exact ⟨(congrArg System.suspended (System.resumeListed_rest s) :),
    fun u hu => thread_resumeListed (hs.inRange hu) hu⟩

/-- A resumption that the machine refuses leaves the target and the listed threads as they were exactly if
they all ran. -/
theorem failed_resume_undone_iff (h : Reachable w s) (hf : resumeAll s = .error e s') :
    (s'.suspended = s.suspended ∧ ∀ u ∈ s.registry,
        (s'.thread u).isSuspended = (s.thread u).isSuspended ∧
        (s'.thread u).running = (s.thread u).running ∧
        (s'.thread u).breakpoints = (s.thread u).breakpoints) ↔
    s.suspended = false ∧ ∀ u ∈ s.registry, (s.thread u).running := by
  obtain ⟨target, threads⟩ := refused_runs h.sound hf
  have calm := (calm_invariant w).reachable h
  constructor
  · rintro ⟨held, same⟩
    refine ⟨held.symm.trans target, fun u hu => ?_⟩
    rw [← (same u hu).2.1]
    exact (threads u hu).1
  · rintro ⟨ran, running⟩
    refine ⟨target.trans ran.symm, fun u hu => ?_⟩
    obtain ⟨hr, hn⟩ := threads u hu
    have before := running u hu
    refine ⟨?_, hr.trans before.symm, hn.trans (calm u hu before).symm⟩
    rw [Thread.isSuspended, Thread.isSuspended, hr, before]
    rfl

/-- Two threads, of which the given ones were resumed, in a machine that will refuse to resume. -/
private def refusing (resumed : List ThreadRef) : System (Faulty Machine) :=
  (sampleSystem [.addTask (sampleTask 1), .addTask (sampleTask 2),
    .fault .resumeVm [some .timeout]]).performAll (resumed.map .resume)

private theorem refusing_reachable (resumed : List ThreadRef) : Reachable scripted (refusing resumed) := by
  have start : Reachable scripted (sampleSystem [.addTask (sampleTask 1), .addTask (sampleTask 2),
      .fault .resumeVm [some .timeout]]) :=
    sampleSystem_reachable (sampleMachine_starts (by simp [Scenario.MachineCommand.SparesSteps]))
      (by decide +kernel)
  exact start.performAll _

private theorem refusing_error (resumed : List ThreadRef) (h : (resumeAll.run' (refusing resumed)) = none) :
    ∃ e, resumeAll (refusing resumed) = .error e (stateAfter resumeAll (refusing resumed)) := by
  cases hr : resumeAll (refusing resumed) with
  | ok _ _ => rw [run'_of_ok hr] at h; cases h
  | error e s' => exact ⟨e, by rw [stateAfter_of_error hr]⟩

/-- With both threads running before the refusal, nothing changes. -/
theorem failed_resume_of_running_threads_undone :
    let s' := stateAfter resumeAll (refusing [0, 1])
    s'.suspended = (refusing [0, 1]).suspended ∧
      ∀ u ∈ (refusing [0, 1]).registry, (s'.thread u).isSuspended = ((refusing [0, 1]).thread u).isSuspended := by
  obtain ⟨e, failed⟩ := refusing_error [0, 1] (by decide +kernel)
  have undone := (failed_resume_undone_iff (refusing_reachable [0, 1]) failed).mpr
    ⟨by decide +kernel, by decide +kernel⟩
  exact ⟨undone.1, fun u hu => (undone.2 u hu).1⟩

/-- Threads that were suspended before the refusal count as running after it, and the target as resumed. -/
theorem failed_resume_runs_suspended_threads :
    let s := (refusing []).performAll [.suspendAll]
    Reachable scripted s ∧ resumeAll.run' s = none ∧
      s.suspended ∧ (∀ u ∈ s.registry, (s.thread u).isSuspended) ∧ 0 ∈ s.registry ∧
      ¬ (stateAfter resumeAll s).suspended ∧ ∀ u ∈ s.registry, ¬ ((stateAfter resumeAll s).thread u).isSuspended :=
  ⟨(refusing_reachable []).performAll _, by decide +kernel, by decide +kernel, by decide +kernel,
    by decide +kernel, by decide +kernel, by decide +kernel⟩

end Debugger
