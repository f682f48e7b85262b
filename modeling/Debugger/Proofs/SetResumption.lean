import Debugger.Proofs.HaltedThreads
import Debugger.Proofs.QuietHandling

/-! # When an event set is resumed

The machine suspended once for all events of a set.  It is asked to go on once at most, after the last
event, and not at all if an event left its thread suspended.  A step that drops frames does not keep to
this, and a listener's late objection undoes the stop for the debugger only.
-/

namespace Debugger

open Scenario

/-- What the machine suspended for a set is resumed by one call, or not at all. -/
inductive EventSet.Resumes (set : EventSet) (f : Faulty Machine) : Faulty Machine → Prop
  | nothing : Resumes set f f
  | thread {id : ThreadId} (policy : set.policy = some .thread) (thread : set.thread? = some id) :
    Resumes set f (stateAfter (Session.resumeThread id) f)
  | all (policy : set.policy = some .vm) : Resumes set f (stateAfter Session.resumeVm f)

variable {s : System (Faulty Machine)} {set : EventSet}

private theorem resumption_resumes {call : Call (Faulty Machine) Unit} (h : set.resumption = some call)
    (f : Faulty Machine) : set.Resumes f (stateAfter call f) := by
  unfold EventSet.resumption at h
  split at h
  case h_1 policy =>
    cases h
    exact .all policy
  case h_2 policy thread =>
    cases h
    exact .thread policy thread
  case h_3 => cases h

private theorem resumeSet_resumes (set : EventSet) (s : System (Faulty Machine)) :
    set.Resumes s.session (resumeSet set s).2.session := by
  cases h : (set.resumption : Option (Call (Faulty Machine) Unit)) with
  | none =>
    rw [resumeSet_none h]
    exact .nothing
  | some call =>
    have resumes := resumption_resumes h s.session
    cases hc : call s.session with
    | ok v m =>
      rw [stateAfter_of_ok hc] at resumes
      rw [resumeSet_ok h hc]
      exact resumes
    | error e m =>
      rw [stateAfter_of_error hc] at resumes
      rw [resumeSet_error h hc]
      dsimp only
      split
      · exact (congrArg System.session (System.disconnect_rest { s with session := m }) :).symm ▸ resumes
      · exact resumes

/-- After the last event of a set the machine is asked to go on once, or not at all. -/
theorem handleEventSet_resumes (set : EventSet) (s : System (Faulty Machine)) :
    set.Resumes (handleEvents set.events s).2.session (handleEventSet set s).2.session := by
  rcases h : handleEvents set.events s with ⟨stay, s₁⟩
  rw [handleEventSet_eq h]
  change set.Resumes s₁.session (ite _ s₁ _ : System _).session
  split
  · exact .nothing
  · exact resumeSet_resumes set s₁

/-- A set of which an event left its thread suspended is not resumed. -/
theorem handleEventSet_stays (stop : .stop ∈ verdicts set.events s) :
    (handleEventSet set s).2 = (handleEvents set.events s).2.flush := by
  have stays := (handleEvents_stays set.events s).mpr stop
  rcases h : handleEvents set.events s with ⟨stay, s₁⟩
  rw [h] at stays
  obtain rfl : stay = true := stays
  rw [handleEventSet_eq h]
  rfl

/-- A hit that leaves its thread suspended keeps the set from being resumed. -/
private theorem stop_of_stopsAt {before later : List VmEvent} {request : RequestId} {id : ThreadId}
    {landing : Location} {t : ThreadRef} (h : (handleEvents before s).2.StopsAt request id t) :
    .stop ∈ verdicts (before ++ .breakpoint request id landing :: later) s := by
  rw [verdicts_append, verdicts]
  refine List.mem_append_right _ (List.mem_cons.mpr (.inl ?_))
  change Verdict.stop = VmEvent.verdict (.breakpoint request id landing)
    (handleBreakpoint request id (handleEvents before s).2).1
  rw [h.stays]
  rfl

/-- What there is to do after the events of a set is what there was to do before. -/
theorem System.Exhausted.unresumed {s' : System (Faulty Machine)} (h : s.Exhausted) (hu : s.Unresumed s') :
    s'.Exhausted where
  read := by
    obtain ⟨-, events, -⟩ := hu.session.parts
    change s'.reader = s'.session.inner.events.subscribe
    rw [hu.reader, events]
    exact h.read
  unclosed := rfl
  ready := by
    rw [hu.ready]
    exact h.ready

/-- Unless a step that drops frames goes on in it, a set is resumed once at most, and after its last event:
no resume is sent before, nor is one sent at all if an event leaves its thread suspended at a breakpoint.
In that case, with nothing else left to do, the machine has the thread suspended as before, and so has the
debugger while the thread lives, unless a listener objects to a later hit. -/
theorem set_resumed_after_events (still : s.noneDropsOn set.events) :
    (∀ before later, set.events = before ++ later →
      (handleEvents before s).2.session.resumesSent = s.session.resumesSent) ∧
    set.Resumes (handleEvents set.events s).2.session (handleEventSet set s).2.session ∧
    ∀ before request id landing later t, set.events = before ++ .breakpoint request id landing :: later →
      (handleEvents before s).2.StopsAt request id t →
      (handleEventSet set s).2.session.resumesSent = s.session.resumesSent ∧
      (s.Exhausted → ∀ fuel, let s' := (settle fuel (handleEventSet set s).2).2
        s'.session.inner.holds id = s.session.inner.holds id ∧
        ((handleBreakpoint request id (handleEvents before s).2).2.noneOverrules id later →
          (s'.thread t).terminated = false → (s'.thread t).isSuspended)) := by
  refine ⟨fun before later h => ?_, handleEventSet_resumes set s,
    fun before request id landing later t h stops => ?_⟩
  · rw [h, System.noneDropsOn_append] at still
    exact (handleEvents_unresumed (Bool.and_eq_true_iff.mp still).1).session.parts.2.2
  · have unresumed := handleEvents_unresumed still
    have stays : (handleEventSet set s).2 = (handleEvents set.events s).2.flush :=
      handleEventSet_stays (h ▸ stop_of_stopsAt stops)
    have sent := unresumed.session.parts
    rw [stays]
    refine ⟨sent.2.2, fun exhausted fuel => ?_⟩
    have left := (exhausted.unresumed unresumed)
    obtain ⟨session, threads⟩ := settle_exhausted
      (s := (handleEvents set.events s).2.flush) ⟨left.read, left.unclosed, left.ready⟩ fuel
    generalize (settle fuel (handleEvents set.events s).2.flush).2 = s' at session threads
    refine ⟨?_, fun calm live => ?_⟩
    · rw [session]
      exact holds_congr sent.1 id
    · have halted := handleEvents_halted stops.halted calm
      have events : (handleEvents set.events s).2 =
          (handleEvents later (handleBreakpoint request id (handleEvents before s).2).2).2 := by
        rw [h, handleEvents_append, handleEvents_cons]
        rfl
      have thread : s'.thread t = (handleEvents set.events s).2.thread t := System.thread_congr threads t
      rw [Thread.isSuspended, live, thread, events, halted.stopped]
      rfl

/-- The sample program is let go on by an operation, and comes back to the line it was at, where there is a
breakpoint.  The machine reports both at once. -/
private def cameBack (o : Operation) : System (Faulty Machine) :=
  let s := (sampleSystem [.addTask (sampleTask 1), .defer 1, .landing 1 (sampleTask 1).frames]).performAll
    [.install "com.example.Main" 10 .thread, .frames 0, o]
  { s with session := ((MachineCommand.completeAt 1 1 true).applyFaulty s.session).2 }

private def backAtStart : VmEvent := .step 2 1 (sampleFrame 1 101 "run" 10).location

private def hitAtStart : VmEvent := .breakpoint 1 1 (sampleFrame 1 101 "run" 10).location

private theorem cameBack_reachable (o : Operation) : Reachable scripted (cameBack o) := by
  have start : Reachable scripted
      (sampleSystem [.addTask (sampleTask 1), .defer 1, .landing 1 (sampleTask 1).frames]) :=
    sampleSystem_reachable (sampleMachine_starts (by simp [Scenario.MachineCommand.SparesSteps]))
      (by decide +kernel)
  exact (start.performAll _).move (.machine ⟨.completeAt 1 1 true, trivial, rfl⟩)

private theorem cameBack_exhausted (o : Operation) : (cameBack o).turnTo.Exhausted := ⟨rfl, rfl, .inr rfl⟩

/-- A step into would go on from the line it started at, but yields to the breakpoint there. -/
theorem continuing_step_yields_to_breakpoint :
    let s := (cameBack (.stepWithTargetFilters 0 .into)).turnTo
    let s' := (settle 2 (handleEventSet ⟨some .thread, [backAtStart, hitAtStart]⟩ s).2).2
    (handleEventSet ⟨some .thread, [backAtStart, hitAtStart]⟩ s).2.session.resumesSent = s.session.resumesSent ∧
      s'.session.inner.holds 1 ∧ (s'.thread 0).isSuspended := by
  have still : (cameBack (.stepWithTargetFilters 0 .into)).turnTo.noneDropsOn [backAtStart, hitAtStart] := by
    decide +kernel
  have stops : (handleEvents [backAtStart] (cameBack (.stepWithTargetFilters 0 .into)).turnTo).2.StopsAt 1 1 0 :=
    ⟨by decide +kernel, by decide +kernel, by decide +kernel⟩
  obtain ⟨-, -, stopped⟩ := @set_resumed_after_events _ ⟨some .thread, [backAtStart, hitAtStart]⟩ still
  obtain ⟨sent, left⟩ := stopped [backAtStart] 1 1 _ [] 0 rfl stops
  obtain ⟨held, suspended⟩ := left (cameBack_exhausted _) 2
  exact ⟨sent, held.trans (by decide +kernel), suspended rfl (by decide +kernel)⟩

/-- A frame drop that goes on resumes the thread before the breakpoint is handled, at which the debugger has
it suspended from then on while the machine runs it. -/
theorem frame_drop_runs_past_breakpoint :
    let s := cameBack (.dropToFrame 0 1)
    let s' := (settle 5 s).2
    Reachable scripted s ∧ s.Left ⟨some .thread, [backAtStart, hitAtStart]⟩ ∧ s.session.inner.holds 1 ∧
      (handleEvents [backAtStart] s.turnTo).2.session.resumesSent ≠ s.session.resumesSent ∧
      (handleEvents [backAtStart] s.turnTo).2.StopsAt 1 1 0 ∧
      s'.isSettled ∧ s'.session.failures = s.session.failures ∧
      (s'.thread 0).isSuspended ∧ ¬ s'.session.inner.holds 1 :=
  ⟨cameBack_reachable _,
    ⟨⟨by decide +kernel, by decide +kernel, by decide +kernel, by decide +kernel, by decide +kernel,
      .inl (by decide +kernel)⟩, by decide +kernel⟩,
    by decide +kernel, by decide +kernel, ⟨by decide +kernel, by decide +kernel, by decide +kernel⟩,
    by decide +kernel, by decide +kernel, by decide +kernel, by decide +kernel⟩

end Debugger
