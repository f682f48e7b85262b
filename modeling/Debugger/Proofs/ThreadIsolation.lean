import Debugger.Proofs.EventsBeside

/-! # Threads leave each other alone

Threads share the table of step owners, the breakpoints, the bus, the request timeout and the dispatcher.
Nevertheless what is asked of one thread, and what the machine reports of it, changes nothing about another
one, as long as it is not the whole machine that is stopped, resumed or gone.
-/

namespace Debugger

variable {s s' : System (Faulty Machine)} {t u : ThreadRef} {a b : ThreadId}

/-! ## The machine -/

namespace Machine

variable {m : Machine}

private theorem completeDeferred_keeps (hab : a ≠ b) (m : Machine) : m.Keeps b (m.completeDeferred a).1 := by
  have completed : m.Keeps b ((m.undefer a).completeStep a).1 := completeStep_keeps hab (m.undefer a)
  unfold completeDeferred
  generalize (m.undefer a).completeStep a = r at completed
  obtain ⟨m', _ | e⟩ := r
  · exact completed
  · exact completed

private theorem completeDeferredAt_keeps (hab : a ≠ b) (request : RequestId) (stepFirst : Bool) (m : Machine) :
    m.Keeps b (m.completeDeferredAt a request stepFirst).1 := by
  have completed : m.Keeps b ((m.undefer a).completeStep a).1 := completeStep_keeps hab (m.undefer a)
  unfold completeDeferredAt
  generalize (m.undefer a).completeStep a = r at completed
  obtain ⟨m', _ | e⟩ := r
  · exact completed
  · cases e <;> exact completed

private theorem hit_keeps (hab : a ≠ b) {request : RequestId} (h : m.stopsAll request = false) :
    m.Keeps b (m.hit a request).1 := by
  have stopped : m.Keeps b (m.mapTask a (·.setSuspended true)) := mapTask_keeps hab (fun _ => by rfl) m
  unfold hit
  simp only [h]
  split
  · exact refl_of (Keeps b) m
  · split
    · exact stopped
    · exact stopped

end Machine

open Scenario

/-- The command suspends and resumes no thread but that one. -/
def Scenario.MachineCommand.staysWith (m : Machine) (a : ThreadId) : MachineCommand → Bool
  | addTask t => t.id = a
  | setFrames t _ | complete t | completeAt t _ _ => t = a
  | hit t request => t = a && !m.stopsAll request
  | call _ => false
  | _ => true

private theorem apply_keeps {m : Machine} {c : MachineCommand} (h : c.staysWith m a) (hab : a ≠ b) :
    m.Keeps b (c.apply m).2 := by
  have same (m : Machine) : m.Keeps b m := refl_of (Machine.Keeps b) m
  cases c with
  | addTask t =>
    have hne : t.id ≠ b := of_decide_eq_true h ▸ hab
    change ((m.tasks ++ [t]).any fun t => t.id = b && t.suspended) = m.tasks.any fun t => t.id = b && t.suspended
    simp [hne]
  | setFrames t frames =>
    obtain rfl : t = a := of_decide_eq_true h
    exact Machine.mapTask_keeps hab (fun _ => by rfl) m
  | complete t =>
    obtain rfl : t = a := of_decide_eq_true h
    exact Machine.completeDeferred_keeps hab m
  | completeAt t request stepFirst =>
    obtain rfl : t = a := of_decide_eq_true h
    exact Machine.completeDeferredAt_keeps hab request stepFirst m
  | hit t request =>
    obtain ⟨own, alone⟩ := Bool.and_eq_true_iff.mp h
    obtain rfl : t = a := of_decide_eq_true own
    exact Machine.hit_keeps hab ((Bool.not_eq_true' _).mp alone)
  | emit sets =>
    have sent (sets : List EventSet) (m : Machine) : m.Keeps b (sets.foldl Machine.emit m) := by
      induction sets generalizing m with
      | nil => exact same m
      | cons set sets ih => exact ih (m.emit set)
    exact sent sets m
  | release =>
    unfold MachineCommand.apply
    dsimp only
    split
    · exact same m
    · exact same m
  | call c => cases h
  | _ => exact same m

private theorem applyFaulty_keeps {f : Faulty Machine} {c : MachineCommand} (h : c.staysWith f.inner a)
    (hab : a ≠ b) : f.Keeps b (c.applyFaulty f).2 := by
  cases c with
  | fault kind es => exact ⟨refl_of _ _, List.prefix_refl _⟩
  | _ => exact ⟨apply_keeps h hab, List.prefix_refl _⟩

/-! ## Moves -/

/-- One thing that happens in the thread of that number, or on behalf of it: an operation on the thread, an
event set that is about nothing else, a stretch of a task that is left for the thread, the passing of time,
and what the machine does with the thread meanwhile. -/
inductive MoveOf (a : ThreadId) (s : System (Faulty Machine)) : System (Faulty Machine) → Prop
  | operation {o : Operation} {t : ThreadRef} (subject : o.subject? s = some t) (own : (s.thread t).id = a)
    (inside : o.staysInside s) : MoveOf a s (o.perform s)
  | events {set : EventSet} (own : s.setOf a set) : MoveOf a s (handleEventSet set s).2
  | run (own : s.nextOf a) : MoveOf a s (runNext s).2
  | wait (time : Nat) : MoveOf a s (s.passTime time)
  | letIn : MoveOf a s (letInHeld s).2
  | machine {c : MachineCommand} (own : c.staysWith s.session.inner a) :
    MoveOf a s { s with session := (c.applyFaulty s.session).2 }

private theorem MoveOf.aloof (h : MoveOf a s s') (hs : s.Orderly) (hab : a ≠ b)
    (connected : s'.session.Connected) : Aloof u b s s' := by
  cases h with
  | operation subject own inside => exact Operation.beside subject inside (own ▸ hab)
  | events own => exact handleEventSet_aloof own hs hab connected
  | run own => exact runNext_aloof own hs hab connected
  | wait time => exact .core (core_passTime s time)
  | letIn => exact letInHeld_aloof s
  | machine own => exact .called (applyFaulty_keeps own hab)

private theorem MoveOf.orderly (h : MoveOf a s s') (hs : s.Orderly) :
    s'.Orderly ∧ s.session.Grows s'.session := by
  have along {s' : System (Faulty Machine)} (h : StepPath s s') : s'.Orderly ∧ s.session.Grows s'.session :=
    ⟨(orderly_invariant scripted).stepPath h hs, h.grows hs⟩
  cases h with
  | @operation o => exact along (o.perform_stepPath s)
  | events => exact along (handleEventSet_handled _ s).stepPath
  | run => exact along (runNext_stepPath s)
  | wait time => exact along (passTime_path s time).stepPath
  | letIn => exact along (letInHeld_path s).stepPath
  | @machine c =>
    refine ⟨⟨hs.1.carry rfl rfl (fun _ => rfl) (fun _ h => h) fun _ h => hs.1.dead h, hs.2⟩, ?_⟩
    cases c <;> exact List.prefix_refl _

private theorem movesOf_overlook (moves : Relation.ReflTransGen (MoveOf a) s s') (hs : s.Orderly) (hab : a ≠ b)
    (bystander : s.Bystander u b) : s'.Orderly ∧ (s'.session.Connected → Overlooks u b s s') := by
  induction moves with
  | refl => exact ⟨hs, fun _ => Overlooks.refl bystander⟩
  | tail _ move ih =>
    obtain ⟨orderly, overlook⟩ := ih
    obtain ⟨later, grows⟩ := move.orderly orderly
    refine ⟨later, fun connected => ?_⟩
    have before := overlook (connected.before grows)
    exact before.trans (move.aloof orderly hab connected before.bystander)

/-- However a thread fares, another one is left alone meanwhile: what is asked of the first one, succeeds
or not, and the event sets that are about it alone. -/
theorem threads_leave_others_alone {w : Surroundings (Faulty Machine)} (h : Reachable w s)
    (flushed : s.bus.queued = []) (ht : t ∈ s.registry) (hu : u ∈ s.registry) (hne : t ≠ u)
    (moves : Relation.ReflTransGen (MoveOf (s.thread t).id) s s') (connected : s'.session.Connected) :
    Untouched u (s.thread u).id s s' := by
  have hab : (s.thread t).id ≠ (s.thread u).id := fun same => hne (h.sound.eq_of_id ht hu same)
  have bystander : s.Bystander u (s.thread u).id :=
    { id := rfl
      inRange := h.sound.inRange hu
      tidy := h.occurs.tidy
      unspoken := fun e he => by
        rw [flushed] at he
        cases he }
  obtain ⟨-, overlook⟩ := movesOf_overlook moves ((orderly_invariant w).reachable h) hab bystander
  exact (overlook connected).toUntouched

/-- Two threads in a machine, with the frames of the second one known and a breakpoint installed. -/
private def twoThreads : System (Faulty Machine) :=
  (sampleSystem [.addTask (sampleTask 1), .addTask (sampleTask 2)]).performAll
    [.install "com.example.Main" 11 .thread, .frames 1]

private theorem twoThreads_reachable : Reachable scripted twoThreads := by
  have start : Reachable scripted (sampleSystem [.addTask (sampleTask 1), .addTask (sampleTask 2)]) :=
    sampleSystem_reachable (sampleMachine_starts (by simp [Scenario.MachineCommand.SparesSteps]))
      (by decide +kernel)
  exact start.performAll _

/-- The first thread steps. -/
private def stepped : System (Faulty Machine) := (Operation.stepWithTargetFilters 0 .over).perform twoThreads

/-- The first thread has landed, and hits the breakpoint. -/
private def struck : System (Faulty Machine) :=
  let s := (runNext stepped).2
  { s with session := (MachineCommand.applyFaulty s.session (.hit 1 1)).2 }

/-- A step of the first thread, its end and a hit leave the second one alone. -/
theorem step_and_hit_leave_other_alone :
    Reachable scripted twoThreads ∧ twoThreads.bus.queued = [] ∧ 0 ∈ twoThreads.registry ∧
      1 ∈ twoThreads.registry ∧ (twoThreads.thread 1).frames = [0, 1] ∧
      ((runNext struck).2.thread 0).breakpoints = [0] ∧
      Untouched 1 (twoThreads.thread 1).id twoThreads (runNext struck).2 := by
  have flushed : twoThreads.bus.queued = [] := by decide +kernel
  have first : 0 ∈ twoThreads.registry := by decide +kernel
  have second : 1 ∈ twoThreads.registry := by decide +kernel
  have number : (twoThreads.thread 0).id = 1 := by decide +kernel
  have lands : stepped.nextOf 1 := by decide +kernel
  have hits : (MachineCommand.hit 1 1).staysWith (runNext stepped).2.session.inner 1 := by decide +kernel
  have stops : struck.nextOf 1 := by decide +kernel
  have connected : (runNext struck).2.session.failures = [] := by decide +kernel
  have moves : Relation.ReflTransGen (MoveOf (twoThreads.thread 0).id) twoThreads (runNext struck).2 := by
    rw [number]
    have step : MoveOf 1 twoThreads stepped := .operation (t := 0) rfl number rfl
    have land : MoveOf 1 stepped (runNext stepped).2 := .run lands
    have hit : MoveOf 1 (runNext stepped).2 struck := .machine hits
    have stop : MoveOf 1 struck (runNext struck).2 := .run stops
    exact (((Relation.ReflTransGen.single step).tail land).tail hit).tail stop
  exact ⟨twoThreads_reachable, flushed, first, second, by decide +kernel, by decide +kernel,
    threads_leave_others_alone twoThreads_reachable flushed first second (by decide) moves
      fun e he => by rw [connected] at he; cases he⟩

end Debugger
