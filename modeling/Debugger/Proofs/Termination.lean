import Debugger.Proofs.Revival

/-! # Termination is final

A thread that has terminated stays so, and nothing comes of it: it steps no more, its frames are gone, and
whatever is asked of it sends nothing that makes it go.  It does not run either, unless everything is
resumed while it is still listed, or a listener objects to a hit: those two make a dead thread run.
-/

namespace Debugger

variable {σ : Type} [Session σ] {s s' : System σ} {t u : ThreadRef}

/-! ## Background tasks leave the dead alone -/

private theorem runWatch_rests (n : Nat) (s : System σ) : Rests t s (runWatch n s).2 :=
  runWatch_within (R := Rests t) fun w _ =>
    { suspendThread := fun _ => .of_eq rfl
      threadIsSuspended := fun _ => .of_eq rfl
      aside := fun h _ => .of_eq (congrArg Core.threads h)
      suspending := fun s => Rests.mapAside s w.thread fun _ => rfl
      stop := fun s => (Rests.stopRunning s w.thread).aside rfl
      bury := fun s => Rests.bury s w.thread }

private theorem restoreThread_rests (u : ThreadRef) : Debug.Within (Rests t) (restoreThread u : Debug σ _) := by
  refine .bind (abortStep_rests u) fun _ => .bind (.modify fun s => ?_) fun _ => .bind (.modify fun s => ?_) fun _ =>
    .bind (.attempt ((stackFrames_idle u).mono IdlePath.rests)) fun _ => .pure _
  · exact trans_of (Rests t) (.stopRunning s u)
      (.mapAside _ u (f := fun th => { th with invoking := false }) fun _ => rfl)
  · exact .of_eq (congrArg System.threads (System.restoreTimeout_rest s s.session) :)

private theorem runInvocation_rests (n : Nat) (s : System σ) : Rests t s (runInvocation n s).2 := by
  rcases runInvocation_cases n s with same | ⟨task, -, -, m, -, ran | ⟨result, p, ran⟩⟩
  · rw [same]
    exact refl_of (Rests t) s
  · rw [ran]
    exact .of_eq rfl
  · rw [ran]
    have called : Rests t s { s with session := m } := .of_eq rfl
    have restored : Rests t s (restoreThread task.thread { s with session := m }).2 :=
      trans_of (Rests t) called (restoreThread_rests task.thread { s with session := m })
    generalize (restoreThread task.thread { s with session := m }).2 = s₁ at restored ⊢
    have woken : ((s₁.setInvocation n (.done result)).wakeEvaluations p).threads = s₁.threads :=
      congrArg Core.threads (core_wakeEvaluations (s₁.setInvocation n (.done result)) p)
    exact restored.aside woken

private theorem startBody_rests (e : EvaluationTask) : Debug.Within (Rests t) (startBody e : Debug σ _) := by
  obtain ⟨u, detail, honors, body, token, finish, state⟩ := e
  cases body with
  | succeed => exact .pure _
  | fail => exact .pure _
  | wait => exact fun s => refl_of (Rests t) s
  | nest =>
    have inside : Within (Rests t) (evaluateInside u detail : Client σ _) :=
      .bind (beginEvaluation_rests u detail true) fun _ => .modify fun s => endEvaluation_rests s u detail
    exact .bind (.attempt inside) fun _ => .pure _
  | invoke target method args nonvirtual =>
    refine .bind (.attempt (beginInvocation_rests u target method args nonvirtual)) fun r => ?_
    cases r with
    | ok n => exact .pure _
    | error e => exact .pure _

private theorem runEvaluation_rests (n : Nat) : Debug.Within (Rests t) (runEvaluation n : Debug σ _) :=
  .get_bind fun s => by
    rcases s.evaluations[n]? with _ | ⟨u, detail, honors, body, token, finish, state⟩
    · exact refl_of (Rests t) s
    have settled (p : Progress) :
        Debug.Within (Rests t) (p.note n ⟨u, detail, honors, body, token, finish, state⟩ : Debug σ Unit) := by
      cases p with
      | stay state => exact .modify fun s => .of_eq rfl
      | «over» result => exact .modify fun s => (endEvaluation_rests s u detail).aside rfl
    cases state with
    | done r => exact refl_of (Rests t) s
    | waiting => exact settled _ s
    | invoking m => exact settled _ s
    | starting =>
      refine Debug.Within.bind (.attempt (beginEvaluation_rests u detail honors)) (fun r => ?_) s
      cases r with
      | error e => exact .modify fun s => .of_eq rfl
      | ok token => exact .bind (.modify fun s => .of_eq rfl) fun _ => .bind (startBody_rests _) settled

omit [Session σ] in
private theorem letInHeld_rests : Debug.Within (Rests t) (letInHeld : Debug σ _) :=
  .get_bind fun s => by
    generalize s.invocations.findIdx? _ = found
    cases found with
    | none => exact refl_of (Rests t) s
    | some n => exact .of_eq (congrArg Core.threads (core_wake (s.setInvocation n .letIn) _))

/-! ## Events -/

private theorem addThread_rests (id : ThreadId) (s : System σ) : Rests t s (addThread id s).2 := by
  cases hn : s.find? id with
  | some u =>
    rw [addThread_listed hn]
    exact refl_of (Rests t) s
  | none =>
    obtain ⟨m, th, -, -, new, h⟩ := addThread_new hn
    rw [h]
    have asked : Rests t s { s with session := m } := .of_eq rfl
    exact trans_of (Rests t) asked (.enlist _ new.notRunning)

/-- A step that goes on is one of a thread that lives. -/
private theorem leaveRequest_rests (request : RequestId) (live : (s.thread u).terminated = false) :
    Rests t s (s.leaveRequest u request) := by
  refine trans_of (Rests t) (deleteStepRequest_rests request s) (.setRunning _ fun hu => ?_)
  rw [deleteStepRequest_state, ← hu]
  exact live

private theorem landStep_rests (sound : s.Sound) (u : ThreadRef) (request : RequestId) (landing : Location) :
    Rests t s (landStep u request landing s).2 := by
  have called (m : σ) : Rests t s { s with session := m } := .of_eq rfl
  have renewed (s : System σ) (st : Stepping) (m : σ) : Rests t s (s.renewStep u st m) :=
    (Rests.setStepping _ u (some st)).aside rfl
  have lands := landStep_lands u request landing s
  generalize (landStep u request landing s).2 = s' at lands
  cases lands with
  | stale => exact refl_of (Rests t) s
  | @ended st m => exact trans_of (Rests t) (called m) (stepEnd_rests u _ _)
  | @abandoned st m m' wanted e _ pending =>
    have left := trans_of (Rests t) (called m) (leaveRequest_rests request (sound.live pending))
    have refused : Rests t s { { s with session := m }.leaveRequest u request with session := m' } := left.aside rfl
    exact trans_of (Rests t) refused (stepEnd_rests u none _)
  | @renewed st next m m' wanted _ pending =>
    have left := trans_of (Rests t) (called m) (leaveRequest_rests request (sound.live pending))
    exact trans_of (Rests t) left (renewed _ next m')
  | dropped goes =>
    obtain ⟨st, kind, next, m, pending, -, -, -, -, rfl, -⟩ := dropGoingOn_cases goes
    have left := trans_of (Rests t) (leaveRequest_rests request (sound.live pending)) (renewed _ { st with kind, request := next } m)
    exact trans_of (Rests t) left (runStep_rests u _ _)

/-- The event makes a dead thread run: it is a hit to which a listener objects. -/
def System.revivedBy (s : System σ) (t : ThreadRef) : VmEvent → Bool
  | .breakpoint request thread _ => (s.installed.find? request).any fun b =>
      let (u, s₁) := addThread thread (s.countHit b)
      (s₁.thread u).honorsBreakpoints && s₁.vetoRevives t u b true
  | _ => false

/-- One of the events does, after those before it. -/
def System.revivedByAny (t : ThreadRef) : System σ → List VmEvent → Bool
  | _, [] => false
  | s, e :: es => s.revivedBy t e || revivedByAny t (handleEvent e s).2 es

private theorem handleBreakpoint_rests {request : RequestId} {thread : ThreadId} {landing : Location}
    (h : s.revivedBy t (.breakpoint request thread landing) = false) :
    Rests t s (handleBreakpoint request thread s).2 := by
  cases installed : s.installed.find? request with
  | none =>
    rw [handleBreakpoint_unknown installed]
    exact refl_of (Rests t) s
  | some b =>
    have counted : Rests t s (s.countHit b) := .of_eq rfl
    have added := trans_of (Rests t) counted (addThread_rests thread _)
    rw [System.revivedBy, installed, Option.any_some] at h
    rcases found : addThread thread (s.countHit b) with ⟨u, s₁⟩
    rw [found] at h added
    rw [handleBreakpoint_eq installed found]
    split
    · rename_i honors
      dsimp only at h
      rw [honors, Bool.true_and] at h
      exact trans_of (Rests t) added (suspendAtBreakpoint_rests h)
    · exact added

private theorem handleEvent_rests (sound : s.Sound) {e : VmEvent} (h : s.revivedBy t e = false) :
    Rests t s (handleEvent e s).2 := by
  cases e with
  | step request thread landing =>
    rw [handleEvent, handleStep, run_get_bind]
    cases (s.stepOwners.find? request).bind s.find? with
    | some u => exact landStep_rests sound u request landing
    | none => exact refl_of (Rests t) s
  | breakpoint request thread landing => exact handleBreakpoint_rests h
  | threadStart thread => exact addThread_rests thread s
  | threadDeath thread => exact .threadDied s thread
  | vmDeath => exact .disconnect s
  | disconnected => exact .disconnect s

theorem handleEvent_sound (sound : s.Sound) (e : VmEvent) : (handleEvent e s).2.Sound :=
  (sound_invariant ⟨fun _ => False, fun _ _ => False, fun _ => False⟩).stepPath (handleEvent_landing e s).stepPath sound

private theorem handleEvents_rests (es : List VmEvent) (sound : s.Sound) (h : s.revivedByAny t es = false) :
    Rests t s (handleEvents es s).2 := by
  induction es generalizing s with
  | nil => exact refl_of (Rests t) s
  | cons e es ih =>
    obtain ⟨here, later⟩ := Bool.or_eq_false_iff.mp h
    exact trans_of (Rests t) (handleEvent_rests sound here) (ih (handleEvent_sound sound e) later)

private theorem handleEventSet_rests (set : EventSet) (sound : s.Sound) (h : s.revivedByAny t set.events = false) :
    Rests t s (handleEventSet set s).2 := by
  have events := handleEvents_rests set.events sound h
  rcases handled : handleEvents set.events s with ⟨stay, s₁⟩
  rw [handled] at events
  rw [handleEventSet_eq handled]
  split
  · exact events.aside rfl
  · exact (trans_of (Rests t) events (resumeSet_within Rests.disconnect set s₁)).aside rfl

private theorem Dispatched.rests (hd : Dispatched s s') (sound : s.Sound)
    (h : ∀ set s₁, s.incoming = some (set, s₁) → s₁.revivedByAny t set.events = false) : Rests t s s' := by
  cases hd with
  | idle => exact .of_eq rfl
  | closed => exact (handleEventSet_rests (.single .disconnected) sound rfl).aside rfl
  | @handled set reader incoming =>
    have read : Rests t s { s with reader } := .of_eq rfl
    have sound : ({ s with reader } : System σ).Sound :=
      sound.carry rfl rfl (fun _ => rfl) (fun _ h => h) fun _ h => sound.dead h
    have handled := handleEventSet_rests set sound (h _ _ incoming)
    exact trans_of (Rests t) read (handled.aside rfl)

/-- The task that runs next makes a dead thread run. -/
def System.revivedByNext (s : System σ) (t : ThreadRef) : Bool :=
  s.wakeDispatcher.ready.head? = some .dispatcher &&
    s.wakeDispatcher.incoming.any fun (set, s₁) => s₁.revivedByAny t set.events

theorem wakeDispatcher_sound (sound : s.Sound) : s.wakeDispatcher.Sound :=
  (sound_invariant ⟨fun _ => False, fun _ _ => False, fun _ => False⟩).stepPath (wakeDispatcher_path s).stepPath sound

private theorem runNext_rests (sound : s.Sound) (h : s.revivedByNext t = false) : Rests t s (runNext s).2 := by
  have woken : Rests t s s.wakeDispatcher := by
    rw [System.wakeDispatcher]
    split
    · exact .of_eq (congrArg Core.threads (core_wake s _))
    · exact refl_of (Rests t) s
  have leave (ready : List TaskId) : Rests t s { s with ready } := .of_eq rfl
  cases turn : s.turn? with
  | none =>
    rw [runNext_idle turn]
    exact woken
  | some task =>
    cases task with
    | dispatcher =>
      obtain ⟨s₁, ready, dispatched, ran⟩ := runNext_dispatcher turn
      have head : s.wakeDispatcher.ready.head? = some .dispatcher := turn
      have rests := dispatched.rests (t := t) (wakeDispatcher_sound sound) fun set s₁ incoming => by
        simpa [System.revivedByNext, head, incoming] using h
      rw [ran]
      exact trans_of (Rests t) woken (rests.aside rfl)
    | watch n =>
      obtain ⟨rest, -, ran⟩ := runNext_watching turn
      rw [ran]
      exact trans_of (Rests t) (leave rest) (runWatch_rests n _)
    | invocation n =>
      obtain ⟨rest, -, ran⟩ := runNext_invocation turn
      rw [ran]
      exact trans_of (Rests t) (leave rest) (runInvocation_rests n _)
    | evaluation n =>
      obtain ⟨rest, -, ran⟩ := runNext_evaluation turn
      rw [ran]
      exact trans_of (Rests t) (leave rest) (runEvaluation_rests n _)

/-! ## Moves -/

/-- One thing that happens and makes no dead thread run: neither is everything resumed while the thread is
listed, nor does a listener object to a hit that stopped it. -/
inductive SparingMove (w : Surroundings σ) (t : ThreadRef) (s : System σ) : System σ → Prop
  | operation {o : Operation} (h : o.revives t s = false) : SparingMove w t s (o.perform s)
  | run (h : s.revivedByNext t = false) : SparingMove w t s (runNext s).2
  | wait (time : Nat) : SparingMove w t s (s.passTime time)
  | letIn : SparingMove w t s (letInHeld s).2
  | machine {m : σ} (h : w.acts s.session m) : SparingMove w t s { s with session := m }
  | fire {e : DebugEvent} (h : w.publishes e) : SparingMove w t s { s with bus := s.bus.fire e }
  | queue {e : DebugEvent} (h : w.publishes e) : SparingMove w t s { s with bus := s.bus.queue e }

section

variable {w : Surroundings σ}

theorem SparingMove.move (h : SparingMove w t s s') : Move w s s' := by
  cases h with
  | operation h => exact .operation _
  | run h => exact .run
  | wait time => exact .wait time
  | letIn => exact .letIn
  | machine h => exact .machine h
  | fire h => exact .fire h
  | queue h => exact .queue h

theorem SparingMove.rests (h : SparingMove w t s s') (sound : s.Sound) : Rests t s s' := by
  cases h with
  | operation h => exact Operation.rests h
  | run h => exact runNext_rests sound h
  | wait time => exact .of_eq (congrArg Core.threads (core_passTime s time))
  | letIn => exact letInHeld_rests s
  | machine h => exact .of_eq rfl
  | fire h => exact .of_eq rfl
  | queue h => exact .of_eq rfl

/-- A thread that there is stays, and stays dead. -/
theorem Course.remains (h : Course w s s') (sound : s.Sound) (ht : t < s.threads.size)
    (dead : (s.thread t).terminated) : t < s'.threads.size ∧ (s'.thread t).terminated := by
  induction h with
  | refl => exact ⟨ht, dead⟩
  | tail before hc ih =>
    have remains := hc.remains ((sound_invariant w).course before sound) ih.1
    exact ⟨remains.1, remains.2 ih.2⟩

private theorem moves_course (h : Relation.ReflTransGen (Move w) s s') : Course w s s' := by
  induction h with
  | refl => exact .refl
  | tail _ hm ih => exact ih.trans hm.course

private theorem sparingMoves_rest (h : Relation.ReflTransGen (SparingMove w t) s s') (sound : s.Sound) :
    Rests t s s' := by
  have both : Rests t s s' ∧ s'.Sound := by
    induction h with
    | refl => exact ⟨refl_of (Rests t) s, sound⟩
    | tail _ hm ih =>
      exact ⟨trans_of (Rests t) ih.1 (hm.rests ih.2), (sound_invariant w).course hm.move.course ih.2⟩
  exact both.1

/-- Whatever happens after a thread has terminated, nothing comes of it any more.  As long as nothing makes a
dead thread run, it does not run either, whenever it dies. -/
theorem dead_thread_stays_dead (h : Reachable w s) (ht : t < s.threads.size) :
    ((s.thread t).terminated → ∀ s', Relation.ReflTransGen (Move w) s s' → s'.Dead t) ∧
      ((s.thread t).AtPeace → ∀ s', Relation.ReflTransGen (SparingMove w t) s s' → (s'.thread t).AtPeace) := by
  constructor
  · intro dead s' moves
    have later : Reachable w s' := by
      induction moves with
      | refl => exact h
      | tail _ hm ih => exact ih.move hm
    exact later.dead ((moves_course moves).remains h.sound ht dead).2
  · intro peace s' moves
    exact sparingMoves_rest moves h.sound peace

end

/-- Two threads in a machine from which the debugger has been cut off. -/
private def cutOff : System (Faulty Machine) :=
  (sampleSystem [.addTask (sampleTask 1), .addTask (sampleTask 2)]).performAll [.disconnect]

private theorem cutOff_reachable : Reachable scripted cutOff := by
  have start : Reachable scripted (sampleSystem [.addTask (sampleTask 1), .addTask (sampleTask 2)]) :=
    sampleSystem_reachable (sampleMachine_starts (by simp [Scenario.MachineCommand.SparesSteps]))
      (by decide +kernel)
  exact start.performAll _

/-- Both are dead for good, and do not run for a request to resume one of them. -/
theorem cutOff_thread_stays_dead :
    0 < cutOff.threads.size ∧ (cutOff.thread 0).terminated ∧ (cutOff.thread 0).AtPeace ∧
      ((Operation.resume 0).perform cutOff).Dead 0 ∧ (((Operation.resume 0).perform cutOff).thread 0).AtPeace := by
  have size : 0 < cutOff.threads.size := by decide +kernel
  have dead : (cutOff.thread 0).terminated := by decide +kernel
  have peace : (cutOff.thread 0).AtPeace := fun _ => by decide +kernel
  obtain ⟨stays, rests⟩ := dead_thread_stays_dead cutOff_reachable size
  exact ⟨size, dead, peace, stays dead _ (.single (.operation _)),
    rests peace _ (.single (.operation (o := .resume 0) rfl))⟩

/-- A request to resume everything makes them run. -/
theorem resumed_dead_thread_runs :
    Reachable scripted cutOff ∧ (cutOff.thread 0).terminated ∧ (cutOff.thread 0).running = false ∧
      (((Operation.resumeAll).perform cutOff).thread 0).terminated ∧
      (((Operation.resumeAll).perform cutOff).thread 0).running :=
  ⟨cutOff_reachable, by decide +kernel, by decide +kernel, by decide +kernel, by decide +kernel⟩

end Debugger
