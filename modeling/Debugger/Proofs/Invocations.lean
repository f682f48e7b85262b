import Debugger.Proofs.FrameAnswers
import Debugger.Proofs.Leases

/-! # What an invocation leaves behind

Invocations may begin, be held back, go on and end in any order.  The request timeout is lifted while
there are some, and each leaves its thread suspended without a pending step, announces nothing, and has the
frames of its thread looked up again.
-/

namespace Debugger

open Scenario

/-! ## Leases through a course -/

/-- Whoever else acts on the machine leaves the request timeout alone. -/
def Surroundings.SparesTimeout (w : Surroundings (Faulty Machine)) : Prop :=
  ∀ f f', w.acts f f' → f'.timing = f.timing

variable {w : Surroundings (Faulty Machine)} {s s₀ s₁ s₂ s₃ s' : System (Faulty Machine)} {t : ThreadRef}

theorem Happens.leaseChange (spares : w.SparesTimeout) (h : Happens w s s') : LeaseChange s s' := by
  cases h with
  | change h => exact h.leaseChange
  | machine h => exact .aside (.session (spares _ _ h))
  | bus bus => exact .aside (.of_eq rfl rfl)

theorem Course.leased {old : Option Nat} {before : List (Option Nat)} (spares : w.SparesTimeout)
    (course : Course w s s') (hs : s.Leased old before) : s'.Leased old before := by
  induction course with
  | refl => exact hs
  | tail _ hc ih => exact (hc.leaseChange spares).leased ih

theorem leased_blank (m : Faulty Machine) (settings : TargetSettings) :
    (System.blank m settings).Leased m.inner.timeout m.inner.timeouts where
  apart := List.nodup_nil
  marked _ := ⟨Bool.noConfusion, fun hm => (List.not_mem_nil hm).elim⟩
  counted := rfl
  terms := .of_free (k := 0) rfl (congrArg (Prod.mk _) (List.append_nil _).symm)

/-- When no invocation is under way, the timeout in force is the one that is put back later. -/
theorem Occurs.leased (spares : w.SparesTimeout) (occurs : Occurs w s) (idle : s.activeInvocations = 0) :
    s.Leased s.session.inner.timeout s.session.inner.timeouts := by
  obtain ⟨m, settings, -, course⟩ := occurs
  have leased := Course.leased spares course (leased_blank m settings)
  exact ⟨leased.apart, leased.marked, leased.counted,
    .of_free (k := 0) idle (congrArg (Prod.mk _) (List.append_nil _).symm)⟩

theorem System.Leased.lifted {old : Option Nat} {before : List (Option Nat)} (h : s.Leased old before)
    (hi : (s.thread t).invoking) : ∃ n, s.activeInvocations = n + 1 := by
  have some := List.length_pos_of_mem ((h.marked t).mp hi)
  rw [← h.counted] at some
  exact ⟨_, (Nat.succ_pred_eq_of_pos some).symm⟩

theorem System.Leased.free {old : Option Nat} {before : List (Option Nat)} (h : s.Leased old before)
    (none : ∀ t, (s.thread t).invoking = false) : s.activeInvocations = 0 := by
  rw [h.counted, List.length_eq_zero_iff]
  refine List.eq_nil_iff_forall_not_mem.mpr fun t ht => ?_
  have marked := (h.marked t).mpr ht
  rw [none t] at marked
  cases marked

/-! ## The end of an invocation -/

/-- Nothing is under way in the thread. -/
structure Thread.AtRest (th : Thread) : Prop where
  invoking : th.invoking = false
  running : th.running = false
  stepping : th.stepping = none

/-- An invocation that comes to its end leaves its thread at rest. -/
theorem LeaseChange.atRest {old : Option Nat} {before : List (Option Nat)} {n : Nat} {task : InvocationTask}
    {result : Except DebugError Value} (h : LeaseChange s s') (hs : s.Leased old before)
    (hn : s.invocations[n]? = some task) (pending : task.state.isDone = false)
    (done : s'.invocation? n = some result) : (s'.thread task.thread).AtRest := by
  -- As long as its task stays the same the invocation is not over.
  have waits (same : s'.invocations[n]? = some task) : (s'.thread task.thread).AtRest := by
    rw [System.invocation?, same] at done
    obtain ⟨thread, call, state⟩ := task
    cases state with
    | done r => cases pending
    | _ => cases done
  cases h with
  | aside h =>
    refine waits ?_
    have tasks : s'.invocations = s.invocations := congrArg (fun book => book.2.2.1) h.book
    rw [tasks, hn]
  | @begins t call =>
    refine waits ?_
    obtain ⟨hl, -⟩ := Array.getElem?_eq_some_iff.mp hn
    rw [invocations_enterInvocation, Array.getElem?_push, if_neg (Nat.ne_of_lt hl), hn]
  | @holds k other state h' _ held =>
    rw [System.invocation?, System.setInvocation, Array.getElem?_modify] at done
    split at done
    · rw [hn] at done
      cases state with
      | done r => cases held
      | _ => cases done
    · refine waits ?_
      rename_i hk
      rw [System.setInvocation, Array.getElem?_modify, if_neg hk, hn]
  | @ends k other r h' hp stepping =>
    by_cases hk : k = n
    · subst hk
      obtain rfl : other = task := Option.some.inj (h'.symm.trans hn)
      rw [thread_leaveInvocation, System.thread_mapThread_self (System.lt_size_of_invoking (hs.invokes hn hp))]
      exact ⟨rfl, rfl, stepping⟩
    · refine waits ?_
      rw [invocations_leaveInvocation, System.setInvocation, Array.getElem?_modify, if_neg hk, hn]

theorem Thread.AtRest.of_stance {th th' : Thread} (hr : th.AtRest) (h : th'.stance = th.stance) :
    th'.AtRest :=
  ⟨(congrArg Thread.invoking h :).trans hr.invoking, (congrArg Thread.running h :).trans hr.running,
    (congrArg Thread.stepping h :).trans hr.stepping⟩

private theorem atRest_stopped {σ : Type} {s : System σ} {t : ThreadRef} (hn : (s.thread t).stepping = none) :
    (((s.stopRunning t).mapThread t fun th => { th with invoking := false }).thread t).AtRest := by
  by_cases ht : t < s.threads.size
  · rw [System.thread_mapThread_self (by rwa [System.stopRunning, System.size_mapThread]),
      System.stopRunning, System.thread_mapThread_self ht]
    exact ⟨rfl, rfl, hn⟩
  · rw [System.thread_of_size_le]
    · exact ⟨rfl, rfl, rfl⟩
    · rw [System.size_mapThread, System.stopRunning, System.size_mapThread]
      exact Nat.le_of_not_lt ht

theorem restoreThread_atRest {σ : Type} [Session σ] (t : ThreadRef) (s : System σ) :
    ((restoreThread t s).2.thread t).AtRest := by
  let marked := ((abortStep t s).2.stopRunning t).mapThread t fun th => { th with invoking := false }
  have looked : IdlePath marked.restoreTimeout (restoreThread t s).2 :=
    Debug.Within.attempt (stackFrames_idle t) marked.restoreTimeout
  have kept : marked.restoreTimeout.threads = marked.threads :=
    (congrArg System.threads (System.restoreTimeout_rest marked s.session) :)
  refine Thread.AtRest.of_stance ?_ (looked.stance t)
  rw [System.thread_congr kept]
  exact atRest_stopped (abortStep_stepping t s)

theorem thread_wakeEvaluations {σ : Type} (s : System σ) (p : EvaluationTask → Bool) (t : ThreadRef) :
    (s.wakeEvaluations p).thread t = s.thread t :=
  System.thread_congr (congrArg Core.threads (core_wakeEvaluations s p)) t

/-- When the task of an invocation is through with its call, it has brought its thread to rest. -/
theorem runInvocation_atRest {σ : Type} [Session σ] {s : System σ} {n : Nat} {task : InvocationTask}
    {result : Except DebugError Value} (hn : s.invocations[n]? = some task)
    (pending : task.state.isDone = false) (done : (runInvocation n s).2.invocation? n = some result) :
    ((runInvocation n s).2.thread task.thread).AtRest := by
  obtain ⟨m, -, ran | ⟨result, p, ran⟩⟩ := runInvocation_pending hn pending
  · rw [ran, System.invocation?, System.setInvocation, Array.getElem?_modify, if_pos rfl, hn] at done
    cases done
  · have rest := restoreThread_atRest task.thread { s with session := m }
    generalize (restoreThread task.thread { s with session := m }).2 = restored at ran rest
    rw [ran, thread_wakeEvaluations]
    exact rest

/-! ## Announcements -/

/-- Nothing is announced. -/
def Silences {σ : Type} (s s' : System σ) : Prop := s'.bus = s.bus

section

variable {σ : Type} [Session σ]

instance : AllowsCalls (Silences (σ := σ)) where
  refl _ := rfl
  trans _ _ _ h h' := h'.trans h
  exchange _ := rfl

theorem stackFrames_silent (t : ThreadRef) : Within Silences (stackFrames t : Client σ _) :=
  stackFrames_within
    { inquiry := fun _ => rfl
      look := fun {s remote session} _ _ =>
        (congrArg System.bus (System.updateFrames_rest { s with session } t remote) :)
      groupName := fun _ _ => rfl }

theorem beginInvocation_silent (t : ThreadRef) (target : InvokeTarget) (method : MethodRef)
    (args : List Value) (nonvirtual : Bool) :
    Within Silences (beginInvocation t target method args nonvirtual : Client σ _) := by
  intro s
  rcases beginInvocation_cases t target method args nonvirtual s with ⟨e, h⟩ | ⟨-, -, -, call, h⟩
  · rw [stateAfter_of_error h]
    rfl
  · rw [stateAfter_of_ok h]
    let marked := (s.mapThread t fun th => { th with invoking := true }).startRunning t
    have kept : marked.liftTimeout.bus = marked.bus :=
      (congrArg System.bus (System.liftTimeout_rest marked s.session) :)
    exact (congrArg Core.bus (core_wake _ _) :).trans kept

theorem restoreThread_silent (t : ThreadRef) : Debug.Within Silences (restoreThread t : Debug σ _) := by
  refine .bind (fun s => (congrArg System.bus (abortStep_rest t s s.session) :)) fun _ => ?_
  refine .bind (.modify fun _ => rfl) fun _ => ?_
  refine .bind (.modify fun s => (congrArg System.bus (System.restoreTimeout_rest s s.session) :)) fun _ => ?_
  exact .bind (.attempt (stackFrames_silent t)) fun _ => .pure _

theorem runInvocation_silent (n : Nat) : Debug.Within Silences (runInvocation n : Debug σ _) := by
  intro s
  rcases runInvocation_cases n s with same | ⟨task, -, -, m, -, ran | ⟨result, p, ran⟩⟩
  · rw [same]
    rfl
  · rw [ran]
    rfl
  · have silent : Silences s (restoreThread task.thread { s with session := m }).2 :=
      restoreThread_silent task.thread { s with session := m }
    generalize (restoreThread task.thread { s with session := m }).2 = restored at ran silent
    rw [ran]
    exact (congrArg Core.bus (core_wakeEvaluations _ p) :).trans silent

end

/-! ## The frames of the thread -/

/-- The methods that a stack runs, as frames remember them. -/
def methodsOf (stack : List RemoteFrame) : List (Option MethodRef) :=
  stack.map fun r => some r.location.method.id

/-- A look at a stack of the same methods shows the same frames. -/
theorem System.Tidy.look_same {σ : Type} {s : System σ} {t : ThreadRef} {remote : List RemoteFrame}
    (tidy : s.Tidy) (ht : t < s.threads.size)
    (hm : (s.thread t).frames.map s.frames.lastMethod = methodsOf remote) :
    ((s.updateFrames t remote).thread t).frames = (s.thread t).frames := by
  rcases s.updateFrames_eq t remote with ⟨-, -, same⟩ | eq
  · rw [same]
  · have merged := FrameStore.merge_same (s.thread t).id (fun f hf => tidy.inRange hf) hm
    generalize s.frames.merge (s.thread t).id (s.thread t).frames remote = m at eq merged
    rw [eq]
    exact (congrArg Thread.frames (thread_mapThread_self (s := { s with frames := m.2 }) ht _)).trans merged

/-- After a look the known frames run the methods of the stack. -/
theorem System.Tidy.look_methods {σ : Type} {s : System σ} {t : ThreadRef} (tidy : s.Tidy)
    (ht : t < s.threads.size) (remote : List RemoteFrame) :
    ((s.updateFrames t remote).thread t).frames.map (s.updateFrames t remote).frames.lastMethod =
      methodsOf remote := by
  rcases tidy.looked ht remote with ⟨rfl, known, same⟩ | looked
  · rw [same, known]
    rfl
  · exact looked.fits.ran

/-- A client was once shown `frames`, and whenever it may look at the thread its stack is `stack`. -/
structure System.Recalls {σ : Type} (s : System σ) (t : ThreadRef) (frames : List FrameRef)
    (ran : List (Option MethodRef)) (stack : List RemoteFrame) : Prop where
  exist : t < s.threads.size
  methods : ∀ f ∈ frames, f < s.frames.size
  remembered : frames.map s.frames.lastMethod = ran
  /-- The frames stay known if their methods are those on the stack. -/
  kept : ran = methodsOf stack → (s.thread t).terminated ∨ (s.thread t).frames = frames
  /-- Frames that need not be looked up again run the methods on the stack. -/
  fresh : (s.thread t).refresh = false → (s.thread t).frames.map s.frames.lastMethod = methodsOf stack

/-- Methods of frames that exist stay. -/
theorem Happens.methods (h : Happens w s s') (tidy : s.Tidy) {f : FrameRef} (hf : f < s.frames.size) :
    f < s'.frames.size ∧ s'.frames.lastMethod f = s.frames.lastMethod f := by
  cases h with
  | change h => exact h.frameChange.methods tidy hf
  | machine h => exact ⟨hf, rfl⟩
  | bus bus => exact ⟨hf, rfl⟩

theorem Happens.recalls {frames : List FrameRef} {ran : List (Option MethodRef)} {stack : List RemoteFrame}
    (h : Happens w s s') (occurs : Occurs w s) (steady : (s.thread t).isSuspended → s.stackOf t = stack)
    (hr : s.Recalls t frames ran stack) : s'.Recalls t frames ran stack := by
  have tidy := occurs.tidy
  obtain ⟨exist, dead⟩ := h.remains ((sound_invariant w).occurs occurs) hr.exist
  have same {f : FrameRef} (hf : f < s.frames.size) := (h.methods tidy hf).2
  have remembered : frames.map s'.frames.lastMethod = ran :=
    (List.map_congr_left fun f hf => same (hr.methods f hf)).trans hr.remembered
  have carried (cache : (s'.thread t).cache = (s.thread t).cache) : s'.Recalls t frames ran stack := by
    have known := Thread.frames_of_cache cache
    refine ⟨exist, fun f hf => (h.methods tidy (hr.methods f hf)).1, remembered, fun agree => ?_, fun hf => ?_⟩
    · exact (hr.kept agree).imp dead known.trans
    · rw [known, List.map_congr_left fun f hf => same (tidy.inRange hf)]
      exact hr.fresh ((Thread.refresh_of_cache cache).symm.trans hf)
  have stale (refresh : (s'.thread t).refresh = true)
      (kept : (s'.thread t).terminated ∨ (s'.thread t).frames = (s.thread t).frames) :
      s'.Recalls t frames ran stack := by
    refine ⟨exist, fun f hf => (h.methods tidy (hr.methods f hf)).1, remembered, fun agree => ?_, fun hf => ?_⟩
    · rcases kept with gone | known
      · exact .inl gone
      · exact (hr.kept agree).imp dead known.trans
    · rw [refresh] at hf
      cases hf
  cases h.turn (t := t) tidy with
  | rests h =>
    cases h with
    | stays cache => exact carried cache
    | dies _ refresh gone => exact stale refresh (.inl gone)
  | unbinds refresh known => exact stale refresh (.inr known)
  | goesOn h =>
    obtain ⟨-, old, new, session, -, rfl⟩ := h
    exact carried (cache_goesOn t)
  | @looks remote session hs asked =>
    obtain rfl : remote = stack := (Faulty.frames_ok asked).1.trans (steady hs)
    have looked : { s with session }.Tidy := tidy.carry rfl fun _ => .inl rfl
    refine ⟨exist, fun f hf => (h.methods tidy (hr.methods f hf)).1, remembered, fun agree => ?_, fun hf => ?_⟩
    · refine (hr.kept agree).imp dead fun known => ?_
      have agrees : (s.thread t).frames.map s.frames.lastMethod = methodsOf remote := by
        rw [known, hr.remembered, agree]
      exact (looked.look_same hr.exist agrees).trans known
    · exact looked.look_methods hr.exist remote

/-- At the begin of an invocation the frames of its thread are those that were known. -/
theorem recalls_begun (call : Invocation) (occurs : Occurs w s) (alive : s.targetAlive)
    (hi : (s.thread t).invoking = false) (hs : (s.thread t).isSuspended) (stack : List RemoteFrame) :
    ((s.enterInvocation t call).wake (.invocation s.invocations.size)).Recalls t (s.thread t).frames
      ((s.thread t).frames.map s.frames.lastMethod) stack := by
  have begins : Happens w s (s.enterInvocation t call) :=
    .change (.landing (.change (.beginInvocation call alive hi hs)))
  have wakes : Happens w (s.enterInvocation t call)
      ((s.enterInvocation t call).wake (.invocation s.invocations.size)) :=
    .change (.landing (.change (.aside (core_wake _ _) (clock_wake _ rfl))))
  have ht := System.lt_size_of_suspended hs
  have thread : (s.enterInvocation t call).thread t =
      ({ s.thread t with invoking := true }.setRunning true).markStale := by
    rw [thread_enterInvocation, System.thread_startRunning, System.thread_mapThread_self,
      System.thread_mapThread_self ht]
    rwa [System.size_mapThread]
  have same {f : FrameRef} (hf : f ∈ (s.thread t).frames) := begins.methods occurs.tidy (occurs.tidy.inRange hf)
  refine wakes.recalls (occurs.course (.single begins)) (fun suspended => ?_)
    ⟨(begins.remains ((sound_invariant w).occurs occurs) ht).1, fun f hf => (same hf).1,
      List.map_congr_left fun f hf => (same hf).2, fun _ => .inr (by rw [thread]; rfl), fun known => ?_⟩
  · rw [thread] at suspended
    cases suspended
  · rw [thread] at known
    cases known

/-- A client that looks again sees the same frames exactly if their methods are those on the stack. -/
theorem System.Recalls.shown_again {frames frames' : List FrameRef} {ran : List (Option MethodRef)}
    (occurs : Occurs w s) (hr : s.Recalls t frames ran (s.stackOf t)) (hs : (s.thread t).isSuspended)
    (shown : stackFrames t s = .ok frames' s') : frames' = frames ↔ ran = methodsOf (s.stackOf t) := by
  obtain ⟨rfl, look⟩ := computeFrames_shown shown hs
  obtain ⟨recalls, suspended, methods⟩ : s'.Recalls t frames ran (s.stackOf t) ∧ (s'.thread t).isSuspended ∧
      (s'.thread t).frames.map s'.frames.lastMethod = methodsOf (s.stackOf t) := by
    rcases look with ⟨known, rfl⟩ | ⟨remote, m, asked, rfl⟩
    · exact ⟨hr, hs, hr.fresh known⟩
    · have looks : Happens w s ({ s with session := m }.updateFrames t remote) :=
        .change (.landing (.change (.refresh hs asked)))
      have looked : { s with session := m }.Tidy := occurs.tidy.carry rfl fun _ => .inl rfl
      have methods := looked.look_methods hr.exist remote
      have stance := congrArg Thread.isSuspended (stance_updateFrames { s with session := m } t t remote)
      exact ⟨looks.recalls occurs (fun _ => rfl) hr, stance.trans hs,
        methods.trans (congrArg methodsOf (Faulty.frames_ok asked).1)⟩
  refine ⟨fun same => ?_, fun agree => ?_⟩
  · rw [← recalls.remembered, ← same, methods]
  · refine (recalls.kept agree).resolve_left fun dead => ?_
    simp [Thread.isSuspended, dead] at suspended

/-- The thread may be looked at only while the machine shows this stack of it. -/
def SteadyStack (t : ThreadRef) (stack : List RemoteFrame) (s : System (Faulty Machine)) : Prop :=
  (s.thread t).isSuspended → s.stackOf t = stack

/-- From the begin of an invocation on, a client is shown the frames that it was shown before, if the stack
of the thread stays the same and these frames' methods are those on it. -/
theorem frames_survive_invocation {target : InvokeTarget} {method : MethodRef} {args : List Value}
    {nonvirtual : Bool} {frames : List FrameRef} {n : Nat} (occurs : Occurs w s)
    (shown : stackFrames t s = .ok frames s₁)
    (began : beginInvocation t target method args nonvirtual s₁ = .ok n s₂)
    (course : Relation.ReflTransGen (fun a b => Happens w a b ∧ SteadyStack t (s₁.stackOf t) a) s₂ s₃)
    (hs : (s₃.thread t).isSuspended) (steady : s₃.stackOf t = s₁.stackOf t) :
    ((∀ e m, Session.frames (s₃.thread t).id s₃.session ≠ .error e m) →
      ∃ frames' s', stackFrames t s₃ = .ok frames' s') ∧
    ∀ frames' s', stackFrames t s₃ = .ok frames' s' →
      (frames' = frames ↔ frames.map s₁.frames.lastMethod = methodsOf (s₁.stackOf t)) := by
  have path := stackFrames_idle t s
  rw [stateAfter_of_ok shown] at path
  have occurs₁ : Occurs w s₁ := occurs.course path.path.stepPath.course
  rcases beginInvocation_cases t target method args nonvirtual s₁ with ⟨e, h⟩ | ⟨alive, hi, hs₁, call, h⟩
  · cases h.symm.trans began
  cases h.symm.trans began
  have known := (computeFrames_shown shown ((path.isSuspended t).symm.trans hs₁)).1
  have start := recalls_begun call occurs₁ alive hi hs₁ (s₁.stackOf t)
  rw [← known] at start
  have begun := beginInvocation_path t target method args nonvirtual s₁
  rw [stateAfter_of_ok began] at begun
  have kept : Occurs w s₃ ∧ s₃.Recalls t frames (frames.map s₁.frames.lastMethod) (s₁.stackOf t) := by
    clear hs steady
    induction course with
    | refl => exact ⟨occurs₁.course begun.stepPath.course, start⟩
    | tail _ hc ih => exact ⟨ih.1.course (.single hc.1), hc.1.recalls ih.1 hc.2 ih.2⟩
  refine ⟨stackFrames_answers hs, fun frames' s' shown' => ?_⟩
  rw [← steady] at kept ⊢
  exact kept.2.shown_again kept.1 hs shown'

/-! ## All together -/

/-- Whatever happens from a moment without invocations on: while some thread invokes, requests have no
timeout, and otherwise the one of that moment, these two in turn; an invocation that comes to its end
leaves its thread at rest; a thread that invokes is told so, and nothing changes; an invocation announces
nothing; and if the stack of its thread stays the same meanwhile, a client is shown the same frames after it
as before exactly if the methods of these frames were those on the stack. -/
theorem invocations_restore (spares : w.SparesTimeout) (occurs : Occurs w s₀)
    (idle : s₀.activeInvocations = 0) (course : Course w s₀ s) :
    let old := s₀.session.inner.timeout
    let before := s₀.session.inner.timeouts
    ((∃ t, (s.thread t).invoking) →
      ∃ k, s.session.timing = (none, before ++ wholeLeases old k ++ [none])) ∧
    ((∀ t, (s.thread t).invoking = false) → ∃ k, s.session.timing = (old, before ++ wholeLeases old k)) ∧
    (∀ n task result s', s.invocations[n]? = some task → task.state.isDone = false →
      Happens w s s' ∨ s' = (runInvocation n s).2 → s'.invocation? n = some result →
      (s'.thread task.thread).AtRest) ∧
    (∀ t target method args nonvirtual, (s.thread t).invoking →
      beginInvocation t target method args nonvirtual s = .error .nested s) ∧
    (∀ t target method args nonvirtual n,
      (stateAfter (beginInvocation t target method args nonvirtual) s).bus = s.bus ∧
        (runInvocation n s).2.bus = s.bus) ∧
    (∀ t target method args nonvirtual frames n s₁ s₂ s₃, stackFrames t s = .ok frames s₁ →
      beginInvocation t target method args nonvirtual s₁ = .ok n s₂ →
      Relation.ReflTransGen (fun a b => Happens w a b ∧ SteadyStack t (s₁.stackOf t) a) s₂ s₃ →
      (s₃.thread t).isSuspended → s₃.stackOf t = s₁.stackOf t →
      ((∀ e m, Session.frames (s₃.thread t).id s₃.session ≠ .error e m) →
        ∃ frames' s', stackFrames t s₃ = .ok frames' s') ∧
      ∀ frames' s', stackFrames t s₃ = .ok frames' s' →
        (frames' = frames ↔ frames.map s₁.frames.lastMethod = methodsOf (s₁.stackOf t))) := by
  have leased := course.leased spares (occurs.leased spares idle)
  refine ⟨fun ⟨t, hi⟩ => ?_, fun none => ?_, fun n task result s' hn pending ends done => ?_,
    fun t target method args nonvirtual hi => ?_, fun t target method args nonvirtual n => ?_,
    fun t target method args nonvirtual frames n s₁ s₂ s₃ shown began course => ?_⟩
  · obtain ⟨n, active⟩ := leased.lifted hi
    exact (leased.terms.lifted active).2
  · exact leased.terms.free (leased.free none)
  · rcases ends with h | rfl
    · exact (h.leaseChange spares).atRest leased hn pending done
    · exact runInvocation_atRest hn pending done
  · obtain ⟨n, active⟩ := leased.lifted hi
    refine beginInvocation_nested ?_ hi
    simp [System.targetAlive, active]
  · exact ⟨beginInvocation_silent t target method args nonvirtual s, runInvocation_silent n s⟩
  · exact frames_survive_invocation (occurs.course ‹Course w s₀ s›) shown began course

/-- The sample program, whose request timeout nobody but the debugger sets. -/
private def untimed : Surroundings (Faulty Machine) :=
  { scripted with acts := fun f f' => scripted.acts f f' ∧ f'.timing = f.timing }

/-- The one suspended thread, whose frames a client has seen. -/
private def looked : System (Faulty Machine) := (Operation.frames 0).perform (sampleSystem [.addTask (sampleTask 1)])

private def called : System (Faulty Machine) := (Operation.invoke 0 (.new 1) ⟨1, 5⟩ [] false).perform looked

/-- The machine makes the call. -/
private def answered : System (Faulty Machine) :=
  { called with session := stateAfter (Session.invoke ⟨1, .new 1, ⟨1, 5⟩, [], ⟨true, false⟩⟩) called.session }

private def returned : System (Faulty Machine) :=
  answered.leaveInvocation 0 0 (.ok (.object Value.objectTag 9000))

/-- The task of an invocation is over once its call is. -/
private theorem leaves {n : Nat} (result : Except SessionError Value)
    (task : s.invocations[n]?.map (fun i => (i.thread, i.state.isDone)) = some (t, false))
    (stepless : (s.thread t).stepping.isNone) : Happens w s (s.leaveInvocation t n result) := by
  obtain ⟨task, h, parts⟩ := Option.map_eq_some_iff.mp task
  obtain ⟨rfl, pending⟩ := Prod.mk.inj parts
  exact .change (.landing (.change (.endInvocation result h pending (Option.isNone_iff_eq_none.mp stepless))))

/-- Requests have no timeout during the call and the old one afterwards, when the client is shown the same
frames as before. -/
theorem sample_invocation_restores :
    (∃ k, answered.session.timing = (none, wholeLeases (some 3000) k ++ [none])) ∧
      (∃ k, returned.session.timing = (some 3000, wholeLeases (some 3000) k)) ∧
      stackFrames 0 (sampleSystem [.addTask (sampleTask 1)]) = .ok [0, 1] looked ∧
      ∃ s', stackFrames 0 returned = .ok [0, 1] s' := by
  have start : Reachable untimed (sampleSystem [.addTask (sampleTask 1)]) :=
    sampleSystem_reachable (sampleMachine_starts (by simp [MachineCommand.SparesSteps])) (by decide +kernel)
  have spares : untimed.SparesTimeout := fun _ _ h => h.2
  have idle : (sampleSystem [.addTask (sampleTask 1)]).activeInvocations = 0 := by decide +kernel
  have answers : Happens untimed called answered :=
    .change (.landing (.change (.exchange (.invoke _ called.session))))
  have ends : Happens untimed answered returned := leaves _ (by decide +kernel) (by decide +kernel)
  have whole : Course untimed (sampleSystem [.addTask (sampleTask 1)]) answered :=
    ((Move.course (.operation (.frames 0))).trans
      (Move.course (.operation (.invoke 0 (.new 1) ⟨1, 5⟩ [] false)))).tail answers
  have quiet (t : ThreadRef) : (returned.thread t).invoking = false := by
    have size : returned.threads.size = 1 := by decide +kernel
    cases t with
    | zero => decide +kernel
    | succ t =>
      rw [System.thread_of_size_le (size ▸ Nat.succ_le_succ (Nat.zero_le t))]
      rfl
  have shown : stackFrames 0 (sampleSystem [.addTask (sampleTask 1)]) = .ok [0, 1] looked :=
    ok_of_run' (by decide +kernel)
  have began : beginInvocation 0 (.new 1) ⟨1, 5⟩ [] false looked = .ok 0 called :=
    ok_of_run' (by decide +kernel)
  have during := (invocations_restore spares start.occurs idle whole).1 ⟨0, by decide +kernel⟩
  have after := (invocations_restore spares start.occurs idle (whole.tail ends)).2.1 quiet
  have again := (invocations_restore spares start.occurs idle .refl).2.2.2.2.2 0 _ _ _ _ _ _ _ _ returned
    shown began ((Relation.ReflTransGen.single ⟨answers, fun _ => by decide +kernel⟩).tail
      ⟨ends, fun _ => by decide +kernel⟩) (by decide +kernel) (by decide +kernel)
  have answer : ((Session.frames (returned.thread 0).id).run' returned.session).isSome := by decide +kernel
  obtain ⟨frames, s', shown'⟩ := again.1 fun e m h => by
    rw [run'_of_error h] at answer
    cases answer
  obtain rfl := (again.2 frames s' shown').mpr (by decide +kernel)
  have old : (sampleSystem [.addTask (sampleTask 1)]).session.timing = (some 3000, []) := by decide +kernel
  obtain ⟨old, before⟩ := Prod.mk.inj old
  simp only [old, before, List.nil_append] at during after
  exact ⟨during, after, shown, s', shown'⟩

/-- A step of the thread went on while its frames were known, and a client is still shown these although the
thread is in another method. -/
private def misled : System (Faulty Machine) :=
  let s := (Operation.stepWithTargetFilters 0 .into).perform (sampleSystem [.addTask (sampleTask 1), .defer 1,
    .landing 1 [sampleFrame 1 101 "run" 10, sampleFrame 2 102 "main" 3],
    .landing 1 [sampleFrame 3 103 "callee" 20, sampleFrame 2 102 "main" 3]])
  (settle 3 ({ s with session := ((MachineCommand.complete 1).applyFaulty s.session).2 }.performAll
    [.suspendAll, .frames 0])).2

/-- An invocation and all that it brings about. -/
private def undeceived : System (Faulty Machine) :=
  (settle 3 (misled.performAll [.frames 0, .invoke 0 (.new 1) ⟨1, 5⟩ [] false])).2

/-- After an invocation a client is shown another top frame, although nothing else happened to the thread and
its stack is the same. -/
theorem invocation_replaces_stale_frame :
    Reachable scripted misled ∧ misled.isSettled ∧ (stackFrames 0).run' misled = some [0, 1] ∧
      Reachable scripted undeceived ∧ undeceived.isSettled ∧ (undeceived.invocation? 0).isSome ∧
      (undeceived.thread 0).isSuspended ∧ undeceived.stackOf 0 = misled.stackOf 0 ∧
      (stackFrames 0).run' undeceived = some [2, 1] := by
  have start : Reachable scripted (sampleSystem [.addTask (sampleTask 1), .defer 1,
      .landing 1 [sampleFrame 1 101 "run" 10, sampleFrame 2 102 "main" 3],
      .landing 1 [sampleFrame 3 103 "callee" 20, sampleFrame 2 102 "main" 3]]) :=
    sampleSystem_reachable (sampleMachine_starts (by simp [MachineCommand.SparesSteps])) (by decide +kernel)
  have stepped := start.move (.operation (.stepWithTargetFilters 0 .into))
  have before : Reachable scripted misled :=
    ((stepped.move (.machine ⟨.complete 1, trivial, rfl⟩)).performAll [.suspendAll, .frames 0]).settle 3
  exact ⟨before, by decide +kernel, by decide +kernel,
    (before.performAll [.frames 0, .invoke 0 (.new 1) ⟨1, 5⟩ [] false]).settle 3, by decide +kernel,
    by decide +kernel, by decide +kernel, by decide +kernel, by decide +kernel⟩

end Debugger
