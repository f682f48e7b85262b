import Debugger.Proofs.StepChanges

/-! # The changes that operations on the target make

The thread registry, breakpoint hits, what a client asks of the target as a whole, and the dispatch of
events.
-/

namespace Debugger

variable {σ α : Type} [Session σ]

/-! ## The registry -/

section

variable {R : σ → σ → Prop} [IsPreorder σ R]

private theorem outsideMain_within (name : ∀ g, Within R (Session.groupName g : Call σ _))
    (parent : ∀ g, Within R (Session.groupParent g : Call σ _)) (fuel : Nat) (group : Option GroupId) :
    Within R (outsideMain fuel group : Call σ _) := by
  induction fuel generalizing group with
  | zero =>
    cases group with
    | none => exact .pure _
    | some g => exact .pure _
  | succ fuel ih =>
    cases group with
    | none => exact .pure _
    | some g =>
      refine .bind (name g) fun name => ?_
      split
      · exact .pure _
      · exact .bind (parent g) ih

/-- Whose thread it is, is found out by questions about groups. -/
theorem isSystemThread_within {id : ThreadId} (group : Within R (Session.threadGroup id : Call σ _))
    (name : ∀ g, Within R (Session.groupName g : Call σ _))
    (parent : ∀ g, Within R (Session.groupParent g : Call σ _)) : Within R (isSystemThread id : Call σ _) :=
  .bind group fun group => by
    split
    · exact .pure _
    · exact .bind (outsideMain_within name parent _ _) fun _ => .pure _

end

private theorem isSystemThread_inquires (id : ThreadId) : Inquires id (isSystemThread id : Call σ _) :=
  isSystemThread_within (Inquires.single .threadGroup) (fun g => Inquires.single (.groupName g))
    (fun g => Inquires.single (.groupParent g))

theorem createThread_eq (id : ThreadId) (s : System σ) :
    ∃ m th, Relation.ReflTransGen (Inquiry id) s.session m ∧ th.id = id ∧ th.IsNew ∧
      createThread id s = (s.threads.size, { s with session := m, threads := s.threads.push th }) := by
  obtain ⟨system, h₁⟩ := ask_answer (isSystemThread id) s
  obtain ⟨suspended, h₂⟩ := ask_answer (Session.threadIsSuspended id)
    { s with session := stateAfter (isSystemThread id) s.session }
  have path := (isSystemThread_inquires id s.session).tail (.threadIsSuspended _)
  have off (a b : Bool) (h : b = true) : (a && !b) = false := by rw [h, Bool.not_true, Bool.and_false]
  rw [createThread, run_bind h₁, run_bind h₂]
  exact ⟨_, _, path, rfl, ⟨rfl, rfl, rfl, rfl, rfl, rfl, rfl, off _ _⟩, rfl⟩

/-- A thread object is made for a thread that is not listed, and listed at once. -/
theorem addThread_new {id : ThreadId} {s : System σ} (hn : s.find? id = none) :
    ∃ m th, Relation.ReflTransGen (Inquiry id) s.session m ∧ th.id = id ∧ th.IsNew ∧
      addThread id s = (s.threads.size, { s with session := m }.enlist th) := by
  obtain ⟨m, th, path, rfl, new, hc⟩ := createThread_eq id s
  refine ⟨m, th, path, rfl, new, ?_⟩
  rw [addThread, run_get_bind, hn]
  dsimp only
  rw [run_bind hc, System.enlist]
  rfl

theorem addThread_listed {id : ThreadId} {s : System σ} {t : ThreadRef} (h : s.find? id = some t) :
    addThread id s = (t, s) := by
  rw [addThread, run_get_bind, h]
  rfl

theorem addThread_path (id : ThreadId) : Debug.Within Path (addThread id : Debug σ _) := by
  intro s
  cases hn : s.find? id with
  | some t =>
    rw [addThread_listed hn]
  | none =>
    obtain ⟨m, th, asked, rfl, new, h⟩ := addThread_new hn
    rw [h]
    have path : Path s { s with session := m } :=
      rel_session (Relation.ReflTransGen.mono (fun _ _ => Inquiry.exchange) _ _ asked)
    exact path.tail (.enlist hn new)

/-! ## Breakpoint hits -/

theorem suspendListed_path (s : System σ) : Path s s.suspendListed :=
  System.suspendListed_within (fun s => Path.single (.suspended s true)) (fun s t => Path.single (.stop s t)) s

theorem resumeListed_path (s : System σ) : Path s s.resumeListed :=
  (Path.single (.suspended s false)).trans (System.foldl_within (fun s t => Path.single (.run s t)) _ _)

private theorem publish_path (queued : Bool) (source : Element) {a : Announcement}
    (h : (a.event source).detail.isStep = false) (s : System σ) : Path s (s.publish queued source a) := by
  cases queued with
  | true => exact Path.single (.queue h)
  | false => exact Path.single (.fire fun _ => h)

namespace System

/-- The breakpoint stops every listed thread. -/
def stopsAll (s : System σ) (b : BreakpointRef) : Bool :=
  (s.breakpoint b).policy = .vm && s.targetAlive

/-- The answer of the listeners; nobody is asked when the target is gone. -/
def judge (s : System σ) (t : ThreadRef) (b : Breakpoint) (alive : Bool) : Bool × System σ :=
  if alive then s.vote t b else (true, s)

/-- Nobody objected to the hit: the thread stays suspended, which is announced. -/
def keepStopped (s : System σ) (t : ThreadRef) (queued all : Bool) : System σ :=
  let s := if all then s.publish queued .target (.suspend .breakpoint) else s
  let s := (abortStep t s).2
  s.publish queued (s.element t) (.suspend .breakpoint)

/-- A listener objected to the hit: the thread, or everything, runs on. -/
def runOn (s : System σ) (t : ThreadRef) (all : Bool) : System σ :=
  if all then s.resumeListed else s.startRunning t

end System

/-- A hit stops the thread, asks the listeners, and does as they say. -/
theorem suspendAtBreakpoint_eq (t : ThreadRef) (b : BreakpointRef) (queued : Bool) (s : System σ) :
    suspendAtBreakpoint t b queued s =
      let r := (s.stopAt t b (s.stopsAll b)).judge t (s.breakpoint b) s.targetAlive
      (r.1, if r.1 then r.2.keepStopped t queued (s.stopsAll b) else r.2.runOn t (s.stopsAll b)) := by
  rw [suspendAtBreakpoint, run_get_bind]
  dsimp only
  rw [run_modify_bind, run_modify_bind]
  rw [← System.stopsAll]
  generalize s.stopsAll b = all
  cases s.targetAlive with
  | false => cases all <;> rfl
  | true =>
    rw [if_pos rfl, run_modifyGet_bind, System.judge, if_pos rfl, System.stopAt]
    rcases System.vote _ t (s.breakpoint b) with ⟨suspend, s'⟩
    cases suspend <;> cases all <;> rfl

private theorem judge_path (s : System σ) (t : ThreadRef) (b : Breakpoint) (alive : Bool) :
    Path s (s.judge t b alive).2 := by
  cases alive with
  | true => exact .aside rfl rfl
  | false => exact .refl

private theorem keepStopped_path (s : System σ) (t : ThreadRef) (queued all : Bool) :
    Path s (s.keepStopped t queued all) := by
  have tell : Path s (if all then s.publish queued .target (.suspend .breakpoint) else s) := by
    split
    · exact publish_path queued _ rfl s
    · exact .refl
  exact (tell.tail (.abort _ t)).trans (publish_path queued _ rfl _)

private theorem runOn_path (s : System σ) (t : ThreadRef) (all : Bool) : Path s (s.runOn t all) := by
  cases all with
  | true => exact resumeListed_path s
  | false => exact Path.single (.run s t)

theorem suspendAtBreakpoint_path (t : ThreadRef) (b : BreakpointRef) (queued : Bool) :
    Debug.Within Path (suspendAtBreakpoint t b queued : Debug σ _) := by
  intro s
  rw [suspendAtBreakpoint_eq]
  have stop : Path s (s.stopAt t b (s.stopsAll b)) := Path.single (.stopAt s t b _)
  have asked := stop.trans (judge_path _ t (s.breakpoint b) s.targetAlive)
  dsimp only
  split
  · exact asked.trans (keepStopped_path _ t queued _)
  · exact asked.trans (runOn_path _ t _)

theorem suspendAtBreakpointQuietly_path (t : ThreadRef) (b : BreakpointRef) :
    Debug.Within Path (suspendAtBreakpointQuietly t b : Debug σ _) :=
  .bind (fun s => Path.single (.stopAt s t b false)) fun _ =>
    .bind (abortStep_path t) fun _ => .pure _

/-! ## The target as a whole -/

theorem suspendAll_path : Within Path (suspendAll : Client σ _) :=
  .bind (askFor_within (.single .suspendVm)) fun _ => .modify fun s =>
    (suspendListed_path s).tail (.fire fun _ => rfl)

theorem resumeAll_path : Within Path (resumeAll : Client σ _) :=
  .bind (.modify fun s => (resumeListed_path s).tail (.fire fun _ => rfl))
    fun _ => askFor_within (.single .resumeVm)

section

variable {R : System σ → System σ → Prop} [IsPreorder (System σ) R]

private theorem exitMachine_within
    (exit : ∀ s, R s { s with session := stateAfter (Session.exitVm terminateExitCode) s.session })
    (disconnect : ∀ s, R s s.disconnect) : Within R (ask (Session.exitVm terminateExitCode) >>= fun r =>
      match r with
      | .ok () | .error .disconnected => modify (·.disconnect)
      | .error e => throw (.session "terminating VM" e) : Client σ Unit) := by
  refine .bind (.ask exit) fun r => ?_
  split
  · exact .modify disconnect
  · exact .modify disconnect
  · exact .throw _

/-- The debugger is cut off from a machine that it terminates. -/
theorem terminateTarget_within
    (exit : ∀ s, R s { s with session := stateAfter (Session.exitVm terminateExitCode) s.session })
    (disconnect : ∀ s, R s s.disconnect) : Within R (terminateTarget : Client σ _) :=
  .get_bind fun s => by
    split
    · exact exitMachine_within exit disconnect s
    · exact refl_of R s

end

theorem terminateTarget_path : Within Path (terminateTarget : Client σ _) :=
  terminateTarget_within (fun _ => Path.single (.exchange (.exitVm _ _))) fun s => Path.single (.disconnect s)

theorem terminateThread_path (t : ThreadRef) : Within Path (terminateThread t : Client σ _) :=
  .bind .needTarget fun _ => terminateTarget_path

theorem installBreakpoint_path (typeName : String) (line : Int32) (policy : SuspendPolicy) :
    Within Path (installBreakpoint typeName line policy : Client σ _) := by
  intro s
  cases hc : Session.createBreakpointRequest ⟨typeName, line, policy⟩ s.session with
  | error e m =>
    rw [installBreakpoint, stateAfter_bind_error (askFor_error hc)]
    exact Path.single (.exchange (.breakpointRefused hc))
  | ok request m =>
    rw [installBreakpoint, stateAfter_bind_ok (askFor_ok hc)]
    exact Path.single (.install hc)

theorem removeBreakpoint_path (b : BreakpointRef) :
    Within Path (removeBreakpoint b : Client σ _) := by
  refine .get_bind fun s => ?_
  have asked : Within Path (askFor "removing breakpoint"
      (Session.deleteEventRequest .breakpoint (s.breakpoint b).request) : Client σ _) :=
    askFor_within (.single (.deleteBreakpoint _))
  have rest := asked (s.uninstall b)
  exact (Path.single (.uninstall s b)).trans rest

/-! ## Event dispatch -/

theorem handleStep_landing (request : RequestId) (landing : Location) :
    Debug.Within LandingPath (handleStep request landing : Debug σ _) :=
  .get_bind fun s => by
    cases (s.stepOwners.find? request).bind s.find? with
    | some t => exact landStep_landing t request landing s
    | none => exact .refl

theorem handleBreakpoint_path (request : RequestId) (thread : ThreadId) :
    Debug.Within Path (handleBreakpoint request thread : Debug σ _) :=
  .get_bind fun s => by
    cases s.installed.find? request with
    | none => exact .refl
    | some b =>
      refine Debug.Within.bind (.modify fun s => Path.single (.countHit s b)) (fun _ => ?_) s
      refine .bind (addThread_path thread) fun t => .get_bind fun s => ?_
      split
      · refine Debug.Within.bind (suspendAtBreakpoint_path t b true) (fun suspend => ?_) s
        split
        · exact .pure _
        · exact .pure _
      · exact .refl

theorem handleEvent_landing (e : VmEvent) : Debug.Within LandingPath (handleEvent e : Debug σ _) := by
  cases e with
  | step request thread landing => exact handleStep_landing request landing
  | breakpoint request thread landing =>
    exact (handleBreakpoint_path request thread).mono Path.landingPath
  | threadStart thread =>
    exact (Debug.Within.bind (addThread_path thread) fun _ => .pure _).mono Path.landingPath
  | threadDeath thread => exact fun s => .single (.change (.died s thread))
  | vmDeath => exact fun s => .single (.change (.disconnect s))
  | disconnected => exact fun s => .single (.change (.disconnect s))

theorem handleEvents_landing (es : List VmEvent) :
    Debug.Within LandingPath (handleEvents es : Debug σ _) := by
  induction es with
  | nil => exact .pure _
  | cons e es ih => exact .bind (handleEvent_landing e) fun _ => .bind ih fun _ => .pure _

/-- What the machine is asked when the events of a set have been handled. -/
def EventSet.resumption (set : EventSet) : Option (Call σ Unit) :=
  match set.policy, set.thread? with
  | some .vm, _ => some Session.resumeVm
  | some .thread, some thread => some (Session.resumeThread thread)
  | _, _ => none

theorem EventSet.resumption_thread {set : EventSet} {thread : ThreadId} (policy : set.policy = some .thread)
    (h : set.thread? = some thread) : set.resumption = some (Session.resumeThread thread : Call σ Unit) := by
  rw [resumption, policy, h]

/-- A set is resumed by one call that neither makes nor deletes a request. -/
theorem EventSet.resumption_exchange {set : EventSet} {call : Call σ Unit} (h : set.resumption = some call)
    (m : σ) : Exchange m (stateAfter call m) := by
  unfold resumption at h
  split at h
  · cases h
    exact .resumeVm m
  · cases h
    exact .resumeThread _ m
  · cases h

private theorem resumeSet_asks (set : EventSet) :
    (resumeSet set : Debug σ Unit) = match (set.resumption : Option (Call σ Unit)) with
      | none => pure ()
      | some call => ask call >>= fun result => match result with
        | .error .disconnected => modify (·.disconnect)
        | _ => return := by
  obtain ⟨policy, events⟩ := set
  cases policy with
  | none => rfl
  | some policy =>
    cases policy with
    | vm => rfl
    | thread =>
      rw [resumeSet, EventSet.resumption]
      dsimp only
      cases EventSet.thread? _ <;> rfl

theorem resumeSet_none {set : EventSet} (h : (set.resumption : Option (Call σ Unit)) = none) (s : System σ) :
    resumeSet set s = ((), s) := by
  rw [resumeSet_asks, h]
  rfl

theorem resumeSet_ok {set : EventSet} {call : Call σ Unit} (h : set.resumption = some call) {s : System σ}
    {m : σ} (hc : call s.session = .ok () m) : resumeSet set s = ((), { s with session := m }) := by
  rw [resumeSet_asks, h]
  exact run_ask_ok hc

theorem resumeSet_error {set : EventSet} {call : Call σ Unit} (h : set.resumption = some call) {s : System σ}
    {e : SessionError} {m : σ} (hc : call s.session = .error e m) :
    resumeSet set s = ((), if e = .disconnected then { s with session := m }.disconnect
      else { s with session := m }) := by
  rw [resumeSet_asks, h]
  refine (run_ask_error hc).trans ?_
  cases e <;> rfl

/-- The machine resumes what it suspended for a set, refuses, or turns out to be gone. -/
theorem resumeSet_within {R : System σ → System σ → Prop} [AllowsCalls R]
    (disconnect : ∀ s, R s s.disconnect) (set : EventSet) : Debug.Within R (resumeSet set : Debug σ _) := fun s => by
  cases h : (set.resumption : Option (Call σ Unit)) with
  | none =>
    rw [resumeSet_none h]
    exact refl_of R s
  | some call =>
    have called : R s { s with session := stateAfter call s.session } :=
      AllowsCalls.exchange (EventSet.resumption_exchange h s.session)
    cases hc : call s.session with
    | ok v m =>
      rw [stateAfter_of_ok hc] at called
      rw [resumeSet_ok h hc]
      exact called
    | error e m =>
      rw [stateAfter_of_error hc] at called
      rw [resumeSet_error h hc]
      dsimp only
      split
      · exact trans_of R called (disconnect _)
      · exact called

theorem resumeSet_path (set : EventSet) : Debug.Within Path (resumeSet set : Debug σ _) :=
  resumeSet_within (fun s => Path.single (.disconnect s)) set

/-- What a stretch of background work does: an event set is handled from its first event to the flush,
or no step is started or ended. -/
inductive Handled : System σ → System σ → Prop
  | path {s s' : System σ} (h : Path s s') : Handled s s'
  | set {s s₁ s' : System σ} (h₁ : LandingPath s s₁) (h₂ : Path s₁.flush s') : Handled s s'

theorem Handled.after {s s₀ s' : System σ} (h : Path s s₀) (hs : Handled s₀ s') : Handled s s' := by
  cases hs with
  | path h₁ => exact .path (h.trans h₁)
  | set h₁ h₂ => exact .set (h.landingPath.trans h₁) h₂

theorem Handled.before {s s₁ s' : System σ} (hs : Handled s s₁) (h : Path s₁ s') : Handled s s' := by
  cases hs with
  | path h₁ => exact .path (h₁.trans h)
  | set h₁ h₂ => exact .set h₁ (h₂.trans h)

theorem Handled.stepPath {s s' : System σ} (h : Handled s s') : StepPath s s' := by
  cases h with
  | path h => exact h.stepPath
  | set h₁ h₂ => exact (h₁.stepPath.tail (.landing (.change (.flush _)))).trans h₂.stepPath

/-- After the events the set is resumed, unless a thread is to stay suspended or the machine is gone, and
then what was queued goes out. -/
theorem handleEventSet_eq {set : EventSet} {s s₁ : System σ} {stay : Bool}
    (h : handleEvents set.events s = (stay, s₁)) :
    handleEventSet set s =
      ((), (if stay || s₁.disconnected then s₁ else (resumeSet set s₁).2).flush) := by
  rw [handleEventSet, run_bind h, run_get_bind]
  cases stay || s₁.disconnected <;> rfl

theorem handleEventSet_handled (set : EventSet) (s : System σ) :
    Handled s (handleEventSet set s).2 := by
  have events := handleEvents_landing set.events s
  rcases he : handleEvents set.events s with ⟨stay, s₁⟩
  rw [he] at events
  rw [handleEventSet_eq he]
  split
  · exact .set events .refl
  · exact .set (events.trans (resumeSet_path set s₁).landingPath) .refl

/-- A message of the machine's channel is handled. -/
theorem dispatchOne_message {s : System σ} {set : EventSet} {reader : Reader}
    (hs : (s.shutdown || !s.dispatching || !s.targetAlive) = false)
    (hm : (Session.events s.session).receive? s.reader = some (.message set, reader)) :
    dispatchOne s =
      let s₁ := (handleEventSet set { s with reader }).2
      (!set.isFinal, if set.isFinal then { s₁ with dispatching := false } else s₁) := by
  rw [dispatchOne, run_get_bind]
  rw [if_neg (by simp [hs])]
  simp only [hm]
  cases set.isFinal <;> rfl

/-- The event set that the dispatcher handles next, if it can, and the system in which it does. -/
def System.incoming (s : System σ) : Option (EventSet × System σ) :=
  if s.shutdown || !s.dispatching || !s.targetAlive then none
  else match (Session.events s.session).receive? s.reader with
    | some (.message set, reader) => some (set, { s with reader })
    | _ => none

/-- What comes of the dispatcher's turn. -/
inductive Dispatched (s : System σ) : System σ → Prop
  | idle (h : s.incoming = none) (reader : Reader) (dispatching : Bool) : Dispatched s { s with reader, dispatching }
  | closed (h : s.incoming = none) (closed : Session.eventsClosed s.session) :
      Dispatched s { (handleEventSet (.single .disconnected) s).2 with dispatching := false }
  | handled {set : EventSet} {reader : Reader} (h : s.incoming = some (set, { s with reader })) (dispatching : Bool) :
      Dispatched s { (handleEventSet set { s with reader }).2 with dispatching }

theorem dispatchOne_dispatched (s : System σ) : Dispatched s (dispatchOne s).2 := by
  by_cases hs : s.shutdown || !s.dispatching || !s.targetAlive
  · rw [dispatchOne, run_get_bind, if_pos hs]
    exact .idle (by rw [System.incoming, if_pos hs]) s.reader false
  have hs' : (s.shutdown || !s.dispatching || !s.targetAlive) = false := by simpa using hs
  rcases hm : (Session.events s.session).receive? s.reader with _ | ⟨received, reader⟩
  · have nothing : s.incoming = none := by rw [System.incoming, if_neg hs, hm]
    rw [dispatchOne, run_get_bind, if_neg hs]
    simp only [hm]
    split
    · rename_i closed
      exact .closed nothing closed
    · exact .idle nothing s.reader s.dispatching
  · cases received with
    | lagged missed =>
      have nothing : s.incoming = none := by rw [System.incoming, if_neg hs, hm]
      rw [dispatchOne, run_get_bind, if_neg hs]
      simp only [hm]
      exact .idle nothing reader s.dispatching
    | message set =>
      have incoming : s.incoming = some (set, { s with reader }) := by rw [System.incoming, if_neg hs, hm]
      have handled := Dispatched.handled incoming
      rw [dispatchOne_message hs' hm]
      dsimp only
      split
      · exact handled false
      · exact handled (handleEventSet set { s with reader }).2.dispatching

theorem Dispatched.effect {s s' : System σ} (h : Dispatched s s') : Handled s s' := by
  cases h with
  | idle _ reader dispatching => exact .path (.aside rfl rfl)
  | closed => exact (handleEventSet_handled (.single .disconnected) s).before (.aside rfl rfl)
  | @handled set reader _ dispatching =>
    have read : Path s { s with reader } := .aside rfl rfl
    exact (Handled.after read (handleEventSet_handled set { s with reader })).before (.aside rfl rfl)

theorem wakeDispatcher_path (s : System σ) : Path s s.wakeDispatcher := by
  rw [System.wakeDispatcher]
  split
  · exact wake_path s rfl
  · exact .refl

/-- The task whose turn is next. -/
def System.turn? (s : System σ) : Option TaskId := s.wakeDispatcher.ready.head?

/-- A task that leaves the queue finds all else as it was. -/
theorem dequeued (s : System σ) (rest : List TaskId) :
    { s.wakeDispatcher with ready := rest } = { s with ready := rest } := by
  rw [System.wakeDispatcher, System.wake]
  split
  · split <;> rfl
  · rfl

theorem clock_wakeDispatcher (s : System σ) : s.wakeDispatcher.clock = s.clock := by
  rw [System.wakeDispatcher]
  split
  · exact clock_wake s rfl
  · rfl

/-- Suspend requests wait on when another task's turn comes. -/
theorem clock_dequeued {s : System σ} {task : TaskId} {rest : List TaskId}
    (ready : s.wakeDispatcher.ready = task :: rest) (h : task.watches = false) :
    { s with ready := rest }.clock = s.clock := by
  have awake : s.wakeDispatcher.clock.awake = s.clock.awake := congrArg Clock.awake (clock_wakeDispatcher s)
  have same : rest.filter TaskId.watches = s.ready.filter TaskId.watches := by
    simpa [System.clock, ready, List.filter_cons, h] using awake
  rw [System.clock, System.clock, same]

/-- An evaluation's turn. -/
theorem runNext_evaluation {s : System σ} {n : Nat} (turn : s.turn? = some (.evaluation n)) :
    ∃ rest, s.wakeDispatcher.ready = .evaluation n :: rest ∧ runNext s = runEvaluation n { s with ready := rest } := by
  obtain ⟨rest, ready⟩ := List.head?_eq_some_iff.mp turn
  refine ⟨rest, ready, ?_⟩
  rw [runNext, run_modify_bind, run_get_bind, ready, ← dequeued]
  rfl

/-- A watch's turn. -/
theorem runNext_watching {s : System σ} {n : Nat} (turn : s.turn? = some (.watch n)) :
    ∃ rest, s.wakeDispatcher.ready = .watch n :: rest ∧ runNext s = runWatch n { s with ready := rest } := by
  obtain ⟨rest, ready⟩ := List.head?_eq_some_iff.mp turn
  refine ⟨rest, ready, ?_⟩
  rw [runNext, run_modify_bind, run_get_bind, ready, ← dequeued]
  rfl

/-- An invocation's turn. -/
theorem runNext_invocation {s : System σ} {n : Nat} (turn : s.turn? = some (.invocation n)) :
    ∃ rest, s.wakeDispatcher.ready = .invocation n :: rest ∧ runNext s = runInvocation n { s with ready := rest } := by
  obtain ⟨rest, ready⟩ := List.head?_eq_some_iff.mp turn
  refine ⟨rest, ready, ?_⟩
  rw [runNext, run_modify_bind, run_get_bind, ready, ← dequeued]
  rfl

/-- The dispatcher's turn. -/
theorem runNext_dispatcher {s : System σ} (turn : s.turn? = some .dispatcher) :
    ∃ s₁ ready, Dispatched s.wakeDispatcher s₁ ∧ (runNext s).2 = { s₁ with ready } := by
  obtain ⟨rest, ready⟩ := List.head?_eq_some_iff.mp turn
  have dispatched := dispatchOne_dispatched s.wakeDispatcher
  rw [runNext, run_modify_bind, run_get_bind, ready]
  rcases hd : dispatchOne s.wakeDispatcher with ⟨more, s₁⟩
  rw [hd] at dispatched
  dsimp only
  rw [run_bind hd]
  cases more with
  | true => exact ⟨s₁, s₁.ready, dispatched, rfl⟩
  | false => exact ⟨s₁, s₁.ready.erase .dispatcher, dispatched, rfl⟩

/-- Nobody's turn. -/
theorem runNext_idle {s : System σ} (turn : s.turn? = none) : (runNext s).2 = s.wakeDispatcher := by
  have ready : s.wakeDispatcher.ready = [] := List.head?_eq_none_iff.mp turn
  rw [runNext, run_modify_bind, run_get_bind, ready]
  rfl

/-- The task sees to a suspend request or to an evaluation. -/
def TaskId.tends : TaskId → Bool
  | watch _ | evaluation _ => true
  | _ => false

private theorem filter_erase {α : Type} [DecidableEq α] {p : α → Bool} {a : α} (h : p a = false) (as : List α) :
    (as.erase a).filter p = as.filter p := by
  induction as with
  | nil => rfl
  | cons b as ih =>
    by_cases same : b = a
    · rw [same, List.erase_cons_head, List.filter_cons, h]
      rfl
    · rw [List.erase_cons_tail (by simpa using same), List.filter_cons, List.filter_cons, ih]

theorem runNext_handled {s : System σ} (turn : ∀ task, s.turn? = some task → task.tends = false) :
    Handled s (runNext s).2 := by
  refine .after (wakeDispatcher_path s) ?_
  rw [runNext, run_modify_bind, run_get_bind]
  rw [System.turn?] at turn
  generalize s.wakeDispatcher = s at turn ⊢
  cases ready : s.ready with
  | nil => exact .path .refl
  | cons task rest =>
    have aside := turn task (by rw [ready]; rfl)
    cases task with
    | dispatcher =>
      have h := (dispatchOne_dispatched s).effect
      rcases hd : dispatchOne s with ⟨more, s₁⟩
      rw [hd] at h
      dsimp only
      rw [run_bind hd]
      cases more with
      | true => exact h
      | false =>
        have erased : { s₁ with ready := s₁.ready.erase .dispatcher }.clock = s₁.clock := by
          rw [System.clock, System.clock, filter_erase rfl]
        exact h.before (.aside rfl erased)
    | invocation n =>
      have left : { s with ready := rest }.clock = s.clock := by
        simp [System.clock, ready, TaskId.watches]
      have leave : Path s { s with ready := rest } := .aside rfl left
      exact .path (leave.trans (runInvocation_path n _))
    | watch n | evaluation n => cases aside

theorem runNext_evaluated {s : System σ} {n : Nat} (turn : s.turn? = some (.evaluation n)) :
    EvaluationPath s (runNext s).2 := by
  obtain ⟨rest, ready, ran⟩ := runNext_evaluation turn
  have leave : Path s { s with ready := rest } := .aside rfl (clock_dequeued ready rfl)
  rw [ran]
  exact leave.evaluationPath.trans (runEvaluation_path n _)

theorem runNext_watched {s : System σ} {n : Nat} (turn : s.turn? = some (.watch n)) :
    WatchPath s (runNext s).2 := by
  obtain ⟨rest, -, ran⟩ := runNext_watching turn
  have leave : WatchPath s { s with ready := rest } := .aside rfl
  rw [ran]
  exact leave.trans (runWatch_path n _)

/-- Whose turn it is: that of an evaluation, that of a watch, or another task's. -/
theorem runNext_turn (s : System σ) :
    (∃ n, s.turn? = some (.evaluation n)) ∨ (∃ n, s.turn? = some (.watch n)) ∨ Handled s (runNext s).2 := by
  by_cases h : ∃ task, s.turn? = some task ∧ task.tends
  · obtain ⟨task, turn, tends⟩ := h
    cases task with
    | evaluation n => exact .inl ⟨n, turn⟩
    | watch n => exact .inr (.inl ⟨n, turn⟩)
    | dispatcher | invocation => cases tends
  · exact .inr (.inr (runNext_handled fun task turn => Bool.eq_false_iff.mpr fun tends => h ⟨task, turn, tends⟩))

theorem runNext_stepPath (s : System σ) : StepPath s (runNext s).2 := by
  rcases runNext_turn s with ⟨n, turn⟩ | ⟨n, turn⟩ | h
  · exact (runNext_evaluated turn).stepPath
  · exact (runNext_watched turn).stepPath
  · exact h.stepPath

end Debugger
