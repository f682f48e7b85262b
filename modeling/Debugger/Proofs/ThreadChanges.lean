import Debugger.Proofs.Change
import Debugger.Schedule

/-! # The changes that operations on a thread make

Each operation is a sequence of elementary changes, whether or not it succeeds.  Nothing is claimed here
about which changes a particular operation makes.
-/

namespace Debugger

variable {σ α β : Type}

@[simp] theorem core_wake (s : System σ) (task : TaskId) : (s.wake task).core = s.core := by
  rw [System.wake]
  split <;> rfl

variable [Session σ]

/-- A call that makes no more than exchanges. -/
abbrev Asks (call : Call σ α) : Prop := Within (Relation.ReflTransGen Exchange) call

theorem Asks.single {call : Call σ α} (h : ∀ m, Exchange m (stateAfter call m)) : Asks call :=
  fun m => .single (h m)

/-- A relation that allows calls to the machine. -/
class AllowsCalls (R : System σ → System σ → Prop) : Prop extends IsPreorder (System σ) R where
  exchange {s : System σ} {m : σ} : Exchange s.session m → R s { s with session := m }

instance : AllowsCalls (IdlePath (σ := σ)) where
  exchange h := .single (.exchange h)

instance : AllowsCalls (Path (σ := σ)) where
  exchange h := .single (.exchange h)

instance : AllowsCalls (LandingPath (σ := σ)) where
  exchange h := .single (.change (.exchange h))

section

variable {R : System σ → System σ → Prop} [AllowsCalls R]

theorem rel_session {s : System σ} {m : σ} (h : Relation.ReflTransGen Exchange s.session m) :
    R s { s with session := m } := by
  induction h with
  | refl => exact refl_of R s
  | tail _ hx ih => exact trans_of R ih (AllowsCalls.exchange (R := R) hx)

theorem askFor_within {activity : String} {call : Call σ α} (h : Asks call) :
    Within R (askFor activity call) :=
  .askFor fun s => rel_session (h s.session)

end

omit [Session σ] in
theorem clock_wake (s : System σ) {task : TaskId} (h : task.watches = false) : (s.wake task).clock = s.clock := by
  rw [System.wake]
  split
  · rfl
  · simp [System.clock, List.filter_append, h]

theorem wake_path (s : System σ) {task : TaskId} (h : task.watches = false) : Path s (s.wake task) :=
  .aside (core_wake s task) (clock_wake s h)

omit [Session σ] in
theorem core_wakeEvaluations (s : System σ) (p : EvaluationTask → Bool) :
    (s.wakeEvaluations p).core = s.core := by
  refine foldl_keeps (g := System.core) (fun s k => ?_) _ s
  split
  · exact core_wake s _
  · rfl

omit [Session σ] in
theorem clock_wakeEvaluations (s : System σ) (p : EvaluationTask → Bool) : (s.wakeEvaluations p).clock = s.clock := by
  refine foldl_keeps (g := System.clock) (fun s k => ?_) _ s
  split
  · exact clock_wake s rfl
  · rfl

theorem wakeEvaluations_path (s : System σ) (p : EvaluationTask → Bool) :
    Path s (s.wakeEvaluations p) := .aside (core_wakeEvaluations s p) (clock_wakeEvaluations s p)

/-! ## Looking at a stack -/

/-- A relation that allows looks at a thread: questions about it, and a view of its stack while it is
suspended. -/
structure AllowsLooks (R : System σ → System σ → Prop) (t : ThreadRef) : Prop where
  inquiry {s : System σ} {m : σ} (h : Inquiry (s.thread t).id s.session m) : R s { s with session := m }
  look {s : System σ} {remote : List RemoteFrame} {session : σ} (hs : (s.thread t).isSuspended)
    (h : Session.frames (s.thread t).id s.session = .ok remote session) :
    R s ({ s with session }.updateFrames t remote)
  groupName (s : System σ) (name : Option String) :
    R s (s.mapThread t fun th => { th with groupName := some name })

theorem idlePath_allowsLooks (t : ThreadRef) : AllowsLooks (IdlePath (σ := σ)) t where
  inquiry h := .single (.exchange h.exchange)
  look hs h := .single (.refresh hs h)
  groupName s name := .single (.groupName s t name)

section

variable {R : System σ → System σ → Prop} [IsPreorder (System σ) R] {t : ThreadRef}

/-- Questions about the thread, asked one after another. -/
abbrev Inquires (id : ThreadId) (call : Call σ α) : Prop := Within (Relation.ReflTransGen (Inquiry id)) call

theorem Inquires.single {id : ThreadId} {call : Call σ α} (h : ∀ m, Inquiry id m (stateAfter call m)) :
    Inquires id call := fun m => .single (h m)

theorem AllowsLooks.inquiries (allows : AllowsLooks R t) {s : System σ} {m : σ}
    (h : Relation.ReflTransGen (Inquiry (s.thread t).id) s.session m) : R s { s with session := m } := by
  induction h with
  | refl => exact refl_of R s
  | @tail m _ _ hi ih => exact trans_of R ih (allows.inquiry (s := { s with session := m }) hi)

theorem AllowsLooks.ask (allows : AllowsLooks R t) {call : Call σ α} {s : System σ}
    (h : Inquires (s.thread t).id call) : R s (stateAfter (ask call : Client σ _) s) := by
  rw [stateAfter_ask]
  exact allows.inquiries (h s.session)

/-- What an operation does after questions about the thread. -/
theorem AllowsLooks.askThen (allows : AllowsLooks R t) {call : Call σ α}
    {f : Except SessionError α → Client σ β} {s : System σ} (h : Inquires (s.thread t).id call)
    (hf : ∀ r, Within R (f r)) : R s (stateAfter (Debugger.ask call >>= f) s) :=
  Within.bindAt (allows.ask h) fun r s' _ => hf r s'

theorem AllowsLooks.askFor (allows : AllowsLooks R t) {activity : String} {call : Call σ α} {s : System σ}
    (h : Inquires (s.thread t).id call) : R s (stateAfter (askFor activity call) s) :=
  allows.askThen h fun r => by
    cases r with
    | ok a => exact .pure a
    | error e => exact .throw _

theorem remoteFrames_within (allows : AllowsLooks R t) : Within R (remoteFrames t : Client σ _) :=
  .get_bind fun s => allows.askThen (.single .frames) fun r => by
    split
    · exact .pure _
    · exact .throw _
    · exact .throw _

end

/-- The frames that a client gets are those that the session showed. -/
theorem remoteFrames_ok {t : ThreadRef} {s s' : System σ} {remote : List RemoteFrame}
    (h : remoteFrames t s = .ok remote s') :
    ∃ session, Session.frames (s.thread t).id s.session = .ok remote session ∧
      s' = { s with session } := by
  obtain ⟨s₀, s₁, hg, h⟩ := bind_ok h
  cases hg
  obtain ⟨r, s₁, ha, h⟩ := bind_ok h
  rcases ask_ok ha with ⟨frames, session, hf, rfl, rfl⟩ | ⟨e, session, hf, rfl, rfl⟩
  · cases h
    exact ⟨session, hf, rfl⟩
  · cases e <;> cases h

theorem remoteFrames_answer {t : ThreadRef} {s : System σ} {m : σ} {remote : List RemoteFrame}
    (h : Session.frames (s.thread t).id s.session = .ok remote m) :
    remoteFrames t s = .ok remote { s with session := m } := by
  rw [remoteFrames, act_get_bind]
  simp only [bind, EStateM.bind, ask, act, h]
  rfl

section

variable {R : System σ → System σ → Prop} [IsPreorder (System σ) R] {t : ThreadRef}

/-- The known frames of a suspended thread are brought in line with its stack. -/
private theorem readStack_within (allows : AllowsLooks R t) {s : System σ} {α : Type}
    {f : Unit → Client σ α} (hs : (s.thread t).isSuspended) (hf : Within R (f ())) :
    R s (stateAfter (do
      let remote ← remoteFrames t
      let u ← modify (·.updateFrames t remote)
      f u : Client σ α) s) := by
  have hp := remoteFrames_within allows s
  simp only [stateAfter, bind, EStateM.bind] at hp ⊢
  cases hr : remoteFrames t s with
  | error e s' => rwa [hr] at hp
  | ok remote s' =>
    obtain ⟨session, hm, rfl⟩ := remoteFrames_ok hr
    exact trans_of R (allows.look hs hm) (hf _)

/-- Looking at a stack asks a question at most, and updates the frames of a suspended thread. -/
theorem computeFrames_within (allows : AllowsLooks R t) (force : Bool) :
    Within R (computeFrames t force : Client σ _) :=
  .get_bind fun s => by
    by_cases hs : (s.thread t).isSuspended
    · simp only [hs, if_true]
      split
      · exact readStack_within allows hs fun s => refl_of R s
      · exact refl_of R s
    · simp only [hs]
      exact refl_of R s

end

theorem computeFrames_idle (t : ThreadRef) (force : Bool) :
    Within IdlePath (computeFrames t force : Client σ _) :=
  computeFrames_within (idlePath_allowsLooks t) force

/-- What is shown of a suspended thread is what is known of it then, after a look at its stack if need
be. -/
theorem computeFrames_shown {t : ThreadRef} {force : Bool} {s s' : System σ} {frames : List FrameRef}
    (h : computeFrames t force s = .ok frames s') (hs : (s.thread t).isSuspended) :
    frames = (s'.thread t).frames ∧
      ((force || (s.thread t).refresh) = false ∧ s' = s ∨
        ∃ remote session, Session.frames (s.thread t).id s.session = .ok remote session ∧
          s' = { s with session }.updateFrames t remote) := by
  obtain ⟨s₀, s₁, hg, h⟩ := bind_ok h
  cases hg
  simp only [hs, if_true] at h
  split at h
  · obtain ⟨remote, s₁, hr, h⟩ := bind_ok h
    obtain ⟨session, hm, rfl⟩ := remoteFrames_ok hr
    obtain ⟨_, s₂, hu, h⟩ := bind_ok h
    cases hu
    cases h
    exact ⟨rfl, .inr ⟨remote, session, hm, rfl⟩⟩
  · rename_i known
    cases h
    exact ⟨rfl, .inl ⟨eq_false_of_ne_true known, rfl⟩⟩

/-- Unless the machine fails to show the stack of a suspended thread, a client is shown it. -/
theorem stackFrames_answers {t : ThreadRef} {s : System σ} (hs : (s.thread t).isSuspended)
    (h : ∀ e m, Session.frames (s.thread t).id s.session ≠ .error e m) :
    ∃ frames s', stackFrames t s = .ok frames s' := by
  cases hf : Session.frames (s.thread t).id s.session with
  | error e m => exact (h e m hf).elim
  | ok remote m =>
    cases known : (s.thread t).refresh with
    | false =>
      refine ⟨(s.thread t).frames, s, ?_⟩
      rw [stackFrames, computeFrames, act_get_bind]
      simp only [hs, known]
      rfl
    | true =>
      let looked := { s with session := m }.updateFrames t remote
      refine ⟨(looked.thread t).frames, looked, ?_⟩
      rw [stackFrames, computeFrames, act_get_bind]
      simp only [hs, known, Bool.or_true, if_true, bind, EStateM.bind, remoteFrames_answer hf]
      rfl

/-- Frames are shown of a suspended thread only, and are those that are known then. -/
theorem computeFrames_ok {t : ThreadRef} {force : Bool} {s s' : System σ} {frames : List FrameRef}
    (h : computeFrames t force s = .ok frames s') (hf : frames ≠ []) :
    (s.thread t).isSuspended ∧ (s'.thread t).frames = frames := by
  cases hs : (s.thread t).isSuspended with
  | false =>
    obtain ⟨s₀, s₁, hg, h⟩ := bind_ok h
    cases hg
    simp only [hs] at h
    cases h
    exact absurd rfl hf
  | true => exact ⟨rfl, (computeFrames_shown h hs).1.symm⟩

/-! ## Whether a thread can step

The answers come from the books and from looks at the stack of the thread alone.
-/

section

variable {R : System σ → System σ → Prop} [IsPreorder (System σ) R] {t : ThreadRef}
  (looks : Within R (stackFrames t : Client σ _))

include looks

theorem canStep_looking : Debug.Within R (canStep t : Debug σ _) :=
  .get_bind fun s => by
    split
    · exact refl_of R s
    split
    · exact refl_of R s
    refine Debug.Within.bind (.attempt looks) (fun r => ?_) s
    cases r with
    | ok frames => exact .pure _
    | error e => exact .pure _

theorem canStepWithFilters_looking : Debug.Within R (canStepWithFilters t : Debug σ _) :=
  .get_bind fun s => by
    split
    · exact canStep_looking looks s
    · exact refl_of R s

theorem canDropToFrame_looking (frame : FrameRef) : Debug.Within R (canDropToFrame t frame : Debug σ _) :=
  .bind (canStep_looking looks) fun can => by
    cases can with
    | false => exact .pure _
    | true =>
      refine .bind (.attempt looks) fun r => ?_
      cases r with
      | error e => exact .pure _
      | ok frames =>
        dsimp only
        split
        · exact .pure _
        · exact .get_bind fun s => refl_of R s

end

/-! ## Questions about a stack -/

section

variable {R : System σ → System σ → Prop} [IsPreorder (System σ) R] {t : ThreadRef}
  (allows : AllowsLooks R t)

include allows

theorem stackFrames_within : Within R (stackFrames t : Client σ _) := computeFrames_within allows false

theorem newStackFrames_within : Within R (newStackFrames t : Client σ _) := computeFrames_within allows true

theorem topFrame_within : Within R (topFrame t : Client σ _) :=
  .bind (stackFrames_within allows) fun _ => .pure _

theorem hasStackFrames_within : Within R (hasStackFrames t : Client σ _) :=
  .bind (.attempt (stackFrames_within allows)) fun r => by
    cases r with
    | ok frames => exact .pure _
    | error e => exact .ite (.pure _) (.throw _)

theorem frameCount_within : Within R (frameCount t : Client σ _) :=
  .get_bind fun s => allows.askThen (.single .frameCount) fun r => by
    split
    · exact .pure _
    · exact .throw _
    · exact .throw _

private theorem findIn_within (name : String) (hs : List FrameRef) (s : System σ) :
    R s (stateAfter (findIn (s.thread t).id name hs) s) := by
  induction hs generalizing s with
  | nil => exact refl_of R s
  | cons h hs ih =>
    rw [findIn, stateAfter_get_bind]
    split
    · exact ih s
    · refine Within.bindAt (allows.ask (.single (.frameVariable _ _))) fun r s' hr => ?_
      have asked := (stateAfter_of_ok hr).symm.trans (stateAfter_ask _ s)
      subst asked
      split
      · exact refl_of R _
      · exact ih _
      · exact refl_of R _
      · exact refl_of R _

theorem findVariable_within (name : String) : Within R (findVariable t name : Client σ _) :=
  .get_bind fun s => by
    by_cases hs : (s.thread t).isSuspended
    · simp only [hs, if_true]
      refine Within.bindAt (Within.attempt (stackFrames_within allows) s) fun r s' hr => ?_
      have looked : IdlePath s s' := stateAfter_of_ok hr ▸ Within.attempt (computeFrames_idle t false) s
      cases r with
      | ok frames =>
        rw [← looked.id t]
        exact findIn_within allows name frames s'
      | error e => exact Within.ite (.pure _) (.throw _) s'
    · simp only [hs]
      exact refl_of R s

/-! ## Questions -/

theorem threadName_within : Within R (threadName t : Client σ _) :=
  .get_bind fun _ => allows.askFor (.single .threadName)

theorem threadPriority_within : Within R (threadPriority t : Client σ _) :=
  .get_bind fun _ => allows.askFor (.single .threadPriority)

omit allows [IsPreorder (System σ) R] in
private theorem groupOf_inquires (id : ThreadId) : Inquires id (do
    match ← Session.threadGroup id with
    | some group => return some (← Session.groupName group)
    | none => return none : Call σ (Option String)) :=
  .bind (Inquires.single .threadGroup) fun group => by
    cases group with
    | none => exact .pure _
    | some group => exact .bind (Inquires.single (.groupName group)) fun _ => .pure _

theorem threadGroupName_within : Within R (threadGroupName t : Client σ _) :=
  .get_bind fun s => by
    dsimp only
    split
    · exact refl_of R s
    · refine Within.bindAt (allows.askFor (groupOf_inquires _)) fun name s' _ => ?_
      exact Within.bind (.modify fun s => allows.groupName s name) (fun _ => .pure _) s'

theorem ownedMonitors_within : Within R (ownedMonitors t : Client σ _) :=
  .get_bind fun s => allows.askThen (.single .ownedMonitors) fun r => by
    split
    · exact .pure _
    · exact .pure _
    · exact .throw _

theorem hasOwnedMonitors_within : Within R (hasOwnedMonitors t : Client σ _) :=
  .get_bind fun s => by
    by_cases hs : (s.thread t).isSuspended
    · simp only [hs, if_true]
      exact Within.bind (ownedMonitors_within allows) (fun _ => .pure _) s
    · simp only [hs]
      exact refl_of R s

theorem contendedMonitor_within : Within R (contendedMonitor t : Client σ _) :=
  .get_bind fun s => allows.askThen (.single .contendedMonitor) fun r => by
    split
    · exact .pure _
    · exact .pure _
    · exact .throw _

theorem isOutOfSync_within : Within R (isOutOfSync t : Client σ _) :=
  .bind .needTarget fun _ => .get_bind fun s => by
    split
    · exact Within.bind (stackFrames_within allows) (fun _ => .get_bind fun _ => refl_of R _) s
    · exact refl_of R s

theorem canStep_within : Debug.Within R (canStep t : Debug σ _) := canStep_looking (stackFrames_within allows)

theorem canStepWithFilters_within : Debug.Within R (canStepWithFilters t : Debug σ _) :=
  canStepWithFilters_looking (stackFrames_within allows)

theorem canDropToFrame_within (frame : FrameRef) : Debug.Within R (canDropToFrame t frame : Debug σ _) :=
  canDropToFrame_looking (stackFrames_within allows) frame

end

section

variable (t : ThreadRef)

theorem stackFrames_idle : Within IdlePath (stackFrames t : Client σ _) :=
  stackFrames_within (idlePath_allowsLooks t)

theorem newStackFrames_idle : Within IdlePath (newStackFrames t : Client σ _) :=
  newStackFrames_within (idlePath_allowsLooks t)

theorem topFrame_idle : Within IdlePath (topFrame t : Client σ _) := topFrame_within (idlePath_allowsLooks t)

theorem hasStackFrames_idle : Within IdlePath (hasStackFrames t : Client σ _) :=
  hasStackFrames_within (idlePath_allowsLooks t)

theorem frameCount_idle : Within IdlePath (frameCount t : Client σ _) :=
  frameCount_within (idlePath_allowsLooks t)

theorem findVariable_idle (name : String) : Within IdlePath (findVariable t name : Client σ _) :=
  findVariable_within (idlePath_allowsLooks t) name

theorem threadName_idle : Within IdlePath (threadName t : Client σ _) :=
  threadName_within (idlePath_allowsLooks t)

theorem threadPriority_idle : Within IdlePath (threadPriority t : Client σ _) :=
  threadPriority_within (idlePath_allowsLooks t)

theorem threadGroupName_idle : Within IdlePath (threadGroupName t : Client σ _) :=
  threadGroupName_within (idlePath_allowsLooks t)

theorem ownedMonitors_idle : Within IdlePath (ownedMonitors t : Client σ _) :=
  ownedMonitors_within (idlePath_allowsLooks t)

theorem hasOwnedMonitors_idle : Within IdlePath (hasOwnedMonitors t : Client σ _) :=
  hasOwnedMonitors_within (idlePath_allowsLooks t)

theorem contendedMonitor_idle : Within IdlePath (contendedMonitor t : Client σ _) :=
  contendedMonitor_within (idlePath_allowsLooks t)

theorem isOutOfSync_idle : Within IdlePath (isOutOfSync t : Client σ _) :=
  isOutOfSync_within (idlePath_allowsLooks t)

theorem canStep_idle : Debug.Within IdlePath (canStep t : Debug σ _) :=
  canStep_within (idlePath_allowsLooks t)

theorem canStepWithFilters_idle : Debug.Within IdlePath (canStepWithFilters t : Debug σ _) :=
  canStepWithFilters_within (idlePath_allowsLooks t)

theorem canDropToFrame_idle (frame : FrameRef) : Debug.Within IdlePath (canDropToFrame t frame : Debug σ _) :=
  canDropToFrame_within (idlePath_allowsLooks t) frame

end

/-! ## Resuming and suspending -/

private theorem plain_fire_path (source : Element) {a : Announcement}
    (h : (a.event source).detail.isStep = false) (s : System σ) : Path s (s.fire source a) :=
  Path.single (.fire fun _ => h)

private theorem stopAndTell_path (s : System σ) (t : ThreadRef) :
    Path s ((s.stopRunning t).fire (s.element t) (.suspend .clientRequest)) :=
  (Path.single (.stop s t)).trans (plain_fire_path _ rfl _)

section

variable {R : System σ → System σ → Prop} [IsPreorder (System σ) R] {t : ThreadRef}

private theorem askToRun_within (id : ThreadId)
    (called : ∀ s, R s { s with session := stateAfter (Session.resumeThread id) s.session })
    (bury : ∀ s, R s (s.bury t))
    (stop : ∀ s, R s ((s.stopRunning t).fire (s.element t) (.suspend .clientRequest))) :
    Within R (ask (Session.resumeThread id) >>= fun r =>
      match r with
      | .ok () => pure ()
      | .error .disconnected => modify (·.bury t)
      | .error e => do
        modify fun s => (s.stopRunning t).fire (s.element t) (.suspend .clientRequest)
        throw (.session "resuming thread" e) : Client σ Unit) := by
  refine .bind (.ask called) fun r => ?_
  split
  · exact .pure _
  · exact .modify bury
  · exact .bind (.modify stop) fun _ => .throw _

/-- A thread that is resumed runs, and stops again if the machine refuses to resume it. -/
theorem resumeThread_within {s : System σ} (notify : Bool)
    (called : ∀ s₁, R s₁ { s₁ with session := stateAfter (Session.resumeThread (s.thread t).id) s₁.session })
    (run : (s.thread t).isSuspended → R s (s.startRunning t))
    (tell : ∀ s, R s (s.fire (s.element t) (.resume .clientRequest))) (bury : ∀ s, R s (s.bury t))
    (stop : ∀ s, R s ((s.stopRunning t).fire (s.element t) (.suspend .clientRequest))) :
    R s (stateAfter (resumeThread t notify) s) := by
  have asked := askToRun_within (s.thread t).id called bury stop
  rw [resumeThread, stateAfter_get_bind]
  by_cases hs : (s.thread t).isSuspended
  · simp only [hs, if_true]
    rw [stateAfter_modify_bind]
    cases notify with
    | false => exact trans_of R (run hs) (asked _)
    | true => exact trans_of R (run hs) (trans_of R (tell _) (asked _))
  · simp only [hs]
    exact refl_of R s

end

theorem resumeThread_path (t : ThreadRef) (notify : Bool) :
    Within Path (resumeThread t notify : Client σ _) := fun s =>
  resumeThread_within notify (fun _ => Path.single (.exchange (.resumeThread _ _)))
    (fun _ => Path.single (.run s t)) (fun s => plain_fire_path _ rfl s)
    (fun s => Path.single (.bury s t)) (stopAndTell_path · t)

theorem resume_path (t : ThreadRef) : Within Path (resume t : Client σ _) :=
  resumeThread_path t true

theorem resumeQuietly_path (t : ThreadRef) : Within Path (resumeQuietly t : Client σ _) :=
  resumeThread_path t false

theorem abortStep_path (t : ThreadRef) : Debug.Within Path (abortStep t : Debug σ _) :=
  fun s => Path.single (.abort s t)

theorem suspend_path (t : ThreadRef) : Within WatchPath (suspend t : Client σ _) :=
  .bind (.act fun s => (abortStep_path t s).watchPath) fun _ => .get_bind fun s => by
    split
    · exact .refl
    · refine Within.bind (.modify fun s => .single (.watching (.suspending s t true))) (fun _ => ?_) s
      exact .modifyGet fun s => .aside (core_wake _ _)

/-- The threads that suspend requests and evaluations are about. -/
def System.charges (s : System σ) : List ThreadRef :=
  s.watches.toList.map (·.thread) ++ s.evaluations.toList.map (·.thread)

omit [Session σ] in
theorem charges_setWatch (s : System σ) (n : Nat) (state : WatchState) : (s.setWatch n state).charges = s.charges :=
  congrArg (· ++ _) (map_modify s.watches n fun _ => rfl)

omit [Session σ] in
theorem charges_setEvaluation (s : System σ) (n : Nat) {f : EvaluationTask → EvaluationTask}
    (h : ∀ e, (f e).thread = e.thread) : (s.setEvaluation n f).charges = s.charges :=
  congrArg (_ ++ ·) (map_modify s.evaluations n h)

/-- A relation that allows what a watch does for its thread, which has that number. -/
structure AllowsWatch (R : System σ → System σ → Prop) (t : ThreadRef) (id : ThreadId) : Prop where
  suspendThread (s : System σ) : R s { s with session := stateAfter (Session.suspendThread id) s.session }
  threadIsSuspended (s : System σ) :
    R s { s with session := stateAfter (Session.threadIsSuspended id) s.session }
  aside {s s' : System σ} (h : s'.core = s.core) (charges : s'.charges = s.charges) : R s s'
  suspending (s : System σ) : R s (s.mapThread t fun th => { th with suspending := false })
  stop (s : System σ) : R s ((s.stopRunning t).fire (s.element t) (.suspend .clientRequest))
  bury (s : System σ) : R s (s.bury t)

section

variable {R : System σ → System σ → Prop} [IsPreorder (System σ) R] {t : ThreadRef} {id : ThreadId}

private theorem poll_within (allows : AllowsWatch R t id) (deadline : Nat) :
    Debug.Within R (Watch.poll id deadline : Debug σ _) :=
  .bind (.ask allows.threadIsSuspended) fun r => by
    split
    · exact .pure _
    · exact .pure _
    · exact .pure _
    · refine .get_bind fun s => ?_
      dsimp only
      split
      · exact allows.aside (by rfl) (by rfl)
      · exact refl_of R s

private theorem look_within (allows : AllowsWatch R t id) (cancelled : Bool) (state : WatchState) :
    Debug.Within R (Watch.look id cancelled state : Debug σ _) := by
  cases state with
  | done r => exact .pure _
  | asking =>
    cases cancelled with
    | true => exact .pure _
    | false =>
      refine .bind (.ask allows.suspendThread) fun r => ?_
      split
      · exact fun s => poll_within allows _ s
      · exact .pure _
      · exact .pure _
  | polling deadline =>
    cases cancelled with
    | true => exact .pure _
    | false => exact poll_within allows deadline

private theorem settleWatch_within (allows : AllowsWatch R t id) (r : Except DebugError SuspendOutcome)
    (s : System σ) : R s (Watch.settle t r s) := by
  unfold Watch.settle
  split
  · exact allows.stop _
  · exact allows.stop _
  · exact allows.bury _
  · exact refl_of R _

private theorem afterLook_within (allows : AllowsWatch R t id) (n : Nat) (l : Watch.Look) :
    Debug.Within R (match l with
      | .sleep deadline pause =>
        modify fun s => { s.setWatch n (.polling deadline) with
          sleeping := s.sleeping ++ [(s.now + pause, .watch n)] }
      | .over result => do
        modify fun s => s.mapThread t fun th => { th with suspending := false }
        modify (Watch.settle t result)
        modify (·.setWatch n (.done result)) : Debug σ Unit) := by
  cases l with
  | sleep deadline pause => exact .modify fun s => allows.aside (by rfl) (charges_setWatch s n _)
  | «over» result =>
    refine .bind (.modify allows.suspending) fun _ => ?_
    refine .bind (.modify (settleWatch_within allows _)) fun _ => ?_
    exact .modify fun s => allows.aside (by rfl) (charges_setWatch s n _)

/-- A watch asks for its thread to be suspended, looks whether it is, and settles the matter. -/
theorem runWatch_within {n : Nat} {s : System σ}
    (allows : ∀ w, s.watches[n]? = some w → AllowsWatch R w.thread (s.thread w.thread).id) :
    R s (runWatch n s).2 := by
  rw [runWatch, run_get_bind]
  rcases h : s.watches[n]? with _ | ⟨t, state, cancelled⟩
  · exact refl_of R s
  have allows := allows _ h
  have rest := afterLook_within allows n
  cases state with
  | done r => exact refl_of R s
  | asking => exact Debug.Within.bind (look_within allows cancelled .asking) rest s
  | polling deadline => exact Debug.Within.bind (look_within allows cancelled (.polling deadline)) rest s

end

theorem runWatch_path (n : Nat) : Debug.Within WatchPath (runWatch n : Debug σ _) := fun _ =>
  runWatch_within fun w _ =>
    { suspendThread := fun s => .single (.change (.exchange (.suspendThread _ s.session)))
      threadIsSuspended := fun s => .single (.change (.exchange (.threadIsSuspended _ s.session)))
      aside := fun h _ => .aside h
      suspending := fun s => .single (.watching (.suspending s w.thread false))
      stop := fun s => (stopAndTell_path s w.thread).watchPath
      bury := fun s => .single (.change (.bury s w.thread)) }

theorem cancelWatch_path (n : Nat) : Debug.Within WatchPath (cancelWatch n : Debug σ _) :=
  .get_bind fun s => by
    rcases s.watches[n]? with _ | ⟨t, state, cancelled⟩
    · exact .refl
    cases state with
    | done r => exact .refl
    | asking => exact .aside (core_wake _ _)
    | polling deadline => exact .aside (core_wake _ _)

/-! ## Invocations -/

section

variable {t : ThreadRef} {target : InvokeTarget} {method : MethodRef} {args : List Value}
  {nonvirtual : Bool} {s : System σ}

/-- A thread that invokes already is told so, and nothing changes. -/
theorem beginInvocation_nested (alive : s.targetAlive) (hi : (s.thread t).invoking) :
    beginInvocation t target method args nonvirtual s = .error .nested s := by
  rw [beginInvocation]
  simp only [bind, EStateM.bind, needTarget_alive alive, get_run, hi]
  rfl

/-- An invocation begins with a task that is ready to make the call. -/
theorem beginInvocation_ok (alive : s.targetAlive) (hi : (s.thread t).invoking = false)
    (hs : (s.thread t).isSuspended) :
    ∃ call, beginInvocation t target method args nonvirtual s = .ok s.invocations.size
      ((s.enterInvocation t call).wake (.invocation s.invocations.size)) := by
  let call : Invocation := ⟨(s.thread t).id, target, method, args, ⟨true, nonvirtual⟩⟩
  let lifted := ((s.mapThread t fun th => { th with invoking := true }).startRunning t).liftTimeout
  have ran : beginInvocation t target method args nonvirtual s = .ok lifted.invocations.size
      ((s.enterInvocation t call).wake (.invocation lifted.invocations.size)) := by
    rw [beginInvocation]
    simp only [bind, EStateM.bind, needTarget_alive alive, get_run, hi, hs]
    rfl
  have kept : lifted.invocations = s.invocations :=
    (congrArg System.invocations (System.liftTimeout_rest _ s.session) :)
  rw [kept] at ran
  exact ⟨call, ran⟩

end

/-- An invocation begins in a suspended thread that does not invoke yet, or is refused and changes
nothing. -/
theorem beginInvocation_cases (t : ThreadRef) (target : InvokeTarget) (method : MethodRef)
    (args : List Value) (nonvirtual : Bool) (s : System σ) :
    (∃ e, beginInvocation t target method args nonvirtual s = .error e s) ∨
    s.targetAlive ∧ (s.thread t).invoking = false ∧ (s.thread t).isSuspended ∧ ∃ call,
      beginInvocation t target method args nonvirtual s = .ok s.invocations.size
        ((s.enterInvocation t call).wake (.invocation s.invocations.size)) := by
  cases alive : s.targetAlive with
  | false =>
    refine .inl ⟨.targetGone, ?_⟩
    rw [beginInvocation]
    simp only [bind, EStateM.bind, needTarget_gone alive]
  | true =>
    cases hi : (s.thread t).invoking with
    | true => exact .inl ⟨.nested, beginInvocation_nested alive hi⟩
    | false =>
      cases hs : (s.thread t).isSuspended with
      | true => exact .inr ⟨rfl, rfl, rfl, beginInvocation_ok alive hi hs⟩
      | false =>
        refine .inl ⟨.evaluationNotSuspended, ?_⟩
        rw [beginInvocation]
        simp only [bind, EStateM.bind, needTarget_alive alive, get_run, hi, hs]
        rfl

theorem beginInvocation_path (t : ThreadRef) (target : InvokeTarget) (method : MethodRef)
    (args : List Value) (nonvirtual : Bool) :
    Within Path (beginInvocation t target method args nonvirtual : Client σ _) := by
  intro s
  rcases beginInvocation_cases t target method args nonvirtual s with ⟨e, h⟩ | ⟨alive, hi, hs, call, h⟩
  · rw [stateAfter_of_error h]
  · rw [stateAfter_of_ok h]
    exact (Path.single (.beginInvocation call alive hi hs)).trans (wake_path _ rfl)

/-- A call is advanced by calls of its invocation. -/
theorem advanceCall_eq (call : Invocation) (state : InvocationState) (s : System σ) :
    ∃ r m, Relation.ReflTransGen (Calling call) s.session m ∧
      (advanceCall call state : Debug σ _) s = (r, { s with session := m }) := by
  have invoked (s : System σ) : ∃ r m, Relation.ReflTransGen (Calling call) s.session m ∧
      (some <$> ask (Session.invoke call) : Debug σ _) s = (r, { s with session := m }) := by
    obtain ⟨r, h⟩ := ask_answer (Session.invoke call) s
    refine ⟨some r, _, .single (.invoke _), ?_⟩
    exact congrArg (fun p : Except SessionError Value × System σ => (some p.1, p.2)) h
  cases state with
  | done r => exact ⟨some r, s.session, .refl, rfl⟩
  | held => exact ⟨none, s.session, .refl, rfl⟩
  | letIn => exact invoked s
  | calling =>
    obtain ⟨answer, h⟩ := ask_answer (Session.accept call) s
    have asked : Relation.ReflTransGen (Calling call) s.session _ := .single (.accept s.session)
    rw [advanceCall, run_bind h]
    rcases answer with e | _ | _
    · exact ⟨_, _, asked, rfl⟩
    · exact ⟨none, _, asked, rfl⟩
    · obtain ⟨r, m, path, h⟩ := invoked { s with session := stateAfter (Session.accept call) s.session }
      exact ⟨r, m, asked.trans path, h⟩

omit [Session σ] in
private theorem updateFrames_setInvocation (s : System σ) (t : ThreadRef) (remote : List RemoteFrame)
    (n : Nat) (state : InvocationState) :
    (s.setInvocation n state).updateFrames t remote = (s.updateFrames t remote).setInvocation n state := by
  have same : (s.setInvocation n state).thread t = s.thread t := rfl
  unfold System.updateFrames
  dsimp only
  rw [same]
  split <;> rfl

/-- A look at a stack is the same whatever becomes of an invocation. -/
theorem IdlePath.setInvocation {s s' : System σ} (n : Nat) (state : InvocationState) (h : IdlePath s s') :
    IdlePath (s.setInvocation n state) (s'.setInvocation n state) := by
  induction h with
  | refl => exact .refl
  | tail _ hc ih =>
    refine ih.tail ?_
    cases hc with
    | exchange h => exact .exchange h
    | fire h => exact .fire h
    | @refresh t remote session hs h =>
      rw [← updateFrames_setInvocation]
      exact .refresh hs h
    | preserve t => exact .preserve _ t
    | pop t frame => exact .pop _ t frame
    | groupName t name => exact .groupName _ t name

omit [Session σ] in
private theorem stepping_dropped (s : System σ) (t : ThreadRef) :
    ((s.mapThread t (·.setStepping none)).thread t).stepping = none := by
  rw [System.thread_mapThread]
  split
  · rfl
  · rename_i h
    rw [System.thread_of_size_le (Nat.le_of_not_lt fun hl => h ⟨rfl, hl⟩)]
    rfl

/-- Once the step of a thread is aborted there is none. -/
theorem abortStep_stepping (t : ThreadRef) (s : System σ) :
    ((abortStep t s).2.thread t).stepping = none := by
  cases h : (s.thread t).stepping with
  | none =>
    rw [abortStep_none h]
    exact h
  | some stepping =>
    rw [abortStep_some h, deleteStepRequest_state]
    exact stepping_dropped s t

/-- The end of an invocation: its thread is restored and its task is over. -/
theorem restoreThread_path {s : System σ} {n : Nat} {task : InvocationTask}
    (result : Except SessionError Value) (h : s.invocations[n]? = some task)
    (pending : task.state.isDone = false) :
    Path s ((restoreThread task.thread s).2.setInvocation n (.done result)) := by
  have aborted := abortStep_path task.thread s
  have kept : (abortStep task.thread s).2.invocations[n]? = some task :=
    (congrArg System.invocations (abortStep_rest task.thread s s.session) :) ▸ h
  have left := Change.endInvocation result kept pending (abortStep_stepping task.thread s)
  have looked := Debug.Within.attempt (stackFrames_idle task.thread)
    ((((abortStep task.thread s).2.stopRunning task.thread).mapThread task.thread
      fun th => { th with invoking := false }).restoreTimeout)
  exact (aborted.tail left).trans (looked.setInvocation n (.done result)).path

/-- An invocation that is not over makes its call, and then is held back or restores its thread. -/
theorem runInvocation_pending {s : System σ} {n : Nat} {task : InvocationTask}
    (h : s.invocations[n]? = some task) (pending : task.state.isDone = false) :
    ∃ m, Relation.ReflTransGen (Calling task.call) s.session m ∧
      ((runInvocation n s).2 = { s with session := m }.setInvocation n .held ∨
        ∃ result p, (runInvocation n s).2 =
          ((restoreThread task.thread { s with session := m }).2.setInvocation n (.done result)).wakeEvaluations
            p) := by
  obtain ⟨t, call, state⟩ := task
  obtain ⟨r, m, asked, called⟩ := advanceCall_eq call state s
  refine ⟨m, asked, ?_⟩
  rw [runInvocation, run_get_bind, h]
  cases state with
  | done r => cases pending
  | _ =>
    dsimp only
    rw [run_bind called]
    cases r with
    | none => exact .inl rfl
    | some result => exact .inr ⟨result, _, rfl⟩

/-- The same of any invocation: one that is over, or never was, does nothing. -/
theorem runInvocation_cases (n : Nat) (s : System σ) :
    (runInvocation n s).2 = s ∨ ∃ task, s.invocations[n]? = some task ∧ task.state.isDone = false ∧
      ∃ m, Relation.ReflTransGen (Calling task.call) s.session m ∧
        ((runInvocation n s).2 = { s with session := m }.setInvocation n .held ∨
          ∃ result p, (runInvocation n s).2 =
            ((restoreThread task.thread { s with session := m }).2.setInvocation n
              (.done result)).wakeEvaluations p) := by
  rcases h : s.invocations[n]? with _ | ⟨t, call, state⟩
  · refine .inl ?_
    rw [runInvocation, run_get_bind, h]
    rfl
  · cases pending : state.isDone with
    | false => exact .inr ⟨⟨t, call, state⟩, rfl, pending, runInvocation_pending h pending⟩
    | true =>
      refine .inl ?_
      rw [runInvocation, run_get_bind, h]
      cases state with
      | done r => rfl
      | _ => cases pending

theorem runInvocation_path (n : Nat) : Debug.Within Path (runInvocation n : Debug σ _) := by
  intro s
  rcases runInvocation_cases n s with same | ⟨task, h, pending, m, calling, ran | ⟨result, p, ran⟩⟩
  · rw [same]
  all_goals
    have asked : Path s { s with session := m } :=
      rel_session (Relation.ReflTransGen.mono (fun _ _ => Calling.exchange) _ _ calling)
    rw [ran]
  · exact asked.tail (.holdInvocation (s := { s with session := m }) h pending rfl)
  · have restored := restoreThread_path (s := { s with session := m }) result h pending
    exact (asked.trans restored).trans (wakeEvaluations_path _ p)

private theorem letIn_path (s : System σ) (found : Option Nat) :
    (∀ n ∈ found, ∃ task, s.invocations[n]? = some task ∧ task.state.isDone = false) →
    Path s ((match found with
      | none => return false
      | some n => do
        modify fun s => (s.setInvocation n .letIn).wake (.invocation n)
        return true : Debug σ Bool) s).2 := by
  intro h
  cases found with
  | none => exact .refl
  | some n =>
    obtain ⟨task, hi, pending⟩ := h n rfl
    exact (Path.single (.holdInvocation hi pending rfl)).trans (wake_path _ rfl)

theorem letInHeld_path : Debug.Within Path (letInHeld : Debug σ _) :=
  .get_bind fun s => letIn_path s _ fun n hn => by
    obtain ⟨hl, held, -⟩ := Array.findIdx?_eq_some_iff_getElem.mp hn
    refine ⟨_, Array.getElem?_eq_getElem hl, ?_⟩
    revert held
    cases s.invocations[n].state <;> simp [InvocationState.isDone]

/-! ## Evaluations -/

omit [Session σ] in
/-- What an evaluation announces is not about a step, if that is so for all of them. -/
private theorem plain_of_mem {s : System σ} {n : Nat} {e : EvaluationTask}
    (he : s.evaluations[n]? = some e) (h : s.PlainEvaluations) : e.detail.isStep = false := by
  refine h e.detail (List.mem_map.mpr ⟨e, ?_, rfl⟩)
  exact Array.mem_toList_iff.mpr (Array.mem_of_getElem? he)

private theorem setEvaluation_path (s : System σ) (n : Nat) (f : EvaluationTask → EvaluationTask)
    (hf : ∀ e, (f e).detail = e.detail) : EvaluationPath s (s.setEvaluation n f) :=
  .single (.evaluating (.tasks (map_modify s.evaluations n hf ▸ List.prefix_refl _)))

theorem terminateEvaluation_path (t : ThreadRef) :
    Debug.Within EvaluationPath (terminateEvaluation t : Debug σ _) :=
  .get_bind fun s => by
    rcases (s.thread t).evaluation with _ | e
    · exact .refl
    · exact .head (.evaluating (.mark s t _)) (wakeEvaluations_path _ _).evaluationPath

theorem evaluate_path (t : ThreadRef) (detail : EventDetail) (honors : Bool) (body : EvaluationBody) :
    Debug.Within EvaluationPath (evaluate t detail honors body : Debug σ _) :=
  .modifyGet fun s => by
    refine .head (.evaluating (.tasks ?_)) (wake_path _ rfl).evaluationPath
    simp [System.evaluationDetails]

theorem finishEvaluation_path (n : Nat) : Debug.Within EvaluationPath (finishEvaluation n : Debug σ _) :=
  .get_bind fun s => by
    rcases s.evaluations[n]? with _ | ⟨t, detail, honors, body, token, finish, state⟩
    · exact .refl
    have go : EvaluationPath s ((s.setEvaluation n fun e => { e with finish := true }).wake (.evaluation n)) :=
      (setEvaluation_path s n (fun e => { e with finish := true }) fun _ => rfl).trans (wake_path _ rfl).evaluationPath
    cases state with
    | done r => exact .refl
    | starting => exact go
    | waiting => exact go
    | invoking m => exact go

private theorem endEvaluation_path {s : System σ} (t : ThreadRef) {detail : EventDetail}
    (h : s.PlainEvaluations → detail.isStep = false) : EvaluationPath s (s.endEvaluation t detail) :=
  .head (.evaluating (.mark s t none)) (.single (.change (.fire h)))

private theorem beginEvaluation_path {s : System σ} (t : ThreadRef) {detail : EventDetail}
    (honors : Bool) (h : s.PlainEvaluations → detail.isStep = false) :
    EvaluationPath s (stateAfter (beginEvaluation t detail honors) s) := by
  refine Within.get_bindAt ?_
  cases (s.thread t).evaluation with
  | some e => exact .refl
  | none =>
    have h₁ : EvaluationPath s { s with nextToken := s.nextToken + 1 } := .single (.change (.aside rfl rfl))
    exact (h₁.tail (.evaluating (.mark _ t _))).tail (.change (.fire h))

private theorem evaluateInside_path {s : System σ} (t : ThreadRef) {detail : EventDetail}
    (h : s.PlainEvaluations → detail.isStep = false) :
    EvaluationPath s (stateAfter (evaluateInside t detail) s) :=
  Within.bindAt (beginEvaluation_path t true h) fun n s' hb => by
    have hs : EvaluationPath s s' := stateAfter_of_ok hb ▸ beginEvaluation_path t true h
    exact endEvaluation_path t fun hp => h (hs.plainEvaluations hp)

private theorem startBody_path {s : System σ} {e : EvaluationTask}
    (h : s.PlainEvaluations → e.detail.isStep = false) : EvaluationPath s (startBody e s).2 := by
  obtain ⟨t, detail, honors, body, token, finish, state⟩ := e
  cases body with
  | succeed => exact .refl
  | fail => exact .refl
  | wait => exact .refl
  | nest => exact (attempt_state (evaluateInside t detail) s).symm ▸ evaluateInside_path t h
  | invoke target method args nonvirtual =>
    refine Path.evaluationPath (Debug.Within.bind
      (.attempt (beginInvocation_path t target method args nonvirtual)) (fun r => ?_) s)
    cases r with
    | ok n => exact .pure _
    | error e => exact .pure _

/-- What a stretch of an evaluation comes to is noted, and its end is announced. -/
def Progress.note (n : Nat) (e : EvaluationTask) : Progress → Debug σ Unit
  | .stay state => modify (·.setEvaluation n fun e => { e with state })
  | .over result => modify fun s =>
    (s.endEvaluation e.thread e.detail).setEvaluation n fun e => { e with state := .done result }

private theorem progress_path {s : System σ} (n : Nat) {e : EvaluationTask} (p : Progress)
    (h : s.PlainEvaluations → e.detail.isStep = false) : EvaluationPath s (p.note n e s).2 := by
  cases p with
  | stay state => exact setEvaluation_path s n _ fun _ => rfl
  | «over» result => exact (endEvaluation_path e.thread h).trans (setEvaluation_path _ n _ fun _ => rfl)

theorem runEvaluation_path (n : Nat) : Debug.Within EvaluationPath (runEvaluation n : Debug σ _) :=
  .get_bind fun s => by
    rcases he : s.evaluations[n]? with _ | ⟨t, detail, honors, body, token, finish, state⟩
    · exact .refl
    have plain := plain_of_mem he
    cases state with
    | done r => exact .refl
    | waiting => exact progress_path n _ plain
    | invoking m => exact progress_path n _ plain
    | starting =>
      have hs := beginEvaluation_path (s := s) t honors plain
      cases hb : beginEvaluation t detail honors s with
      | error err s' =>
        rw [stateAfter_of_error hb] at hs
        dsimp only
        rw [run_bind (attempt_error hb)]
        exact hs.trans (setEvaluation_path s' n _ fun _ => rfl)
      | ok token s' =>
        rw [stateAfter_of_ok hb] at hs
        dsimp only
        rw [run_bind (attempt_ok hb)]
        have h₁ : EvaluationPath s _ := hs.trans (setEvaluation_path s' n (fun e => { e with token }) fun _ => rfl)
        have h₂ := startBody_path (e := ⟨t, detail, honors, body, token, finish, .starting⟩)
          fun hp => plain (h₁.plainEvaluations hp)
        dsimp only
        rw [run_modify_bind]
        rcases hp : startBody ⟨t, detail, honors, body, token, finish, .starting⟩
          (s'.setEvaluation n fun e => { e with token }) with ⟨p, s₂⟩
        rw [run_bind hp]
        rw [hp] at h₂
        have h₃ : EvaluationPath s s₂ := h₁.trans h₂
        cases p with
        | stay state => exact h₃.trans (setEvaluation_path s₂ n _ fun _ => rfl)
        | «over» result =>
          exact (h₃.trans (endEvaluation_path t fun hp => plain (h₃.plainEvaluations hp))).trans
            (setEvaluation_path _ n _ fun _ => rfl)

/-- Forgetting an evaluation part way. -/
theorem abandonEvaluation_path (n : Nat) : Debug.Within EvaluationPath (abandonEvaluation n : Debug σ _) :=
  .get_bind fun s => by
    rcases he : s.evaluations[n]? with _ | ⟨t, detail, honors, body, token, finish, state⟩
    · exact .refl
    have go : EvaluationPath s ((s.endEvaluation t detail).setEvaluation n fun e =>
        { e with state := .done (.error (.refused .cancelled "")) }) :=
      (endEvaluation_path t (plain_of_mem he)).trans (setEvaluation_path _ n _ fun _ => rfl)
    cases state with
    | done r => exact .refl
    | starting => exact setEvaluation_path s n _ fun _ => rfl
    | waiting => exact go
    | invoking m => exact go

end Debugger
