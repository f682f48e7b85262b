import Debugger.Proofs.ThreadChanges

/-! # The changes that steps make

What each part of a step does, as an equation for every way it can go, and from that the changes that a
step makes when the client starts it and when the machine reports a landing.
-/

namespace Debugger

variable {σ α : Type} [Session σ]

/-! ## Letting a stepping thread run -/

theorem letRun_asks (id : ThreadId) (forced : Bool) : Asks (letRun id forced : Call σ _) := by
  cases forced with
  | true => exact .bind (Asks.single (.forceReturn id)) fun _ => Asks.single (.resumeThread id)
  | false => exact .single (.resumeThread id)

theorem runStep_ok {t : ThreadRef} {forced : Bool} {s : System σ} {m : σ}
    (h : letRun (s.thread t).id forced s.session = .ok () m) :
    runStep t forced s = .ok () { s with session := m } := by
  rw [runStep, act_get_bind]
  simp only [bind, EStateM.bind, ask, act, h]
  rfl

/-- The system after a stepping thread could not be let run. -/
def System.stepFailed (s : System σ) (t : ThreadRef) (m : σ) : System σ :=
  (stepEnd t ((s.thread t).stepping.map (·.request)) { s with session := m }).2.flush

theorem runStep_error {t : ThreadRef} {forced : Bool} {s : System σ} {e : SessionError} {m : σ}
    (h : letRun (s.thread t).id forced s.session = .error e m) :
    runStep t forced s =
      .error (.session (if forced then "popping stack frame" else "stepping") e)
        (s.stepFailed t m) := by
  rw [runStep, act_get_bind]
  simp only [bind, EStateM.bind, ask, act, h]
  rfl

/-- How it goes when a stepping thread is let run. -/
theorem runStep_cases {t : ThreadRef} {stepping : Stepping} (forced : Bool) {s : System σ}
    (hp : (s.thread t).stepping = some stepping) :
    (∃ m, letRun (s.thread t).id forced s.session = .ok () m ∧
      runStep t forced s = .ok () { s with session := m } ∧ Path s { s with session := m }) ∨
    (∃ e m, letRun (s.thread t).id forced s.session = .error e m ∧
      runStep t forced s = .error (.session (if forced then "popping stack frame" else "stepping") e)
        (s.stepFailed t m) ∧
      Path s { s with session := m } ∧
      StepFinish t { s with session := m } (stepEnd t (some stepping.request) { s with session := m }).2 ∧
      s.stepFailed t m = (stepEnd t (some stepping.request) { s with session := m }).2.flush) := by
  have asks := letRun_asks (σ := σ) (s.thread t).id forced s.session
  cases h : letRun (s.thread t).id forced s.session with
  | ok u m =>
    rw [stateAfter_of_ok h] at asks
    exact .inl ⟨m, rfl, runStep_ok h, rel_session asks⟩
  | error e m =>
    rw [stateAfter_of_error h] at asks
    refine .inr ⟨e, m, rfl, runStep_error h, rel_session asks, .finish hp, ?_⟩
    rw [System.stepFailed, hp]
    rfl

/-! ## Landing -/

namespace StepKind

/-- Whether the next leg of the step is run before the event set is done with. -/
def runsAtOnce : StepKind → Bool
  | .dropToFrame _ => true
  | _ => false

end StepKind

namespace Stepping

/-- The next request of a step under way. -/
def next (st : Stepping) (thread : ThreadId) : StepRequest :=
  Stepping.nextRequest st.kind st.origin st.filters st.requested thread

/-- Reads the number of frames if the judgement of a landing needs it. -/
def countFrames (st : Stepping) (thread : ThreadId) : Call σ (Option Nat) :=
  if st.needsFrameCount then some <$> Session.frameCount thread else return none

theorem detail_land (st : Stepping) (landing : Location) (frames : Option Nat) :
    (st.land landing frames).1.detail = st.kind.detail := by
  unfold land
  cases st.kind with
  | dropToFrame n => rfl
  | _ => rfl

end Stepping

omit [Session σ] in
theorem runsAtOnce_land (st : Stepping) (landing : Location) (frames : Option Nat) :
    (st.land landing frames).1.runsAtOnce = st.kind.runsAtOnce := by
  unfold Stepping.land
  cases st.kind with
  | dropToFrame n => rfl
  | _ => rfl

/-- A step that drops frames judges a landing without the number of frames. -/
theorem countFrames_runsAtOnce {st : Stepping} (h : st.kind.runsAtOnce)
    (id : ThreadId) (m : σ) : st.countFrames id m = .ok none m := by
  have uncounted : st.needsFrameCount = false := by
    unfold Stepping.needsFrameCount
    cases hk : st.kind with
    | dropToFrame n => rfl
    | _ =>
      rw [hk] at h
      cases h
  rw [Stepping.countFrames, uncounted]
  rfl

theorem id_leaveRequest (s : System σ) (t : ThreadRef) (request : RequestId) (u : ThreadRef) :
    ((s.leaveRequest t request).thread u).id = (s.thread u).id := by
  refine (System.id_mapThread (fun _ => by rfl) _ t u).trans ?_
  rw [deleteStepRequest_state]
  rfl

omit [Session σ] in
/-- The owner of the new request is noted only in a target that lives. -/
private theorem renewStep_eq (s : System σ) (t : ThreadRef) (st : Stepping) (m : σ) :
    s.renewStep t st m =
      (fun s' : System σ => if s'.targetAlive then
        { s' with stepOwners := s'.stepOwners.put st.request (s.thread t).id } else s')
          ({ s with session := m }.mapThread t (·.setStepping (some st))) := by
  cases h : s.targetAlive with
  | true =>
    rw [System.renewStep, h]
    exact (if_pos h).symm
  | false =>
    rw [System.renewStep, h]
    exact (if_neg (Bool.not_eq_true _ ▸ h)).symm

/-- A step goes on with another request, or is over because the machine refuses it. -/
theorem continueStep_eq (t : ThreadRef) (st : Stepping) (s : System σ) :
    continueStep t st s =
      match Session.createStepRequest (st.next (s.thread t).id) (s.leaveRequest t st.request).session with
      | .error _ m => (.staySuspended, (stepEnd t none { s.leaveRequest t st.request with session := m }).2)
      | .ok request m =>
        let s := (s.leaveRequest t st.request).renewStep t { st with request } m
        if st.kind.runsAtOnce then (.staySuspended, stateAfter (runStep t st.kind.forcesReturn) s)
        else (.resume, s) := by
  rw [continueStep, run_get_bind]
  dsimp only
  rw [run_bind (x := deleteStepRequest st.request) (a := ()) rfl, run_modify_bind]
  change (ask (Session.createStepRequest (st.next (s.thread t).id)) >>= _ : Debug σ _)
    (s.leaveRequest t st.request) = _
  cases h : Session.createStepRequest (st.next (s.thread t).id) (s.leaveRequest t st.request).session with
  | error e m =>
    rw [run_ask_error h]
    rfl
  | ok request m =>
    rw [run_ask_ok h]
    dsimp only
    rw [run_modify_bind, run_modify_bind]
    have renew := renewStep_eq (s.leaveRequest t st.request) t { st with request } m
    rw [id_leaveRequest] at renew
    dsimp only at renew ⊢
    rw [← renew]
    cases st.kind with
    | dropToFrame n =>
      simp only [StepKind.runsAtOnce, if_true]
      rw [← attempt_state]
      rfl
    | _ => rfl

/-- A landing that belongs to no pending request of the thread is passed over. -/
theorem landStep_stale {t : ThreadRef} {request : RequestId} {landing : Location} {s : System σ}
    (h : ∀ st, (s.thread t).stepping = some st → st.request ≠ request) :
    landStep t request landing s = (.resume, s) := by
  rw [landStep, run_get_bind]
  cases hp : (s.thread t).stepping with
  | none => rfl
  | some st =>
    dsimp only
    rw [if_pos (h st hp)]
    rfl

/-- A landing of the pending request ends the step or goes on with it. -/
theorem landStep_pending {t : ThreadRef} {st : Stepping} {landing : Location} {s : System σ}
    (hp : (s.thread t).stepping = some st) :
    landStep t st.request landing s =
      match st.countFrames (s.thread t).id s.session with
      | .error _ m => (.staySuspended, (stepEnd t (some st.request) { s with session := m }).2)
      | .ok frames m =>
        match st.land landing frames with
        | (_, .finish) => (.staySuspended, (stepEnd t (some st.request) { s with session := m }).2)
        | (kind, .continue) => continueStep t { st with kind } { s with session := m } := by
  rw [landStep, run_get_bind]
  simp only [hp]
  rw [if_neg (by simp)]
  have rest (frames : Option Nat) (s : System σ) :
      (match st.land landing frames with
        | (_, .finish) => do
          stepEnd t (some st.request)
          return .staySuspended
        | (kind, .continue) => continueStep t { st with kind } : Debug σ Disposition) s =
      match st.land landing frames with
        | (_, .finish) => (.staySuspended, (stepEnd t (some st.request) s).2)
        | (kind, .continue) => continueStep t { st with kind } s := by
    rcases st.land landing frames with ⟨kind, transition⟩
    cases transition with
    | finish => rfl
    | «continue» => rfl
  cases hn : st.needsFrameCount with
  | false =>
    simp only [Stepping.countFrames, hn]
    exact rest none s
  | true =>
    simp only [Stepping.countFrames, hn, if_true]
    let counted : Debug σ (Except SessionError (Option Nat)) := do
      return (← ask (Session.frameCount (s.thread t).id)).map some
    cases hc : Session.frameCount (s.thread t).id s.session with
    | error e m =>
      rw [run_bind (show counted s = (.error e, { s with session := m }) from run_ask_error hc)]
      simp only [Functor.map, EStateM.map, hc]
      rfl
    | ok n m =>
      rw [run_bind (show counted s = (.ok (some n), { s with session := m }) from run_ask_ok hc)]
      simp only [Functor.map, EStateM.map, hc]
      exact rest (some n) { s with session := m }

/-! ## What a landing comes to -/

/-- What follows from a landing from which a frame drop goes on: the system in which it lets its thread run, and whether
the thread is to leave its top frame. -/
def System.dropGoingOn (s : System σ) (t : ThreadRef) (request : RequestId) (landing : Location) :
    Option (System σ × Bool) :=
  match (s.thread t).stepping with
  | none => none
  | some st =>
    if st.request = request ∧ st.kind.runsAtOnce ∧ (st.land landing none).2 = .continue then
      let st := { st with kind := (st.land landing none).1 }
      match Session.createStepRequest (st.next (s.thread t).id) (s.leaveRequest t request).session with
      | .error _ _ => none
      | .ok next m => some ((s.leaveRequest t request).renewStep t { st with request := next } m, st.kind.forcesReturn)
    else none

section

variable {s s₂ : System σ} {t : ThreadRef} {request : RequestId} {landing : Location} {forced : Bool}

theorem dropGoingOn_pending {st : Stepping} {kind : StepKind} {next : RequestId} {m : σ}
    (hp : (s.thread t).stepping = some st) (atOnce : st.kind.runsAtOnce)
    (judged : st.land landing none = (kind, .continue))
    (renewed : Session.createStepRequest (Stepping.next { st with kind } (s.thread t).id)
      (s.leaveRequest t st.request).session = .ok next m) :
    s.dropGoingOn t st.request landing =
      some ((s.leaveRequest t st.request).renewStep t { st with kind, request := next } m, kind.forcesReturn) := by
  rw [System.dropGoingOn, hp]
  dsimp only
  rw [if_pos ⟨rfl, atOnce, by rw [judged]⟩, judged]
  dsimp only
  rw [renewed]

theorem dropGoingOn_cases (h : s.dropGoingOn t request landing = some (s₂, forced)) :
    ∃ st kind next m, (s.thread t).stepping = some st ∧ st.request = request ∧ st.kind.runsAtOnce ∧
      st.land landing none = (kind, .continue) ∧
      Session.createStepRequest (Stepping.next { st with kind } (s.thread t).id) (s.leaveRequest t request).session =
        .ok next m ∧
      s₂ = (s.leaveRequest t request).renewStep t { st with kind, request := next } m ∧ forced = kind.forcesReturn := by
  rw [System.dropGoingOn] at h
  split at h
  · cases h
  · rename_i st hp
    split at h
    · rename_i goes
      rcases judged : st.land landing none with ⟨kind, transition⟩
      rw [judged] at h goes
      obtain ⟨rfl, atOnce, rfl⟩ := goes
      dsimp only at h
      split at h
      · cases h
      · rename_i next m renewed
        cases h
        exact ⟨st, kind, next, m, hp, rfl, atOnce, judged, renewed, rfl, rfl⟩
    · cases h

/-- The drop goes on by letting its thread run. -/
theorem landStep_drop (h : s.dropGoingOn t request landing = some (s₂, forced)) :
    (landStep t request landing s).2 = stateAfter (runStep t forced) s₂ := by
  obtain ⟨st, kind, next, m, hp, rfl, atOnce, judged, renewed, rfl, rfl⟩ := dropGoingOn_cases h
  have same := runsAtOnce_land st landing none
  rw [judged] at same
  rw [landStep_pending hp, countFrames_runsAtOnce atOnce]
  dsimp only
  rw [judged]
  dsimp only
  rw [continueStep_eq]
  change (match Session.createStepRequest (Stepping.next { st with kind } (s.thread t).id)
    (s.leaveRequest t st.request).session with | _ => _ : Disposition × System σ).2 = _
  rw [renewed]
  dsimp only
  rw [if_pos (same.trans atOnce)]

/-- What a landing comes to. -/
inductive Lands (t : ThreadRef) (request : RequestId) (landing : Location) (s : System σ) : System σ → Prop
  /-- The thread has no step with that request. -/
  | stale (still : s.dropGoingOn t request landing = none) : Lands t request landing s s
  /-- The step is over. -/
  | ended {st : Stepping} {m : σ} (still : s.dropGoingOn t request landing = none)
    (pending : (s.thread t).stepping = some st) (same : st.request = request)
    (counted : stateAfter (st.countFrames (s.thread t).id) s.session = m) :
    Lands t request landing s (stepEnd t (some request) { s with session := m }).2
  /-- The step was to go on, but the machine takes no further request. -/
  | abandoned {st : Stepping} {m m' : σ} {wanted : StepRequest} {e : SessionError}
    (still : s.dropGoingOn t request landing = none)
    (pending : (s.thread t).stepping = some st) (same : st.request = request)
    (counted : stateAfter (st.countFrames (s.thread t).id) s.session = m)
    (refused : Session.createStepRequest wanted ({ s with session := m }.leaveRequest t request).session =
      .error e m') :
    Lands t request landing s
      (stepEnd t none { { s with session := m }.leaveRequest t request with session := m' }).2
  /-- The step goes on as soon as the machine does. -/
  | renewed {st next : Stepping} {m m' : σ} {wanted : StepRequest}
    (still : s.dropGoingOn t request landing = none)
    (pending : (s.thread t).stepping = some st) (same : st.request = request)
    (counted : stateAfter (st.countFrames (s.thread t).id) s.session = m)
    (detail : next.kind.detail = st.kind.detail) (thread : wanted.thread = (s.thread t).id)
    (made : Session.createStepRequest wanted ({ s with session := m }.leaveRequest t request).session =
      .ok next.request m') :
    Lands t request landing s (({ s with session := m }.leaveRequest t request).renewStep t next m')
  /-- A frame drop goes on at once. -/
  | dropped {s₂ : System σ} {forced : Bool} (goes : s.dropGoingOn t request landing = some (s₂, forced)) :
    Lands t request landing s (stateAfter (runStep t forced) s₂)

private theorem continueStep_lands {st : Stepping} {frames : Option Nat} {m : σ} {kind : StepKind}
    (still : s.dropGoingOn t st.request landing = none) (hp : (s.thread t).stepping = some st)
    (counted : st.countFrames (s.thread t).id s.session = .ok frames m)
    (judged : st.land landing frames = (kind, .continue)) :
    Lands t st.request landing s (continueStep t { st with kind } { s with session := m }).2 := by
  have same := runsAtOnce_land st landing frames
  have detail := st.detail_land landing frames
  rw [judged] at same detail
  rw [continueStep_eq]
  split
  case h_1 e m' refused => exact .abandoned still hp rfl (stateAfter_of_ok counted) refused
  case h_2 next m' made =>
    dsimp only
    split
    · -- a frame drop counts no frames, so it would be the one that goes on
      rename_i atOnce
      rw [countFrames_runsAtOnce (same.symm.trans atOnce)] at counted
      cases counted
      have goes := dropGoingOn_pending hp (same.symm.trans atOnce) judged made
      rw [still] at goes
      cases goes
    · exact .renewed still hp rfl (stateAfter_of_ok counted) detail rfl made

theorem landStep_lands (t : ThreadRef) (request : RequestId) (landing : Location) (s : System σ) :
    Lands t request landing s (landStep t request landing s).2 := by
  cases still : s.dropGoingOn t request landing with
  | some onward =>
    rw [landStep_drop still]
    exact .dropped still
  | none =>
    by_cases pending : ∃ st, (s.thread t).stepping = some st ∧ st.request = request
    · obtain ⟨st, hp, rfl⟩ := pending
      rw [landStep_pending hp]
      cases counted : st.countFrames (s.thread t).id s.session with
      | error e m => exact .ended still hp rfl (stateAfter_of_error counted)
      | ok frames m =>
        dsimp only
        rcases judged : st.land landing frames with ⟨kind, transition⟩
        cases transition with
        | finish => exact .ended still hp rfl (stateAfter_of_ok counted)
        | «continue» => exact continueStep_lands still hp counted judged
    · rw [landStep_stale fun st hp same => pending ⟨st, hp, same⟩]
      exact .stale still

end

/-! ## The changes of a landing -/

theorem size_leaveRequest (s : System σ) (t : ThreadRef) (request : RequestId) :
    (s.leaveRequest t request).threads.size = s.threads.size := by
  rw [System.leaveRequest, System.size_mapThread, deleteStepRequest_state]

omit [Session σ] in
theorem stepping_renewStep {s : System σ} {t : ThreadRef} (h : t < s.threads.size) (st : Stepping)
    (m : σ) : ((s.renewStep t st m).thread t).stepping = some st :=
  congrArg Thread.stepping (System.thread_mapThread_self h (·.setStepping (some st)))

/-- The end of a step that could not be let run. -/
theorem runStep_landing {t : ThreadRef} (st : Stepping) (forced : Bool) {s : System σ}
    (hp : (s.thread t).stepping = some st) : LandingPath s (stateAfter (runStep t forced) s) := by
  rcases runStep_cases forced hp with ⟨m, _, h, path⟩ | ⟨e, m, _, h, path, finish, eq⟩
  · rw [stateAfter_of_ok h]
    exact path.landingPath
  · rw [stateAfter_of_error h, eq]
    exact (path.landingPath.tail (.finish t finish)).tail (.change (.flush _))

theorem countFrames_asks (st : Stepping) (thread : ThreadId) :
    Asks (st.countFrames thread : Call σ _) := by
  unfold Stepping.countFrames
  split
  · exact .map some (Asks.single (.frameCount thread))
  · exact .pure _

theorem landStep_landing (t : ThreadRef) (request : RequestId) (landing : Location) :
    Debug.Within LandingPath (landStep t request landing : Debug σ _) := by
  intro s
  have called {st : Stepping} {m : σ} (counted : stateAfter (st.countFrames (s.thread t).id) s.session = m) :
      LandingPath s { s with session := m } := counted ▸ rel_session (countFrames_asks st _ s.session)
  have lands := landStep_lands t request landing s
  generalize (landStep t request landing s).2 = s' at lands ⊢
  cases lands with
  | stale => exact .refl
  | ended _ pending same counted =>
    subst same
    exact (called counted).tail (.finish t (.finish pending))
  | abandoned _ pending same counted refused =>
    subst same
    exact (called counted).tail (.finish t (.giveUp pending refused))
  | renewed _ pending same counted detail thread made =>
    subst same
    exact (called counted).tail (.change (.renewStep pending detail thread made))
  | dropped goes =>
    obtain ⟨st, kind, next, m, pending, rfl, -, judged, made, rfl, rfl⟩ := dropGoingOn_cases goes
    have detail := st.detail_land landing none
    rw [judged] at detail
    have renew : LandingPath s ((s.leaveRequest t st.request).renewStep t { st with kind, request := next } m) :=
      .single (.change (.renewStep pending detail rfl made))
    refine renew.trans (runStep_landing { st with kind, request := next } kind.forcesReturn ?_)
    refine stepping_renewStep ?_ { st with kind, request := next } m
    rw [size_leaveRequest]
    exact System.lt_size_of_stepping pending

/-! ## The changes of a step that the client starts -/

/-- What an operation that starts steps does: it looks about, or a step is under way then, or one was
and is over. -/
inductive Started : System σ → System σ → Prop
  | idle {s s' : System σ} (h : IdlePath s s') : Started s s'
  | running {s s₁ s₂ s' : System σ} (h₁ : IdlePath s s₁) (h₂ : StepStart s₁ s₂) (h₃ : Path s₂ s') :
    Started s s'
  | failed {s s₁ s₂ s₃ s' : System σ} {t : ThreadRef} (h₁ : IdlePath s s₁) (h₂ : StepStart s₁ s₂)
    (h₃ : Path s₂ s₃) (h₄ : StepFinish t s₃ s') : Started s s'.flush

theorem Started.after {s s₀ s' : System σ} (h : IdlePath s s₀) (hs : Started s₀ s') : Started s s' := by
  cases hs with
  | idle h₁ => exact .idle (h.trans h₁)
  | running h₁ h₂ h₃ => exact .running (h.trans h₁) h₂ h₃
  | failed h₁ h₂ h₃ h₄ => exact .failed (h.trans h₁) h₂ h₃ h₄

theorem Started.stepPath {s s' : System σ} (h : Started s s') : StepPath s s' := by
  cases h with
  | idle h => exact h.path.stepPath
  | running h₁ h₂ h₃ => exact (h₁.path.stepPath.tail (.start h₂)).trans h₃.stepPath
  | failed h₁ h₂ h₃ h₄ =>
    have h : StepPath s _ := (h₁.path.stepPath.tail (.start h₂)).trans h₃.stepPath
    exact (h.tail (.landing (.finish _ h₄))).tail (.landing (.change (.flush _)))

theorem IdlePath.alive {s s' : System σ} (h : IdlePath s s') : s'.targetAlive = s.targetAlive :=
  (congrArg System.targetAlive (h.rest s.session) :)

theorem IdlePath.isSuspended {s s' : System σ} (h : IdlePath s s') (t : ThreadRef) :
    (s'.thread t).isSuspended = (s.thread t).isSuspended :=
  (congrArg Thread.isSuspended (h.stance t) :)

theorem IdlePath.stepping {s s' : System σ} (h : IdlePath s s') (t : ThreadRef) :
    (s'.thread t).stepping = (s.thread t).stepping :=
  (congrArg Thread.stepping (h.stance t) :)

omit [Session σ] in
theorem thread_enterStep (s : System σ) (t : ThreadRef) (st : Stepping) (m : σ) (u : ThreadRef) :
    (s.enterStep t st m).thread u =
      (({ s with session := m }.mapThread t (·.setStepping (some st))).startRunning t).thread u :=
  System.thread_congr rfl u

omit [Session σ] in
theorem element_enterStep (s : System σ) (t : ThreadRef) (st : Stepping) (m : σ) :
    (s.enterStep t st m).element t = s.element t := by
  refine congrArg Element.thread ?_
  rw [thread_enterStep, System.startRunning_keeps (g := Thread.id) fun _ => rfl]
  exact System.id_mapThread (fun _ => by rfl) { s with session := m } t t

omit [Session σ] in
theorem stepping_enterStep {s : System σ} {t : ThreadRef} (h : t < s.threads.size) (st : Stepping)
    (m : σ) : ((s.enterStep t st m).thread t).stepping = some st := by
  rw [thread_enterStep, System.startRunning_keeps (g := Thread.stepping) fun _ => rfl]
  exact congrArg Thread.stepping
    (System.thread_mapThread_self (s := { s with session := m }) h (·.setStepping (some st)))

/-- A step starts once the machine has accepted its request. -/
private theorem enter_started {t : ThreadRef} (st : Stepping) {s : System σ} {m : σ}
    {wanted : StepRequest} (forced : Bool) (alive : s.targetAlive) (hs : (s.thread t).isSuspended)
    (hn : (s.thread t).stepping = none) (hf : (s.thread t).frames ≠ [])
    (hw : wanted.thread = (s.thread t).id)
    (h : Session.createStepRequest wanted s.session = .ok st.request m) :
    Started s (stateAfter (runStep t forced)
      ((s.enterStep t st m).fire (s.element t) (.resume st.kind.detail))) := by
  have start := StepStart.enter alive hs hn hf hw h
  have hp := stepping_enterStep (System.lt_size_of_frames hf) st m
  rcases runStep_cases forced (s := (s.enterStep t st m).fire (s.element t) (.resume st.kind.detail)) hp
    with ⟨m', _, hr, path⟩ | ⟨e, m', _, hr, path, finish, eq⟩
  · rw [stateAfter_of_ok hr]
    exact .running .refl start path
  · rw [stateAfter_of_error hr, eq]
    exact .failed .refl start path finish

/-- What becomes of a step once the stack is known. -/
theorem startStep_state {t : ThreadRef} (kind : StepKind) (filters : StepFilters) (requested : Bool)
    {s s₁ : System σ} {frames : List FrameRef} (alive : s.targetAlive)
    (h : stackFrames t s = .ok frames s₁) :
    stateAfter (startStep t kind filters requested) s =
      match frames.head?.bind s₁.frames.remote with
      | none => s₁
      | some top =>
        let origin : StepOrigin := ⟨kind.depth, top.location, frames.length⟩
        match Session.createStepRequest
          (Stepping.nextRequest kind origin filters requested (s₁.thread t).id) s₁.session with
        | .error _ m => { s₁ with session := m }
        | .ok request m => stateAfter (runStep t kind.forcesReturn)
          ((s₁.enterStep t ⟨kind, origin, request, filters, requested⟩ m).fire (s₁.element t)
            (.resume kind.detail)) := by
  rw [startStep, stateAfter_bind_ok (needTarget_alive alive), stateAfter_bind_ok h]
  change stateAfter (match frames.head?.bind s₁.frames.remote with
    | none => return
    | some top => _ : Client σ Unit) s₁ = _
  cases frames.head?.bind s₁.frames.remote with
  | none => rfl
  | some top =>
    dsimp only
    cases hc : Session.createStepRequest (Stepping.nextRequest kind
      ⟨kind.depth, top.location, frames.length⟩ filters requested (s₁.thread t).id) s₁.session with
    | error e m => exact stateAfter_bind_error (askFor_error hc)
    | ok request m =>
      rw [stateAfter_bind_ok (askFor_ok hc)]
      dsimp only
      rw [← element_enterStep s₁ t ⟨kind, ⟨kind.depth, top.location, frames.length⟩, request, filters,
        requested⟩ m]
      rfl

theorem startStep_started {t : ThreadRef} (kind : StepKind) (filters : StepFilters) (requested : Bool)
    {s : System σ} (hn : (s.thread t).stepping = none) :
    Started s (stateAfter (startStep t kind filters requested) s) := by
  cases ha : s.targetAlive with
  | false =>
    rw [startStep, stateAfter_bind_error (needTarget_gone ha)]
    exact .idle .refl
  | true =>
    have idle := stackFrames_idle t s
    cases hf : stackFrames t s with
    | error e s₁ =>
      rw [stateAfter_of_error hf] at idle
      rw [startStep, stateAfter_bind_ok (needTarget_alive ha), stateAfter_bind_error hf]
      exact .idle idle
    | ok frames s₁ =>
      rw [stateAfter_of_ok hf] at idle
      rw [startStep_state kind filters requested ha hf]
      refine .after idle ?_
      have known := computeFrames_ok hf
      cases hr : frames.head?.bind s₁.frames.remote with
      | none => exact .idle .refl
      | some top =>
        have hne : frames ≠ [] := by
          rintro rfl
          cases hr
        obtain ⟨hs, hk⟩ := known hne
        rw [← idle.isSuspended] at hs
        rw [← idle.alive] at ha
        rw [← idle.stepping] at hn
        rw [← hk] at hne
        dsimp only
        cases hc : Session.createStepRequest (Stepping.nextRequest kind
          ⟨kind.depth, top.location, frames.length⟩ filters requested (s₁.thread t).id) s₁.session with
        | error e m => exact .idle (.single (.exchange (.stepRefused hc)))
        | ok request m =>
          exact enter_started ⟨kind, ⟨kind.depth, top.location, frames.length⟩, request, filters,
            requested⟩ kind.forcesReturn ha hs hn hne rfl hc

/-! ## The operations that start steps -/

/-- Only a thread without a step under way can step. -/
theorem canStep_true {t : ThreadRef} {s s' : System σ} (h : canStep t s = (true, s')) :
    (s.thread t).stepping = none := by
  rw [canStep, run_get_bind] at h
  cases hp : (s.thread t).stepping with
  | none => rfl
  | some st =>
    simp only [hp, Option.isSome_some, Bool.or_true, if_true] at h
    cases h

/-- What is done after the question whether the thread can step. -/
private theorem canStepThen_started {t : ThreadRef} {op : Client σ Unit}
    (h : ∀ s, (s.thread t).stepping = none → Started s (stateAfter op s)) (s : System σ) :
    Started s (stateAfter (do if ← act (canStep t) then op : Client σ Unit) s) := by
  have idle := canStep_idle t s
  rcases hc : canStep t s with ⟨can, s'⟩
  rw [hc] at idle
  have hc' : (act (canStep t) : Client σ Bool) s = .ok can s' := by simp only [act, hc]
  rw [stateAfter_bind_ok hc']
  cases can with
  | false => exact .idle idle
  | true => exact .after idle (h s' (idle.stepping t ▸ canStep_true hc))

theorem step_started (t : ThreadRef) (kind : StepKind) (filters : StepFilters) (s : System σ) :
    Started s (stateAfter (step t kind filters) s) :=
  canStepThen_started (fun _ hn => startStep_started kind filters false hn) s

/-- What is done in a target that lives. -/
private theorem needTargetThen_started {op : Client σ Unit} (h : ∀ s, Started s (stateAfter op s))
    (s : System σ) : Started s (stateAfter (needTarget >>= fun _ => op) s) := by
  cases ha : s.targetAlive with
  | false =>
    rw [stateAfter_bind_error (needTarget_gone ha)]
    exact .idle .refl
  | true =>
    rw [stateAfter_bind_ok (needTarget_alive ha)]
    exact h s

theorem stepWithTargetFilters_started (t : ThreadRef) (kind : StepKind) (s : System σ) :
    Started s (stateAfter (stepWithTargetFilters t kind) s) := by
  rw [stepWithTargetFilters]
  refine needTargetThen_started (fun s => ?_) s
  rw [stateAfter_get_bind]
  exact step_started t kind s.filters s

theorem stepWithFilters_started (t : ThreadRef) (s : System σ) :
    Started s (stateAfter (stepWithFilters t) s) := by
  rw [stepWithFilters]
  refine needTargetThen_started (fun s => ?_) s
  rw [stateAfter_get_bind]
  dsimp only
  split
  · exact canStepThen_started (fun _ hn => startStep_started .into _ true hn) s
  · exact .idle .refl

theorem locate_within {R : System σ → System σ → Prop} [IsPreorder (System σ) R] {t : ThreadRef}
    (allows : AllowsLooks R t) (frame : FrameRef) : Within R (locate t frame : Client σ _) :=
  .bind (stackFrames_within allows) fun frames => by
    split
    · exact .pure _
    · exact .throw _

theorem locate_idle (t : ThreadRef) (frame : FrameRef) :
    Within IdlePath (locate t frame : Client σ _) := locate_within (idlePath_allowsLooks t) frame

/-- What is done with the place of a frame in the stack. -/
private theorem locateThen_started {t : ThreadRef} {frame : FrameRef}
    {op : List FrameRef × Nat → Client σ Unit}
    (h : ∀ p s, (s.thread t).stepping = none → Started s (stateAfter (op p) s)) {s : System σ}
    (hn : (s.thread t).stepping = none) : Started s (stateAfter (locate t frame >>= op) s) := by
  have idle := locate_idle t frame s
  cases hl : locate t frame s with
  | error e s' =>
    rw [stateAfter_of_error hl] at idle
    rw [stateAfter_bind_error hl]
    exact .idle idle
  | ok p s' =>
    rw [stateAfter_of_ok hl] at idle
    rw [stateAfter_bind_ok hl]
    exact .after idle (h p s' (idle.stepping t ▸ hn))

theorem stepToFrame_started (t : ThreadRef) (frame : FrameRef) (s : System σ) :
    Started s (stateAfter (stepToFrame t frame) s) := by
  rw [stepToFrame]
  refine needTargetThen_started (fun s => ?_) s
  rw [stateAfter_get_bind]
  refine canStepThen_started (fun _ hn => ?_) s
  exact locateThen_started (fun p _ hn => startStep_started _ s.filters false hn) hn

/-- Frames are popped until the stack is shallow enough; the frames that are known are forgotten each
time. -/
theorem popLoop_within {R : System σ → System σ → Prop} [IsPreorder (System σ) R] {t : ThreadRef}
    (allows : AllowsLooks R t) (pop : ∀ s frame, R s (s.popFrames t frame))
    (tell : ∀ s, R s (s.fire (s.element t) (.change .content))) (frame : FrameRef)
    (desired last size : Nat) : Within R (popLoop t frame desired last size : Client σ _) := by
  induction last using Nat.strongRecOn generalizing size with
  | ind last ih =>
    rw [popLoop]
    split
    · rename_i within
      refine .get_bind fun s => ?_
      split
      · exact refl_of R s
      · rename_i remote _
        rw [stateAfter_modify_bind, stateAfter_get_bind]
        refine Within.bindAt ?_ fun r s' _ => ?_
        · rw [stateAfter_ask]
          exact pop s remote
        · split
          · exact Within.bind (stackFrames_within allows) (fun frames => ih size within.1 frames.length) s'
          · dsimp only
            split
            · exact Within.bind (.modify tell) (fun _ => .throw _) s'
            · exact refl_of R s'
    · exact .pure _

theorem popLoop_idle (t : ThreadRef) (frame : FrameRef) (desired last size : Nat) :
    Within IdlePath (popLoop t frame desired last size : Client σ _) :=
  popLoop_within (idlePath_allowsLooks t) (fun s frame => .single (.pop s t frame)) (fun _ => .single (.fire rfl))
    frame desired last size

theorem dropToFrame_started (t : ThreadRef) (frame : FrameRef) (s : System σ) :
    Started s (stateAfter (dropToFrame t frame) s) := by
  rw [dropToFrame]
  refine needTargetThen_started (fun s => ?_) s
  rw [stateAfter_get_bind]
  dsimp only
  refine canStepThen_started (fun s₁ hn => ?_) s
  refine locateThen_started (fun p s₂ hn => ?_) hn
  obtain ⟨frames, index⟩ := p
  rw [stateAfter_get_bind]
  dsimp only
  split
  · have idle := popLoop_idle t frame (frames.length - index - 1) (frames.length + 1) frames.length s₂
    cases hl : popLoop t frame (frames.length - index - 1) (frames.length + 1) frames.length s₂ with
    | error e s' =>
      rw [stateAfter_of_error hl] at idle
      rw [stateAfter_bind_error hl]
      exact .idle idle
    | ok u s' =>
      rw [stateAfter_of_ok hl] at idle
      rw [stateAfter_bind_ok hl]
      exact .after idle (startStep_started .into s.filters false (idle.stepping t ▸ hn))
  · exact startStep_started (.dropToFrame index) s.filters false hn

end Debugger
