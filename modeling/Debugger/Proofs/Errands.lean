import Debugger.Proofs.Bookkeeping

/-! # Suspend requests and evaluations, left alone

Background tasks see to suspend requests and to evaluations.  Hardly anything else does: the tasks stay as they were, and
so does what is noted about them in the threads.
-/

namespace Debugger

variable {σ : Type}

/-- What tells an evaluation from others, and whether it honors breakpoints. -/
def Evaluation.badge (e : Evaluation) : Nat × Bool := (e.token, e.honorsBreakpoints)

/-- The badge of the evaluation that the thread runs. -/
def Thread.badge? (th : Thread) : Option (Nat × Bool) := th.evaluation.map Evaluation.badge

/-! ## Threads -/

/-- The threads there were are the same, and evaluate and are asked to suspend as they were; of a thread that comes
neither is so. -/
structure SameMarks (s s' : System σ) : Prop where
  size : s.threads.size ≤ s'.threads.size
  badge (t : ThreadRef) : (s'.thread t).badge? = (s.thread t).badge?
  suspending (t : ThreadRef) : (s'.thread t).suspending = (s.thread t).suspending
  id {t : ThreadRef} (h : t < s.threads.size) : (s'.thread t).id = (s.thread t).id

instance : IsPreorder (System σ) SameMarks where
  refl _ := ⟨Nat.le_refl _, fun _ => rfl, fun _ => rfl, fun _ => rfl⟩
  trans _ _ _ h h' := ⟨Nat.le_trans h.size h'.size, fun t => (h'.badge t).trans (h.badge t),
    fun t => (h'.suspending t).trans (h.suspending t), fun ht => (h'.id (Nat.lt_of_lt_of_le ht h.size)).trans (h.id ht)⟩

namespace SameMarks

variable {s s' s₁ : System σ}

theorem of_eq (h : s'.threads = s.threads) : SameMarks s s' where
  size := Nat.le_of_eq (by rw [h])
  badge t := by rw [System.thread_congr h]
  suspending t := by rw [System.thread_congr h]
  id _ := by rw [System.thread_congr h]

theorem aside (h : SameMarks s s₁) (hs : s'.threads = s₁.threads) : SameMarks s s' :=
  trans_of SameMarks h (of_eq hs)

theorem mapThread (s : System σ) (t : ThreadRef) {f : Thread → Thread}
    (hf : ∀ th, ((f th).id, (f th).badge?, (f th).suspending) = (th.id, th.badge?, th.suspending)) :
    SameMarks s (s.mapThread t f) where
  size := Nat.le_of_eq (System.size_mapThread s t f).symm
  badge u := System.mapThread_keeps (fun th => congrArg (·.2.1) (hf th)) s t u
  suspending u := System.mapThread_keeps (fun th => congrArg (·.2.2) (hf th)) s t u
  id _ := System.mapThread_keeps (fun th => congrArg Prod.fst (hf th)) s t _

theorem setRunning (s : System σ) (t : ThreadRef) (running : Bool) :
    SameMarks s (s.mapThread t (·.setRunning running)) := mapThread s t fun _ => rfl

theorem setStepping (s : System σ) (t : ThreadRef) (st : Option Stepping) :
    SameMarks s (s.mapThread t (·.setStepping st)) := mapThread s t fun _ => rfl

theorem preserveFrames (s : System σ) (t : ThreadRef) : SameMarks s (s.preserveFrames t) :=
  (mapThread s t (f := Thread.markStale) fun _ => rfl).aside rfl

theorem startRunning (s : System σ) (t : ThreadRef) : SameMarks s (s.startRunning t) :=
  trans_of SameMarks (setRunning s t true) (preserveFrames _ t)

theorem bury (s : System σ) (t : ThreadRef) : SameMarks s (s.bury t) :=
  System.bury_within (mapThread s t fun _ => rfl) fun _ _ => .of_eq rfl

theorem updateFrames (s : System σ) (t : ThreadRef) (remote : List RemoteFrame) :
    SameMarks s (s.updateFrames t remote) := by
  rcases s.threads_updateFrames t remote with same | ⟨frames, looked⟩
  · exact of_eq same
  · exact (mapThread s t (f := fun th => { th with frames, refresh := false }) fun _ => rfl).aside looked

theorem enlist (s : System σ) {th : Thread} (new : th.IsNew) : SameMarks s (s.enlist th) := by
  have known {α : Type} {g : Thread → α} (h : g th = g default) (t : ThreadRef) :
      g ((s.enlist th).thread t) = g (s.thread t) := by
    rw [thread_enlist]
    split
    · rename_i own
      rw [own, System.thread_of_size_le (Nat.le_refl _), h]
    · rfl
  refine ⟨by simp [System.enlist, System.fire], known ?_, known new.suspending, fun h => ?_⟩
  · rw [Thread.badge?, new.evaluation]
    rfl
  · rw [thread_enlist, if_neg (Nat.ne_of_lt h)]

theorem threadDied (s : System σ) (id : ThreadId) : SameMarks s (s.threadDied id) :=
  System.threadDied_within (fun _ _ => .of_eq rfl) (fun _ _ => .of_eq rfl) bury s id

theorem disconnect (s : System σ) : SameMarks s s.disconnect :=
  System.disconnect_within (fun _ => .of_eq rfl) bury (fun _ => .of_eq rfl) s

end SameMarks

section

variable [Session σ] {s s' : System σ}

private theorem deleteStepRequest_marks (request : RequestId) (s : System σ) :
    SameMarks s (deleteStepRequest request s).2 := by
  rw [deleteStepRequest_state]
  exact .of_eq rfl

private theorem leaveRequest_marks (s : System σ) (t : ThreadRef) (request : RequestId) :
    SameMarks s (s.leaveRequest t request) :=
  trans_of SameMarks (deleteStepRequest_marks request s) (.setRunning _ t true)

private theorem stepEnd_marks (t : ThreadRef) (request : Option RequestId) (s : System σ) :
    SameMarks s (stepEnd t request s).2 := by
  have ended : SameMarks s ((s.stopRunning t).mapThread t (·.setStepping none)) :=
    trans_of SameMarks (.setRunning s t false) (.setStepping _ t none)
  cases request with
  | none => exact ended.aside rfl
  | some request =>
    rw [stepEnd_some]
    exact (trans_of SameMarks ended (deleteStepRequest_marks request _)).aside rfl

theorem Change.sameMarks (h : Change s s') : SameMarks s s' := by
  cases h with
  | aside h => exact .of_eq (congrArg Core.threads h)
  | @refresh t remote session =>
    have asked : SameMarks s { s with session } := .of_eq rfl
    exact trans_of SameMarks asked (.updateFrames _ t remote)
  | preserve t => exact .preserveFrames s t
  | pop t frame => exact (SameMarks.preserveFrames s t).aside rfl
  | run t => exact .startRunning s t
  | stop t => exact .setRunning s t false
  | bury t => exact .bury s t
  | groupName t name => exact .mapThread s t fun _ => rfl
  | @beginInvocation t =>
    have marked : SameMarks s (s.mapThread t fun th => { th with invoking := true }) := .mapThread s t fun _ => rfl
    have rest := System.liftTimeout_rest
      ((s.mapThread t fun th => { th with invoking := true }).startRunning t) s.session
    exact (trans_of SameMarks marked (.startRunning _ t)).aside (congrArg System.threads rest :)
  | @endInvocation n task =>
    let t := task.thread
    have marked : SameMarks (s.stopRunning t)
        ((s.stopRunning t).mapThread t fun th => { th with invoking := false }) := .mapThread _ t fun _ => rfl
    have rest := System.restoreTimeout_rest
      ((s.stopRunning t).mapThread t fun th => { th with invoking := false }) s.session
    exact (trans_of SameMarks (.setRunning s t false) marked).aside (congrArg System.threads rest :)
  | stopAt t b all =>
    have arrived : SameMarks s (s.arrive t b) := .mapThread s t fun _ => rfl
    have suspended (s : System σ) : SameMarks s s.suspendListed :=
      System.suspendListed_within (fun _ => .of_eq rfl) (SameMarks.setRunning · · false) s
    exact System.stopAt_within arrived suspended (.setRunning · t false) all
  | uninstall b =>
    have left (s : System σ) (t : ThreadRef) : SameMarks s (s.leaveBreakpoint b t) := .mapThread s t fun _ => rfl
    exact System.uninstall_within (fun _ _ => .of_eq rfl) left s
  | enlist new fresh => exact .enlist s fresh
  | died id => exact .threadDied s id
  | disconnect => exact .disconnect s
  | release =>
    unfold System.release
    dsimp only
    split
    · exact .of_eq rfl
    · exact .of_eq rfl
  | @renewStep t old new wanted session =>
    exact (trans_of SameMarks (leaveRequest_marks s t old.request) (.setStepping _ t (some new))).aside rfl
  | abort t =>
    cases hp : (s.thread t).stepping with
    | none =>
      rw [abortStep_none hp]
      exact refl_of SameMarks s
    | some st =>
      rw [abortStep_some hp]
      exact trans_of SameMarks (.setStepping s t none) (deleteStepRequest_marks st.request _)
  | _ => exact .of_eq rfl

/-! ## Whatever sees to neither -/

/-- Nothing becomes of suspend requests and evaluations. -/
structure KeepsErrands (s s' : System σ) : Prop extends SameMarks s s' where
  errands : s'.errands = s.errands

instance : IsPreorder (System σ) KeepsErrands where
  refl s := ⟨refl_of SameMarks s, rfl⟩
  trans _ _ _ h h' := ⟨trans_of SameMarks h.toSameMarks h'.toSameMarks, h'.errands.trans h.errands⟩

theorem Path.keepsErrands (h : Path s s') : KeepsErrands s s' := by
  induction h with
  | refl => exact refl_of KeepsErrands s
  | tail _ hc ih => exact trans_of KeepsErrands ih ⟨hc.sameMarks, hc.errands⟩

theorem StepFinish.keepsErrands {t : ThreadRef} (h : StepFinish t s s') : KeepsErrands s s' := by
  have ended (request : Option RequestId) (s : System σ) : (stepEnd t request s).2.errands = s.errands := by
    cases request with
    | none => rfl
    | some request =>
      rw [stepEnd_some, deleteStepRequest_state]
      rfl
  cases h with
  | finish hp => exact ⟨stepEnd_marks t _ s, ended _ s⟩
  | @giveUp st _ _ session =>
    have left : SameMarks s { s.leaveRequest t st.request with session } := (leaveRequest_marks s t _).aside rfl
    refine ⟨trans_of SameMarks left (stepEnd_marks t none _), (ended none _).trans ?_⟩
    change (deleteStepRequest st.request s).2.errands = _
    rw [deleteStepRequest_state]
    rfl

theorem LandingPath.keepsErrands (h : LandingPath s s') : KeepsErrands s s' := by
  induction h with
  | refl => exact refl_of KeepsErrands s
  | tail _ hc ih =>
    cases hc with
    | change hc => exact trans_of KeepsErrands ih (Path.keepsErrands (.single hc))
    | finish t hc => exact trans_of KeepsErrands ih hc.keepsErrands

theorem StepStart.keepsErrands (h : StepStart s s') : KeepsErrands s s' := by
  cases h with
  | @enter t st _ session =>
    have asked : SameMarks s { s with session } := .of_eq rfl
    have held := trans_of SameMarks asked (.setStepping _ t (some st))
    exact ⟨(trans_of SameMarks held (.startRunning _ t)).aside rfl, rfl⟩

theorem Started.keepsErrands (h : Started s s') : KeepsErrands s s' := by
  have entered {s₁ s₂ s₃ : System σ} (h₁ : IdlePath s s₁) (h₂ : StepStart s₁ s₂) (h₃ : Path s₂ s₃) :
      KeepsErrands s s₃ :=
    have started := trans_of KeepsErrands (Path.keepsErrands h₁.path) h₂.keepsErrands
    trans_of KeepsErrands started (Path.keepsErrands h₃)
  cases h with
  | idle h => exact Path.keepsErrands h.path
  | running h₁ h₂ h₃ => exact entered h₁ h₂ h₃
  | @failed _ _ _ s₄ _ h₁ h₂ h₃ h₄ =>
    have ended := trans_of KeepsErrands (entered h₁ h₂ h₃) h₄.keepsErrands
    exact trans_of KeepsErrands ended (Path.keepsErrands (.single (.flush s₄)))

theorem Handled.keepsErrands (h : Handled s s') : KeepsErrands s s' := by
  cases h with
  | path h => exact Path.keepsErrands h
  | @set s₁ _ h₁ h₂ =>
    have flushed : Path s₁ s₁.flush := .single (.flush s₁)
    exact trans_of KeepsErrands (LandingPath.keepsErrands h₁) (Path.keepsErrands (flushed.trans h₂))

end

end Debugger
