import Debugger.Proofs.Landing

/-! # What is announced about steps

Of a thread's steps only their starts and their ends are announced.  While a step is under way its start
is the last such announcement, so that an end that follows is the end of that very step.
-/

namespace Debugger

/-- The event announces something about a step of the thread. -/
def DebugEvent.ofStep (id : ThreadId) (e : DebugEvent) : Bool :=
  decide (e.source = .thread id) && e.detail.isStep

/-- The event that announces the start of a step. -/
def stepStartEvent (id : ThreadId) (kind : StepKind) : DebugEvent := ⟨.thread id, .resume, kind.detail⟩

theorem isStep_detail (kind : StepKind) : kind.detail.isStep = true := by
  cases kind <;> rfl

theorem ofStep_stepStartEvent (id id' : ThreadId) (kind : StepKind) :
    (stepStartEvent id kind).ofStep id' = decide (id = id') := by
  simp [DebugEvent.ofStep, stepStartEvent, isStep_detail]

theorem ofStep_stepEndEvent (id id' : ThreadId) : (stepEndEvent id).ofStep id' = decide (id = id') := by
  simp [DebugEvent.ofStep, stepEndEvent, EventDetail.isStep]

theorem not_ofStep {e : DebugEvent} (h : e.detail.isStep = false) (id : ThreadId) :
    e.ofStep id = false := by
  rw [DebugEvent.ofStep, h, Bool.and_false]

namespace Bus

/-- What was published and what is queued about steps of the thread, in order. -/
def stepLog (b : Bus) (id : ThreadId) : List DebugEvent :=
  (b.published ++ b.queued).filter (·.ofStep id)

/-- Nothing is queued about a step. -/
def Quiet (b : Bus) : Prop := ∀ e ∈ b.queued, e.detail.isStep = false

/-- Nothing was announced about steps in between. -/
structure Hushed (b b' : Bus) : Prop where
  log (id : ThreadId) : b'.stepLog id = b.stepLog id
  quiet : b.Quiet → b'.Quiet

variable {a b c : Bus} {e : DebugEvent} {id : ThreadId}

protected theorem Hushed.rfl : Hushed b b := ⟨fun _ => rfl, fun h => h⟩

theorem Hushed.trans (h : Hushed a b) (h' : Hushed b c) : Hushed a c :=
  ⟨fun id => (h'.log id).trans (h.log id), fun hq => h'.quiet (h.quiet hq)⟩

theorem Hushed.of_eq (h : c = b) : Hushed b c := h ▸ .rfl

theorem Hushed.fire (b : Bus) (h : e.detail.isStep = false) : Hushed b (b.fire e) where
  log id := by
    simp [stepLog, not_ofStep h]
  quiet hq := hq

theorem Hushed.queue (b : Bus) (h : e.detail.isStep = false) : Hushed b (b.queue e) where
  log id := by
    simp [stepLog, not_ofStep h]
  quiet hq e' he := by
    rcases List.mem_append.mp he with he | he
    · exact hq e' he
    · rw [List.mem_singleton.mp he]
      exact h

theorem quiet_flush (b : Bus) : b.flush.Quiet := by
  intro e he
  rw [queued_flush] at he
  cases he

theorem Hushed.flush (b : Bus) : Hushed b b.flush where
  log id := by
    rw [stepLog, published_flush, queued_flush, List.append_nil]
    rfl
  quiet _ := quiet_flush b

/-- With nothing queued about steps all of it was published. -/
theorem stepLog_quiet (h : b.Quiet) (id : ThreadId) :
    b.stepLog id = b.published.filter (·.ofStep id) := by
  have none_queued : b.queued.filter (·.ofStep id) = [] := by
    refine List.filter_eq_nil_iff.mpr fun e he => ?_
    rw [not_ofStep (h e he)]
    exact Bool.false_ne_true
  rw [stepLog, List.filter_append, none_queued, List.append_nil]

theorem stepLog_fire (h : b.Quiet) : (b.fire e).stepLog id = b.stepLog id ++ [e].filter (·.ofStep id) := by
  rw [stepLog_quiet (b := b.fire e) h, stepLog_quiet h, published_fire, List.filter_append]

theorem stepLog_queue : (b.queue e).stepLog id = b.stepLog id ++ [e].filter (·.ofStep id) := by
  rw [stepLog, published_queue, queued_queue, ← List.append_assoc, List.filter_append]
  rfl

end Bus

variable {σ : Type} [Session σ] {s s' : System σ} {t u : ThreadRef} {st : Stepping}

/-! ## Changes that announce no step -/

instance : IsPreorder (System σ) (InvImage Bus.Hushed System.bus) where
  refl _ := Bus.Hushed.rfl
  trans _ _ _ h h' := Bus.Hushed.trans h h'

omit [Session σ] in
private theorem hushed_bury (s : System σ) (t : ThreadRef) : Bus.Hushed s.bus (s.bury t).bus :=
  System.bury_within (R := InvImage Bus.Hushed System.bus) Bus.Hushed.rfl fun s _ => Bus.Hushed.fire s.bus rfl

omit [Session σ] in
private theorem hushed_disconnect (s : System σ) : Bus.Hushed s.bus s.disconnect.bus :=
  System.disconnect_within (R := InvImage Bus.Hushed System.bus) (fun _ => Bus.Hushed.rfl) hushed_bury
    (fun s => Bus.Hushed.fire s.bus rfl) s

omit [Session σ] in
private theorem hushed_threadDied (s : System σ) (id : ThreadId) :
    Bus.Hushed s.bus (s.threadDied id).bus :=
  System.threadDied_within (R := InvImage Bus.Hushed System.bus) (fun _ _ => Bus.Hushed.rfl)
    (fun _ _ => Bus.Hushed.rfl) hushed_bury s id

private theorem bus_leaveRequest (s : System σ) (t : ThreadRef) (request : RequestId) :
    (s.leaveRequest t request).bus = s.bus := by
  rw [System.leaveRequest, deleteStepRequest_state]
  rfl

theorem Change.hushed (h : Change s s') (plain : s.PlainEvaluations) : Bus.Hushed s.bus s'.bus := by
  cases h with
  | aside h => exact .of_eq (congrArg Core.bus h)
  | fire h => exact .fire s.bus (h plain)
  | queue h => exact .queue s.bus h
  | flush => exact .flush s.bus
  | @refresh t remote session hs h =>
    exact .of_eq (congrArg System.bus (System.updateFrames_rest { s with session } t remote) :)
  | bury t => exact hushed_bury s t
  | @beginInvocation t =>
    exact .of_eq (congrArg System.bus (System.liftTimeout_rest
      ((s.mapThread t fun th => { th with invoking := true }).startRunning t) s.session) :)
  | @endInvocation n task =>
    exact .of_eq (congrArg System.bus (System.restoreTimeout_rest
      ((s.stopRunning task.thread).mapThread task.thread fun th => { th with invoking := false })
      s.session) :)
  | stopAt t b all =>
    cases all with
    | true => exact .of_eq (congrArg System.bus (System.suspendListed_rest (s.arrive t b)) :)
    | false => exact .rfl
  | uninstall b =>
    exact .of_eq (congrArg System.bus (System.leaveBreakpoints_rest
      { s with installed := s.installed.erase (s.breakpoint b).request } b s.registry) :)
  | enlist => exact .fire s.bus rfl
  | died id => exact hushed_threadDied s id
  | disconnect => exact hushed_disconnect s
  | release =>
    refine .of_eq ?_
    unfold System.release
    dsimp only
    split <;> rfl
  | @renewStep t old => exact .of_eq (bus_leaveRequest s t old.request)
  | abort t => exact .of_eq (congrArg System.bus (abortStep_rest t s s.session) :)
  | _ => exact .rfl

/-- A step that is under way after a change was so before. -/
theorem Change.steps (h : Change s s') (hp : (s'.thread u).stepping = some st) :
    ∃ old, (s.thread u).stepping = some old ∧ st.kind.detail = old.kind.detail ∧
      (s'.thread u).id = (s.thread u).id := by
  have faded {s' : System σ} (h : (s.thread u).Fades (s'.thread u))
      (hp : (s'.thread u).stepping = some st) :
      ∃ old, (s.thread u).stepping = some old ∧ st.kind.detail = old.kind.detail ∧
        (s'.thread u).id = (s.thread u).id :=
    ⟨st, h.stepping hp, rfl, h.id⟩
  cases h.noted with
  | fades h => exact faded (h.threads u) hp
  | enlist new hn =>
    rw [thread_enlist] at hp ⊢
    split at hp
    · rw [hn] at hp
      cases hp
    · rename_i hu
      rw [if_neg hu]
      exact ⟨st, hp, rfl, rfl⟩
  | died id => exact faded ((Fades.threadDied s id).threads u) hp
  | disconnect => exact faded ((Fades.disconnect s).threads u) hp
  | @drop t old hd =>
    rw [thread_dropStep, System.thread_mapThread] at hp ⊢
    split at hp
    · cases hp
    · rename_i hu
      rw [if_neg hu]
      exact ⟨st, hp, rfl, rfl⟩
  | @renew t old new wanted session hd hk hw made =>
    have marks := mark_leaveRequest s t u old.request
    simp only [Thread.mark, Prod.mk.injEq] at marks
    change (((s.leaveRequest t old.request).mapThread t (·.setStepping (some new))).thread u).stepping = _
      at hp
    change ∃ old', _ ∧ _ ∧
      (((s.leaveRequest t old.request).mapThread t (·.setStepping (some new))).thread u).id = _
    by_cases ht : t = u
    · subst ht
      have size : t < (s.leaveRequest t old.request).threads.size :=
        (size_leaveRequest s t old.request).symm ▸ System.lt_size_of_stepping hd
      rw [System.thread_mapThread_self size] at hp ⊢
      cases hp
      exact ⟨old, hd, hk, marks.1⟩
    · rw [System.thread_mapThread_of_ne _ ht] at hp ⊢
      exact ⟨st, marks.2.2.symm.trans hp, rfl, marks.1⟩

/-! ## The start of a step under way is announced last -/

/-- Of every step under way the start is the last that was announced about steps of its thread. -/
def System.Announced (s : System σ) : Prop :=
  ∀ t st, (s.thread t).stepping = some st →
    (s.bus.stepLog (s.thread t).id).getLast? = some (stepStartEvent (s.thread t).id st.kind)

omit [Session σ] in
/-- What is known of steps is not all that is known of a thread. -/
private theorem System.Announced.mapThread (hs : s.Announced) (t : ThreadRef) {f : Thread → Thread}
    (hf : ∀ th, (f th).mark = th.mark) : (s.mapThread t f).Announced := by
  intro u st hp
  have marks := System.mapThread_keeps (g := Thread.mark) hf s t u
  simp only [Thread.mark, Prod.mk.injEq] at marks
  rw [marks.1]
  exact hs u st (marks.2.2.symm.trans hp)

theorem Change.announced (h : Change s s') (plain : s.PlainEvaluations) (hs : s.Announced) :
    s'.Announced := by
  intro u st hp
  obtain ⟨old, ho, hk, hid⟩ := h.steps hp
  rw [hid, (h.hushed plain).log, hs u old ho, stepStartEvent, stepStartEvent, hk]

omit [Session σ] in
theorem Evaluating.bus (h : Evaluating s s') : s'.bus = s.bus := by
  cases h <;> rfl

omit [Session σ] in
theorem Evaluating.announced (h : Evaluating s s') (hs : s.Announced) : s'.Announced := by
  cases h with
  | tasks => exact hs
  | mark t e => exact hs.mapThread t fun _ => rfl

omit [Session σ] in
theorem Watching.bus (h : Watching s s') : s'.bus = s.bus := by
  cases h with
  | aside h => exact congrArg Core.bus h
  | suspending => rfl

omit [Session σ] in
theorem Watching.announced (h : Watching s s') (hs : s.Announced) : s'.Announced := by
  cases h with
  | aside h =>
    intro u st hp
    rw [System.thread_congr (congrArg Core.threads h)] at hp ⊢
    rw [show s'.bus = s.bus from congrArg Core.bus h]
    exact hs u st hp
  | suspending t b => exact hs.mapThread t fun _ => rfl

theorem EvaluationPath.announced (h : EvaluationPath s s') (plain : s'.PlainEvaluations) (hs : s.Announced) :
    s'.Announced ∧ Bus.Hushed s.bus s'.bus := by
  induction h with
  | refl => exact ⟨hs, .rfl⟩
  | tail path hc ih =>
    have before := EvaluationPath.plainEvaluations (.single hc) plain
    obtain ⟨announced, hushed⟩ := ih before
    cases hc with
    | change hc => exact ⟨hc.announced before announced, hushed.trans (hc.hushed before)⟩
    | evaluating hc => exact ⟨hc.announced announced, hushed.trans (.of_eq hc.bus)⟩

theorem WatchPath.announced (h : WatchPath s s') (plain : s'.PlainEvaluations) (hs : s.Announced) :
    s'.Announced ∧ Bus.Hushed s.bus s'.bus := by
  induction h with
  | refl => exact ⟨hs, .rfl⟩
  | tail path hc ih =>
    have before := WatchPath.plainEvaluations (.single hc) plain
    obtain ⟨announced, hushed⟩ := ih before
    cases hc with
    | change hc => exact ⟨hc.announced before announced, hushed.trans (hc.hushed before)⟩
    | watching hc => exact ⟨hc.announced announced, hushed.trans (.of_eq hc.bus)⟩

theorem stepEnd_effect (t : ThreadRef) (request : Option RequestId) (s : System σ) :
    (stepEnd t request s).2.bus = s.bus.queue (stepEndEvent (s.thread t).id) ∧
      (stepEnd t request s).2.threads =
        ((s.stopRunning t).mapThread t (·.setStepping none)).threads ∧
      (stepEnd t request s).2.evaluations = s.evaluations := by
  have id : (((s.stopRunning t).mapThread t (·.setStepping none)).thread t).id = (s.thread t).id :=
    (System.id_mapThread (fun _ => by rfl) _ t t).trans (System.id_mapThread (fun _ => by rfl) s t t)
  have source : ((s.stopRunning t).mapThread t (·.setStepping none)).element t = .thread (s.thread t).id :=
    congrArg Element.thread id
  cases request with
  | none => exact ⟨congrArg (fun e => s.bus.queue ⟨e, .suspend, .stepEnd⟩) source, rfl, rfl⟩
  | some request =>
    rw [stepEnd_some, deleteStepRequest_state]
    exact ⟨congrArg (fun e => s.bus.queue ⟨e, .suspend, .stepEnd⟩) source, rfl, rfl⟩

private theorem stepEnd_threads {t : ThreadRef} (request : Option RequestId) {s : System σ}
    (ht : t < s.threads.size) :
    ((stepEnd t request s).2.thread t).stepping = none ∧
      ∀ u, u ≠ t → ((stepEnd t request s).2.thread u).mark = (s.thread u).mark := by
  obtain ⟨-, threads, -⟩ := stepEnd_effect t request s
  refine ⟨?_, fun u hu => ?_⟩
  · rw [System.thread_congr threads,
      System.thread_mapThread_self (by simpa [System.stopRunning] using ht)]
    rfl
  · rw [System.thread_congr threads, System.thread_mapThread_of_ne _ hu.symm, System.stopRunning,
      System.thread_mapThread_of_ne _ hu.symm]

/-- The end of a step is queued, and no other step is touched. -/
theorem StepFinish.effect (h : StepFinish t s s') :
    (∃ st, (s.thread t).stepping = some st) ∧
      s'.bus = s.bus.queue (stepEndEvent (s.thread t).id) ∧ (s'.thread t).stepping = none ∧
      (∀ u, u ≠ t → (s'.thread u).mark = (s.thread u).mark) ∧
      s'.evaluationDetails = s.evaluationDetails := by
  cases h with
  | @finish st hp =>
    obtain ⟨bus, -, evaluations⟩ := stepEnd_effect t (some st.request) s
    obtain ⟨own, others⟩ := stepEnd_threads (some st.request) (System.lt_size_of_stepping hp)
    refine ⟨⟨st, hp⟩, bus, own, others, ?_⟩
    rw [System.evaluationDetails, evaluations]
    rfl
  | @giveUp st wanted e session hp refused =>
    obtain ⟨bus, -, evaluations⟩ := stepEnd_effect t none { s.leaveRequest t st.request with session }
    have size : t < ({ s.leaveRequest t st.request with session } : System σ).threads.size :=
      (size_leaveRequest s t st.request).symm ▸ System.lt_size_of_stepping hp
    obtain ⟨own, others⟩ := stepEnd_threads none size
    have marks (u : ThreadRef) : (({ s.leaveRequest t st.request with session } : System σ).thread u).mark =
        (s.thread u).mark := mark_leaveRequest s t u st.request
    have left : (s.leaveRequest t st.request).evaluations = s.evaluations := by
      rw [System.leaveRequest, deleteStepRequest_state]
      rfl
    refine ⟨⟨st, hp⟩, ?_, own, fun u hu => (others u hu).trans (marks u), ?_⟩
    · exact bus.trans (congrArg₂ (fun b id => b.queue (stepEndEvent id))
        (bus_leaveRequest s t st.request) (congrArg Prod.fst (marks t)))
    · rw [System.evaluationDetails, evaluations]
      exact congrArg (fun es : Array EvaluationTask => es.toList.map (·.detail)) left

theorem StepFinish.announced (h : StepFinish t s s') (sound : s.Sound) (hs : s.Announced) :
    s'.Announced := by
  obtain ⟨⟨_, pending⟩, bus, own, others, -⟩ := h.effect
  intro u st hp
  have hu : u ≠ t := by
    rintro rfl
    rw [own] at hp
    cases hp
  have marks := others u hu
  simp only [Thread.mark, Prod.mk.injEq] at marks
  have before := marks.2.2.symm.trans hp
  have other : (s.thread t).id ≠ (s.thread u).id := fun hid =>
    hu (sound.eq_of_id (sound.listed before) (sound.listed pending) hid.symm)
  rw [marks.1, bus, Bus.stepLog_queue, ← hs u st before]
  simp [ofStep_stepEndEvent, other]

/-- The start of a step is announced, and no other step is touched. -/
theorem StepStart.announced (h : StepStart s s') (sound : s.Sound) (quiet : s.bus.Quiet)
    (hs : s.Announced) : s'.Announced ∧ s'.bus.Quiet ∧ s'.evaluationDetails = s.evaluationDetails := by
  cases h with
  | @enter t new wanted session alive hsus hn hf hw made =>
    refine ⟨fun u st hp => ?_, quiet, rfl⟩
    have ht := System.lt_size_of_frames hf
    have marks (u : ThreadRef) : ((s.enterStep t new session).thread u).mark =
        ((s.mapThread t (·.setStepping (some new))).thread u).mark := by
      rw [thread_enterStep]
      exact System.startRunning_keeps (g := Thread.mark) (fun _ => rfl) _ t u
    have mark := marks u
    change (((s.enterStep t new session).thread u)).stepping = some st at hp
    change ((s.bus.fire (stepStartEvent (s.thread t).id new.kind)).stepLog
      ((s.enterStep t new session).thread u).id).getLast? = some (stepStartEvent
        ((s.enterStep t new session).thread u).id st.kind)
    rw [Bus.stepLog_fire quiet]
    by_cases hu : t = u
    · subst hu
      rw [System.thread_mapThread_self ht] at mark
      simp only [Thread.mark, Thread.setStepping, Prod.mk.injEq] at mark
      rw [mark.2.2] at hp
      cases hp
      simp [mark.1, ofStep_stepStartEvent]
    · rw [System.thread_mapThread_of_ne _ hu] at mark
      simp only [Thread.mark, Prod.mk.injEq] at mark
      have before := mark.2.2.symm.trans hp
      have listed : t ∈ s.registry := by
        by_contra unlisted
        have dead := sound.unlisted ht unlisted
        simp [Thread.isSuspended, dead] at hsus
      have other : (s.thread t).id ≠ (s.thread u).id := fun hid =>
        hu (sound.eq_of_id listed (sound.listed before) hid)
      rw [mark.1, ← hs u st before]
      simp [ofStep_stepStartEvent, other]

/-! ## Along everything that happens -/

private theorem StepPath.sound (h : StepPath s s') (hs : s.Sound) : s'.Sound := by
  induction h with
  | refl => exact hs
  | tail _ hc ih => exact (hc.books ih).sound ih

/-- Evaluations that are announced as such were so all the way. -/
theorem StepPath.plainEvaluations (h : StepPath s s') (plain : s'.PlainEvaluations) :
    s.PlainEvaluations := by
  induction h with
  | refl => exact plain
  | tail _ hc ih =>
    refine ih ?_
    cases hc with
    | landing hc =>
      cases hc with
      | change hc => exact (Path.single hc).plainEvaluations plain
      | finish t hc =>
        obtain ⟨-, -, -, -, details⟩ := hc.effect
        exact fun d hd => plain d (details ▸ hd)
    | start hc =>
      cases hc with
      | enter => exact plain
    | evaluating hc => exact EvaluationPath.plainEvaluations (.single (.evaluating hc)) plain
    | watching hc => exact WatchPath.plainEvaluations (.single (.watching hc)) plain

/-- Along the handling of events the ends of steps are announced as well. -/
theorem LandingPath.announced (h : LandingPath s s') (sound : s.Sound) (plain : s'.PlainEvaluations)
    (hs : s.Announced) : s'.Announced ∧ s'.Sound := by
  induction h with
  | refl => exact ⟨hs, sound⟩
  | tail _ hc ih =>
    have before := StepPath.plainEvaluations (.single (.landing hc)) plain
    obtain ⟨announced, sound⟩ := ih before
    have after := StepPath.sound (.single (.landing hc)) sound
    cases hc with
    | change hc => exact ⟨hc.announced before announced, after⟩
    | finish t hc => exact ⟨hc.announced sound announced, after⟩

/-- Nothing is queued about steps, and the steps under way were announced. -/
structure System.Recounted (s : System σ) : Prop where
  quiet : s.bus.Quiet
  announced : s.Announced

theorem EvaluationPath.recounted (h : EvaluationPath s s') (plain : s'.PlainEvaluations) (hs : s.Recounted) :
    s'.Recounted :=
  have after := EvaluationPath.announced h plain hs.announced
  ⟨after.2.quiet hs.quiet, after.1⟩

theorem WatchPath.recounted (h : WatchPath s s') (plain : s'.PlainEvaluations) (hs : s.Recounted) : s'.Recounted :=
  have after := WatchPath.announced h plain hs.announced
  ⟨after.2.quiet hs.quiet, after.1⟩

theorem Path.recounted (h : Path s s') (plain : s'.PlainEvaluations) (hs : s.Recounted) :
    s'.Recounted := EvaluationPath.recounted (Path.evaluationPath h) plain hs

private theorem recounted_flush (plain : s.PlainEvaluations) (hs : s.Announced) : s.flush.Recounted :=
  have flushed : Change s s.flush := .flush s
  ⟨s.bus.quiet_flush, flushed.announced plain hs⟩

theorem Handled.recounted (h : Handled s s') (sound : s.Sound) (plain : s'.PlainEvaluations)
    (hs : s.Recounted) : s'.Recounted := by
  cases h with
  | path h => exact Path.recounted h plain hs
  | @set s₁ _ h₁ h₂ =>
    have flushed : s₁.flush.PlainEvaluations := Path.plainEvaluations h₂ plain
    exact Path.recounted h₂ plain
      (recounted_flush flushed (LandingPath.announced h₁ sound flushed hs.announced).1)

theorem Started.recounted (h : Started s s') (sound : s.Sound) (plain : s'.PlainEvaluations)
    (hs : s.Recounted) : s'.Recounted := by
  -- the start is announced, and nothing more happens before the thread runs
  have entered {s₁ s₂ s₃ : System σ} (h₁ : IdlePath s s₁) (h₂ : StepStart s₁ s₂) (h₃ : Path s₂ s₃)
      (plain : s₃.PlainEvaluations) : s₃.Recounted ∧ s₃.Sound := by
    have plain₂ : s₂.PlainEvaluations := Path.plainEvaluations h₃ plain
    have plain₁ : s₁.PlainEvaluations := StepPath.plainEvaluations (.single (.start h₂)) plain₂
    have sound₁ := StepPath.sound h₁.path.stepPath sound
    have hs₁ := Path.recounted h₁.path plain₁ hs
    obtain ⟨announced, quiet, -⟩ := h₂.announced sound₁ hs₁.quiet hs₁.announced
    exact ⟨Path.recounted h₃ plain ⟨quiet, announced⟩,
      StepPath.sound (.head (.start h₂) (Path.stepPath h₃)) sound₁⟩
  cases h with
  | idle h => exact Path.recounted h.path plain hs
  | running h₁ h₂ h₃ => exact (entered h₁ h₂ h₃ plain).1
  | @failed s₁ s₂ s₃ s₄ t h₁ h₂ h₃ h₄ =>
    have plain₃ : s₃.PlainEvaluations :=
      StepPath.plainEvaluations (.single (.landing (.finish t h₄))) plain
    obtain ⟨hs₃, sound₃⟩ := entered h₁ h₂ h₃ plain₃
    exact recounted_flush plain (h₄.announced sound₃ hs₃.announced)

/-- Where nobody else announces steps, the announcements tell what steps are under way. -/
theorem Reachable.recounted {w : Surroundings σ} (hw : ∀ e, w.publishes e → e.detail.isStep = false)
    (h : Reachable w s) (plain : s.PlainEvaluations) : s.Recounted := by
  induction h with
  | @attach m settings s start h =>
    have blank : (System.blank m settings).Recounted := by
      refine ⟨fun e he => (by cases he), fun t st hp => ?_⟩
      rw [System.thread_of_size_le (Nat.zero_le _)] at hp
      cases hp
    exact Path.recounted (attach_path h) plain blank
  | @move s s' hr hm ih =>
    have sound := hr.sound
    cases hm.kind with
    | path h => exact Path.recounted h plain (ih (Path.plainEvaluations h plain))
    | started h => exact h.recounted sound plain (ih (h.stepPath.plainEvaluations plain))
    | handled h => exact h.recounted sound plain (ih (h.stepPath.plainEvaluations plain))
    | evaluated h => exact EvaluationPath.recounted h plain (ih (EvaluationPath.plainEvaluations h plain))
    | watched h => exact WatchPath.recounted h plain (ih (WatchPath.plainEvaluations h plain))
    | machine h =>
      have before : s.Recounted := ih plain
      exact ⟨before.quiet, before.announced⟩
    | @fire e h =>
      have hushed := Bus.Hushed.fire s.bus (hw e h)
      refine ⟨hushed.quiet (ih plain).quiet, fun t st hp => ?_⟩
      exact (congrArg List.getLast? (hushed.log _)).trans ((ih plain).announced t st hp)
    | @queue e h =>
      have hushed := Bus.Hushed.queue s.bus (hw e h)
      refine ⟨hushed.quiet (ih plain).quiet, fun t st hp => ?_⟩
      exact (congrArg List.getLast? (hushed.log _)).trans ((ih plain).announced t st hp)

end Debugger
