import Debugger.Proofs.BreakpointHits
import Debugger.Proofs.PendingStep
import Debugger.Proofs.Resumption
import Debugger.Proofs.StepAttempts

/-! # Steps in which a call fails

A call can fail while the client has a step started and while the landing of a step under way is handled.
The step is over then, except when the thread was to be resumed with its event set: nobody is told that
this failed, and the step stays under way for ever.
-/

namespace Debugger

open Scenario

/-- The scripted machine, where nobody else announces anything about steps. -/
def discreet : Surroundings (Faulty Machine) :=
  { scripted with publishes := fun e => e.detail.isStep = false }

variable {s s' s₁ : System (Faulty Machine)} {t : ThreadRef} {st : Stepping} {set : EventSet}

theorem Reachable.scripted (h : Reachable discreet s) : Reachable scripted s := by
  induction h with
  | attach start h => exact .attach start h
  | move _ hm ih =>
    refine ih.move ?_
    cases hm with
    | operation o => exact .operation o
    | run => exact .run
    | wait time => exact .wait time
    | letIn => exact .letIn
    | machine h => exact .machine h
    | fire => exact .fire trivial
    | queue => exact .queue trivial

/-- The thread is suspended, and none of the records knows a step of it. -/
structure System.StepOver (s : System (Faulty Machine)) (t : ThreadRef) : Prop where
  suspended : (s.thread t).isSuspended
  stepping : (s.thread t).stepping = none
  unowned (r : RequestId) : (r, (s.thread t).id) ∉ s.stepOwners.entries
  deleted : s.session.inner.outstanding (s.thread t).id = []

/-- What was published about steps of the thread. -/
def System.stepsPublished (s : System (Faulty Machine)) (t : ThreadRef) : List DebugEvent :=
  s.bus.published.filter (·.ofStep (s.thread t).id)

/-- Since those earlier announcements a step may have been announced to start, and then its end was too. -/
def System.EndTold (s : System (Faulty Machine)) (t : ThreadRef) (earlier : List DebugEvent) : Prop :=
  s.stepsPublished t = earlier ∨ ∃ kind, s.stepsPublished t =
    earlier ++ [stepStartEvent (s.thread t).id kind, stepEndEvent (s.thread t).id]

/-- Work on a step of the thread, and what it leads to: the client asks for a step, or a landing of the
pending one is reported, alone or together with hits of breakpoints.  It is late if the thread is to run on
only when the event set is resumed.  The verdicts are those of the events reported, and the
announcements those of earlier steps. -/
inductive StepWork (t : ThreadRef) (s : System (Faulty Machine)) :
    (late : Bool) → List Verdict → List DebugEvent → System (Faulty Machine) → Prop
  | start {o : Operation} (settled : s.isSettled) (alive : s.targetAlive) (ho : o.stepped? = some t) :
    StepWork t s false [] (s.stepsPublished t) (o.perform s)
  | landing {st : Stepping} {set : EventSet} {before after : List VmEvent} {location : Location}
    (left : s.Left set) (policy : set.policy = some .thread) (pending : (s.thread t).stepping = some st)
    (events : set.events = before ++ .step st.request (s.thread t).id location :: after)
    (hits : ∀ e ∈ before ++ after, s.HitBy t e) :
    StepWork t s (!st.kind.runsAtOnce) (verdicts set.events s.turnTo) (s.stepsPublished t).dropLast
      (handleEventSet set s.turnTo).2

/-! ## The landing of a step among hits -/

/-- How the events of a set leave a thread whose step landed. -/
inductive SetLanded (t : ThreadRef) (st : Stepping) (s : System (Faulty Machine)) (vs : List Verdict)
    (s' : System (Faulty Machine)) : Prop
  | fine (failures : s'.session.failures = s.session.failures)
    (waits : .stop ∉ vs → st.kind.runsAtOnce = false ∧ (s'.thread t).running = true ∧
      s'.session.inner.events = s.session.inner.events)
  | failed {kind : CallKind} {e : SessionError} (stop : .stop ∈ vs)
    (failures : s'.session.failures = s.session.failures ++ [(kind, e)])
    (events : s'.session.inner.events = s.session.inner.events)
    (resume : kind = .resumeThread → st.kind.runsAtOnce)
    (thread : (s.thread t).Became (vs.foldl Verdict.leaves (s.thread t).running) none (s'.thread t))
    (log : s'.bus.stepLog (s.thread t).id = s.bus.stepLog (s.thread t).id ++ [stepEndEvent (s.thread t).id])

private theorem foldl_stepping (vs : List Verdict) (stepping : Option Stepping) :
    vs.foldl Verdict.stepping stepping = if .stop ∈ vs then none else stepping := by
  induction vs generalizing stepping with
  | nil => rfl
  | cons v vs ih =>
    rw [List.foldl_cons, ih]
    cases v <;> simp [Verdict.stepping]

private theorem stepLog_told {id : ThreadId} (h : s'.told = s.told ++ [stepEndEvent id]) :
    s'.bus.stepLog id = s.bus.stepLog id ++ [stepEndEvent id] := by
  rw [Bus.stepLog, show s'.bus.published ++ s'.bus.queued = _ from h, List.filter_append]
  simp [ofStep_stepEndEvent, Bus.stepLog, System.told]

/-- A call fails among these events only when the landing is judged, and then the step is over. -/
theorem handleEvents_setLanded {before after : List VmEvent} {location : Location} (h : s.Minds t)
    (pending : (s.thread t).stepping = some st) (hits : ∀ e ∈ before ++ after, s.HitBy t e)
    (few : (handleEvents (before ++ .step st.request (s.thread t).id location :: after)
      s).2.session.inner.requestsMade < UInt32.size) :
    let es := before ++ .step st.request (s.thread t).id location :: after
    (handleEvents es s).2.scene = s.scene ∧
      SetLanded t st s (verdicts es s) (handleEvents es s).2 := by
  obtain ⟨minds₁, taken₁⟩ := handleEvents_taken before h fun e he => hits e (List.mem_append_left _ he)
  obtain ⟨booked₁, kept₁⟩ := (handleEvents_landing before s).stepPath.booked h.booked
  dsimp only
  rw [handleEvents_append] at few ⊢
  rw [verdicts_append, verdicts]
  rw [handleEvents_cons] at few ⊢
  generalize (handleEvents before s).2 = s₁ at *
  generalize verdicts before s = vs₁ at *
  generalize hv : VmEvent.step st.request (s.thread t).id location = e at *
  obtain ⟨booked₂, kept₂⟩ := (handleEvent_landing e s₁).stepPath.booked booked₁
  have kept₃ := ((handleEvents_landing after (handleEvent e s₁).2).stepPath.booked booked₂).2
  have few₁ := Nat.lt_of_le_of_lt (Nat.le_trans kept₂.made kept₃.made) few
  have issued : s₁.session.inner.Issued st.request (s₁.thread t).id := by
    rw [taken₁.became.id]
    exact kept₁.issued ⟨_, (h.booked.tied h.alive (Nat.lt_of_le_of_lt kept₁.made few₁)).ticket pending,
      rfl, rfl⟩
  have landing : handleEvent e s₁ = landStep t st.request location s₁ := by
    rw [← hv]
    exact handleStep_issued booked₁ minds₁.alive few₁ minds₁.listed issued location
  have verdict (d : Disposition) : e.verdict d = if d = .staySuspended then .stop else .pass := by
    rw [← hv]
    cases d <;> rfl
  have hits₁ : ∀ e ∈ after, s₁.HitBy t e := fun e he =>
    (hits e (List.mem_append_right _ he)).became taken₁.scene taken₁.became
  have scene₂ := scene_landStep t st.request location s₁
  rw [landing] at few booked₂ ⊢
  rw [verdict]
  -- once the thread has stopped its step is no more, so the landing is stale
  by_cases stopped : .stop ∈ vs₁
  · have stale : landStep t st.request location s₁ = (.resume, s₁) := by
      refine landStep_stale fun st' hp => ?_
      rw [taken₁.became.stepping, foldl_stepping, if_pos stopped] at hp
      cases hp
    rw [stale]
    obtain ⟨-, taken₃⟩ := handleEvents_taken after minds₁ hits₁
    refine ⟨taken₃.scene.trans taken₁.scene, .fine (taken₃.failures.trans taken₁.failures) fun free => ?_⟩
    exact (free (List.mem_append_left _ stopped)).elim
  have pending₁ : (s₁.thread t).stepping = some st := by
    rw [taken₁.became.stepping, foldl_stepping, if_neg stopped, pending]
  have landed := landStep_landed pending₁ booked₁.deletions location
  generalize landStep t st.request location s₁ = r at *
  obtain ⟨d, s₂⟩ := r
  have then_hits {running : Bool} {stepping : Option Stepping}
      (thread : (s₁.thread t).Became running stepping (s₂.thread t)) :=
    (handleEvents_taken after (minds₁.became booked₂ scene₂ thread) fun e he =>
      (hits₁ e he).became scene₂ thread).2
  cases landed with
  | ended thread told events tasks failures =>
    have taken₃ := then_hits thread
    have stop : .stop ∈ vs₁ ++ Verdict.stop :: verdicts after s₂ :=
      List.mem_append_right _ List.mem_cons_self
    refine ⟨taken₃.scene.trans (scene₂.trans taken₁.scene), ?_⟩
    rcases failures with same | ⟨kind, e, failed, resume⟩
    · exact .fine (taken₃.failures.trans (same.trans taken₁.failures)) fun free => (free stop).elim
    · have became := (taken₁.became.trans thread).trans taken₃.became
      rw [thread.running, thread.stepping, foldl_stepping, ite_self] at became
      refine .failed stop (taken₃.failures.trans (failed.trans (by rw [taken₁.failures])))
        (taken₃.events.trans (events.trans taken₁.events)) resume ?_ ?_
      · rw [List.foldl_append, List.foldl_cons]
        exact became
      · rw [taken₃.hushed.log, ← taken₁.became.id, stepLog_told told, taken₁.hushed.log]
  | goesOn late late' thread told events tasks failures =>
    have taken₃ := then_hits thread
    refine ⟨taken₃.scene.trans (scene₂.trans taken₁.scene),
      .fine (taken₃.failures.trans (failures.trans taken₁.failures)) fun free => ⟨late, ?_,
        taken₃.events.trans (events.trans taken₁.events)⟩⟩
    rw [taken₃.became.running, thread.running]
    refine Verdict.foldl_leaves.mpr (.inr ⟨fun stop => free ?_, .inl rfl⟩)
    exact List.mem_append_right _ (List.mem_cons_of_mem _ stop)
  | runs atOnce atOnce' thread told events tickets resumed failures =>
    have taken₃ := then_hits thread
    refine ⟨taken₃.scene.trans (scene₂.trans taken₁.scene),
      .fine (taken₃.failures.trans (failures.trans taken₁.failures)) fun free => ?_⟩
    exact (free (List.mem_append_right _ List.mem_cons_self)).elim

/-! ## What is left once the failure is dealt with -/

/-- How a thread fares whose step ran into the failure of a call of that kind. -/
inductive Struck (t : ThreadRef) (s : System (Faulty Machine)) (late : Bool) (vs : List Verdict)
    (earlier : List DebugEvent) (kind : CallKind) (s' : System (Faulty Machine)) : Prop
  /-- The thread was to be resumed and was not, and counts as running. -/
  | ignored (late : late = true) (resume : kind = .resumeThread)
    (running : (s'.thread t).isSuspended = false)
  | ended (told : late = true → kind ≠ .resumeThread) (alive : s'.targetAlive)
    (listed : s'.registry = s.registry)
    (terminated : (s'.thread t).terminated = false) (stepping : (s'.thread t).stepping = none)
    (running : (s'.thread t).running = true ↔ Verdict.Overruled vs)
    (log : s'.EndTold t earlier)

variable {kind : CallKind} {e : SessionError} {more : List (CallKind × SessionError)} {fuel : Nat}

theorem grown_ne {α : Type} {as bs : List α} {a : α} (h : as = as ++ a :: bs) : False := by
  have := congrArg List.length h
  simp at this

private theorem settle_settled (h : s.isSettled) : (settle fuel s).2 = s := by
  cases fuel with
  | zero => rfl
  | succ fuel =>
    rw [settle, run_get_bind, h]
    rfl

theorem isSettled_scene (hs : s'.scene = s.scene) (silent : s.session.inner.Silent s'.session.inner) :
    s'.isSettled = s.isSettled := by
  have ready : s'.ready = s.ready := congrArg Scene.ready hs
  have dispatching : s'.dispatching = s.dispatching := congrArg Scene.dispatching hs
  have shutdown : s'.shutdown = s.shutdown := congrArg Scene.shutdown hs
  have reader : s'.reader = s.reader := congrArg Scene.reader hs
  have events : Session.events s'.session = Session.events s.session := silent
  rw [System.isSettled, System.dispatchable, ready, dispatching, shutdown, reader, events]
  rfl

/-- A request for a step that meets a failure leaves the thread suspended without one. -/
theorem Operation.struck {o : Operation} (ho : o.stepped? = some t) (hb : s.Booked) (quiet : s.bus.Quiet)
    (alive : s.targetAlive) (settled : s.isSettled)
    (failed : (o.perform s).session.failures = s.session.failures ++ (kind, e) :: more) :
    Struck t s false [] (s.stepsPublished t) kind (settle fuel (o.perform s)).2 := by
  cases o.attempted ho hb with
  | fine failures => exact (grown_ne (failures.symm.trans failed)).elim
  | finished scene silent id suspended stepping log =>
    rw [settle_settled ((isSettled_scene scene silent).trans settled)]
    obtain ⟨quiet', log⟩ := log quiet
    simp only [Thread.isSuspended, Bool.and_eq_true, Bool.not_eq_true'] at suspended
    refine .ended (fun h => by cases h) ((alive_scene scene).trans alive) (congrArg Scene.registry scene)
      suspended.2 stepping ⟨fun ran => ?_, fun overruled => ?_⟩ ?_
    · rw [suspended.1] at ran
      cases ran
    · cases overruled.stop_mem
    · rw [Bus.stepLog_quiet quiet', Bus.stepLog_quiet quiet] at log
      rw [System.EndTold, System.stepsPublished, id]
      exact log

private theorem landing_set {before after : List VmEvent} {location : Location}
    (events : set.events = before ++ .step st.request (s.thread t).id location :: after)
    (hits : ∀ e ∈ before ++ after, s.HitBy t e) :
    set.thread? = some (s.thread t).id ∧ set.isFinal = false := by
  have of_event (e : VmEvent) (he : e ∈ set.events) :
      e.thread? = some (s.thread t).id ∧ e.isFinal = false := by
    rw [events, List.mem_append, List.mem_cons] at he
    rcases he with he | rfl | he
    · have hit := hits e (List.mem_append_left _ he)
      exact ⟨hit.thread?, hit.isFinal⟩
    · exact ⟨rfl, rfl⟩
    · have hit := hits e (List.mem_append_right _ he)
      exact ⟨hit.thread?, hit.isFinal⟩
  have told : set.events ≠ [] := by
    rw [events]
    exact List.append_ne_nil_of_right_ne_nil _ (List.cons_ne_nil _ _)
  exact ⟨set.thread?_of_forall told fun e he => (of_event e he).1,
    set.isFinal_of_forall fun e he => (of_event e he).2⟩

/-- Unless an event stopped the thread, the machine is asked to resume it; here it refused. -/
private theorem resumeSet_refused {id : ThreadId} (policy : set.policy = some .thread)
    (thread : set.thread? = some id) (connected : e ≠ .disconnected)
    (failed : (resumeSet set s).2.session.failures = s.session.failures ++ (kind, e) :: more) :
    kind = .resumeThread ∧ ∃ f, (resumeSet set s).2 = { s with session := f } ∧
      f.inner.events = s.session.inner.events := by
  rcases resumeSet_cases policy thread s with ⟨f, hr, -, -, hf⟩ | ⟨e', f, hr, session, quiet, hf⟩
  · rw [hr] at failed
    exact (grown_ne (hf.symm.trans failed)).elim
  · rw [session, hf] at failed
    obtain ⟨rfl, rfl⟩ := Prod.mk.inj (List.cons.inj (List.append_cancel_left failed)).1
    rw [if_neg connected] at hr
    exact ⟨rfl, f, hr, quiet⟩

/-- With the end of the pending step its announcements are complete. -/
private theorem stepsPublished_ended (recounted : s.Recounted) (pending : (s.thread t).stepping = some st)
    (id : (s₁.thread t).id = (s.thread t).id)
    (log : s₁.bus.stepLog (s.thread t).id = s.bus.stepLog (s.thread t).id ++ [stepEndEvent (s.thread t).id]) :
    s₁.flush.stepsPublished t = (s.stepsPublished t).dropLast ++
      [stepStartEvent (s.thread t).id st.kind, stepEndEvent (s.thread t).id] := by
  have started : s.stepsPublished t = (s.stepsPublished t).dropLast ++
      [stepStartEvent (s.thread t).id st.kind] := by
    have last := recounted.announced t st pending
    rw [Bus.stepLog_quiet recounted.quiet] at last
    exact (List.dropLast_append_getLast? _ last).symm
  have flushed := (Bus.Hushed.flush s₁.bus).log (s.thread t).id
  rw [Bus.stepLog_quiet (Bus.quiet_flush s₁.bus), log, Bus.stepLog_quiet recounted.quiet] at flushed
  have ended : s₁.flush.stepsPublished t = s.stepsPublished t ++ [stepEndEvent (s.thread t).id] := by
    rw [System.stepsPublished, show (s₁.flush.thread t).id = _ from id]
    exact flushed
  rw [ended, started]
  simp

/-- A landing whose handling meets a failure ends the step, unless it is the thread's set that could not
be resumed. -/
theorem landing_struck {before after : List VmEvent} {location : Location} (h : s.Booked)
    (recounted : s.Recounted) (left : s.Left set) (ht : t ∈ s.registry)
    (live : (s.thread t).terminated = false)
    (policy : set.policy = some .thread) (pending : (s.thread t).stepping = some st)
    (events : set.events = before ++ .step st.request (s.thread t).id location :: after)
    (hits : ∀ e ∈ before ++ after, s.HitBy t e)
    (failed : (handleEventSet set s.turnTo).2.session.failures = s.session.failures ++ (kind, e) :: more)
    (connected : e ≠ .disconnected)
    (settled : (settle fuel (handleEventSet set s.turnTo).2).2.isSettled)
    (few : (handleEventSet set s.turnTo).2.session.inner.requestsMade < UInt32.size) :
    Struck t s (!st.kind.runsAtOnce) (verdicts set.events s.turnTo) (s.stepsPublished t).dropLast kind
      (settle fuel (handleEventSet set s.turnTo).2).2 := by
  have turned : WatchPath s s.turnTo := .aside rfl
  have minds : s.turnTo.Minds t := ⟨(turned.stepPath.booked h).1, left.alive, ht, live⟩
  have stays := handleEvents_stays set.events s.turnTo
  have first := (handleEvents_landing set.events s.turnTo).stepPath.booked minds.booked
  have landed (few : (handleEvents set.events s.turnTo).2.session.inner.requestsMade < UInt32.size) :
      (handleEvents set.events s.turnTo).2.scene = s.turnTo.scene ∧
        SetLanded t st s.turnTo (verdicts set.events s.turnTo) (handleEvents set.events s.turnTo).2 := by
    rw [events] at few ⊢
    exact handleEvents_setLanded (s := s.turnTo) minds pending hits few
  rcases hs : handleEvents set.events s.turnTo with ⟨stay, s₁⟩
  rw [hs] at stays first landed
  dsimp only at stays first landed
  rw [handleEventSet_eq hs] at failed settled few ⊢
  have later := keeps_afterEvents first.1 set stay
  obtain ⟨scene, landed⟩ := landed (Nat.lt_of_le_of_lt later.made few)
  have attentive : s₁.Attentive := left.turnTo.of_scene scene
  have upToDate {f : Faulty Machine} (quiet : f.inner.events = s.session.inner.events) :
      (System.flush { s₁ with session := f }).UpToDate := by
    have reader : s₁.reader = s.turnTo.reader := congrArg Scene.reader scene
    refine ⟨attentive.of_scene rfl, reader.trans ?_⟩
    change s.session.inner.events.subscribe = f.inner.events.subscribe
    rw [quiet]
  rw [attentive.connected, Bool.or_false] at failed settled few ⊢
  cases landed with
  | fine failures waits =>
    have same : s₁.session.failures = s.session.failures := failures
    by_cases stop : .stop ∈ verdicts set.events s.turnTo
    · rw [if_pos (stays.mpr stop)] at failed
      exact (grown_ne (same.symm.trans failed)).elim
    obtain ⟨late, running, quiet⟩ := waits stop
    have moved : stay = false := Bool.eq_false_iff.mpr fun h => stop (stays.mp h)
    rw [moved, if_neg Bool.false_ne_true] at failed settled ⊢
    rw [← same] at failed
    obtain ⟨rfl, f, refused, quiet'⟩ :=
      resumeSet_refused policy (landing_set events hits).1 connected failed
    rw [refused] at settled ⊢
    rw [settle_upToDate (upToDate (quiet'.trans quiet)) settled]
    refine .ignored (by rw [late]; rfl) rfl ?_
    change (s₁.thread t).isSuspended = false
    rw [Thread.isSuspended, running]
    rfl
  | failed stop failures quiet resume thread log =>
    rw [if_pos (stays.mpr stop)] at failed settled ⊢
    rw [settle_upToDate (upToDate quiet) settled]
    obtain ⟨rfl, rfl⟩ := Prod.mk.inj (List.cons.inj (List.append_cancel_left (failures.symm.trans failed))).1
    have id : (s₁.thread t).id = (s.thread t).id := thread.id
    have terminated : (s₁.thread t).terminated = false := thread.terminated.trans live
    refine .ended (fun late hk => ?_) attentive.alive (congrArg Scene.registry scene) terminated
      thread.stepping ?_ (.inr ⟨st.kind, ?_⟩)
    · rw [resume hk] at late
      cases late
    · change (s₁.thread t).running = true ↔ _
      rw [thread.running, Verdict.foldl_leaves]
      simp [stop]
    · change s₁.flush.stepsPublished t = _ ++ [stepStartEvent (s₁.thread t).id _, stepEndEvent (s₁.thread t).id]
      rw [id]
      exact stepsPublished_ended recounted pending id log

/-- What was reached by some changes is over for a thread that fared well. -/
private theorem Struck.ends_iff {late : Bool} {vs : List Verdict} {earlier : List DebugEvent}
    (struck : Struck t s late vs earlier kind s') (booked : s'.Booked) (ht : t ∈ s.registry)
    (few : s'.session.inner.requestsMade < UInt32.size) (ids : s'.NoIdReused) :
    (s'.StepOver t ∧ s'.EndTold t earlier) ↔
      ¬ (late = true ∧ kind = .resumeThread) ∧ ¬ Verdict.Overruled vs := by
  cases struck with
  | ignored late resume running =>
    constructor
    · rintro ⟨ended, -⟩
      rw [ended.suspended] at running
      cases running
    · rintro ⟨told, -⟩
      exact (told ⟨late, resume⟩).elim
  | ended told alive listed terminated stepping running log =>
    constructor
    · rintro ⟨ended, -⟩
      refine ⟨fun h => told h.1 h.2, fun overruled => ?_⟩
      have suspended := ended.suspended
      rw [Thread.isSuspended, running.mpr overruled] at suspended
      cases suspended
    · rintro ⟨-, obeyed⟩
      obtain ⟨unowned, deleted⟩ :=
        booked.none_pending alive few ids (listed ▸ ht) terminated stepping
      refine ⟨⟨?_, stepping, unowned, deleted⟩, log⟩
      rw [Thread.isSuspended, terminated, Bool.eq_false_iff.mpr fun ran => obeyed (running.mp ran)]
      rfl

/-- Once a call failed that a step depends on, and all is settled, the step is over and its end was
announced if its start was, unless it was the thread's set that could not be resumed, or a listener's
objection came after the thread had stopped. -/
theorem failed_step_ends_iff {late : Bool} {vs : List Verdict} {earlier : List DebugEvent}
    (h : Reachable discreet s) (ht : t ∈ s.registry) (live : (s.thread t).terminated = false)
    (work : StepWork t s late vs earlier s₁)
    (failed : s₁.session.failures = s.session.failures ++ (kind, e) :: more)
    (connected : e ≠ .disconnected) (settled : (settle fuel s₁).2.isSettled)
    (few : (settle fuel s₁).2.session.inner.requestsMade < UInt32.size)
    (ids : (settle fuel s₁).2.NoIdReused) (plain : (settle fuel s₁).2.PlainEvaluations) :
    ((settle fuel s₁).2.StepOver t ∧ (settle fuel s₁).2.EndTold t earlier) ↔
      ¬ (late = true ∧ kind = .resumeThread) ∧ ¬ Verdict.Overruled vs := by
  have plain₁ : s₁.PlainEvaluations := (settle_stepPath fuel s₁).plainEvaluations plain
  cases work with
  | @start o idle alive ho =>
    have path : StepPath s (o.perform s) := o.perform_stepPath s
    have recounted := h.recounted (fun _ h => h) (path.plainEvaluations plain₁)
    have booked := h.scripted.booked
    have after := ((h.move (.operation o)).settle fuel).scripted.booked
    exact (Operation.struck ho booked recounted.quiet alive idle failed).ends_iff after ht few ids
  | @landing st set before after location left policy pending events hits =>
    have reached : Reachable discreet (handleEventSet set s.turnTo).2 := by
      have moved : Reachable discreet (runNext s).2 := h.move .run
      rwa [runNext_left left (landing_set events hits).2] at moved
    have turned : WatchPath s s.turnTo := .aside rfl
    have path : StepPath s (handleEventSet set s.turnTo).2 :=
      turned.stepPath.trans (handleEventSet_handled set s.turnTo).stepPath
    have recounted := h.recounted (fun _ h => h) (path.plainEvaluations plain₁)
    have kept := ((settle_stepPath fuel (handleEventSet set s.turnTo).2).booked
      reached.scripted.booked).2
    have struck := landing_struck h.scripted.booked recounted left ht live policy pending events hits
      failed connected settled (Nat.lt_of_le_of_lt kept.made few)
    exact struck.ends_iff (reached.settle fuel).scripted.booked ht few ids

/-- Where the first step of the sample program lands, within the line it started from. -/
private def within : RemoteFrame :=
  ⟨1, { (sampleFrame 1 101 "run" 10).location with codeIndex := 14 }⟩

/-- The step landed, and the second call of that kind is going to fail. -/
private def failing (kind : CallKind) : System (Faulty Machine) :=
  (Operation.stepWithTargetFilters 0 .into).perform (sampleSystem [.addTask (sampleTask 1),
    .landing 1 [within, sampleFrame 2 102 "main" 3], .fault kind [none, some .timeout]])

private def landed : EventSet := .single (.step 1 1 within.location)

private theorem failing_reachable {kind : CallKind} (spared : kind ≠ .deleteEventRequest) :
    Reachable discreet (failing kind) := by
  have start : discreet.starts (sampleMachine [.addTask (sampleTask 1),
      .landing 1 [within, sampleFrame 2 102 "main" 3], .fault kind [none, some .timeout]]) :=
    sampleMachine_starts (by simp [Scenario.MachineCommand.SparesSteps, spared])
  have attached := sampleSystem_reachable start (by cases kind <;> decide +kernel)
  exact attached.move (.operation _)

/-- With no second request the step is over, and its end was announced. -/
theorem step_without_second_request_ends :
    let s := (settle 1 (handleEventSet landed (failing .createStepRequest).turnTo).2).2
    s.StepOver 0 ∧ s.EndTold 0 [] := by
  have left : (failing .createStepRequest).Left landed :=
    ⟨⟨by decide +kernel, by decide +kernel, by decide +kernel, by decide +kernel, by decide +kernel,
      .inl (by decide +kernel)⟩, by decide +kernel⟩
  have pending : ∃ st, ((failing .createStepRequest).thread 0).stepping = some st ∧ st.request = 1 := by
    have stepping : ((failing .createStepRequest).thread 0).stepping.any (·.request = 1) := by
      decide +kernel
    obtain ⟨st, pending, request⟩ := (Option.any_eq_true ..).mp stepping
    exact ⟨st, pending, of_decide_eq_true request⟩
  obtain ⟨st, pending, request⟩ := pending
  have events : landed.events = [] ++ .step st.request ((failing .createStepRequest).thread 0).id
      within.location :: [] := by
    rw [request]
    decide +kernel
  have plain : (settle 1 (handleEventSet landed (failing .createStepRequest).turnTo).2).2.PlainEvaluations := by
    unfold System.PlainEvaluations
    decide +kernel
  have ends : (settle 1 (handleEventSet landed (failing .createStepRequest).turnTo).2).2.StepOver 0 ∧
      (settle 1 (handleEventSet landed (failing .createStepRequest).turnTo).2).2.EndTold 0
        ((failing .createStepRequest).stepsPublished 0).dropLast ↔ _ :=
    failed_step_ends_iff (failing_reachable (by decide)) (by decide +kernel) (by decide +kernel)
      (.landing left (by rfl) pending events fun _ h => by cases h)
      (show _ = _ ++ (CallKind.createStepRequest, SessionError.timeout) :: [] by decide +kernel)
      (by decide) (by decide +kernel) (by decide +kernel) (by decide +kernel) plain
  have published : ((failing .createStepRequest).stepsPublished 0).dropLast = [] := by decide +kernel
  have stops : verdicts landed.events (failing .createStepRequest).turnTo = [.stop] := by decide +kernel
  rw [published, stops] at ends
  refine ends.mpr ⟨fun h => CallKind.noConfusion h.2, fun overruled => ?_⟩
  have runs : [Verdict.stop].foldl Verdict.leaves true = true := Verdict.foldl_leaves.mpr (.inl overruled)
  cases runs

/-- The thread counts as running with its step under way, and is suspended for the machine. -/
theorem step_without_second_resume_never_ends :
    let s := (settle 2 (failing .resumeThread)).2
    Reachable discreet (failing .resumeThread) ∧ 0 ∈ (failing .resumeThread).registry ∧
      s.isSettled ∧ s.session.failures = [(.resumeThread, .timeout)] ∧
      (s.thread 0).running ∧ (s.thread 0).stepping.isSome ∧ s.session.inner.holds 1 ∧ ¬ s.StepOver 0 :=
  ⟨failing_reachable (by decide), by decide +kernel, by decide +kernel, by decide +kernel,
    by decide +kernel, by decide +kernel, by decide +kernel, fun ended => by
      have suspended := ended.suspended
      revert suspended
      decide +kernel⟩

end Debugger
