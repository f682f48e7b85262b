import Debugger.Proofs.BreakpointHits
import Debugger.Proofs.Resumption

/-! # Whether debugger and machine agree on a thread after an event set

The machine suspended a running thread for a set of its events.  Once the set is handled they agree on
whether the thread is suspended, unless a stop was overruled by a later objection, or nothing stopped the
thread and its step lands where there is no frame.
-/

namespace Debugger

open Scenario

/-- The machine has the thread suspended at no frame, where no event is told. -/
def System.Stranded (s : System (Faulty Machine)) (t : ThreadRef) : Prop :=
  s.session.inner.holds (s.thread t).id = true ∧ s.session.inner.framesOf (s.thread t).id = []

/-- The debugger has the thread as suspended exactly if the machine does. -/
def System.Agrees (s : System (Faulty Machine)) (t : ThreadRef) : Prop :=
  (s.thread t).isSuspended = s.session.inner.holds (s.thread t).id

instance (s : System (Faulty Machine)) (t : ThreadRef) : Decidable (s.Agrees t) :=
  inferInstanceAs (Decidable (_ = _))

/-- The event is about the thread: a step of its completed, or it hit a breakpoint that stops threads. -/
def System.Concerns (s : System (Faulty Machine)) (t : ThreadRef) : VmEvent → Prop
  | .step request id _ => id = (s.thread t).id ∧ s.session.inner.Issued request id
  | e => s.HitBy t e

/-- A step under way lets its thread run, if only once the event set is resumed. -/
def System.Waits (s : System (Faulty Machine)) (t : ThreadRef) : Prop :=
  ∀ st, (s.thread t).stepping = some st → (s.thread t).running = true ∧ st.kind.runsAtOnce = false

variable {s s' : System (Faulty Machine)} {t : ThreadRef} {e : VmEvent} {set : EventSet} {fuel : Nat}

/-! ## The events of a set -/

/-- What the handling of events with these verdicts does: they add up for the running flag alone. -/
structure Heard (t : ThreadRef) (s : System (Faulty Machine)) (vs : List Verdict)
    (s' : System (Faulty Machine)) : Prop where
  scene : s'.scene = s.scene
  events : s'.session.inner.events = s.session.inner.events
  tasks : s'.session.inner.tasks = s.session.inner.tasks
  became : (s.thread t).Became (vs.foldl Verdict.leaves (s.thread t).running) (s'.thread t).stepping
    (s'.thread t)
  waits : s'.Waits t

theorem Heard.append {s₁ : System (Faulty Machine)} {vs vs' : List Verdict} (h : Heard t s vs s₁)
    (h' : Heard t s₁ vs' s') : Heard t s (vs ++ vs') s' where
  scene := h'.scene.trans h.scene
  events := h'.events.trans h.events
  tasks := h'.tasks.trans h.tasks
  became := by
    have became := h.became.trans h'.became
    rwa [h.became.running, ← List.foldl_append] at became
  waits := h'.waits

/-- Events that come later are about the thread as before. -/
theorem System.Concerns.heard {vs : List Verdict} (h : s.Concerns t e) (kept : Keeps s s')
    (hh : Heard t s vs s') : s'.Concerns t e := by
  cases e with
  | step request id landing => exact ⟨h.1.trans hh.became.id.symm, kept.issued h.2⟩
  | breakpoint request id landing =>
    have hit : s.HitBy t (.breakpoint request id landing) := h
    exact hit.became hh.scene hh.became
  | _ => exact h.elim

private theorem Taken.heard {v : Verdict} (h : Taken t s [v] s') (waits : s.Waits t) :
    Heard t s [v] s' := by
  have became := h.became
  refine ⟨h.scene, h.events, h.tasks, ?_, fun st hp => ?_⟩
  · rw [← became.stepping] at became
    exact became
  · rw [became.running]
    have before := became.stepping.symm.trans hp
    cases v with
    | stop => cases before
    | objected => exact ⟨rfl, (waits st before).2⟩
    | pass => exact waits st before

/-- A landing that belongs to a step of the thread ends the step or lets the thread run on. -/
private theorem handleStep_heard {request : RequestId} (h : s.Minds t) (waits : s.Waits t)
    (few : s.session.inner.requestsMade < UInt32.size)
    (issued : s.session.inner.Issued request (s.thread t).id) (id : ThreadId) (landing : Location) :
    Heard t s [(VmEvent.step request id landing).verdict (handleStep request landing s).1]
      (handleStep request landing s).2 := by
  rw [handleStep_issued h.booked h.alive few h.listed issued]
  have scene := scene_landStep t request landing s
  by_cases hp : ∃ st, (s.thread t).stepping = some st ∧ st.request = request
  · obtain ⟨st, hp, rfl⟩ := hp
    obtain ⟨running, late⟩ := waits st hp
    have landed := landStep_landed hp h.booked.deletions landing
    generalize landStep t st.request landing s = r at scene landed ⊢
    obtain ⟨d, s'⟩ := r
    cases landed with
    | ended thread told events tasks failures =>
      have stepping := thread.stepping
      rw [← stepping] at thread
      refine ⟨scene, events, tasks late, thread, fun _ hs => ?_⟩
      cases stepping.symm.trans hs
    | @goesOn _ new _ late' thread told events tasks failures =>
      have stepping := thread.stepping
      rw [← stepping, ← running] at thread
      refine ⟨scene, events, tasks, thread, fun _ hs => ?_⟩
      cases stepping.symm.trans hs
      exact ⟨thread.running.trans running, late'⟩
    | runs atOnce =>
      rw [late] at atOnce
      cases atOnce
  · rw [landStep_stale fun st hs hr => hp ⟨st, hs, hr⟩]
    exact ⟨rfl, rfl, rfl, ⟨rfl, rfl, rfl, rfl, rfl⟩, waits⟩

private theorem handleEvent_heard (h : s.Minds t) (waits : s.Waits t)
    (few : s.session.inner.requestsMade < UInt32.size) (concerns : s.Concerns t e) :
    Heard t s [e.verdict (handleEvent e s).1] (handleEvent e s).2 := by
  cases e with
  | step request id landing =>
    obtain ⟨rfl, issued⟩ := concerns
    exact handleStep_heard h waits few issued _ landing
  | breakpoint request id landing =>
    have hit : s.HitBy t (.breakpoint request id landing) := concerns
    exact (handleEvent_taken h hit).heard waits
  | _ => exact concerns.elim

private theorem handleEvents_heard (es : List VmEvent) (h : s.Minds t) (waits : s.Waits t)
    (few : (handleEvents es s).2.session.inner.requestsMade < UInt32.size)
    (concerns : ∀ e ∈ es, s.Concerns t e) :
    (handleEvents es s).2.Minds t ∧ Heard t s (verdicts es s) (handleEvents es s).2 := by
  induction es generalizing s with
  | nil => exact ⟨h, rfl, rfl, rfl, ⟨rfl, rfl, rfl, rfl, rfl⟩, waits⟩
  | cons e es ih =>
    obtain ⟨booked, first⟩ := (handleEvent_landing e s).stepPath.booked h.booked
    have rest := ((handleEvents_landing es (handleEvent e s).2).stepPath.booked booked).2
    rw [handleEvents_cons] at few ⊢
    have heard := handleEvent_heard h waits
      (Nat.lt_of_le_of_lt (Nat.le_trans first.made rest.made) few) (concerns e List.mem_cons_self)
    obtain ⟨minds, all⟩ := ih (h.became booked heard.scene heard.became) heard.waits few fun e' he' =>
      (concerns e' (List.mem_cons_of_mem e he')).heard first heard
    exact ⟨minds, heard.append all⟩

/-! ## The set as a whole -/

/-- If no call failed on the whole way then none failed on either half. -/
theorem Keeps.fine {a b c : System (Faulty Machine)} (h : Keeps a b) (h' : Keeps b c)
    (fine : c.session.failures = a.session.failures) :
    b.session.failures = a.session.failures ∧ c.session.failures = b.session.failures := by
  have second := h'.failures
  rw [fine] at second
  have same := second.eq_of_length_le h.failures.length_le
  exact ⟨same, fine.trans same.symm⟩

/-- How an event set leaves its thread when no call of the machine fails. -/
inductive Treated (t : ThreadRef) (s : System (Faulty Machine)) (vs : List Verdict)
    (s' : System (Faulty Machine)) : Prop
  | stays (stop : .stop ∈ vs) (done : s'.UpToDate) (tasks : s'.session.inner.tasks = s.session.inner.tasks)
    (ran : (s'.thread t).running = vs.foldl Verdict.leaves (s.thread t).running)
  | resumed (free : .stop ∉ vs) (ran : (s'.thread t).running = true)
    (after : AfterResume s' (s.thread t).id)

private theorem isSuspended_live {th : Thread} (live : th.terminated = false) :
    th.isSuspended = !th.running := by
  rw [Thread.isSuspended, live]
  exact Bool.and_true _

/-- The thread of a set is left as its events say, and the machine is asked to resume it if it is to run. -/
private theorem handleEventSet_treated (h : s.Minds t) (waits : s.Waits t) (attentive : s.Attentive)
    (read : s.reader = s.session.inner.events.subscribe) (cap : 0 < s.session.inner.events.capacity)
    (ran : (s.thread t).running = true) (policy : set.policy = some .thread)
    (thread : set.thread? = some (s.thread t).id) (concerns : ∀ e ∈ set.events, s.Concerns t e)
    (few : (handleEventSet set s).2.session.inner.requestsMade < UInt32.size)
    (fine : (handleEventSet set s).2.session.failures = s.session.failures) :
    (handleEventSet set s).2.Minds t ∧ (handleEventSet set s).2.Waits t ∧
      ((handleEventSet set s).2.thread t).id = (s.thread t).id ∧
      Treated t s (verdicts set.events s) (handleEventSet set s).2 := by
  obtain ⟨booked, -⟩ := (handleEventSet_handled set s).stepPath.booked h.booked
  have stays := handleEvents_stays set.events s
  have first := (handleEvents_landing set.events s).stepPath.booked h.booked
  have heard := handleEvents_heard set.events h waits
  rcases hs : handleEvents set.events s with ⟨stay, s₁⟩
  rw [hs] at stays first heard
  dsimp only at stays first heard
  rw [handleEventSet_eq hs] at booked few fine ⊢
  have later := keeps_afterEvents first.1 set stay
  obtain ⟨minds, all⟩ := heard (Nat.lt_of_le_of_lt later.made few) concerns
  have attentive₁ := attentive.of_scene all.scene
  have reader : s₁.reader = s₁.session.inner.events.subscribe := by
    rw [show s₁.reader = s.reader from congrArg Scene.reader all.scene, read, all.events]
  rw [attentive₁.connected, Bool.or_false] at booked few fine ⊢
  cases stay with
  | true =>
    exact ⟨⟨booked, minds.alive, minds.listed, minds.live⟩, all.waits, all.became.id,
      .stays (stays.mp rfl) ⟨attentive₁.of_scene rfl, reader⟩ all.tasks all.became.running⟩
  | false =>
    have free : Verdict.stop ∉ verdicts set.events s := fun hm => Bool.false_ne_true (stays.mpr hm)
    have running : (s₁.thread t).running = true := by
      rw [all.became.running]
      exact Verdict.foldl_leaves.mpr (.inr ⟨free, .inl ran⟩)
    simp only [Bool.false_eq_true, if_false] at booked few fine ⊢
    rcases resumeSet_cases policy thread s₁ with ⟨f, hr, resumed, tickets, hf⟩ | ⟨e, f, -, hr, he, hf⟩
    · rw [hr] at booked ⊢
      refine ⟨⟨booked, minds.alive, minds.listed, minds.live⟩, all.waits,
        all.became.id, .resumed free running ?_⟩
      exact (afterResume (s := { s₁ with session := f }) (attentive₁.of_scene rfl) reader
        (by rw [all.events]; exact cap) tickets resumed).flush
    · have grown := first.2.failures.length_le
      rw [← show (resumeSet set s₁).2.session.failures = s.session.failures from fine, hr, hf,
        List.length_append] at grown
      exact (Nat.not_succ_le_self _ grown).elim

/-- A thread that was left suspended is so for the machine as well, unless the stop was overruled. -/
private theorem stays_agrees {id : ThreadId} (done : s.UpToDate) (hid : (s.thread t).id = id)
    (live : (s.thread t).terminated = false) (held : s.session.inner.holds id)
    (settled : (settle fuel s).2.isSettled) :
    (settle fuel s).2.Agrees t ↔ (s.thread t).running = false := by
  rw [settle_upToDate done settled]
  change (s.thread t).isSuspended = s.session.inner.holds (s.thread t).id ↔ _
  rw [isSuspended_live live, hid, held]
  cases (s.thread t).running <;> simp

/-- A thread that the machine was asked to resume runs for both in the end, or it stops for both where a
step ends, or it is stranded. -/
private theorem resumed_agrees (after : AfterResume s (s.thread t).id) (h : s.Minds t) (waits : s.Waits t)
    (ran : (s.thread t).running = true) (settled : (settle fuel s).2.isSettled)
    (few : (settle fuel s).2.session.inner.requestsMade < UInt32.size)
    (fine : (settle fuel s).2.session.failures = s.session.failures) :
    (settle fuel s).2.Agrees t ↔ ¬ (settle fuel s).2.Stranded t := by
  induction fuel using Nat.strongRecOn generalizing s with
  | ind fuel ih =>
    cases after with
    | runs done free =>
      rw [settle_upToDate done settled]
      change (s.thread t).isSuspended = s.session.inner.holds (s.thread t).id ↔
        ¬ (s.session.inner.holds (s.thread t).id = true ∧ _)
      rw [isSuspended_live h.live, ran, free]
      simp
    | unseen done held frames =>
      rw [settle_upToDate done settled]
      change (s.thread t).isSuspended = s.session.inner.holds (s.thread t).id ↔
        ¬ (s.session.inner.holds (s.thread t).id = true ∧ s.session.inner.framesOf (s.thread t).id = [])
      rw [isSuspended_live h.live, ran, held, frames]
      simp
    | @lands request location left counted held frames =>
      obtain ⟨k, rfl, next⟩ := settle_left left (by rfl) settled
      rw [next] at settled few fine ⊢
      have turn : s.turnTo.Minds t :=
        ⟨((WatchPath.aside rfl : WatchPath s s.turnTo).stepPath.booked h.booked).1, h.alive, h.listed, h.live⟩
      have concerns : ∀ e ∈ (EventSet.single (.step request (s.thread t).id location)).events,
          s.turnTo.Concerns t e := by
        intro e he
        obtain rfl := List.mem_singleton.mp he
        exact ⟨rfl, Machine.issued_of_outstanding counted⟩
      obtain ⟨booked, kept⟩ := (handleEventSet_handled
        (.single (.step request (s.thread t).id location)) s.turnTo).stepPath.booked turn.booked
      have rest := ((settle_stepPath k _).booked booked).2
      obtain ⟨fine₁, fine₂⟩ := kept.fine rest fine
      obtain ⟨minds, waits', hid, treated⟩ := handleEventSet_treated turn waits left.turnTo rfl left.capacity ran
        (by rfl) (by rfl) concerns (Nat.lt_of_le_of_lt rest.made few) fine₁
      generalize (handleEventSet _ s.turnTo).2 = s₁ at *
      cases treated with
      | stays stop done tasks ran' =>
        have stopped : (s₁.thread t).running = false := by
          rw [ran']
          change Verdict.stop ∈ [_] at stop
          change Verdict.leaves _ _ = false
          rw [← List.mem_singleton.mp stop]
          rfl
        have agrees := (stays_agrees done hid minds.live ((holds_congr tasks _).trans held) settled).mpr stopped
        refine iff_of_true agrees fun stranded => frames ?_
        rw [settle_upToDate done settled] at stranded
        have nowhere : s₁.session.inner.framesOf (s₁.thread t).id = [] := stranded.2
        rw [hid] at nowhere
        exact (framesOf_congr tasks _).symm.trans nowhere
      | resumed free ran' after =>
        exact ih k (Nat.lt_succ_self k) (hid ▸ after) minds waits' ran' settled few fine₂

/-- The events of a set that are about one thread are all in it, and none of them is the last there is. -/
private theorem concerned_set (concerns : ∀ e ∈ set.events, s.Concerns t e) (told : set.events ≠ []) :
    set.thread? = some (s.thread t).id ∧ set.isFinal = false := by
  have of_event {e : VmEvent} (h : s.Concerns t e) :
      e.thread? = some (s.thread t).id ∧ e.isFinal = false := by
    cases e with
    | step request id landing => exact ⟨congrArg some h.1, rfl⟩
    | breakpoint request id landing => exact ⟨congrArg some h.1, rfl⟩
    | _ => exact h.elim
  exact ⟨set.thread?_of_forall told fun e he => (of_event (concerns e he)).1,
    set.isFinal_of_forall fun e he => (of_event (concerns e he)).2⟩

/-- Debugger and machine agree on a thread once its event set is handled, unless a listener's objection
came after an event had stopped the thread, or the thread is stranded by its step. -/
theorem agrees_after_set_iff (h : Reachable scripted s) (left : s.Left set) (ht : t ∈ s.registry)
    (live : (s.thread t).terminated = false) (ran : (s.thread t).running = true)
    (held : s.session.inner.holds (s.thread t).id = true)
    (late : ∀ st, (s.thread t).stepping = some st → st.kind.runsAtOnce = false)
    (policy : set.policy = some .thread) (told : set.events ≠ [])
    (concerns : ∀ e ∈ set.events, s.Concerns t e) (settled : (settle fuel s).2.isSettled)
    (few : (settle fuel s).2.session.inner.requestsMade < UInt32.size)
    (fine : (settle fuel s).2.session.failures = s.session.failures) :
    (settle fuel s).2.Agrees t ↔
      ¬ Verdict.Overruled (verdicts set.events s.turnTo) ∧
        ¬ (.stop ∉ verdicts set.events s.turnTo ∧ (settle fuel s).2.Stranded t) := by
  obtain ⟨thread, final⟩ := concerned_set concerns told
  obtain ⟨k, rfl, next⟩ := settle_left left final settled
  rw [next] at settled few fine ⊢
  have turn : s.turnTo.Minds t :=
    ⟨((WatchPath.aside rfl : WatchPath s s.turnTo).stepPath.booked h.booked).1, left.alive, ht, live⟩
  obtain ⟨booked, kept⟩ := (handleEventSet_handled set s.turnTo).stepPath.booked turn.booked
  have rest := ((settle_stepPath k _).booked booked).2
  obtain ⟨fine₁, fine₂⟩ := kept.fine rest fine
  have waits : s.turnTo.Waits t := fun st hp => ⟨ran, late st hp⟩
  obtain ⟨minds, waits', hid, treated⟩ := handleEventSet_treated turn waits left.turnTo rfl left.capacity
    ran policy thread concerns (Nat.lt_of_le_of_lt rest.made few) fine₁
  generalize (handleEventSet set s.turnTo).2 = s₁ at *
  cases treated with
  | stays stop done tasks ran' =>
    rw [stays_agrees done hid minds.live ((holds_congr tasks _).trans held) settled, ran',
      ← Bool.not_eq_true, Verdict.foldl_leaves]
    simp [stop]
  | resumed free ran' after =>
    have unruled : ¬ Verdict.Overruled (verdicts set.events s.turnTo) := fun ho => free ho.stop_mem
    rw [resumed_agrees (hid ▸ after) minds waits' ran' settled few fine₂]
    simp [unruled, free]

/-- The sample program, asked to step over a line, arrives at the next one, where it hits a breakpoint that
these listeners are asked about.  The machine reports both at once. -/
private def arrived (ls : List Listener) : System (Faulty Machine) :=
  let s := (sampleSystem [.addTask (sampleTask 1), .defer 1]).performAll
    (.install "com.example.Main" 11 .thread :: ls.map .addListener ++ [.stepWithTargetFilters 0 .over])
  { s with session := ((MachineCommand.completeAt 1 1 true).applyFaulty s.session).2 }

private def arrival : EventSet :=
  let there : Location := ⟨(sampleFrame 1 101 "run" 10).location.method, 1, some 11⟩
  ⟨some .thread, [.step 2 1 there, .breakpoint 1 1 there]⟩

private theorem arrived_reachable (ls : List Listener) : Reachable scripted (arrived ls) := by
  have start : Reachable scripted (sampleSystem [.addTask (sampleTask 1), .defer 1]) :=
    sampleSystem_reachable (sampleMachine_starts (by simp [Scenario.MachineCommand.SparesSteps]))
      (by decide +kernel)
  exact (start.performAll _).move (.machine ⟨.completeAt 1 1 true, trivial, rfl⟩)

/-- Without a listener the thread is suspended for both. -/
theorem agrees_after_step_to_breakpoint :
    (settle 2 (arrived [])).2.Agrees 0 ∧ ((settle 2 (arrived [])).2.thread 0).isSuspended := by
  have left : (arrived []).Left arrival :=
    ⟨⟨by decide +kernel, by decide +kernel, by decide +kernel, by decide +kernel, by decide +kernel,
      .inl (by decide +kernel)⟩, by decide +kernel⟩
  have issued : (arrived []).session.inner.Issued 2 1 := by
    unfold Machine.Issued
    decide +kernel
  have concerns : ∀ e ∈ arrival.events, (arrived []).Concerns 0 e := by
    intro e he
    rcases List.mem_pair.mp he with rfl | rfl
    · exact ⟨by decide +kernel, issued⟩
    · exact ⟨by decide +kernel, by decide +kernel, 0, by decide +kernel, by decide +kernel⟩
  have step : ((arrived []).thread 0).stepping.all fun st => !st.kind.runsAtOnce := by decide +kernel
  have late : ∀ st, ((arrived []).thread 0).stepping = some st → st.kind.runsAtOnce = false := by
    intro st hp
    rw [hp] at step
    exact (Bool.not_eq_true' _).mp step
  have settled : (settle 2 (arrived [])).2.isSettled := by decide +kernel
  have agreement := agrees_after_set_iff (arrived_reachable []) left (t := 0) (by decide +kernel)
    (by decide +kernel) (by decide +kernel) (by decide +kernel) late (by rfl)
    (by decide +kernel) concerns settled (by decide +kernel) (by decide +kernel)
  have stops : verdicts arrival.events (arrived []).turnTo = [.stop, .stop] := by decide +kernel
  refine ⟨agreement.mpr ⟨?_, fun stranded => stranded.1 ?_⟩, by decide +kernel⟩
  · rw [stops]
    rintro ⟨before, after, h, -, objected⟩
    have among : Verdict.objected ∈ [Verdict.stop, .stop] := by
      rw [h]
      exact List.mem_append_right _ (List.mem_cons_of_mem _ objected)
    cases List.eq_of_mem_replicate (n := 2) among
  · rw [stops]
    exact List.mem_cons_self

/-- With a listener that objects the debugger has the thread running, and the machine has it suspended
with nothing left to do. -/
theorem overruled_stop_leaves_disagreement :
    let s := arrived [.fixed "a" .dontSuspend]
    Reachable scripted s ∧ (s.thread 0).running ∧ s.session.inner.holds 1 ∧
      (settle 2 s).2.isSettled ∧ (settle 2 s).2.session.failures = s.session.failures ∧
      ((settle 2 s).2.thread 0).running ∧ (settle 2 s).2.session.inner.holds 1 ∧
      ¬ (settle 2 s).2.Agrees 0 :=
  ⟨arrived_reachable _, by decide +kernel, by decide +kernel, by decide +kernel, by decide +kernel,
    by decide +kernel, by decide +kernel, by decide +kernel⟩

end Debugger
