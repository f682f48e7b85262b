import Debugger.Proofs.StepRequests
import Debugger.Proofs.StepChanges

/-! # What becomes of a thread that the machine resumes

The thread runs on, unless a step of its is armed: then it is stopped again where the step lands, and this
is reported if there is a frame to report.
-/

namespace Debugger

namespace Machine

/-- The machine has the thread suspended. -/
def holds (m : Machine) (thread : ThreadId) : Bool := (m.task? thread).any (·.suspended)

/-- How it goes on with a thread that was resumed. -/
inductive Resumed (m : Machine) (thread : ThreadId) (m' : Machine) : Prop
  | runs (he : m'.events = m.events) (hh : m'.holds thread = false)
  /-- A step of the thread lands, which the machine reports. -/
  | lands {request : RequestId} {location : Location}
    (he : m'.events = m.events.send (.single (.step request thread location)))
    (hh : m'.holds thread = true) (hf : m'.framesOf thread ≠ [])
    (hr : request ∈ m.outstanding thread)
  /-- A step of the thread lands where there is no frame. -/
  | unseen (he : m'.events = m.events) (hh : m'.holds thread = true) (hf : m'.framesOf thread = [])

theorem task?_mapTask {f : Task → Task} (hf : ∀ t, (f t).id = t.id) (m : Machine) (thread : ThreadId) :
    (m.mapTask thread f).task? thread = (m.task? thread).map f := by
  rw [task?, task?, mapTask]
  dsimp only
  induction m.tasks with
  | nil => rfl
  | cons t ts ih =>
    rw [updateTask]
    by_cases h : t.id = thread
    · simp [h, hf]
    · simp [h, ih]

/-- A request that is still armed counts for its thread. -/
private theorem armed_outstanding {m : Machine} {thread : ThreadId} {e : StepEntry} (he : e ∈ m.steps)
    (ha : e.armed thread) : e.id ∈ m.outstanding thread := by
  simp only [StepEntry.armed, Bool.and_eq_true, beq_iff_eq, Bool.not_eq_true'] at ha
  refine List.mem_map.mpr ⟨e.ticket, List.mem_filter.mpr ⟨List.mem_map_of_mem he, ?_⟩, rfl⟩
  simp [StepEntry.ticket, ha.1.1, ha.2]

private theorem of_ite {α : Type} {p : α → Prop} {c : Prop} [Decidable c] {a b : α} (ha : p a) (hb : p b) :
    p (if c then a else b) := by
  split
  · exact ha
  · exact hb

/-- Completing a step tells of a landing, or the thread has no armed step, or no frame. -/
theorem completeStep_cases (m : Machine) (thread : ThreadId) {t : Task} (ht : m.task? thread = some t) :
    ((m.completeStep thread).1 = m ∧ (m.completeStep thread).2 = none) ∨
    (∃ t', (m.completeStep thread).1.task? thread = some t' ∧ t'.suspended = true ∧
      (m.completeStep thread).1.events = m.events ∧
      ((m.completeStep thread).2 = none ∧ t'.frames = [] ∨
        ∃ request location, (m.completeStep thread).2 = some (.step request thread location) ∧
          request ∈ m.outstanding thread ∧ t'.frames ≠ [])) := by
  rw [completeStep]
  cases hf : m.steps.reverse.find? (·.armed thread) with
  | none => exact .inl ⟨rfl, rfl⟩
  | some armed =>
    have counted : armed.id ∈ m.outstanding thread :=
      armed_outstanding (List.mem_reverse.mp (List.mem_of_find?_eq_some hf))
        (List.find?_some (p := fun e : StepEntry => e.armed thread) hf)
    right
    dsimp only
    split
    · rename_i gone
      cases ht.symm.trans gone
    · rename_i t' here
      cases ht.symm.trans here
      generalize Option.getD _ _ = frames
      cases frames with
      | nil =>
        refine ⟨{ t with suspended := true, frames := [] }, ?_, rfl, rfl, .inl ⟨rfl, rfl⟩⟩
        refine (task?_mapTask (fun _ => by rfl) _ thread).trans ?_
        rw [here]
        rfl
      | cons top below =>
        refine ⟨{ t with suspended := true, frames := top :: below }, ?_, rfl, ?_,
          .inr ⟨armed.id, top.location, rfl, counted, List.cons_ne_nil _ _⟩⟩
        · have mapped := task?_mapTask (f := fun t => { t with suspended := true, frames := top :: below })
            (fun _ => by rfl) m thread
          rw [ht] at mapped
          exact of_ite (p := fun m : Machine => m.task? thread = _) mapped mapped
        · exact of_ite (p := fun m' : Machine => m'.events = m.events) rfl rfl

theorem find_some {m : Machine} {thread : ThreadId} {t : Task} (h : m.task? thread = some t) :
    find thread m = .ok t m := by
  simp only [find, act_get_bind, h]
  rfl

theorem find_none {m : Machine} {thread : ThreadId} (h : m.task? thread = none) :
    find thread m = .error (unknownThread thread) m := by
  simp only [find, act_get_bind, h]
  rfl

theorem findSuspended_ok {m m' : Machine} {thread : ThreadId} {t : Task}
    (h : findSuspended thread m = .ok t m') : m.task? thread = some t ∧ m' = m := by
  cases ht : m.task? thread with
  | none =>
    simp only [findSuspended, bind, EStateM.bind, find_none ht] at h
    cases h
  | some task =>
    simp only [findSuspended, bind, EStateM.bind, find_some ht] at h
    cases hs : task.suspended with
    | true =>
      simp only [hs] at h
      cases h
      exact ⟨rfl, rfl⟩
    | false =>
      simp only [hs] at h
      cases h

/-- A thread that is found suspended is held. -/
theorem holds_of_findSuspended {m m' : Machine} {thread : ThreadId} {t : Task}
    (h : findSuspended thread m = .ok t m') : m.holds thread = true := by
  rw [holds, (findSuspended_ok h).1]
  cases hs : t.suspended with
  | true => exact hs
  | false =>
    simp only [findSuspended, bind, EStateM.bind, find_some (findSuspended_ok h).1, hs] at h
    cases h

/-- To look for a suspended thread changes nothing. -/
theorem findSuspended_cases (m : Machine) (thread : ThreadId) :
    (∃ t, findSuspended thread m = .ok t m) ∨ ∃ e, findSuspended thread m = .error e m := by
  cases ht : m.task? thread with
  | none =>
    refine .inr ⟨unknownThread thread, ?_⟩
    simp only [findSuspended, bind, EStateM.bind, find_none ht]
  | some t =>
    simp only [findSuspended, bind, EStateM.bind, find_some ht]
    cases t.suspended with
    | true => exact .inl ⟨t, rfl⟩
    | false => exact .inr ⟨.incompatibleThreadState, rfl⟩

theorem forceReturn_cases (m : Machine) (thread : ThreadId) :
    (∃ m', forceReturn thread m = .ok () m' ∧ m'.events = m.events ∧ m'.tickets = m.tickets) ∨
    ∃ e, forceReturn thread m = .error e m := by
  rcases m.findSuspended_cases thread with ⟨t, h⟩ | ⟨e, h⟩
  · refine .inl ⟨{ m with forcedReturns := thread :: m.forcedReturns }, ?_, rfl, rfl⟩
    simp only [forceReturn, bind, EStateM.bind, h]
    rfl
  · refine .inr ⟨e, ?_⟩
    simp only [forceReturn, bind, EStateM.bind, h]

/-- The machine after it let a thread run that it has. -/
def goOn (m : Machine) (thread : ThreadId) : Machine :=
  let m := m.mapTask thread (·.setSuspended false)
  if m.deferred.contains thread then m
  else match m.completeStep thread with
    | (m, some e) => m.emit (.single e)
    | (m, none) => m

private theorem askedToRun_eq (thread : ThreadId) (m : Machine) :
    (do match (← get).resumeFailures with
        | e :: es =>
          modify fun m => { m with resumeFailures := es }
          throw e
        | [] =>
          let _ ← find thread
          modify (·.mapTask thread (·.setSuspended false))
          unless (← get).deferred.contains thread do
            modify fun m => match m.completeStep thread with
              | (m, some e) => m.emit (.single e)
              | (m, none) => m : Call Machine Unit) m =
      match m.resumeFailures, m.task? thread with
      | e :: es, _ => .error e { m with resumeFailures := es }
      | [], none => .error (unknownThread thread) m
      | [], some _ => .ok () (m.goOn thread) := by
  rw [act_get_bind]
  cases hf : m.resumeFailures with
  | cons e es => rfl
  | nil =>
    cases ht : m.task? thread with
    | none =>
      simp only [bind, EStateM.bind, find_none ht]
    | some t =>
      simp only [bind, EStateM.bind, find_some ht, goOn]
      change (if (m.mapTask thread (·.setSuspended false)).deferred.contains thread then pure () else _
        : Call Machine Unit) (m.mapTask thread (·.setSuspended false)) = _
      split
      · rfl
      · rfl

theorem resumeThread_eq (thread : ThreadId) (m : Machine) :
    resumeThread thread m =
      let m := { m with resumes := m.resumes ++ [thread] }
      match m.resumeFailures, m.task? thread with
      | e :: es, _ => .error e { m with resumeFailures := es }
      | [], none => .error (unknownThread thread) m
      | [], some _ => .ok () (m.goOn thread) :=
  askedToRun_eq thread { m with resumes := m.resumes ++ [thread] }

private theorem goOn_resumed {m : Machine} {thread : ThreadId} {t : Task} (ht : m.task? thread = some t) :
    m.Resumed thread (m.goOn thread) := by
  have let_run : (m.mapTask thread (·.setSuspended false)).task? thread =
      some (t.setSuspended false) := by
    rw [task?_mapTask (fun _ => by rfl), ht]
    rfl
  have outstanding : (m.mapTask thread (·.setSuspended false)).outstanding thread =
      m.outstanding thread := rfl
  rw [goOn]
  generalize hm : m.mapTask thread (·.setSuspended false) = m₁ at let_run outstanding
  have events : m₁.events = m.events := by rw [← hm]; rfl
  have runs : m₁.holds thread = false := by
    rw [holds, let_run]
    rfl
  split
  · exact .runs events runs
  · rcases hc : m₁.completeStep thread with ⟨m₂, e⟩
    have h := completeStep_cases m₁ thread let_run
    rw [hc] at h
    rcases h with ⟨rfl, rfl⟩ | ⟨t', ht', hs, he, ⟨rfl, hf⟩ | ⟨request, location, rfl, hr, hf⟩⟩
    · exact .runs events runs
    · refine .unseen (he.trans events) ?_ ?_
      · rw [holds, ht']
        exact hs
      · rw [framesOf, ht']
        exact hf
    · have sent : m₂.events = m.events := he.trans events
      refine .lands (congrArg (fun c => c.send (.single (.step request thread location))) sent) ?_ ?_
        (outstanding ▸ hr)
      · change ((m₂.task? thread).any (·.suspended)) = true
        rw [ht']
        exact hs
      · change ((m₂.task? thread).map (·.frames)).getD [] ≠ []
        rw [ht']
        exact hf

/-- The machine refuses to resume the thread, or it goes on with it. -/
theorem resumeThread_cases (thread : ThreadId) (m : Machine) :
    (∃ e m', resumeThread thread m = .error e m' ∧ m'.events = m.events) ∨
    ∃ m', resumeThread thread m = .ok () m' ∧ m.Resumed thread m' := by
  rw [resumeThread_eq]
  dsimp only
  split
  · exact .inl ⟨_, _, rfl, rfl⟩
  · exact .inl ⟨_, _, rfl, rfl⟩
  · rename_i t ht
    refine .inr ⟨_, rfl, ?_⟩
    cases goOn_resumed ht with
    | runs he hh => exact .runs he hh
    | lands he hh hf hr => exact .lands he hh hf hr
    | unseen he hh hf => exact .unseen he hh hf

end Machine

theorem holds_congr {m m' : Machine} (h : m'.tasks = m.tasks) (id : ThreadId) :
    m'.holds id = m.holds id := by
  rw [Machine.holds, Machine.task?, h]
  rfl

theorem framesOf_congr {m m' : Machine} (h : m'.tasks = m.tasks) (id : ThreadId) :
    m'.framesOf id = m.framesOf id := by
  rw [Machine.framesOf, Machine.task?, h]
  rfl

/-! ## The same through a session that fails on schedule -/

namespace Faulty

section

variable {σ α : Type} {kind : CallKind} {call : Call σ α}

/-- A call on schedule is made in the inner session and recorded if it fails, there or on the way. -/
theorem guarded_cases (kind : CallKind) (call : Call σ α) (f : Faulty σ) :
    (∃ a f', guarded kind call f = .ok a f' ∧ call f.inner = .ok a f'.inner ∧
      f'.failures = f.failures) ∨
    (∃ e f', guarded kind call f = .error e f' ∧
      (f'.inner = f.inner ∨ call f.inner = .error e f'.inner) ∧
      f'.failures = f.failures ++ [(kind, e)]) := by
  have state := fault_state kind f
  cases hf : fault kind f with
  | error e f' =>
    rw [stateAfter_of_error hf] at state
    refine .inr ⟨e, _, guarded_fault hf, .inl state.1, ?_⟩
    rw [← state.2.1]
  | ok u f' =>
    rw [stateAfter_of_ok hf] at state
    cases hc : call f'.inner with
    | ok a m =>
      refine .inl ⟨a, _, guarded_ok hf hc, ?_, state.2.1⟩
      rw [← state.1]
      exact hc
    | error e m =>
      refine .inr ⟨e, _, guarded_error hf hc, .inr ?_, ?_⟩
      · rw [← state.1]
        exact hc
      · rw [← state.2.1]

end

theorem frameCount_cases (thread : ThreadId) (f : Faulty Machine) :
    (∃ n f', Session.frameCount thread f = .ok n f' ∧ f'.inner = f.inner ∧ f'.failures = f.failures) ∨
    (∃ e f', Session.frameCount thread f = .error e f' ∧ f'.inner = f.inner ∧
      f'.failures = f.failures ++ [(.frameCount, e)]) := by
  have inner : stateAfter (Session.frameCount thread : Call Machine Nat) f.inner = f.inner := by
    change stateAfter (do return (← Machine.findSuspended thread).frames.length) f.inner = _
    rcases f.inner.findSuspended_cases thread with ⟨t, h⟩ | ⟨e, h⟩
    · rw [stateAfter_bind_ok h]
      rfl
    · rw [stateAfter_bind_error h]
  rcases guarded_cases .frameCount (Session.frameCount thread) f with
    ⟨n, f', h, hc, hf⟩ | ⟨e, f', h, hi, hf⟩
  · rw [stateAfter_of_ok hc] at inner
    exact .inl ⟨n, f', h, inner, hf⟩
  · refine .inr ⟨e, f', h, ?_, hf⟩
    rcases hi with hi | hc
    · exact hi
    · rw [stateAfter_of_error hc] at inner
      exact inner

theorem resumeThread_cases (thread : ThreadId) (f : Faulty Machine) :
    (∃ f', Session.resumeThread thread f = .ok () f' ∧ f.inner.Resumed thread f'.inner ∧
      f'.failures = f.failures) ∨
    (∃ e f', Session.resumeThread thread f = .error e f' ∧ f'.inner.events = f.inner.events ∧
      f'.failures = f.failures ++ [(.resumeThread, e)]) := by
  have inner := Machine.resumeThread_cases thread f.inner
  rcases guarded_cases .resumeThread (Session.resumeThread thread) f with
    ⟨u, f', h, hc, hf⟩ | ⟨e, f', h, hi, hf⟩
  · change Machine.resumeThread thread f.inner = _ at hc
    rcases inner with ⟨e, m, he, -⟩ | ⟨m, ho, hr⟩
    · rw [hc] at he
      cases he
    · rw [hc] at ho
      cases ho
      exact .inl ⟨f', h, hr, hf⟩
  · refine .inr ⟨e, f', h, ?_, hf⟩
    rcases hi with hi | hc
    · rw [hi]
    · change Machine.resumeThread thread f.inner = _ at hc
      rcases inner with ⟨e', m, he, hv⟩ | ⟨m, ho, -⟩
      · rw [hc] at he
        cases he
        exact hv
      · rw [hc] at ho
        cases ho

theorem forceReturn_cases (thread : ThreadId) (f : Faulty Machine) :
    (∃ f', Session.forceReturn thread f = .ok () f' ∧ f'.inner.events = f.inner.events ∧
      f'.inner.outstanding thread = f.inner.outstanding thread ∧ f'.failures = f.failures) ∨
    (∃ e f', Session.forceReturn thread f = .error e f' ∧ f'.inner.events = f.inner.events ∧
      f'.failures = f.failures ++ [(.forceReturn, e)]) := by
  have asked : Session.forceReturn thread f =
      (if f.bare then noted .forceReturn (throw .unsupported) else
        guarded .forceReturn (Machine.forceReturn thread)) f := rfl
  rw [asked]
  split
  · exact .inr ⟨.unsupported, _, rfl, rfl, rfl⟩
  rcases guarded_cases .forceReturn (Machine.forceReturn thread) f with
    ⟨u, f', h, hc, hf⟩ | ⟨e, f', h, hi, hf⟩
  · rcases f.inner.forceReturn_cases thread with ⟨m, hm, he, ht⟩ | ⟨e, hm⟩
    · rw [hc] at hm
      cases hm
      refine .inl ⟨f', h, he, ?_, hf⟩
      rw [Machine.outstanding, Machine.outstanding, ht]
    · rw [hc] at hm
      cases hm
  · refine .inr ⟨e, f', h, ?_, hf⟩
    rcases hi with hi | hc
    · rw [hi]
    · rcases f.inner.forceReturn_cases thread with ⟨m, hm, -, -⟩ | ⟨e, hm⟩
      · rw [hc] at hm
        cases hm
      · rw [← stateAfter_of_error hc, stateAfter_of_error hm]

/-- How it goes on with a stepping thread that is let run. -/
theorem letRun_cases (thread : ThreadId) (forced : Bool) (f : Faulty Machine) :
    (∃ f', letRun thread forced f = .ok () f' ∧ f.inner.Resumed thread f'.inner ∧
      f'.failures = f.failures) ∨
    (∃ kind e f', letRun thread forced f = .error e f' ∧ f'.inner.events = f.inner.events ∧
      f'.failures = f.failures ++ [(kind, e)]) := by
  cases forced with
  | false =>
    rcases resumeThread_cases thread f with h | ⟨e, f', h⟩
    · exact .inl h
    · exact .inr ⟨.resumeThread, e, f', h⟩
  | true =>
    rcases forceReturn_cases thread f with ⟨f₁, h, he, ho, hf⟩ | ⟨e, f', h, he, hf⟩
    · rcases resumeThread_cases thread f₁ with ⟨f', h', hr, hf'⟩ | ⟨e, f', h', he', hf'⟩
      · refine .inl ⟨f', ?_, ?_, hf'.trans hf⟩
        · simp only [letRun, bind, EStateM.bind, if_true, h, h']
        · cases hr with
          | runs he' hh => exact .runs (he'.trans he) hh
          | lands he' hh hfr hr => exact .lands (he ▸ he') hh hfr (ho ▸ hr)
          | unseen he' hh hfr => exact .unseen (he'.trans he) hh hfr
      · refine .inr ⟨.resumeThread, e, f', ?_, he'.trans he, hf ▸ hf'⟩
        simp only [letRun, bind, EStateM.bind, if_true, h, h']
    · refine .inr ⟨.forceReturn, e, f', ?_, he, hf⟩
      simp only [letRun, bind, EStateM.bind, if_true, h]

end Faulty

end Debugger
