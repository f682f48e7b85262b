import Debugger.Proofs.WholeSteps

/-! # Where a step into ends

A step into takes the same leg again and again, until it lands where it may end: not in filtered code, unless it
started in such code, and not on the line that it started on.
-/

namespace Debugger

/-- Whether a step into that started on the stack may end on the landing: it passes through filtered code into which
it did not start, and does not stay on the line where it started. -/
def Acceptable (filters : StepFilters) (requested : Bool) : List RemoteFrame → List RemoteFrame → Prop
  | start :: deeper, top :: below =>
    ¬ (filters.applies requested ∧ ¬ filters.coversLocation start.location requested ∧
        filters.coversLocation top.location requested) ∧
      ¬ ((top :: below).length = (start :: deeper).length ∧ start.location.sameLine top.location)
  | _, _ => False

/-- The operation steps into the thread, with its own filters or the target's, and perhaps asks for filtering. -/
inductive System.StepsInto {σ : Type} (s : System σ) (t : ThreadRef) : Operation → StepFilters → Bool → Prop
  | given (filters : StepFilters) : StepsInto s t (.step t .into filters) filters false
  | default : StepsInto s t (.stepWithTargetFilters t .into) s.filters false
  | asked (patterns : s.filters.hasPatterns) : StepsInto s t (.stepWithFilters t) s.filters true

namespace Acceptable

instance (filters : StepFilters) (requested : Bool) :
    ∀ stack landing, Decidable (Acceptable filters requested stack landing)
  | _ :: _, _ :: _ => inferInstanceAs (Decidable (_ ∧ _))
  | [], _ => isFalse id
  | _ :: _, [] => isFalse id

end Acceptable

variable {s s₁ : System (Faulty Machine)} {t : ThreadRef} {o : Operation} {filters : StepFilters} {requested : Bool}
  {frames : List FrameRef} {start top last : RemoteFrame} {deeper below stack : List RemoteFrame}

/-- The operation looks whether the thread can step, and if so the step starts. -/
theorem System.StepsInto.performs (h : s.StepsInto t o filters requested) (alive : s.targetAlive)
    (poised : s.Poised t frames s₁) : o.perform s = stateAfter (startStep t .into filters requested) s₁ := by
  have inTarget (op : Client (Faulty Machine) Unit) : stateAfter (needTarget >>= fun _ => op) s = stateAfter op s :=
    stateAfter_bind_ok (needTarget_alive alive)
  have known : (get : Client (Faulty Machine) _) s = .ok s s := rfl
  cases h with
  | given filters =>
    rw [Operation.perform, step]
    exact poised.goesAhead _
  | default =>
    rw [Operation.perform, stepWithTargetFilters, inTarget]
    rw [stateAfter_bind_ok known, step]
    exact poised.goesAhead _
  | asked patterns =>
    rw [Operation.perform, stepWithFilters, inTarget]
    rw [stateAfter_bind_ok known, if_pos patterns]
    exact poised.goesAhead _

/-- A landing of the step is judged by whether it is acceptable. -/
theorem judge_into {request : RequestId} :
    (Stepping.start .into filters requested request start deeper).judge top below =
      (.into, if Acceptable filters requested (start :: deeper) (top :: below) then .finish else .continue) := by
  let st := Stepping.start .into filters requested request start deeper
  have judged : st.judge top below = (.into, if st.landsFiltered top.location ||
      st.landsAtOrigin top.location (some (below.length + 1)) then .continue else .finish) := rfl
  have filtered : st.landsFiltered top.location = true ↔ filters.applies requested ∧
      ¬ filters.coversLocation start.location requested ∧ filters.coversLocation top.location requested := by
    simp [st, Stepping.landsFiltered, Stepping.start, Stepping.filtering, StepKind.filtered, and_assoc]
  have origin : st.landsAtOrigin top.location (some (below.length + 1)) = true ↔
      (top :: below).length = (start :: deeper).length ∧ start.location.sameLine top.location := by
    simp [st, Stepping.landsAtOrigin, Stepping.start, StepKind.depth]
  change st.judge top below = _
  rw [judged]
  by_cases h : Acceptable filters requested (start :: deeper) (top :: below)
  · rw [if_pos h, if_neg]
    rw [Bool.or_eq_true, filtered, origin]
    exact not_or.mpr h
  · rw [if_neg h, if_pos]
    rw [Bool.or_eq_true, filtered, origin]
    exact (not_and_or.mp h).imp not_not.mp not_not.mp

/-- The types that a step into from the stack excludes: none, if it starts in one of them. -/
def exclusions (filters : StepFilters) (requested : Bool) (stack : List RemoteFrame) : List String :=
  if filters.applies requested &&
    !stack.head?.any fun start => filters.coversType start.location.method.declaringType then filters.patterns else []

/-- The leg that a step into takes again and again. -/
def intoLeg (filters : StepFilters) (requested : Bool) (stack : List RemoteFrame) (id : ThreadId) : Leg :=
  ⟨⟨id, .into, some 1, exclusions filters requested stack, .thread⟩, false, true⟩

theorem leg_into {request : RequestId} {id : ThreadId} :
    (Stepping.start .into filters requested request start deeper).leg id =
      intoLeg filters requested (start :: deeper) id := rfl

/-- A step into whose landings are in the script takes one leg for each of them, up to the one where it may end. -/
theorem itinerary_into {id : ThreadId} {request : RequestId} {f : Faulty Machine}
    {before after : List (List RemoteFrame)} (smooth : f.Smooth) (has : f.inner.Has id)
    (undeferred : f.inner.deferred.contains id = false)
    (script : f.inner.script id = before ++ (top :: below) :: after) (filled : ∀ landing ∈ before, landing ≠ [])
    (passed : ∀ landing ∈ before, ¬ Acceptable filters requested (start :: deeper) landing)
    (accepted : Acceptable filters requested (start :: deeper) (top :: below)) :
    ∃ f', Itinerary id (.start .into filters requested request start deeper) f
      (List.replicate (before.length + 1) (intoLeg filters requested (start :: deeper) id)) f' (top :: below) := by
  let st := Stepping.start .into filters requested request start deeper
  have leg : st.leg id = intoLeg filters requested (start :: deeper) id := leg_into
  induction before generalizing f request with
  | nil =>
    obtain ⟨f₁, f₂, runs⟩ := Leg.runs (l := st.leg id) smooth has (fun forced => by cases forced) undeferred
      (Machine.landingOf_script script)
    refine ⟨f₂, leg ▸ .last runs ?_⟩
    rw [judge_into, if_pos accepted]
  | cons landing before ih =>
    obtain ⟨top', below', rfl⟩ := List.exists_cons_of_ne_nil (filled landing List.mem_cons_self)
    obtain ⟨f₁, f₂, runs⟩ := Leg.runs (l := st.leg id) smooth has (fun forced => by cases forced) undeferred
      (Machine.landingOf_script script)
    obtain ⟨f', rest⟩ := ih runs.turn.smooth runs.has
      (runs.deferred ▸ undeferred) (runs.script.trans (congrArg List.tail script))
      (fun landing h => filled landing (List.mem_cons_of_mem _ h))
      (fun landing h => passed landing (List.mem_cons_of_mem _ h)) leg_into
    have judged : st.judge top' below' = (.into, .continue) := by
      rw [judge_into, if_neg (passed _ List.mem_cons_self)]
    have whole := Itinerary.more runs judged rest
    rw [leg] at whole
    exact ⟨f', whole⟩

/-- A step into runs exactly to the first acceptable landing.  In a target that lives and has nothing left to handle,
with no call to fail, it asks of the machine the same leg for each landing of the script up to that one, each finished
before the next is begun; its start and its end are announced, each once; and the thread is left suspended there.  The
filters that the client gives the target meanwhile, one before each stretch of the background tasks, make no
difference. -/
theorem stepInto_first_acceptable {before after : List (List RemoteFrame)} (reachable : Reachable scripted s)
    (settled : s.UpToDate) (smooth : s.session.Smooth)
    (undeferred : s.session.inner.deferred.contains (s.thread t).id = false) (can : (canStep t s).1)
    (steps : s.StepsInto t o filters requested)
    (script : s.session.inner.script (s.thread t).id = before ++ stack :: after)
    (filled : ∀ landing ∈ before, landing ≠ [])
    (passed : ∀ landing ∈ before, ¬ Acceptable filters requested (s.shownStack t) landing)
    (accepted : Acceptable filters requested (s.shownStack t) stack)
    (few : s.session.inner.requestsMade + (before.length + 1) < UInt32.size) :
    let legs := List.replicate (before.length + 1) (intoLeg filters requested (s.shownStack t) (s.thread t).id)
    ∀ meanwhile, ((o.perform s).amid meanwhile).session =
        stateAfter (Leg.runFirst meanwhile.length legs) (canStep t s).2.session ∧
      (legs.length ≤ meanwhile.length → s.Stepped ((o.perform s).amid meanwhile) t .into legs stack) := by
  obtain ⟨frames, s₁, poised⟩ := canStep_poised can
  obtain ⟨start, deeper, shows⟩ := poised.shows reachable.occurs
  obtain ⟨top, below, rfl⟩ : ∃ top below, stack = top :: below :=
    List.exists_cons_of_ne_nil fun none => by
      rw [shows, none] at accepted
      exact accepted
  rw [shows] at passed accepted ⊢
  obtain ⟨-, -, turn⟩ := stackFrames_leaves smooth poised.suspended poised.shown
  have performs := steps.performs settled.alive poised
  obtain ⟨f', itinerary⟩ := itinerary_into turn.smooth (poised.has reachable.occurs) (turn.inner ▸ undeferred)
    (turn.inner ▸ script) filled passed accepted
  intro legs meanwhile
  have performed : Reachable scripted (o.perform s) := reachable.move (.operation o)
  rw [performs] at performed ⊢
  rw [poised.answer]
  exact poised.stepped reachable.occurs settled smooth shows performed (by rwa [List.length_replicate]) itinerary meanwhile

/-- A frame of the library. -/
private def library : RemoteFrame :=
  ⟨3, ⟨⟨⟨2, 201⟩, "add", "java.util.ArrayList", "()V", 0⟩, 0, some 40⟩⟩

private def run : RemoteFrame := sampleFrame 1 101 "run" 10

private def main : RemoteFrame := sampleFrame 2 102 "main" 3

private def callee : RemoteFrame := sampleFrame 4 103 "callee" 20

/-- Filters that pass the library. -/
private def pastLibrary : StepFilters := .ofSettings { active := ["java.*"] }

/-- The first two landings of a step: in the library, and later on the line where it started. -/
private def passing : List (List RemoteFrame) :=
  [[library, run, main], [⟨1, { run.location with codeIndex := 14 }⟩, main]]

/-- The sample program with one suspended thread, whose next step lands there and then in another method. -/
private def bound : System (Faulty Machine) :=
  sampleSystem (.addTask (sampleTask 1) :: (passing ++ [[callee, run, main]]).map (.landing 1))

private theorem bound_reachable : Reachable scripted bound :=
  sampleSystem_reachable (sampleMachine_starts (by simp [passing, Scenario.MachineCommand.SparesSteps]))
    (by decide +kernel)

private theorem bound_script : bound.session.inner.script 1 = passing ++ [callee, run, main] :: [] := by decide +kernel

private theorem bound_shows : bound.shownStack 0 = [run, main] := by decide +kernel

/-- The step passes the library and the rest of its own line, whatever filters the target is given on the way. -/
theorem stepInto_passes_library_and_line :
    bound.Stepped (((Operation.step 0 .into pastLibrary).perform bound).amid [none, some .none, none]) 0 .into
      (List.replicate 3 (intoLeg pastLibrary false [run, main] 1)) [callee, run, main] := by
  have id : (bound.thread 0).id = 1 := by decide +kernel
  have settled : bound.UpToDate := ⟨⟨by decide +kernel, by decide +kernel, by decide +kernel, by decide +kernel,
    by decide +kernel, .inl (by decide +kernel)⟩, by decide +kernel⟩
  have script : bound.session.inner.script (bound.thread 0).id = passing ++ [callee, run, main] :: [] := by
    rw [id, bound_script]
  have few : bound.session.inner.requestsMade + (passing.length + 1) < UInt32.size := by decide +kernel
  have steps := stepInto_first_acceptable bound_reachable settled (.of_empty (by decide +kernel) (by decide +kernel))
    (by decide +kernel) (by decide +kernel) (.given pastLibrary) script (by decide +kernel)
    (by rw [bound_shows]; decide +kernel) (by rw [bound_shows]; decide +kernel) few [none, some .none, none]
  rw [bound_shows, id] at steps
  exact steps.2 (by decide)

/-- In a target that was shut down nobody hears of an acceptable landing, and where the death of the thread has yet to
be heard of the step dies with it. -/
theorem stepInto_unheard :
    let shut := Operation.shutdown.perform bound
    let dying := { bound with session :=
      ((Scenario.MachineCommand.emit [.single (.threadDeath 1)]).applyFaulty bound.session).2 }
    (shut.Unheard 0 .into (.stepWithTargetFilters 0 .into) ∧
      (shut.session.inner.script 1).head? = some [library, run, main] ∧
      Acceptable shut.filters false (shut.shownStack 0) [library, run, main]) ∧
    dying.Unheard 0 .into (.stepWithTargetFilters 0 .into) ∧
      (dying.session.inner.script 1).head? = some [library, run, main] ∧
      Acceptable dying.filters false (dying.shownStack 0) [library, run, main] := by
  refine ⟨⟨⟨bound_reachable.move (.operation .shutdown), .of_empty (by decide +kernel) (by decide +kernel),
    by decide +kernel, by decide +kernel, by decide +kernel, by decide +kernel, by decide +kernel⟩, by decide +kernel,
    by decide +kernel⟩,
    ⟨bound_reachable.move (.machine ⟨.emit _, trivial, rfl⟩), .of_empty (by decide +kernel) (by decide +kernel),
    by decide +kernel, by decide +kernel, by decide +kernel, by decide +kernel, by decide +kernel⟩, by decide +kernel,
    by decide +kernel⟩

end Debugger
