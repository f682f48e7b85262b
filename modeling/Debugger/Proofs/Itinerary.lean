import Debugger.Proofs.StepLegs
import Debugger.Proofs.MachinePersistence

/-! # Itineraries

The itinerary of a step is the sequence of its legs, each of which lands where the judgement of the landing
sends the step on, except the last.  The machine has on record, for each leg in turn, a request that was made,
fired and deleted, and one resume.
-/

namespace Debugger

/-- The judgement of a landing on the stack. -/
def Stepping.judge (st : Stepping) (top : RemoteFrame) (below : List RemoteFrame) : StepKind × StepTransition :=
  st.land top.location (if st.needsFrameCount then some (below.length + 1) else none)

namespace Leg

/-- The leg was begun, has landed on the frame, and was finished, and no call failed. -/
structure Runs (l : Leg) (f : Faulty Machine) (top : RemoteFrame) (below : List RemoteFrame)
    (f₁ f₂ : Faulty Machine) : Prop extends l.Begins f top below f₁ where
  finished : l.finish f.inner.nextRequest f₁ = .ok () f₂
  turn : f₁.Turns (f₁.inner.withoutStep f.inner.nextRequest) f₂

variable {l : Leg} {f f₁ f₂ : Faulty Machine} {top : RemoteFrame} {below : List RemoteFrame}

theorem runs (smooth : f.Smooth) (has : f.inner.Has l.request.thread)
    (forced : l.forced → f.bare = false ∧ ∃ stack, f.inner.Stands l.request.thread stack)
    (undeferred : f.inner.deferred.contains l.request.thread = false)
    (lands : f.inner.landingOf l = top :: below) : ∃ f₁ f₂, l.Runs f top below f₁ f₂ := by
  obtain ⟨task, here⟩ := has
  obtain ⟨f₁, begun⟩ := begins smooth here (fun h => by
    obtain ⟨full, stack, task', here', suspended, -⟩ := forced h
    cases here.symm.trans here'
    exact ⟨full, suspended⟩) undeferred lands
  obtain ⟨f₂, finished, turn⟩ : ∃ f₂, l.finish f.inner.nextRequest f₁ = .ok () f₂ ∧
      f₁.Turns (f₁.inner.withoutStep f.inner.nextRequest) f₂ := finishes begun.smooth begun.lands.stands
  exact ⟨f₁, f₂, begun, finished, turn⟩

namespace Runs

variable (h : l.Runs f top below f₁ f₂)

include h

theorem bare_eq : f₂.bare = f.bare := h.turn.bare.trans h.bare

theorem stands : f₂.inner.Stands l.request.thread (top :: below) := h.turn.inner ▸ h.lands.stands

theorem script : f₂.inner.script l.request.thread = (f.inner.script l.request.thread).tail :=
  h.turn.inner ▸ h.lands.script

theorem deferred : f₂.inner.deferred = f.inner.deferred := h.turn.inner ▸ h.lands.deferred

theorem popped : f₂.inner.popped = f.inner.popped := h.turn.inner ▸ h.lands.popped

/-- No return is forced any more, and no popped frame is entered again. -/
theorem cleared : f₂.inner.forcedReturns.contains l.request.thread = false ∧
    f₂.inner.reentry.find? l.request.thread = none :=
  h.turn.inner ▸ ⟨h.lands.returned, h.lands.entered⟩

theorem has : f₂.inner.Has l.request.thread := by
  obtain ⟨task, here, -⟩ := h.stands
  exact ⟨task, here⟩

theorem requestsMade_begun : f₁.inner.requestsMade = f.inner.requestsMade + 1 := by
  rw [Machine.requestsMade, h.lands.steps, h.lands.breakpoints, List.length_append, List.length_singleton,
    Machine.requestsMade]
  omega

theorem requestsMade : f₂.inner.requestsMade = f.inner.requestsMade + 1 := by
  rw [h.turn.inner, Machine.requestsMade_withoutStep, h.requestsMade_begun]

theorem numbered (numbered : f.inner.Numbered) : f₂.inner.Numbered :=
  h.turn.inner ▸ (h.lands.numbered numbered).withoutStep _

end Runs

end Leg

namespace Machine

theorem markDeleted_concat {es : List StepEntry} {e : StepEntry} (h : e.id ∉ es.map (·.id)) :
    markDeleted e.id (es ++ [e]) = es ++ [{ e with deleted := true }] := by
  induction es with
  | nil => simp [markDeleted]
  | cons d ds ih =>
    rw [List.map_cons, List.mem_cons, not_or] at h
    rw [List.cons_append, markDeleted, if_neg (Ne.symm h.1), ih h.2, List.cons_append]

/-- What the machine has on record of legs: the request of each was made under the number at its place, fired and
deleted, and the thread resumed. -/
structure Recorded (m m' : Machine) (legs : List Leg) (ids : List RequestId) : Prop where
  length : ids.length = legs.length
  steps : m'.steps = m.steps ++ List.zipWith (fun id (l : Leg) => ⟨id, l.request, true, true⟩) ids legs
  deleted : m'.deleted = m.deleted ++ ids.map (.step, ·)
  resumes : m'.resumes = m.resumes ++ legs.map (·.request.thread)

theorem Recorded.trans {m m₁ m' : Machine} {legs legs' : List Leg} {ids ids' : List RequestId}
    (h : m.Recorded m₁ legs ids) (h' : m₁.Recorded m' legs' ids') :
    m.Recorded m' (legs ++ legs') (ids ++ ids') where
  length := by rw [List.length_append, List.length_append, h.length, h'.length]
  steps := by rw [h'.steps, h.steps, List.append_assoc, List.zipWith_append h.length]
  deleted := by rw [h'.deleted, h.deleted, List.append_assoc, List.map_append]
  resumes := by rw [h'.resumes, h.resumes, List.append_assoc, List.map_append]

end Machine

theorem Leg.Runs.recorded {l : Leg} {f f₁ f₂ : Faulty Machine} {top : RemoteFrame} {below : List RemoteFrame}
    (h : l.Runs f top below f₁ f₂) (numbered : f.inner.Numbered)
    (few : f.inner.requestsMade + 1 < UInt32.size) : f.inner.Recorded f₂.inner [l] [f.inner.nextRequest] := by
  have fresh : f.inner.nextRequest ∉ f.inner.steps.map (·.id) := by
    have distinct := (h.lands.numbered numbered).nodup (h.requestsMade_begun ▸ few)
    rw [Machine.tickets, h.lands.steps, List.map_append, List.map_append, List.map_map] at distinct
    exact fun old => (List.nodup_append.mp distinct).2.2 _ old _ (List.mem_singleton_self _) rfl
  refine ⟨rfl, ?_, ?_, ?_⟩
  · rw [h.turn.inner, Machine.withoutStep, h.lands.steps]
    exact Machine.markDeleted_concat (e := ⟨f.inner.nextRequest, l.request, true, false⟩) fresh
  · rw [h.turn.inner, Machine.withoutStep, h.lands.deleted]
    rfl
  · rw [h.turn.inner, Machine.withoutStep]
    exact h.lands.resumes

/-- The legs that a step takes from its present kind on, the session after them, and the stack they end on. -/
inductive Itinerary (thread : ThreadId) :
    Stepping → Faulty Machine → List Leg → Faulty Machine → List RemoteFrame → Prop
  | last {st : Stepping} {f f₁ f₂ : Faulty Machine} {top : RemoteFrame} {below : List RemoteFrame}
    (runs : (st.leg thread).Runs f top below f₁ f₂) (judged : (st.judge top below).2 = .finish) :
    Itinerary thread st f [st.leg thread] f₂ (top :: below)
  | more {st : Stepping} {f f₁ f₂ f' : Faulty Machine} {top : RemoteFrame} {below : List RemoteFrame}
    {kind : StepKind} {legs : List Leg} {stack : List RemoteFrame}
    (runs : (st.leg thread).Runs f top below f₁ f₂) (judged : st.judge top below = (kind, .continue))
    (rest : Itinerary thread { st with kind, request := f₂.inner.nextRequest } f₂ legs f' stack) :
    Itinerary thread st f (st.leg thread :: legs) f' stack

namespace Itinerary

variable {thread : ThreadId} {st : Stepping} {f f' : Faulty Machine} {legs : List Leg} {stack : List RemoteFrame}

theorem stands (h : Itinerary thread st f legs f' stack) : f'.inner.Stands thread stack := by
  induction h with
  | last runs => exact runs.stands
  | more _ _ _ ih => exact ih

theorem smooth (h : Itinerary thread st f legs f' stack) : f'.Smooth := by
  induction h with
  | last runs => exact runs.turn.smooth
  | more _ _ _ ih => exact ih

/-- No frames are popped on the way. -/
theorem popped (h : Itinerary thread st f legs f' stack) : f'.inner.popped = f.inner.popped := by
  induction h with
  | last runs => exact runs.popped
  | more runs _ _ ih => exact ih.trans runs.popped

/-- The legs are on record, each fired and deleted, in their order. -/
theorem recorded (h : Itinerary thread st f legs f' stack) (numbered : f.inner.Numbered)
    (few : f.inner.requestsMade + legs.length < UInt32.size) : ∃ ids, f.inner.Recorded f'.inner legs ids := by
  induction h with
  | last runs => exact ⟨_, runs.recorded numbered few⟩
  | more runs _ _ ih =>
    rw [List.length_cons] at few
    obtain ⟨ids, rest⟩ := ih (runs.numbered numbered) (by rw [runs.requestsMade]; omega)
    exact ⟨_, (runs.recorded numbered (by omega)).trans rest⟩

end Itinerary

end Debugger
