import Debugger.Proofs.WholeSteps

/-! # Landings that no script decides

Where the script has no landing left for a thread, each leg of its steps lands where its depth says.  A step that is to
end at a frame begins with a look at the place of the frame.
-/

namespace Debugger

namespace Machine

/-- A leg for which the script has no landing lands where its depth says. -/
theorem landingOf_unscripted {m : Machine} {l : Leg} {stack : List RemoteFrame}
    (script : m.script l.request.thread = []) (stands : m.Stands l.request.thread stack) :
    m.landingOf l = landing l.request.depth (l.forced || m.forcedReturns.contains l.request.thread)
      (m.reentry.find? l.request.thread) m.nextFrame stack := by
  obtain ⟨task, here, -, rfl⟩ := stands
  rw [landingOf, script, framesOf, here]
  rfl

end Machine

variable {s s₁ : System (Faulty Machine)} {t : ThreadRef} {frames : List FrameRef} {frame : FrameRef}
  {top : RemoteFrame} {below stack : List RemoteFrame} {f f' : Faulty Machine} {id : ThreadId}

/-- The thread is suspended on the stack, and its steps land where their depths say, as soon as it is let run; no call
fails. -/
structure Unscripted (f : Faulty Machine) (id : ThreadId) (stack : List RemoteFrame) : Prop where
  smooth : f.Smooth
  undeferred : f.inner.deferred.contains id = false
  script : f.inner.script id = []
  stands : f.inner.Stands id stack

namespace Unscripted

theorem turns (h : Unscripted f id stack) (turn : f.Turns f.inner f') : Unscripted f' id stack where
  smooth := turn.smooth
  undeferred := turn.inner ▸ h.undeferred
  script := turn.inner ▸ h.script
  stands := turn.inner ▸ h.stands

/-- The next leg runs, if there is a frame for it to land on; only a session in full can force a return. -/
theorem runs (h : Unscripted f id stack) (l : Leg) (is : l.request.thread = id) (full : l.forced → f.bare = false)
    (lands : Machine.landing l.request.depth (l.forced || f.inner.forcedReturns.contains id) (f.inner.reentry.find? id)
      f.inner.nextFrame stack = top :: below) :
    ∃ f₁ f₂, l.Runs f top below f₁ f₂ ∧ Unscripted f₂ id (top :: below) := by
  subst is
  have here := h.stands
  obtain ⟨task, found, -⟩ := h.stands
  obtain ⟨f₁, f₂, runs⟩ := Leg.runs h.smooth ⟨task, found⟩ (fun forced => ⟨full forced, stack, here⟩) h.undeferred
    ((Machine.landingOf_unscripted h.script here).trans lands)
  exact ⟨f₁, f₂, runs, runs.turn.smooth, runs.deferred ▸ h.undeferred,
    runs.script.trans (congrArg List.tail h.script), runs.stands⟩

end Unscripted

/-- A frame that is shown is found at its place. -/
theorem System.Poised.locates {w : Surroundings (Faulty Machine)} {index : Nat} (poised : s.Poised t frames s₁)
    (occurs : Occurs w s) (wrapper : frames[index]? = some frame) : locate t frame s₁ = .ok (frames, index) s₁ := by
  have place : frames.idxOf? frame = some index := by
    obtain ⟨inside, rfl⟩ := List.getElem?_eq_some_iff.mp wrapper
    have distinct := poised.nodup occurs
    exact List.idxOf?_eq_some_iff.mpr ⟨inside, rfl, fun j earlier same =>
      Nat.ne_of_lt earlier (distinct.getElem_inj_iff.mp same)⟩
  rw [locate, run_ok_bind (poised.again occurs.tidy), place]
  rfl

/-- Which frames a look shows can be computed. -/
theorem shown_of_run' {σ : Type} [Session σ] {s : System σ} (computed : (stackFrames t).run' s = some frames) :
    ∃ s₁, stackFrames t s = .ok frames s₁ := by
  cases answer : stackFrames t s with
  | error e s₁ =>
    rw [run'_of_error answer] at computed
    cases computed
  | ok shown s₁ =>
    rw [run'_of_ok answer] at computed
    obtain rfl := Option.some.inj computed
    exact ⟨s₁, rfl⟩

end Debugger
