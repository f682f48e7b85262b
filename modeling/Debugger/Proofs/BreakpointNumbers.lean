import Debugger.Proofs.PendingStep

/-! # The numbers of breakpoints

A breakpoint keeps the number that the machine gave its request.  The machine in memory counts requests of
all kinds in one row, so as long as there are fewer of them than machine words, a new breakpoint never gets
the number of an earlier one.
-/

namespace Debugger

variable {σ : Type}

/-- The numbers of all breakpoints there ever were. -/
def System.breakpointNumbers (s : System σ) : Array RequestId := s.breakpoints.map (·.request)

theorem System.request_mem {s : System σ} {b : BreakpointRef} (hb : b < s.breakpoints.size) :
    (s.breakpoint b).request ∈ s.breakpointNumbers := by
  rw [System.breakpoint, Array.getElem?_eq_getElem hb]
  exact Array.mem_map_of_mem (Array.getElem_mem hb)

private theorem numbers_countHit (bs : Array Breakpoint) (b : BreakpointRef) :
    (bs.modify b fun bp => { bp with hits := bp.hits + 1 }).map (·.request) = bs.map (·.request) := by
  refine Array.ext_getElem? fun i => ?_
  rw [Array.getElem?_map, Array.getElem?_map, Array.getElem?_modify]
  split
  · cases bs[i]? <;> rfl
  · rfl

/-- A change adds a breakpoint for which the machine has just given a number, or none. -/
theorem Change.breakpointNumbers [Session σ] {s s' : System σ} (h : Change s s') :
    s'.breakpointNumbers = s.breakpointNumbers ∨ ∃ r request,
      Session.createBreakpointRequest r s.session = .ok request s'.session ∧
      s'.breakpointNumbers = s.breakpointNumbers.push request := by
  have same (h : s'.breakpoints = s.breakpoints) : s'.breakpointNumbers = s.breakpointNumbers := by
    rw [System.breakpointNumbers, h, System.breakpointNumbers]
  cases h with
  | @install r request m h =>
    refine .inr ⟨r, request, h, ?_⟩
    simp [System.breakpointNumbers]
  | countHit b => exact .inl (numbers_countHit s.breakpoints b)
  | aside h => exact .inl (same (congrArg Core.breakpoints h))
  | @refresh t remote m _ _ =>
    exact .inl (same (congrArg System.breakpoints (System.updateFrames_rest { s with session := m } t remote) :))
  | bury t => exact .inl (same (congrArg System.breakpoints (System.bury_rest s t) :))
  | stopAt t b all =>
    cases all with
    | true => exact .inl (same (congrArg System.breakpoints (System.suspendListed_rest (s.arrive t b)) :))
    | false => exact .inl rfl
  | @beginInvocation t =>
    exact .inl (same (congrArg System.breakpoints (System.liftTimeout_rest
      ((s.mapThread t fun th => { th with invoking := true }).startRunning t) s.session) :))
  | @endInvocation n task =>
    exact .inl (same (congrArg System.breakpoints (System.restoreTimeout_rest
      ((s.stopRunning task.thread).mapThread task.thread fun th => { th with invoking := false })
      s.session) :))
  | uninstall b =>
    exact .inl (same (congrArg System.breakpoints (System.leaveBreakpoints_rest
      { s with installed := s.installed.erase (s.breakpoint b).request } b s.registry) :))
  | died id => exact .inl (same (congrArg System.breakpoints (System.threadDied_rest s id) :))
  | disconnect => exact .inl (same (congrArg System.breakpoints (System.disconnect_rest s) :))
  | release =>
    refine .inl (same ?_)
    unfold System.release
    dsimp only
    split <;> rfl
  | @renewStep t old =>
    exact .inl (same (congrArg System.breakpoints (deleteStepRequest_state old.request s) :))
  | abort t => exact .inl (same (congrArg System.breakpoints (abortStep_rest t s s.session) :))
  | _ => exact .inl rfl

/-- So does anything that can happen. -/
theorem StepChange.breakpointNumbers [Session σ] {s s' : System σ} (h : StepChange s s') :
    s'.breakpointNumbers = s.breakpointNumbers ∨ ∃ r request,
      Session.createBreakpointRequest r s.session = .ok request s'.session ∧
      s'.breakpointNumbers = s.breakpointNumbers.push request := by
  have deleted (request : RequestId) (s : System σ) :
      (deleteStepRequest request s).2.breakpointNumbers = s.breakpointNumbers :=
    (congrArg System.breakpointNumbers (deleteStepRequest_state request s) :)
  cases h with
  | start h =>
    cases h
    exact .inl rfl
  | landing h =>
    cases h with
    | change h => exact h.breakpointNumbers
    | finish t h =>
      cases h with
      | finish hp => exact .inl (deleted _ _)
      | giveUp hp h => exact .inl (deleted _ _)
  | evaluating h =>
    cases h with
    | tasks => exact .inl rfl
    | mark => exact .inl rfl
  | watching h =>
    cases h with
    | aside h => exact .inl (congrArg (Array.map Breakpoint.request) (congrArg Core.breakpoints h))
    | suspending => exact .inl rfl

/-! ## The machine in memory -/

variable {s s' : System (Faulty Machine)}

/-- Each breakpoint has one of the numbers given out so far. -/
def System.NumbersBreakpoints (s : System (Faulty Machine)) : Prop :=
  ∀ r ∈ s.breakpointNumbers, ∃ n ≤ s.session.inner.requestsMade, r = Int32.ofNat n

private theorem NumbersBreakpoints.keep (hs : s.NumbersBreakpoints)
    (made : s.session.inner.requestsMade ≤ s'.session.inner.requestsMade)
    (same : s'.breakpointNumbers = s.breakpointNumbers) : s'.NumbersBreakpoints := fun r hr => by
  obtain ⟨n, hn, rfl⟩ := hs r (same ▸ hr)
  exact ⟨n, Nat.le_trans hn made, rfl⟩

end Debugger
