import Debugger.Proofs.Reachable

/-! # When one event set is left to handle

With nothing else to do, the background tasks handle the set, and then whatever the machine reports
meanwhile.  A system that has handled everything is settled after one more look at the channel.
-/

namespace Debugger

variable {σ : Type} [Session σ]

/-- The dispatcher can work and no other task is ready. -/
structure System.Attentive (s : System σ) : Prop where
  dispatching : s.dispatching = true
  running : s.shutdown = false
  alive : s.targetAlive = true
  connected : s.disconnected = false
  unclosed : Session.eventsClosed s.session = false
  ready : s.ready = [] ∨ s.ready = [.dispatcher]

/-- Nothing is left to do but to handle the set. -/
structure System.Left (s : System σ) (set : EventSet) : Prop extends s.Attentive where
  unread : (Session.events s.session).receive? s.reader =
    some (.message set, (Session.events s.session).subscribe)

/-- Nothing is left to do. -/
structure System.UpToDate (s : System σ) : Prop extends s.Attentive where
  read : s.reader = (Session.events s.session).subscribe

/-- Nothing is left to do but to find that out, or that the dispatcher is to stop. -/
structure System.Exhausted (s : System σ) : Prop where
  read : s.reader = (Session.events s.session).subscribe
  unclosed : Session.eventsClosed s.session = false
  ready : s.ready = [] ∨ s.ready = [.dispatcher]

/-- The system with which the dispatcher begins to handle the last set. -/
def System.turnTo (s : System σ) : System σ :=
  { s with ready := [.dispatcher], reader := (Session.events s.session).subscribe }

variable {s : System σ} {set : EventSet} {fuel : Nat}

namespace System

theorem Left.dispatchable (h : s.Left set) : s.dispatchable = true := by
  simp [System.dispatchable, h.dispatching, h.unread]

theorem UpToDate.not_dispatchable (h : s.UpToDate) : s.dispatchable = false := by
  simp [System.dispatchable, h.running, h.unclosed, h.read, Channel.receive?_subscribe]

/-- The dispatcher stands first in line. -/
theorem Left.wakeDispatcher (h : s.Left set) : s.wakeDispatcher = { s with ready := [.dispatcher] } := by
  rw [System.wakeDispatcher, if_pos h.dispatchable, System.wake]
  rcases h.ready with hr | hr
  · rw [hr]
    rfl
  · rw [hr, if_pos (by simp), ← hr]

end System

theorem runNext_left (h : s.Left set) (hf : set.isFinal = false) :
    runNext s = ((), (handleEventSet set s.turnTo).2) := by
  rw [runNext, run_modify_bind, run_get_bind, h.wakeDispatcher]
  dsimp only
  have gate : (s.shutdown || !s.dispatching || !s.targetAlive) = false := by
    simp [h.running, h.dispatching, h.alive]
  have one := dispatchOne_message (s := { s with ready := [.dispatcher] }) gate h.unread
  dsimp only at one
  rw [hf] at one
  rw [run_bind one]
  rfl

/-- Without a message the dispatcher goes on only if it is to. -/
private theorem dispatchOne_exhausted (h : s.Exhausted) :
    dispatchOne s =
      (false, { s with dispatching := s.dispatching && !s.shutdown && s.targetAlive }) := by
  rw [dispatchOne, run_get_bind]
  split
  · rename_i gate
    have off : (s.dispatching && !s.shutdown && s.targetAlive) = false := by
      cases hd : s.dispatching <;> cases hs : s.shutdown <;> simp_all
    rw [off]
    rfl
  · rename_i gate
    have on : (s.dispatching && !s.shutdown && s.targetAlive) = s.dispatching := by
      cases hd : s.dispatching <;> cases hs : s.shutdown <;> simp_all
    have none_left : (Session.events s.session).receive? s.reader = none := by
      rw [h.read]
      exact Channel.receive?_subscribe _
    rw [on]
    simp only [none_left, h.unclosed]
    rfl

theorem runNext_upToDate (h : s.UpToDate) (hr : s.ready = [.dispatcher]) :
    runNext s = ((), { s with ready := [] }) := by
  have idle : s.wakeDispatcher = s := by
    rw [System.wakeDispatcher, h.not_dispatchable]
    rfl
  have nothing : dispatchOne s = (false, s) := by
    have one := dispatchOne_exhausted ⟨h.read, h.unclosed, h.ready⟩
    have on : (s.dispatching && !s.shutdown && s.targetAlive) = s.dispatching := by
      simp [h.running, h.alive]
    rw [on] at one
    exact one
  rw [runNext, run_modify_bind, run_get_bind, idle, hr]
  dsimp only
  rw [run_bind nothing]
  change ((), { s with ready := s.ready.erase .dispatcher }) = _
  rw [hr]
  rfl

theorem settle_stepPath (fuel : Nat) (s : System σ) : StepPath s (settle fuel s).2 := by
  induction fuel generalizing s with
  | zero => exact .refl
  | succ fuel ih =>
    rw [settle, run_get_bind]
    split
    · exact .refl
    · rcases h : runNext s with ⟨u, s'⟩
      have first := runNext_stepPath s
      rw [h] at first
      rw [run_bind h]
      exact first.trans (ih s')

/-- Once nothing is left to do, the tasks settle without a change. -/
theorem settle_upToDate (h : s.UpToDate) (hs : (settle fuel s).2.isSettled) :
    (settle fuel s).2 = { s with ready := [] } := by
  have idle {s : System σ} (h : s.UpToDate) (hr : s.ready = []) (fuel : Nat) :
      (settle fuel s).2 = { s with ready := [] } := by
    rw [← hr]
    cases fuel with
    | zero => rfl
    | succ fuel =>
      have settled : s.isSettled = true := by simp [System.isSettled, hr, h.not_dispatchable]
      rw [settle, run_get_bind, settled]
      rfl
  rcases h.ready with hr | hr
  · exact idle h hr fuel
  · cases fuel with
    | zero =>
      change s.isSettled = true at hs
      simp [System.isSettled, hr] at hs
    | succ fuel =>
      have busy : s.isSettled = false := by simp [System.isSettled, hr]
      have next : (settle (fuel + 1) s).2 = (settle fuel { s with ready := [] }).2 := by
        rw [settle, run_get_bind, busy]
        change ((runNext >>= fun _ => settle fuel : Debug σ Unit) s).2 = _
        rw [run_bind (runNext_upToDate h hr)]
      rw [next]
      exact idle (s := { s with ready := [] })
        ⟨⟨h.dispatching, h.running, h.alive, h.connected, h.unclosed, .inl rfl⟩, h.read⟩ rfl fuel

private theorem wakeDispatcher_exhausted (h : s.Exhausted) :
    ∃ ready, s.wakeDispatcher = { s with ready } ∧ (ready = [] ∨ ready = [.dispatcher]) := by
  rw [System.wakeDispatcher, System.wake]
  split
  · refine ⟨[.dispatcher], ?_, .inr rfl⟩
    rcases h.ready with hr | hr
    · rw [hr]
      rfl
    · rw [if_pos (by simp [hr]), ← hr]
  · exact ⟨s.ready, rfl, h.ready⟩

private theorem runNext_exhausted (h : s.Exhausted) :
    ∃ dispatching, runNext s = ((), { s with ready := [], dispatching }) := by
  obtain ⟨ready, woken, hr⟩ := wakeDispatcher_exhausted h
  rw [runNext, run_modify_bind, run_get_bind, woken]
  rcases hr with rfl | rfl
  · exact ⟨s.dispatching, rfl⟩
  · have one := dispatchOne_exhausted (s := { s with ready := [.dispatcher] }) ⟨h.read, h.unclosed, .inr rfl⟩
    dsimp only
    rw [run_bind one]
    exact ⟨_, rfl⟩

/-- With nothing left to do, no more is done to threads or machine. -/
theorem settle_exhausted (h : s.Exhausted) (fuel : Nat) :
    (settle fuel s).2.session = s.session ∧ (settle fuel s).2.threads = s.threads := by
  induction fuel generalizing s with
  | zero => exact ⟨rfl, rfl⟩
  | succ fuel ih =>
    rw [settle, run_get_bind]
    split
    · exact ⟨rfl, rfl⟩
    · obtain ⟨dispatching, next⟩ := runNext_exhausted h
      rw [run_bind next]
      exact ih (s := { s with ready := [], dispatching }) ⟨h.read, h.unclosed, .inl rfl⟩

/-- The tasks settle by handling the last set, and go on from there. -/
theorem settle_left (h : s.Left set) (hf : set.isFinal = false) (hs : (settle fuel s).2.isSettled) :
    ∃ k, fuel = k + 1 ∧ (settle fuel s).2 = (settle k (handleEventSet set s.turnTo).2).2 := by
  have busy : s.isSettled = false := by simp [System.isSettled, h.dispatchable]
  cases fuel with
  | zero =>
    change s.isSettled = true at hs
    rw [busy] at hs
    cases hs
  | succ fuel =>
    refine ⟨fuel, rfl, ?_⟩
    rw [settle, run_get_bind, busy]
    change ((runNext >>= fun _ => settle fuel : Debug σ Unit) s).2 = _
    rw [run_bind (runNext_left h hf)]

end Debugger
