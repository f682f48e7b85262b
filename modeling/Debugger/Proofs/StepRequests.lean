import Mathlib.Data.List.Nodup
import Debugger.Proofs.Change
import Debugger.Machine.Calls
import Debugger.Machine.Script
import Debugger.Session.Faulty

/-! # The step requests of a machine

A machine never forgets a step request; what matters here is the number of each, its thread, and whether
it was deleted.  Only three calls touch that: making a step request, making a breakpoint request, which
uses up a number, and deleting a step request.
-/

namespace Debugger

/-- What the debugger knows a step request by, and whether it was deleted. -/
structure Ticket where
  id : RequestId
  thread : ThreadId
  deleted : Bool
  deriving DecidableEq, Repr

namespace Machine

def StepEntry.ticket (e : StepEntry) : Ticket := ⟨e.id, e.request.thread, e.deleted⟩

end Machine

namespace Machine

/-- Every step request there ever was, oldest first. -/
def tickets (m : Machine) : List Ticket := m.steps.map StepEntry.ticket

/-- The step requests of a thread that are not deleted. -/
def outstanding (m : Machine) (thread : ThreadId) : List RequestId :=
  (m.tickets.filter fun k => k.thread = thread && !k.deleted).map (·.id)

/-- The machine once made that step request for the thread. -/
def Issued (m : Machine) (request : RequestId) (thread : ThreadId) : Prop :=
  ∃ k ∈ m.tickets, k.id = request ∧ k.thread = thread

/-- How many request numbers were handed out. -/
def requestsMade (m : Machine) : Nat := m.steps.length + m.breakpoints.length

/-- Requests are numbered in the order in which they were made, by machine words. -/
structure Numbered (m : Machine) : Prop where
  next : m.nextRequest = Int32.ofNat (m.requestsMade + 1)
  serials : ∃ ns : List Nat, ns.Pairwise (· < ·) ∧ (∀ n ∈ ns, n ≤ m.requestsMade) ∧
    m.tickets.map (·.id) = ns.map Int32.ofNat

/-- What no call but those for step requests can do otherwise. -/
structure Steady (m m' : Machine) : Prop where
  tickets : m'.tickets = m.tickets
  made : m.requestsMade ≤ m'.requestsMade
  numbered : m.Numbered → m'.Numbered

instance : IsPreorder Machine Steady where
  refl _ := ⟨rfl, Nat.le_refl _, id⟩
  trans _ _ _ h h' :=
    ⟨h'.tickets.trans h.tickets, Nat.le_trans h.made h'.made, fun hn => h'.numbered (h.numbered hn)⟩

/-- The request timeout, and every one that was set. -/
def timing (m : Machine) : Option Nat × List (Option Nat) := (m.timeout, m.timeouts)

/-- What no call can do otherwise but those for step requests and the one for the timeout. -/
structure Still (m m' : Machine) : Prop extends Steady m m' where
  timing : m'.timing = m.timing

instance : IsPreorder Machine Still where
  refl m := ⟨refl_of Steady m, rfl⟩
  trans _ _ _ h h' := ⟨trans_of Steady h.toSteady h'.toSteady, h'.timing.trans h.timing⟩

theorem length_tickets (m : Machine) : m.tickets.length = m.steps.length := by simp [tickets]

theorem Steady.of_eq {m m' : Machine} (ht : m'.tickets = m.tickets)
    (hb : m'.breakpoints.length = m.breakpoints.length) (hn : m'.nextRequest = m.nextRequest) :
    Steady m m' := by
  have made : m'.requestsMade = m.requestsMade := by
    rw [requestsMade, requestsMade, ← length_tickets, ← length_tickets, ht, hb]
  refine ⟨ht, Nat.le_of_eq made.symm, fun h => ⟨?_, ?_⟩⟩
  · rw [hn, h.next, made]
  · rw [ht, made]
    exact h.serials

theorem ofNat_inj {n n' : Nat} (hn : n < UInt32.size) (hn' : n' < UInt32.size)
    (h : Int32.ofNat n = Int32.ofNat n') : n = n' := by
  have h := congrArg (fun i : Int32 => i.toBitVec.toNat) h
  simp only [Int32.toBitVec_ofNat', BitVec.toNat_ofNat, Nat.mod_eq_of_lt hn, Nat.mod_eq_of_lt hn'] at h
  exact h

/-- With fewer requests than machine words no number is handed out twice. -/
theorem Numbered.nodup {m : Machine} (h : m.Numbered) (hm : m.requestsMade < UInt32.size) :
    (m.tickets.map (·.id)).Nodup := by
  obtain ⟨ns, hp, hle, heq⟩ := h.serials
  rw [heq]
  have small {n : Nat} (h : n ∈ ns) : n < UInt32.size := Nat.lt_of_le_of_lt (hle n h) hm
  refine List.Nodup.map_on (fun n hn n' hn' => ofNat_inj (small hn) (small hn')) ?_
  exact hp.imp Nat.ne_of_lt

/-! ## Calls that touch no ticket -/

private theorem tickets_first {p : StepEntry → Bool} {f : StepEntry → StepEntry}
    (hf : ∀ e, (f e).ticket = e.ticket) (es : List StepEntry) :
    (updateLast.first p f es).map StepEntry.ticket = es.map StepEntry.ticket := by
  induction es with
  | nil => rfl
  | cons e es ih =>
    rw [updateLast.first]
    split
    · rw [List.map_cons, List.map_cons, hf]
    · rw [List.map_cons, List.map_cons, ih]

private theorem tickets_updateLast {p : StepEntry → Bool} {f : StepEntry → StepEntry}
    (hf : ∀ e, (f e).ticket = e.ticket) (es : List StepEntry) :
    (updateLast p f es).map StepEntry.ticket = es.map StepEntry.ticket := by
  rw [updateLast, List.map_reverse, tickets_first hf, List.map_reverse, List.reverse_reverse]

/-- Completing a step deletes nothing. -/
theorem completeStep_still (m : Machine) (thread : ThreadId) : Still m (m.completeStep thread).1 := by
  rw [completeStep]
  split
  · exact refl_of Still m
  · have ht := tickets_updateLast (p := (·.armed thread)) (f := fun e => { e with fired := true })
      (fun _ => rfl) m.steps
    dsimp only
    split
    · exact ⟨.of_eq ht rfl rfl, rfl⟩
    · split
      · exact ⟨.of_eq ht rfl rfl, rfl⟩
      · dsimp only
        split
        · exact ⟨.of_eq ht rfl rfl, rfl⟩
        · exact ⟨.of_eq ht rfl rfl, rfl⟩

section

variable {R : Machine → Machine → Prop} [IsPreorder Machine R]

theorem find_within (thread : ThreadId) : Within R (find thread) :=
  .get_bind fun m => by
    cases m.task? thread <;> exact refl_of R m

theorem findSuspended_within (thread : ThreadId) : Within R (findSuspended thread) :=
  .bind (find_within thread) fun t => by
    split
    · exact .pure _
    · exact .throw _

theorem findGroup_within (group : GroupId) : Within R (findGroup group) :=
  .get_bind fun m => by
    cases m.groups.find? group <;> exact refl_of R m

theorem threadGroup_within (thread : ThreadId) : Within R (Session.threadGroup thread : Call Machine _) :=
  .get_bind fun m => by
    dsimp only
    split
    · exact refl_of R m
    · exact Within.bind (find_within thread) (fun _ => .pure _) m

theorem suspendThread_within {thread : ThreadId} (stop : ∀ m, R m (m.mapTask thread (·.setSuspended true))) :
    Within R (suspendThread thread) :=
  .get_bind fun m => by
    split
    · exact refl_of R m
    · exact Within.bind (find_within thread) (fun _ => .modify stop) m

theorem accept_within (permit : ∀ m p, R m { m with permit := p }) : Within R accept :=
  .get_bind fun m => by
    split
    · exact refl_of R m
    · split
      · exact permit m false
      · exact refl_of R m

theorem invoke_within (note : ∀ m es, R m { m with invocations := es })
    (result : ∀ m rs, R m { m with invokeResults := rs }) (call : Invocation) : Within R (invoke call) := by
  refine .bind (findSuspended_within call.thread) fun _ => .bind (.modify fun m => note m _) fun _ => ?_
  refine .get_bind fun m => ?_
  cases m.invokeResults with
  | nil => exact refl_of R m
  | cons r rs =>
    refine Within.bind (.modify fun m => result m rs) (fun _ => ?_) m
    split
    · exact .pure _
    · exact .throw _

private theorem cutStack_within {thread : ThreadId} (note : ∀ m es, R m { m with popped := es })
    (cut : ∀ (m : Machine) fs reentry, R m { m.mapTask thread fun t => { t with frames := fs } with reentry })
    (frame : FrameId) : Within R (do
      modify fun m => { m with popped := m.popped ++ [(thread, frame)] }
      let t ← findSuspended thread
      match t.frames.dropWhile (·.id ≠ frame) with
      | deepest :: below@(_ :: _) =>
        modify fun m => { m.mapTask thread fun t => { t with frames := below } with
          reentry := m.reentry.put thread deepest }
      | _ => throw .invalidStackFrame : Call Machine Unit) := by
  refine .bind (.modify fun m => note m _) fun _ => .bind (findSuspended_within thread) fun t => ?_
  split
  · exact .modify fun m => cut m _ _
  · exact .throw _

theorem popFrames_within {thread : ThreadId} (note : ∀ m es, R m { m with popped := es })
    (cut : ∀ (m : Machine) fs reentry, R m { m.mapTask thread fun t => { t with frames := fs } with reentry })
    (frame : FrameId) : Within R (popFrames thread frame) :=
  .get_bind fun m => by
    split
    · exact refl_of R m
    · exact cutStack_within note cut frame m

end

theorem suspendThread_still (thread : ThreadId) : Within Still (suspendThread thread) :=
  suspendThread_within fun _ => ⟨.of_eq rfl rfl rfl, rfl⟩

private theorem completed_still (m : Machine) (thread : ThreadId) :
    Still m (match m.completeStep thread with
      | (m, some e) => m.emit (.single e)
      | (m, none) => m) := by
  refine trans_of Still (completeStep_still m thread) ?_
  rcases m.completeStep thread with ⟨m', _ | e⟩
  · exact refl_of Still m'
  · exact ⟨.of_eq rfl rfl rfl, rfl⟩

theorem resumeThread_still (thread : ThreadId) : Within Still (resumeThread thread) := by
  refine .bind (.modify fun _ => ⟨.of_eq rfl rfl rfl, rfl⟩) fun _ => .get_bind fun m => ?_
  cases m.resumeFailures with
  | cons e es => exact Within.bind (.modify fun _ => ⟨.of_eq rfl rfl rfl, rfl⟩) (fun _ => .throw _) m
  | nil =>
    refine Within.bind (find_within thread) (fun _ => ?_) m
    refine .bind (.modify fun _ => ⟨.of_eq rfl rfl rfl, rfl⟩) fun _ => .get_bind fun m => ?_
    split
    · exact refl_of Still m
    · exact completed_still m thread

theorem popFrames_still (thread : ThreadId) (frame : FrameId) : Within Still (popFrames thread frame) :=
  popFrames_within (fun _ _ => ⟨.of_eq rfl rfl rfl, rfl⟩) (fun _ _ _ => ⟨.of_eq rfl rfl rfl, rfl⟩) frame

private theorem forceReturn_still (thread : ThreadId) : Within Still (forceReturn thread) :=
  .bind (findSuspended_within thread) fun _ => .modify fun _ => ⟨.of_eq rfl rfl rfl, rfl⟩

/-! ## Exchanges -/

/-- A call that only reads does nothing. -/
private theorem read_still {α : Type} (f : Machine → α) :
    Within Still (do return f (← get) : Call Machine α) := fun m => refl_of Still m

private theorem suspended_still {α : Type} (t : ThreadId) (f : Machine → Task → α) :
    Within Still (do
      let task ← findSuspended t
      return f (← get) task : Call Machine α) :=
  .bind (findSuspended_within t) fun task => read_still (f · task)

/-- An exchange touches neither a ticket nor the timeout. -/
theorem still_exchange {m m' : Machine} (h : Exchange m m') : Still m m' := by
  cases h with
  | allThreads => exact refl_of Still m
  | threadName t => exact Within.bind (find_within t) (fun _ => .pure _) m
  | suspendThread t => exact suspendThread_still t m
  | resumeThread t => exact resumeThread_still t m
  | threadIsSuspended t => exact Within.bind (find_within t) (fun _ => .pure _) m
  | frames t => exact Within.bind (findSuspended_within t) (fun _ => .pure _) m
  | frameCount t => exact Within.bind (findSuspended_within t) (fun _ => .pure _) m
  | threadGroup t => exact threadGroup_within t m
  | groupName g => exact Within.bind (findGroup_within g) (fun _ => .pure _) m
  | groupParent g => exact Within.bind (findGroup_within g) (fun _ => .pure _) m
  | threadPriority t => exact Within.bind (find_within t) (fun _ => .pure _) m
  | ownedMonitors t => exact suspended_still t (fun m _ => (m.monitors.find? t).getD []) m
  | contendedMonitor t => exact Within.bind (findSuspended_within t) (fun _ => .pure _) m
  | accept call => exact accept_within (fun _ _ => ⟨.of_eq rfl rfl rfl, rfl⟩) m
  | invoke call =>
    exact invoke_within (fun _ _ => ⟨.of_eq rfl rfl rfl, rfl⟩) (fun _ _ => ⟨.of_eq rfl rfl rfl, rfl⟩) call m
  | forceReturn t => exact forceReturn_still t m
  | frameVariable t frame name =>
    exact suspended_still t (fun m _ => m.locals.find? (frame.id, name)) m
  | suspendVm => exact ⟨.of_eq rfl rfl rfl, rfl⟩
  | resumeVm => exact ⟨.of_eq rfl rfl rfl, rfl⟩
  | exitVm code => exact ⟨.of_eq rfl rfl rfl, rfl⟩
  | deleteBreakpoint r => exact ⟨.of_eq rfl rfl rfl, rfl⟩
  | stepRefused h => cases h
  | breakpointRefused h => cases h

theorem steady_exchange {m m' : Machine} (h : Exchange m m') : Steady m m' := (still_exchange h).toSteady

theorem setRequestTimeout_steady (ms : Option Nat) (m : Machine) :
    Steady m (Session.setRequestTimeout ms m) := .of_eq rfl rfl rfl

/-! ## Making and deleting requests -/

private theorem ofNat_succ (n : Nat) : Int32.ofNat n + 1 = Int32.ofNat (n + 1) := by
  rw [Int32.ofNat_add]
  rfl

/-- A request for a breakpoint uses up a number. -/
theorem createBreakpointRequest_steady (r : BreakpointRequest) :
    Within Steady (createBreakpointRequest r) := by
  intro m
  have state : stateAfter (createBreakpointRequest r) m =
      { m with nextRequest := m.nextRequest + 1, breakpoints := m.breakpoints ++ [(m.nextRequest, r)] } :=
    rfl
  have made : (stateAfter (createBreakpointRequest r) m).requestsMade = m.requestsMade + 1 := by
    rw [state]
    simp only [requestsMade, List.length_append, List.length_singleton]
    omega
  refine ⟨rfl, by omega, fun h => ⟨?_, ?_⟩⟩
  · rw [made, state, ← ofNat_succ, ← h.next]
  · obtain ⟨ns, hp, hle, heq⟩ := h.serials
    exact ⟨ns, hp, fun n hn => by rw [made]; exact Nat.le_succ_of_le (hle n hn), heq⟩

/-- The machine after it made a step request. -/
def withStep (m : Machine) (r : StepRequest) : Machine :=
  { m with
    nextRequest := m.nextRequest + 1
    steps := m.steps ++ [⟨m.nextRequest, r, false, false⟩] }

theorem createStepRequest_eq (r : StepRequest) (m : Machine) :
    createStepRequest r m = .ok m.nextRequest (m.withStep r) := rfl

theorem tickets_withStep (m : Machine) (r : StepRequest) :
    (m.withStep r).tickets = m.tickets ++ [⟨m.nextRequest, r.thread, false⟩] := by
  simp only [withStep, tickets, List.map_append]
  rfl

theorem requestsMade_withStep (m : Machine) (r : StepRequest) :
    (m.withStep r).requestsMade = m.requestsMade + 1 := by
  simp only [withStep, requestsMade, List.length_append, List.length_singleton]
  omega

theorem Numbered.withStep {m : Machine} (h : m.Numbered) (r : StepRequest) : (m.withStep r).Numbered := by
  obtain ⟨ns, hp, hle, heq⟩ := h.serials
  refine ⟨?_, ns ++ [m.requestsMade + 1], ?_, ?_, ?_⟩
  · rw [requestsMade_withStep, ← ofNat_succ, ← h.next]
    rfl
  · refine List.pairwise_append.mpr ⟨hp, List.pairwise_singleton _ _, fun n hn n' hn' => ?_⟩
    rw [List.mem_singleton.mp hn']
    exact Nat.lt_succ_of_le (hle n hn)
  · intro n hn
    rw [requestsMade_withStep]
    rcases List.mem_append.mp hn with hn | hn
    · exact Nat.le_succ_of_le (hle n hn)
    · exact Nat.le_of_eq (List.mem_singleton.mp hn)
  · rw [tickets_withStep, List.map_append, List.map_append, heq]
    simp only [List.map_cons, List.map_nil, h.next]

/-- Marks the first ticket of that number. -/
def strike (request : RequestId) : List Ticket → List Ticket
  | [] => []
  | k :: ks => if k.id = request then { k with deleted := true } :: ks else k :: strike request ks

theorem strike_cons (request : RequestId) (k : Ticket) (ks : List Ticket) : strike request (k :: ks) =
    if k.id = request then { k with deleted := true } :: ks else k :: strike request ks := rfl

theorem tickets_markDeleted (request : RequestId) (es : List StepEntry) :
    (markDeleted request es).map StepEntry.ticket = strike request (es.map StepEntry.ticket) := by
  induction es with
  | nil => rfl
  | cons e es ih =>
    rw [markDeleted, List.map_cons, strike_cons]
    by_cases h : e.id = request
    · rw [if_pos h, if_pos (show e.ticket.id = request from h)]
      rfl
    · rw [if_neg h, if_neg (show e.ticket.id ≠ request from h), List.map_cons, ih]

theorem ids_strike (request : RequestId) (ks : List Ticket) :
    (strike request ks).map (·.id) = ks.map (·.id) := by
  induction ks with
  | nil => rfl
  | cons k ks ih =>
    rw [strike_cons]
    split
    · rfl
    · rw [List.map_cons, List.map_cons, ih]

theorem threads_strike (request : RequestId) (ks : List Ticket) :
    (strike request ks).map (·.thread) = ks.map (·.thread) := by
  induction ks with
  | nil => rfl
  | cons k ks ih =>
    rw [strike_cons]
    split
    · rfl
    · rw [List.map_cons, List.map_cons, ih]

theorem mem_strike_of_ne {request : RequestId} {ks : List Ticket} {k : Ticket} (h : k ∈ ks)
    (hk : k.id ≠ request) : k ∈ strike request ks := by
  induction ks with
  | nil => cases h
  | cons k' ks ih =>
    rw [strike_cons]
    rcases List.mem_cons.mp h with rfl | h
    · rw [if_neg hk]
      exact List.mem_cons_self
    · split
      · exact List.mem_cons_of_mem _ h
      · exact List.mem_cons_of_mem _ (ih h)

/-- After a deletion the tickets that still count are the others. -/
theorem mem_of_mem_strike {request : RequestId} {ks : List Ticket} {k : Ticket}
    (hn : (ks.map (·.id)).Nodup) (h : k ∈ strike request ks) (hk : k.deleted = false) :
    k ∈ ks ∧ k.id ≠ request := by
  induction ks with
  | nil => cases h
  | cons k' ks ih =>
    obtain ⟨hk', hn⟩ := List.nodup_cons.mp hn
    rw [strike_cons] at h
    split at h
    · rename_i hr
      rcases List.mem_cons.mp h with rfl | h
      · cases hk
      · refine ⟨List.mem_cons_of_mem _ h, fun he => hk' ?_⟩
        change k'.id ∈ _
        rw [hr, ← he]
        exact List.mem_map_of_mem h
    · rename_i hr
      rcases List.mem_cons.mp h with rfl | h
      · exact ⟨List.mem_cons_self, hr⟩
      · obtain ⟨hm, hne⟩ := ih hn h
        exact ⟨List.mem_cons_of_mem _ hm, hne⟩

/-- A deletion changes neither the number nor the thread of a ticket. -/
theorem issued_strike {request : RequestId} {ks : List Ticket} {k : Ticket} (h : k ∈ ks) :
    ∃ k' ∈ strike request ks, k'.id = k.id ∧ k'.thread = k.thread := by
  induction ks with
  | nil => cases h
  | cons k' ks ih =>
    rw [strike_cons]
    rcases List.mem_cons.mp h with rfl | h
    · split
      · exact ⟨_, List.mem_cons_self, rfl, rfl⟩
      · exact ⟨_, List.mem_cons_self, rfl, rfl⟩
    · split
      · exact ⟨k, List.mem_cons_of_mem _ h, rfl, rfl⟩
      · obtain ⟨k'', hm, hk⟩ := ih h
        exact ⟨k'', List.mem_cons_of_mem _ hm, hk⟩

/-- The machine after it deleted a step request. -/
def withoutStep (m : Machine) (request : RequestId) : Machine :=
  { m with
    steps := markDeleted request m.steps
    deleted := m.deleted ++ [(.step, request)] }

theorem deleteStepRequest_eq (request : RequestId) (m : Machine) :
    deleteEventRequest .step request m = .ok () (m.withoutStep request) := rfl

theorem tickets_withoutStep (m : Machine) (request : RequestId) :
    (m.withoutStep request).tickets = strike request m.tickets :=
  tickets_markDeleted request m.steps

theorem requestsMade_withoutStep (m : Machine) (request : RequestId) :
    (m.withoutStep request).requestsMade = m.requestsMade := by
  have h := congrArg List.length (ids_strike request m.tickets)
  rw [List.length_map, List.length_map, ← tickets_withoutStep, length_tickets, length_tickets] at h
  rw [requestsMade, requestsMade, h]
  rfl

theorem Numbered.withoutStep {m : Machine} (h : m.Numbered) (request : RequestId) :
    (m.withoutStep request).Numbered := by
  obtain ⟨ns, hp, hle, heq⟩ := h.serials
  refine ⟨?_, ns, hp, ?_, ?_⟩
  · rw [requestsMade_withoutStep]
    exact h.next
  · rw [requestsMade_withoutStep]
    exact hle
  · rw [tickets_withoutStep, ids_strike]
    exact heq

end Machine

/-! ## The same through a session that fails on schedule -/

namespace Faulty

section

variable {σ α : Type} {kind : CallKind} {call : Call σ α} {f f' : Faulty σ} {e : SessionError}

theorem guarded_fault (h : fault kind f = .error e f') :
    guarded kind call f = .error e { f' with failures := f'.failures ++ [(kind, e)] } := by
  simp only [guarded, noted, bind, EStateM.bind, h]

theorem guarded_ok {a : α} {m : σ} (h : fault kind f = .ok () f') (hc : call f'.inner = .ok a m) :
    guarded kind call f = .ok a { f' with inner := m } := by
  simp only [guarded, noted, bind, EStateM.bind, h, inside, hc]

theorem guarded_error {m : σ} (h : fault kind f = .ok () f') (hc : call f'.inner = .error e m) :
    guarded kind call f =
      .error e { f' with inner := m, failures := f'.failures ++ [(kind, e)] } := by
  simp only [guarded, noted, bind, EStateM.bind, h, inside, hc]

/-- No deletion of a request is going to fail. -/
def DeletionsSucceed (f : Faulty σ) : Prop :=
  ∀ e ∈ (f.schedule.find? .deleteEventRequest).getD [], e = none

private theorem deletionsSucceed_put {e : Option SessionError} {es : List (Option SessionError)}
    (he : (f.schedule.find? kind).getD [] = e :: es) (hd : f.DeletionsSucceed) :
    { f with schedule := f.schedule.put kind es }.DeletionsSucceed := by
  intro e' h
  by_cases hk : kind = .deleteEventRequest
  · subst hk
    rw [Table.find?_put_self] at h
    exact hd e' (he ▸ List.mem_cons_of_mem e h)
  · rw [Table.find?_put_of_ne _ _ (Ne.symm hk)] at h
    exact hd e' h

/-- A schedule decides without a look at the machine. -/
theorem fault_state (kind : CallKind) (f : Faulty σ) :
    (stateAfter (fault kind) f).inner = f.inner ∧
      (stateAfter (fault kind) f).failures = f.failures ∧
      (f.DeletionsSucceed → (stateAfter (fault kind) f).DeletionsSucceed) := by
  unfold stateAfter fault
  rcases he : (f.schedule.find? kind).getD [] with _ | ⟨_ | e, es⟩
  · exact ⟨rfl, rfl, id⟩
  · exact ⟨rfl, rfl, deletionsSucceed_put he⟩
  · exact ⟨rfl, rfl, deletionsSucceed_put he⟩

/-- A deletion goes through to the machine. -/
theorem fault_delete (hd : f.DeletionsSucceed) :
    ∃ schedule, fault .deleteEventRequest f = .ok () { f with schedule } ∧
      { f with schedule }.DeletionsSucceed := by
  rcases he : (f.schedule.find? .deleteEventRequest).getD [] with _ | ⟨e, es⟩
  · refine ⟨f.schedule, ?_, hd⟩
    simp only [fault, he]
  · obtain rfl : e = none := hd e (he ▸ List.mem_cons_self)
    refine ⟨f.schedule.put .deleteEventRequest es, ?_, deletionsSucceed_put he hd⟩
    simp only [fault, he]

/-- What a relation on inner sessions allows, a call through the schedule does or leaves undone. -/
structure Lifts (R : σ → σ → Prop) (f f' : Faulty σ) : Prop where
  inner : f'.inner = f.inner ∨ R f.inner f'.inner
  deletions : f.DeletionsSucceed → f'.DeletionsSucceed
  failures : f.failures <+: f'.failures

variable {R : σ → σ → Prop}

theorem noted_lifts (h : Within R call) : Within (Lifts R) (noted kind (inside call)) := by
  intro f
  have h := h f.inner
  simp only [stateAfter, noted, inside] at h ⊢
  cases hc : call f.inner with
  | ok a m =>
    rw [hc] at h
    exact ⟨.inr h, id, List.prefix_refl _⟩
  | error e m =>
    rw [hc] at h
    exact ⟨.inr h, id, List.prefix_append _ _⟩

theorem guarded_lifts (h : Within R call) : Within (Lifts R) (guarded kind call) := by
  intro f
  have hs := fault_state kind f
  cases hf : fault kind f with
  | error e f' =>
    rw [stateAfter_of_error hf] at hs
    rw [stateAfter_of_error (guarded_fault hf)]
    exact ⟨.inl hs.1, hs.2.2, hs.2.1 ▸ List.prefix_append _ _⟩
  | ok u f' =>
    rw [stateAfter_of_ok hf] at hs
    have hc := h f'.inner
    cases hm : call f'.inner with
    | ok a m =>
      rw [stateAfter_of_ok hm, hs.1] at hc
      rw [stateAfter_of_ok (guarded_ok hf hm)]
      exact ⟨.inr hc, hs.2.2, hs.2.1 ▸ List.prefix_refl _⟩
    | error e m =>
      rw [stateAfter_of_error hm, hs.1] at hc
      rw [stateAfter_of_error (guarded_error hf hm)]
      exact ⟨.inr hc, hs.2.2, hs.2.1 ▸ List.prefix_append _ _⟩

/-- A call that fails may have failed on the way or in the inner session. -/
theorem refused_lifts (hR : ∀ {m e m'}, call m = .error e m' → R m m')
    (h : guarded kind call f = .error e f') : Lifts R f f' := by
  have hs := fault_state kind f
  cases hf : fault kind f with
  | error e' f₁ =>
    rw [stateAfter_of_error hf] at hs
    rw [guarded_fault hf] at h
    cases h
    exact ⟨.inl hs.1, hs.2.2, hs.2.1 ▸ List.prefix_append _ _⟩
  | ok u f₁ =>
    rw [stateAfter_of_ok hf] at hs
    cases hm : call f₁.inner with
    | ok a m =>
      rw [guarded_ok hf hm] at h
      cases h
    | error e' m =>
      rw [guarded_error hf hm] at h
      cases h
      exact ⟨.inr (hs.1 ▸ hR hm), hs.2.2, hs.2.1 ▸ List.prefix_append _ _⟩

theorem optional_lifts (h : Within R call) : Within (Lifts R) (optional kind call) :=
  .get_bind fun f => by
    split
    · exact ⟨.inl rfl, id, List.prefix_append _ _⟩
    · exact guarded_lifts h f

end

/-- An exchange through the schedule is one of the inner session, if anything. -/
theorem lifts_exchange {σ : Type} [Session σ] {f f' : Faulty σ} (h : Exchange f f') :
    Lifts Exchange f f' := by
  cases h with
  | allThreads => exact guarded_lifts .allThreads f
  | threadName t => exact guarded_lifts (.threadName t) f
  | suspendThread t => exact guarded_lifts (.suspendThread t) f
  | resumeThread t => exact guarded_lifts (.resumeThread t) f
  | threadIsSuspended t => exact guarded_lifts (.threadIsSuspended t) f
  | frames t => exact guarded_lifts (.frames t) f
  | frameCount t => exact guarded_lifts (.frameCount t) f
  | threadGroup t => exact guarded_lifts (.threadGroup t) f
  | groupName g => exact guarded_lifts (.groupName g) f
  | groupParent g => exact guarded_lifts (.groupParent g) f
  | threadPriority t => exact guarded_lifts (.threadPriority t) f
  | ownedMonitors t => exact optional_lifts (.ownedMonitors t) f
  | contendedMonitor t => exact optional_lifts (.contendedMonitor t) f
  | accept call => exact guarded_lifts (.accept call) f
  | invoke call => exact noted_lifts (.invoke call) f
  | forceReturn t => exact optional_lifts (.forceReturn t) f
  | frameVariable t frame name => exact guarded_lifts (.frameVariable t frame name) f
  | suspendVm => exact guarded_lifts .suspendVm f
  | resumeVm => exact guarded_lifts .resumeVm f
  | exitVm code => exact guarded_lifts (.exitVm code) f
  | deleteBreakpoint r => exact guarded_lifts (.deleteBreakpoint r) f
  | stepRefused h => exact refused_lifts .stepRefused h
  | breakpointRefused h => exact refused_lifts .breakpointRefused h

/-- What no call but those for step requests can do otherwise. -/
structure Steady (f f' : Faulty Machine) : Prop where
  inner : f.inner.Steady f'.inner
  deletions : f.DeletionsSucceed → f'.DeletionsSucceed
  failures : f.failures <+: f'.failures

instance : IsPreorder (Faulty Machine) Steady where
  refl _ := ⟨refl_of _ _, id, List.prefix_refl _⟩
  trans _ _ _ h h' := ⟨trans_of _ h.inner h'.inner, fun hd => h'.deletions (h.deletions hd),
    h.failures.trans h'.failures⟩

theorem Lifts.steady {R : Machine → Machine → Prop} (hR : ∀ {m m'}, R m m' → m.Steady m')
    {f f' : Faulty Machine} (h : Lifts R f f') : Steady f f' := by
  refine ⟨?_, h.deletions, h.failures⟩
  rcases h.inner with h | h
  · rw [h]
    exact refl_of _ _
  · exact hR h

theorem steady_exchange {f f' : Faulty Machine} (h : Exchange f f') : Steady f f' :=
  (lifts_exchange h).steady Machine.steady_exchange

theorem popFrames_steady (t : ThreadId) (frame : FrameId) :
    Within Steady (Session.popFrames t frame : Call (Faulty Machine) _) :=
  fun f => (optional_lifts (Machine.popFrames_still t frame) f).steady Machine.Still.toSteady

theorem setRequestTimeout_steady (ms : Option Nat) (f : Faulty Machine) :
    f.Steady (Session.setRequestTimeout ms f) :=
  ⟨Machine.setRequestTimeout_steady ms f.inner, id, List.prefix_refl _⟩

/-- A step request is made, or the schedule refuses it. -/
theorem createStepRequest_cases (r : StepRequest) (f : Faulty Machine) :
    (∃ f', f.Steady f' ∧ f'.inner = f.inner ∧ f'.failures = f.failures ∧
      Session.createStepRequest r f =
        .ok f.inner.nextRequest { f' with inner := f.inner.withStep r }) ∨
    (∃ e f', f.Steady f' ∧ f'.inner = f.inner ∧ f'.failures = f.failures ++ [(.createStepRequest, e)] ∧
      Session.createStepRequest r f = .error e f') := by
  have state := fault_state .createStepRequest f
  cases h : fault .createStepRequest f with
  | ok u f' =>
    rw [stateAfter_of_ok h] at state
    refine .inl ⟨f', ⟨by rw [state.1]; exact refl_of _ _, state.2.2, state.2.1 ▸ List.prefix_refl _⟩, state.1,
      state.2.1, ?_⟩
    rw [← state.1]
    exact guarded_ok h (Machine.createStepRequest_eq r f'.inner)
  | error e f' =>
    rw [stateAfter_of_error h] at state
    refine .inr ⟨e, { f' with failures := f'.failures ++ [(.createStepRequest, e)] }, ?_, state.1,
      by rw [state.2.1], guarded_fault h⟩
    exact ⟨by rw [state.1]; exact refl_of _ _, state.2.2, state.2.1 ▸ List.prefix_append _ _⟩

/-- A breakpoint request is made or not; no ticket is touched either way. -/
theorem createBreakpointRequest_steady (r : BreakpointRequest) :
    Within Steady (Session.createBreakpointRequest r : Call (Faulty Machine) _) :=
  fun f => (guarded_lifts (Machine.createBreakpointRequest_steady r) f).steady id

/-- A deletion succeeds, and strikes the ticket. -/
theorem deleteStepRequest_cases (request : RequestId) {f : Faulty Machine} (hd : f.DeletionsSucceed) :
    ∃ f', f'.DeletionsSucceed ∧ f'.inner = f.inner.withoutStep request ∧ f'.failures = f.failures ∧
      Session.deleteEventRequest .step request f = .ok () f' := by
  obtain ⟨schedule, h, hd'⟩ := fault_delete hd
  exact ⟨{ f with schedule, inner := f.inner.withoutStep request }, hd', rfl, rfl,
    guarded_ok h (Machine.deleteStepRequest_eq request f.inner)⟩

end Faulty

end Debugger
