import Debugger.Proofs.Reachable
import Debugger.Proofs.StepRequests
import Debugger.Scenario.MachinePlay

/-! # A machine in memory around a debugger

The machine of a play: it starts empty, a script sets it up and makes things happen in it, and its calls
may fail on schedule.  Step requests are the debugger's own affair, so the script makes and deletes none,
and lets every deletion succeed.
-/

namespace Debugger

open Scenario

/-- The call neither makes nor deletes a step request. -/
def SessionCall.SparesSteps : SessionCall → Prop
  | createStepRequest _ => False
  | deleteEventRequest kind _ => kind ≠ .step
  | _ => True

/-- The command makes and deletes no step request, and lets deletions succeed. -/
def Scenario.MachineCommand.SparesSteps : MachineCommand → Prop
  | call c => c.SparesSteps
  | fault kind es => kind = .deleteEventRequest → ∀ e ∈ es, e = none
  | _ => True

/-- A scripted machine whose calls may fail on schedule. -/
def scripted : Surroundings (Faulty Machine) where
  starts f := ∃ (bare : Bool) (cs : List MachineCommand), (∀ c ∈ cs, c.SparesSteps) ∧
    f = cs.foldl (fun f c => (c.applyFaulty f).2) { inner := {}, bare }
  acts f f' := ∃ c : MachineCommand, c.SparesSteps ∧ f' = (c.applyFaulty f).2
  publishes _ := True

section

open Machine

private theorem exchange_steady {α : Type} {call : Call Machine α} (f : α → Doc)
    (h : ∀ m, Exchange m (stateAfter call m)) : Within Steady (f <$> call) :=
  .map f fun m => steady_exchange (h m)

private theorem call_steady {c : SessionCall} (h : c.SparesSteps) :
    Within Steady (c.make (σ := Machine)) := by
  cases c with
  | allThreads => exact exchange_steady _ .allThreads
  | threadName t => exact exchange_steady _ (.threadName t)
  | suspendThread t => exact exchange_steady _ (.suspendThread t)
  | resumeThread t => exact exchange_steady _ (.resumeThread t)
  | threadIsSuspended t => exact exchange_steady _ (.threadIsSuspended t)
  | frames t => exact exchange_steady _ (.frames t)
  | frameCount t => exact exchange_steady _ (.frameCount t)
  | threadGroup t => exact exchange_steady _ (.threadGroup t)
  | groupName g => exact exchange_steady _ (.groupName g)
  | groupParent g => exact exchange_steady _ (.groupParent g)
  | threadPriority t => exact exchange_steady _ (.threadPriority t)
  | ownedMonitors t => exact exchange_steady _ (.ownedMonitors t)
  | contendedMonitor t => exact exchange_steady _ (.contendedMonitor t)
  | createStepRequest r => exact h.elim
  | createBreakpointRequest r => exact .map _ (createBreakpointRequest_steady r)
  | deleteEventRequest kind r =>
    cases kind with
    | step => exact (h rfl).elim
    | breakpoint => exact exchange_steady _ (.deleteBreakpoint r)
  | invoke i =>
    refine .bind (fun m => steady_exchange (.accept i m)) fun _ => ?_
    exact .bind (fun m => steady_exchange (.invoke i m)) fun _ => .pure _
  | canPopFrames => exact fun m => refl_of Steady m
  | popFrames t f => exact .map _ fun m => (popFrames_still t f m).toSteady
  | forceReturn t => exact exchange_steady _ (.forceReturn t)
  | frameVariable t f name => exact exchange_steady _ (.frameVariable t f name)
  | requestTimeout => exact fun m => refl_of Steady m
  | setRequestTimeout ms => exact fun m => setRequestTimeout_steady ms m
  | suspendVm => exact exchange_steady _ .suspendVm
  | resumeVm => exact exchange_steady _ .resumeVm
  | exitVm code => exact exchange_steady _ (.exitVm code)

private theorem complete_steady (m : Machine) (t : ThreadId) : Steady m (m.completeDeferred t).1 := by
  have h := trans_of Steady (.of_eq rfl rfl rfl : Steady m (m.undefer t)) (completeStep_still (m.undefer t) t).toSteady
  unfold completeDeferred
  generalize (m.undefer t).completeStep t = r at h ⊢
  obtain ⟨m', _ | e⟩ := r
  · exact h
  · exact trans_of Steady h (by exact .of_eq rfl rfl rfl)

private theorem completeAt_steady (m : Machine) (t : ThreadId) (request : RequestId) (stepFirst : Bool) :
    Steady m (m.completeDeferredAt t request stepFirst).1 := by
  have h := trans_of Steady (.of_eq rfl rfl rfl : Steady m (m.undefer t)) (completeStep_still (m.undefer t) t).toSteady
  unfold completeDeferredAt
  generalize (m.undefer t).completeStep t = r at h ⊢
  obtain ⟨m', _ | e⟩ := r
  · exact h
  · cases e with
    | step => exact trans_of Steady h (by exact .of_eq rfl rfl rfl)
    | _ => exact h

private theorem hit_steady (m : Machine) (t : ThreadId) (request : RequestId) :
    Steady m (m.hit t request).1 := by
  have all : Steady m (if m.stopsAll request then m.mapTasks (·.setSuspended true) else m) := by
    split
    · exact .of_eq rfl rfl rfl
    · exact refl_of Steady m
  unfold hit
  dsimp only
  split
  · exact all
  · split
    · exact trans_of Steady all (by exact .of_eq rfl rfl rfl)
    · exact trans_of Steady all (by exact .of_eq rfl rfl rfl)

private theorem emit_steady (m : Machine) (sets : List EventSet) : Steady m (sets.foldl emit m) := by
  induction sets generalizing m with
  | nil => exact refl_of Steady m
  | cons set sets ih => exact trans_of Steady (.of_eq rfl rfl rfl : Steady m (m.emit set)) (ih (m.emit set))

private theorem apply_steady (m : Machine) {c : MachineCommand} (h : c.SparesSteps) :
    Steady m (c.apply m).2 := by
  cases c with
  | call c =>
    have h := call_steady h m
    unfold MachineCommand.apply stateAfter at *
    cases hc : c.make m <;> simp only [hc] at h ⊢ <;> exact h
  | complete t => exact complete_steady m t
  | completeAt t request stepFirst => exact completeAt_steady m t request stepFirst
  | hit t request => exact hit_steady m t request
  | emit sets => exact emit_steady m sets
  | release =>
    unfold MachineCommand.apply
    dsimp only
    split
    · exact .of_eq rfl rfl rfl
    · exact refl_of Steady m
  | _ => exact .of_eq rfl rfl rfl

end

theorem addFaults_deletions {σ : Type} {f : Faulty σ} {kind : CallKind}
    {es : List (Option SessionError)} (h : kind = .deleteEventRequest → ∀ e ∈ es, e = none)
    (hd : f.DeletionsSucceed) : (f.addFaults kind es).DeletionsSucceed := by
  intro e he
  by_cases hk : kind = .deleteEventRequest
  · subst hk
    rw [Faulty.addFaults, Table.find?_put_self] at he
    rcases List.mem_append.mp he with he | he
    · exact hd e he
    · exact h rfl e he
  · rw [Faulty.addFaults, Table.find?_put_of_ne _ _ (Ne.symm hk)] at he
    exact hd e he

/-- What a script does to the machine touches no ticket. -/
theorem applyFaulty_steady (f : Faulty Machine) {c : MachineCommand} (h : c.SparesSteps) :
    f.Steady (c.applyFaulty f).2 := by
  cases c with
  | fault kind es => exact ⟨refl_of Machine.Steady _, addFaults_deletions h, List.prefix_refl _⟩
  | _ => exact ⟨apply_steady f.inner h, id, List.prefix_refl _⟩

theorem scripted_steady {f f' : Faulty Machine} (h : scripted.acts f f') : f.Steady f' := by
  obtain ⟨c, hc, rfl⟩ := h
  exact applyFaulty_steady f hc

/-- A machine to attach to has no step requests yet. -/
theorem scripted_start {f : Faulty Machine} (h : scripted.starts f) :
    f.inner.tickets = [] ∧ f.inner.Numbered ∧ f.DeletionsSucceed := by
  obtain ⟨bare, cs, hcs, rfl⟩ := h
  have steady (f : Faulty Machine) : f.Steady (cs.foldl (fun f c => (c.applyFaulty f).2) f) := by
    induction cs generalizing f with
    | nil => exact refl_of _ f
    | cons c cs ih =>
      have hc := applyFaulty_steady f (hcs c List.mem_cons_self)
      exact trans_of _ hc (ih (fun c h => hcs c (List.mem_cons_of_mem _ h)) _)
  have h := steady { inner := {}, bare }
  refine ⟨h.inner.tickets, h.inner.numbered ⟨rfl, [], List.Pairwise.nil, ?_, rfl⟩, h.deletions ?_⟩
  · simp
  · simp [Faulty.DeletionsSucceed]

/-! ## A sample program -/

/-- A frame of the sample program. -/
def sampleFrame (id : FrameId) (method : MethodId) (name : String) (line : Int32) : RemoteFrame :=
  ⟨id, ⟨⟨⟨1, method⟩, name, "com.example.Main", "()V", 0⟩, 0, some line⟩⟩

/-- A suspended thread of the sample program, in `run`, which `main` called. -/
def sampleTask (id : ThreadId) : Machine.Task :=
  ⟨id, "worker", none, 5, true, [sampleFrame 1 101 "run" 10, sampleFrame 2 102 "main" 3]⟩

/-- The machine that a script sets up. -/
def sampleMachine (cs : List MachineCommand) : Faulty Machine :=
  cs.foldl (fun f c => (c.applyFaulty f).2) { inner := {} }

/-- A debugger attached to the machine that a script sets up. -/
def sampleSystem (cs : List MachineCommand) : System (Faulty Machine) :=
  match attach (sampleMachine cs) {} with
  | .ok s => s
  | .error _ => .blank (sampleMachine cs) {}

theorem sampleMachine_starts {cs : List MachineCommand} (hcs : ∀ c ∈ cs, c.SparesSteps) :
    scripted.starts (sampleMachine cs) := ⟨false, cs, hcs, rfl⟩

theorem sampleSystem_attached {cs : List MachineCommand} (h : (attach (sampleMachine cs) {}).isOk) :
    attach (sampleMachine cs) {} = .ok (sampleSystem cs) := by
  unfold sampleSystem
  cases ha : attach (sampleMachine cs) {} with
  | ok s => rfl
  | error e =>
    rw [ha] at h
    cases h

theorem sampleSystem_reachable {w : Surroundings (Faulty Machine)} {cs : List MachineCommand}
    (start : w.starts (sampleMachine cs)) (h : (attach (sampleMachine cs) {}).isOk) :
    Reachable w (sampleSystem cs) := .attach start (sampleSystem_attached h)

/-- A script for a machine that a debugger can attach to. -/
structure Sample where
  commands : List MachineCommand
  attaches : (attach (sampleMachine commands) {}).isOk

namespace Sample

/-- The debugger attached to that machine. -/
def system (x : Sample) : System (Faulty Machine) := sampleSystem x.commands

theorem reachable {x : Sample} (spares : ∀ c ∈ x.commands, c.SparesSteps) : Reachable scripted x.system :=
  sampleSystem_reachable (sampleMachine_starts spares) x.attaches

end Sample

end Debugger
