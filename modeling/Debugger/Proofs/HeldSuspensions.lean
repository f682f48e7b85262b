import Debugger.Proofs.BreakpointHits
import Debugger.Proofs.Handling
import Debugger.Proofs.MachineSurroundings

/-! # Suspensions are held back

While the events of a set are handled, what they suspend is queued.  All of it is published, in order and once, when the
last event has been handled and it has been decided whether the machine goes on.  Only a frame drop that goes on within
the set, and that the machine does not let run, publishes early what has been queued until then.
-/

namespace Debugger

open Scenario

/-! ## Readers that keep up -/

namespace Channel

variable {α : Type} {c c' : Channel α} {r r' : Reader} {as : List α}

/-- Sends messages one after another. -/
def sendAll (c : Channel α) (as : List α) : Channel α := as.foldl send c

theorem sendAll_append (c : Channel α) (as bs : List α) : c.sendAll (as ++ bs) = (c.sendAll as).sendAll bs :=
  List.foldl_append

@[simp] theorem log_sendAll (c : Channel α) (as : List α) : (c.sendAll as).log.toList = c.log.toList ++ as := by
  induction as generalizing c with
  | nil => simp [sendAll]
  | cons a as ih =>
    rw [sendAll, List.foldl_cons, ← sendAll, ih, log_send]
    simp

/-- What a reader hears that never lags, while messages are sent in between. -/
inductive Hears : Channel α → Reader → List α → Channel α → Reader → Prop
  | nothing (c : Channel α) (r : Reader) : Hears c r [] c r
  | sent {c c' : Channel α} {r r' : Reader} {as : List α} {a : α} (later : Hears (c.send a) r as c' r') :
    Hears c r as c' r'
  | heard {c c' : Channel α} {r next r' : Reader} {a : α} {as : List α} (h : c.receive? r = some (.message a, next))
    (later : Hears c next as c' r') : Hears c r (a :: as) c' r'

theorem receive?_message {a : α} {next : Reader} (h : c.receive? r = some (.message a, next)) :
    c.log[r.next]? = some a ∧ next = ⟨r.next + 1⟩ := by
  rw [receive?] at h
  split at h
  · cases h
  · obtain ⟨b, hb, hr⟩ := Option.map_eq_some_iff.mp h
    cases hr
    exact ⟨hb, rfl⟩

theorem size_le_of_receive?_none (h : c.receive? r = none) : c.log.size ≤ r.next := by
  rw [receive?] at h
  split at h
  · cases h
  · exact Array.getElem?_eq_none_iff.mp (Option.map_eq_none_iff.mp h)

/-- It hears the messages from its place on, in order. -/
theorem Hears.segment (h : Hears c r as c' r') :
    c.log.toList <+: c'.log.toList ∧ c'.log.toList.drop r.next = as ++ c'.log.toList.drop r'.next := by
  induction h with
  | nothing c r => exact ⟨List.prefix_rfl, rfl⟩
  | sent _ ih =>
    refine ⟨List.IsPrefix.trans ?_ ih.1, ih.2⟩
    rw [log_send, Array.toList_push]
    exact List.prefix_append _ _
  | @heard c c' r next r' a as h _ ih =>
    obtain ⟨here, rfl⟩ := receive?_message h
    obtain ⟨sent, rest⟩ := ih
    rw [← Array.getElem?_toList] at here
    obtain ⟨before, rfl⟩ := List.getElem?_eq_some_iff.mp here
    obtain ⟨inRange, there⟩ := List.getElem?_eq_some_iff.mp (List.prefix_iff_getElem?.mp sent _ before)
    refine ⟨sent, ?_⟩
    rw [List.drop_eq_getElem_cons inRange, there, rest, List.cons_append]

/-- When there is no more, it has heard all that was sent. -/
theorem Hears.all (h : Hears c r as c' r') (done : c'.receive? r' = none) : as = c'.log.toList.drop r.next := by
  have none_left : c'.log.toList.drop r'.next = [] :=
    List.drop_eq_nil_of_le (by simpa using size_le_of_receive?_none done)
  rw [h.segment.2, none_left, List.append_nil]

/-- A reader that reads each message when it comes never lags. -/
theorem hears_sendAll (held : 0 < c.capacity) (as : List α) :
    Hears c c.subscribe as (c.sendAll as) (c.sendAll as).subscribe := by
  induction as generalizing c with
  | nil => exact .nothing c c.subscribe
  | cons a as ih => exact .sent (.heard (receive?_send c a held) (ih (c := c.send a) held))

end Channel

/-! ## What is held back -/

/-- The suspensions among events, in order. -/
def suspensions (es : List DebugEvent) : List DebugEvent := es.filter (·.kind = .suspend)

@[simp] theorem suspensions_append (es es' : List DebugEvent) :
    suspensions (es ++ es') = suspensions es ++ suspensions es' := List.filter_append ..

theorem Bus.flush_eq (b : Bus) : b.flush = ⟨b.channel.sendAll b.queued, []⟩ := by
  have fired (es : List DebugEvent) (b : Bus) : es.foldl fire b = ⟨b.channel.sendAll es, b.queued⟩ := by
    induction es generalizing b with
    | nil => rfl
    | cons e es ih => exact ih (b.fire e)
  exact fired b.queued { b with queued := [] }

variable {σ : Type} {es es' : List DebugEvent} {s s₁ s' : System σ}

/-- These events are queued and others are published meanwhile, of which none is a suspension. -/
def HoldsBack (es : List DebugEvent) (s s' : System σ) : Prop :=
  ∃ fired, s'.bus = ⟨s.bus.channel.sendAll fired, s.bus.queued ++ es⟩ ∧ suspensions fired = []

namespace HoldsBack

theorem of_bus (h : s'.bus = s.bus) : HoldsBack [] s s' := ⟨[], by simp [h, Channel.sendAll], rfl⟩

theorem trans (h : HoldsBack es s s₁) (h' : HoldsBack es' s₁ s') : HoldsBack (es ++ es') s s' := by
  obtain ⟨fired, bus, quiet⟩ := h
  obtain ⟨fired', bus', quiet'⟩ := h'
  refine ⟨fired ++ fired', ?_, by rw [suspensions_append, quiet, quiet', List.append_nil]⟩
  rw [bus', bus, Channel.sendAll_append, List.append_assoc]

instance : IsPreorder (System σ) (HoldsBack []) where
  refl _ := of_bus rfl
  trans _ _ _ := trans

theorem after (bus : s₁.bus = s.bus) (h : HoldsBack es s₁ s') : HoldsBack es s s' := by
  rw [HoldsBack, ← bus]
  exact h

theorem fire (s : System σ) (source : Element) {a : Announcement} (h : (a.event source).kind ≠ .suspend) :
    HoldsBack [] s (s.fire source a) :=
  ⟨[a.event source], by rw [List.append_nil]; rfl, by simp [suspensions, h]⟩

theorem queue (s : System σ) (source : Element) (a : Announcement) :
    HoldsBack [a.event source] s (s.queue source a) := ⟨[], rfl, rfl⟩

/-- No suspension was published. -/
theorem published (h : HoldsBack es s s') : suspensions s'.bus.published = suspensions s.bus.published := by
  obtain ⟨fired, bus, quiet⟩ := h
  rw [bus, Bus.published, Channel.log_sendAll, suspensions_append, quiet, List.append_nil]
  rfl

/-- What is queued comes after all that was queued before. -/
theorem told (h : HoldsBack es s s') : suspensions s'.told = suspensions s.told ++ suspensions es := by
  have published := h.published
  obtain ⟨fired, bus, -⟩ := h
  rw [System.told, System.told, suspensions_append, published, bus]
  simp

end HoldsBack

/-! ## What an event suspends -/

/-- The announcements of a hit that nobody objects to. -/
def hitEvents (all : Bool) (id : ThreadId) : List DebugEvent :=
  (if all then [⟨.target, .suspend, .breakpoint⟩] else []) ++ [⟨.thread id, .suspend, .breakpoint⟩]

theorem suspensions_hitEvents (all : Bool) (id : ThreadId) : suspensions (hitEvents all id) = hitEvents all id := by
  cases all <;> rfl

namespace System

/-- The announcement of a thread whose step is over in between. -/
def stepEnds (s s' : System σ) (t : ThreadRef) : List DebugEvent :=
  if (s.thread t).stepping.isSome && (s'.thread t).stepping.isNone then [stepEndEvent (s.thread t).id] else []

theorem suspensions_stepEnds (s s' : System σ) (t : ThreadRef) : suspensions (s.stepEnds s' t) = s.stepEnds s' t := by
  rw [stepEnds]
  split <;> rfl

theorem stepEnds_self (s : System σ) (t : ThreadRef) : s.stepEnds s t = [] := by
  rw [stepEnds]
  cases (s.thread t).stepping <;> rfl

variable [Session σ]

/-- The suspensions that an event leads to: of the thread whose step it ends, and of what it leaves suspended at a
breakpoint. -/
def halts (s : System σ) (e : VmEvent) : List DebugEvent :=
  match e with
  | .step request _ _ =>
    match (s.stepOwners.find? request).bind s.find? with
    | some t => s.stepEnds (handleEvent e s).2 t
    | none => []
  | .breakpoint request id _ =>
    if (handleEvent e s).1 = .staySuspended then hitEvents ((s.installed.find? request).any s.stopsAll) id else []
  | _ => []

/-- A frame drop goes on from the landing, but the machine does not let its thread run. -/
def refusesDrop (s : System σ) (t : ThreadRef) (request : RequestId) (landing : Location) : Bool :=
  (s.dropGoingOn t request landing).any fun (s₂, forced) =>
    match letRun (s₂.thread t).id forced s₂.session with
    | .ok _ _ => false
    | .error _ _ => true

/-- The event is such a landing. -/
def refusedOn (s : System σ) : VmEvent → Bool
  | .step request _ landing =>
    ((s.stepOwners.find? request).bind s.find?).any (s.refusesDrop · request landing)
  | _ => false

/-- No event is such a landing when its turn comes. -/
def noneRefusedOn (s : System σ) : List VmEvent → Bool
  | [] => true
  | e :: es => !s.refusedOn e && (handleEvent e s).2.noneRefusedOn es

end System

/-- What becomes of the suspensions that something leads to: they are held back, or, if the machine refuses to let a
thread run, published with all that was held back before. -/
inductive Suspends (es : List DebugEvent) (s : System σ) : Bool → System σ → Prop
  | held {s' : System σ} (h : HoldsBack es s s') : Suspends es s false s'
  | refused {s₁ : System σ} (h : HoldsBack es s s₁) (ends : es ≠ []) : Suspends es s true s₁.flush

section

variable [Session σ] {t : ThreadRef}

/-! ### Ends -/

omit [Session σ] in
private theorem bury_holdsBack (s : System σ) (t : ThreadRef) : HoldsBack [] s (s.bury t) :=
  System.bury_within (R := HoldsBack []) (.of_bus rfl) fun s source =>
    .fire s source (by simp [Announcement.event])

omit [Session σ] in
private theorem disconnect_holdsBack (s : System σ) : HoldsBack [] s s.disconnect :=
  System.disconnect_within (R := HoldsBack []) (fun _ => .of_bus rfl) bury_holdsBack
    (fun _ => (HoldsBack.fire _ _ (by simp [Announcement.event])).after rfl) s

omit [Session σ] in
private theorem threadDied_holdsBack (s : System σ) (id : ThreadId) : HoldsBack [] s (s.threadDied id) :=
  System.threadDied_within (R := HoldsBack []) (fun _ _ => .of_bus rfl) (fun _ _ => .of_bus rfl) bury_holdsBack s id

/-! ### Steps -/

private theorem stepEnd_holdsBack (t : ThreadRef) (request : Option RequestId) (s : System σ) :
    HoldsBack [stepEndEvent (s.thread t).id] s (stepEnd t request s).2 := by
  have same : ((s.stopRunning t).mapThread t (·.setStepping none)).element t = s.element t :=
    (System.element_mapThread (fun _ => by rfl) _ t t).trans (System.element_mapThread (fun _ => by rfl) s t t)
  have queued : HoldsBack [stepEndEvent (s.thread t).id] s
      (((s.stopRunning t).mapThread t (·.setStepping none)).queue (s.element t) (.suspend .stepEnd)) :=
    (HoldsBack.queue _ _ _).after rfl
  rw [← same] at queued
  cases request with
  | none => exact queued
  | some request =>
    rw [stepEnd_some, deleteStepRequest_state]
    exact queued

private theorem leaveRequest_bus (s : System σ) (t : ThreadRef) (request : RequestId) :
    (s.leaveRequest t request).bus = s.bus := by
  rw [System.leaveRequest, deleteStepRequest_state]
  rfl

private theorem ended_suspends (s₁ : System σ) {st : Stepping} (pending : (s.thread t).stepping = some st)
    (threads : s₁.threads.size = s.threads.size) (id : (s₁.thread t).id = (s.thread t).id) (bus : s₁.bus = s.bus)
    (request : Option RequestId) :
    s.stepEnds (stepEnd t request s₁).2 t = [stepEndEvent (s.thread t).id] ∧
      HoldsBack [stepEndEvent (s.thread t).id] s (stepEnd t request s₁).2 := by
  have inRange : t < s₁.threads.size := threads ▸ System.lt_size_of_stepping pending
  constructor
  · rw [System.stepEnds, pending, thread_stepEnd request inRange]
    rfl
  · have held := stepEnd_holdsBack t request s₁
    rw [id] at held
    exact held.after bus

omit [Session σ] in
private theorem stepEnds_pending (s' : System σ) {st : Stepping} (pending : (s'.thread t).stepping = some st) :
    s.stepEnds s' t = [] := by
  rw [System.stepEnds, pending, Option.isNone_some, Bool.and_false]
  rfl

/-- A thread whose step goes on runs, or its step is over after all. -/
private theorem runStep_suspends {s₂ : System σ} {forced : Bool} {st next : Stepping} {request : RequestId} {m : σ}
    (pending : (s.thread t).stepping = some st) (renewed : s₂ = (s.leaveRequest t request).renewStep t next m) :
    Suspends (s.stepEnds (stateAfter (runStep t forced) s₂) t) s
      (match letRun (s₂.thread t).id forced s₂.session with | .ok _ _ => false | .error _ _ => true)
      (stateAfter (runStep t forced) s₂) := by
  have size := size_leaveRequest s t request
  have id := id_leaveRequest s t request t
  have bus := leaveRequest_bus s t request
  generalize s.leaveRequest t request = left at size id bus renewed
  have goesOn : (s₂.thread t).stepping = some next := by
    rw [renewed]
    exact stepping_renewStep (size ▸ System.lt_size_of_stepping pending) next m
  have size : s₂.threads.size = s.threads.size := by rw [renewed, System.renewStep, System.size_mapThread, size]
  have id : (s₂.thread t).id = (s.thread t).id := by
    rw [← id, renewed]
    exact System.id_mapThread (fun _ => by rfl) left t t
  have bus : s₂.bus = s.bus := by rw [renewed, System.renewStep, System.mapThread, bus]
  cases run : letRun (s₂.thread t).id forced s₂.session with
  | ok u m' =>
    rw [stateAfter_of_ok (runStep_ok run), stepEnds_pending { s₂ with session := m' } goesOn]
    exact .held (.of_bus bus)
  | error e m' =>
    have ended := ended_suspends { s₂ with session := m' } pending size id bus
      ((s₂.thread t).stepping.map (·.request))
    rw [stateAfter_of_error (runStep_error run), System.stepFailed,
      show s.stepEnds (System.flush _) t = [stepEndEvent (s.thread t).id] from ended.1]
    exact .refused ended.2 (List.cons_ne_nil _ _)

/-- What a landing leads to. -/
private theorem landStep_suspends (t : ThreadRef) (request : RequestId) (landing : Location) (s : System σ) :
    Suspends (s.stepEnds (landStep t request landing s).2 t) s (s.refusesDrop t request landing)
      (landStep t request landing s).2 := by
  have lands := landStep_lands t request landing s
  generalize (landStep t request landing s).2 = s' at lands
  cases lands with
  | stale still =>
    rw [System.refusesDrop, still, System.stepEnds_self]
    exact .held (.of_bus rfl)
  | @ended st m still pending =>
    have ended := ended_suspends { s with session := m } pending rfl rfl rfl (some request)
    rw [System.refusesDrop, still, ended.1]
    exact .held ended.2
  | @abandoned st m m' wanted e still pending =>
    have size := size_leaveRequest { s with session := m } t request
    have id := id_leaveRequest { s with session := m } t request t
    have bus := leaveRequest_bus { s with session := m } t request
    generalize { s with session := m }.leaveRequest t request = left at size id bus
    have ended := ended_suspends { left with session := m' } pending size id bus none
    rw [System.refusesDrop, still, ended.1]
    exact .held ended.2
  | @renewed st next m m' wanted still pending =>
    have inRange : t < ({ s with session := m }.leaveRequest t request).threads.size := by
      rw [size_leaveRequest]
      exact System.lt_size_of_stepping pending
    rw [System.refusesDrop, still, stepEnds_pending _ (stepping_renewStep inRange next m')]
    exact .held (.of_bus (leaveRequest_bus { s with session := m } t request))
  | dropped goes =>
    obtain ⟨st, kind, next, m, pending, -, -, -, -, renewed, -⟩ := dropGoingOn_cases goes
    rw [System.refusesDrop, goes]
    exact runStep_suspends pending renewed

/-! ### Hits -/

omit [Session σ] in
private theorem stopAt_voice (s : System σ) (t : ThreadRef) (b : BreakpointRef) (all : Bool) :
    ((s.stopAt t b all).bus, (s.stopAt t b all).element t) = (s.bus, s.element t) := by
  have arrived : (s.arrive t b).element t = s.element t := System.element_mapThread (fun _ => by rfl) s t t
  have stopped (s : System σ) (u : ThreadRef) : ((s.stopRunning u).bus, (s.stopRunning u).element t) = (s.bus, s.element t) :=
    congrArg (s.bus, ·) (System.element_mapThread (fun _ => by rfl) s u t)
  cases all with
  | true =>
    have listed := foldl_keeps (f := System.stopRunning) (g := fun s : System σ => (s.bus, s.element t)) stopped
      (s.arrive t b).registry { s.arrive t b with suspended := true }
    exact listed.trans (congrArg (s.bus, ·) arrived)
  | false => exact (stopped (s.arrive t b) t).trans (congrArg (s.bus, ·) arrived)

private theorem abortStep_voice (t : ThreadRef) (s : System σ) :
    ((abortStep t s).2.bus, (abortStep t s).2.element t) = (s.bus, s.element t) := by
  cases hp : (s.thread t).stepping with
  | none => rw [abortStep_none hp]
  | some st =>
    rw [abortStep_some hp, deleteStepRequest_state]
    exact congrArg (s.bus, ·) (System.element_mapThread (fun _ => by rfl) s t t)

private theorem keepStopped_holdsBack (s : System σ) (t : ThreadRef) (all : Bool) :
    HoldsBack (hitEvents all (s.thread t).id) s (s.keepStopped t true all) := by
  have told : HoldsBack (if all then [⟨.target, .suspend, .breakpoint⟩] else []) s
      (if all then s.publish true .target (.suspend .breakpoint) else s) := by
    cases all with
    | true => exact .queue s .target (.suspend .breakpoint)
    | false => exact .of_bus rfl
  have same : (if all then s.publish true .target (.suspend .breakpoint) else s).element t = s.element t := by
    cases all <;> rfl
  rw [System.keepStopped]
  generalize (if all then s.publish true .target (.suspend .breakpoint) else s) = s₁ at told same ⊢
  have aborted := abortStep_voice t s₁
  generalize (abortStep t s₁).2 = s₂ at aborted ⊢
  obtain ⟨bus, element⟩ := Prod.mk.inj aborted
  rw [element, same]
  exact told.trans ((HoldsBack.queue s₂ (s.element t) (.suspend .breakpoint)).after bus)

private theorem suspendAtBreakpoint_holdsBack (t : ThreadRef) (b : BreakpointRef) (s : System σ) :
    HoldsBack (if (suspendAtBreakpoint t b true s).1 then hitEvents (s.stopsAll b) (s.thread t).id else []) s
      (suspendAtBreakpoint t b true s).2 := by
  have asked : (((s.stopAt t b (s.stopsAll b)).judge t (s.breakpoint b) s.targetAlive).2.bus,
      ((s.stopAt t b (s.stopsAll b)).judge t (s.breakpoint b) s.targetAlive).2.element t) = (s.bus, s.element t) := by
    refine Eq.trans ?_ (stopAt_voice s t b (s.stopsAll b))
    cases s.targetAlive <;> rfl
  rw [suspendAtBreakpoint_eq]
  generalize (s.stopAt t b (s.stopsAll b)).judge t (s.breakpoint b) s.targetAlive = r at asked ⊢
  obtain ⟨stays, s₁⟩ := r
  obtain ⟨bus, element⟩ := Prod.mk.inj asked
  cases stays with
  | true =>
    have kept := keepStopped_holdsBack s₁ t (s.stopsAll b)
    rw [Element.thread.inj element] at kept
    exact kept.after bus
  | false =>
    refine (HoldsBack.of_bus ?_).after bus
    dsimp only
    rw [if_neg Bool.false_ne_true, System.runOn]
    split
    · exact (congrArg System.bus s₁.resumeListed_rest :)
    · rfl

private theorem addThread_holdsBack (id : ThreadId) (s : System σ) :
    HoldsBack [] s (addThread id s).2 ∧ ((addThread id s).2.thread (addThread id s).1).id = id ∧
      ∀ b, (addThread id s).2.stopsAll b = s.stopsAll b := by
  cases h : s.find? id with
  | some t =>
    rw [addThread_listed h]
    exact ⟨.of_bus rfl, System.id_of_find? h, fun _ => rfl⟩
  | none =>
    obtain ⟨m, th, -, named, -, added⟩ := addThread_new h
    rw [added]
    refine ⟨(HoldsBack.fire _ _ (by simp [Announcement.event])).after rfl, ?_, fun _ => rfl⟩
    rw [thread_enlist, if_pos rfl, named]

private theorem handleBreakpoint_holdsBack (request : RequestId) (id : ThreadId) (s : System σ) :
    HoldsBack (if (handleBreakpoint request id s).1 = .staySuspended then
      hitEvents ((s.installed.find? request).any s.stopsAll) id else []) s (handleBreakpoint request id s).2 := by
  cases installed : s.installed.find? request with
  | none =>
    rw [handleBreakpoint_unknown installed]
    exact .of_bus rfl
  | some b =>
    obtain ⟨added, named, same⟩ := addThread_holdsBack id (s.countHit b)
    rcases found : addThread id (s.countHit b) with ⟨t, s₁⟩
    rw [found] at added named same
    have all : s₁.stopsAll b = s.stopsAll b := by
      rw [same, System.stopsAll, policy_scene (scene_countHit s b)]
      rfl
    have arrived : HoldsBack [] s s₁ := added.after rfl
    rw [handleBreakpoint_eq installed found]
    split
    · have hit := suspendAtBreakpoint_holdsBack t b s₁
      dsimp only at named
      rw [all, named] at hit
      generalize suspendAtBreakpoint t b true s₁ = r at hit ⊢
      obtain ⟨stays, s'⟩ := r
      cases stays with
      | true => exact arrived.trans hit
      | false => exact arrived.trans hit
    · exact arrived

/-! ### Events -/

theorem suspensions_halts (s : System σ) (e : VmEvent) : suspensions (s.halts e) = s.halts e := by
  cases e with
  | step request id landing =>
    rw [System.halts]
    split
    · exact s.suspensions_stepEnds _ _
    · rfl
  | breakpoint request id landing =>
    rw [System.halts]
    split
    · exact suspensions_hitEvents _ _
    · rfl
  | threadStart | threadDeath | vmDeath | disconnected => rfl

/-- What an event suspends is held back, unless the machine refuses to let a frame drop go on. -/
theorem handleEvent_suspends (e : VmEvent) (s : System σ) :
    Suspends (s.halts e) s (s.refusedOn e) (handleEvent e s).2 := by
  cases e with
  | step request id landing =>
    rw [System.halts, System.refusedOn, handleEvent, handleStep, run_get_bind]
    cases (s.stepOwners.find? request).bind s.find? with
    | none => exact .held (.of_bus rfl)
    | some t => exact landStep_suspends t request landing s
  | breakpoint request id landing => exact .held (handleBreakpoint_holdsBack request id s)
  | threadStart id => exact .held (addThread_holdsBack id s).1
  | threadDeath id => exact .held (threadDied_holdsBack s id)
  | vmDeath => exact .held (disconnect_holdsBack s)
  | disconnected => exact .held (disconnect_holdsBack s)

/-! ## Event sets -/

namespace Suspends

omit [Session σ]

variable {refused : Bool}

theorem holdsBack (h : Suspends es s false s') : HoldsBack es s s' := by
  cases h with
  | held h => exact h

/-- Whether it is published or not, it comes after all that was queued before. -/
theorem told (h : Suspends es s refused s') : suspensions s'.told = suspensions s.told ++ suspensions es := by
  cases h with
  | held h => exact h.told
  | refused h => exact (congrArg suspensions (told_flush _)).trans h.told

/-- A refusal publishes a suspension. -/
theorem published_refused (h : Suspends es s true s') (some_left : suspensions es = es) :
    (suspensions s.bus.published).length < (suspensions s'.bus.published).length := by
  cases h with
  | @refused s₁ h ends =>
    have some_more := List.length_pos_of_ne_nil ends
    rw [published_flush, h.told, some_left, System.told, suspensions_append, List.length_append, List.length_append]
    omega

theorem sends (h : Suspends es s refused s') : ∃ sent, s'.bus.channel = s.bus.channel.sendAll sent := by
  cases h with
  | held h =>
    obtain ⟨fired, bus, -⟩ := h
    exact ⟨fired, by rw [bus]⟩
  | @refused s₁ h =>
    obtain ⟨fired, bus, -⟩ := h
    refine ⟨fired ++ s₁.bus.queued, ?_⟩
    rw [System.flush, Bus.flush_eq, Channel.sendAll_append, bus]

end Suspends

namespace System

/-- The suspensions that events lead to, one after another. -/
def haltsAlong (s : System σ) : List VmEvent → List DebugEvent
  | [] => []
  | e :: es => s.halts e ++ (handleEvent e s).2.haltsAlong es

/-- What a set has come to when its events are handled and it is decided whether the machine goes on. -/
def decided (s : System σ) (set : EventSet) : System σ :=
  let r := handleEvents set.events s
  if r.1 || r.2.disconnected then r.2 else (resumeSet set r.2).2

end System

theorem handleEventSet_decided (set : EventSet) (s : System σ) : (handleEventSet set s).2 = (s.decided set).flush := by
  rw [handleEventSet_eq rfl, System.decided]

theorem handleEvents_told (es : List VmEvent) (s : System σ) :
    suspensions (handleEvents es s).2.told = suspensions s.told ++ s.haltsAlong es := by
  induction es generalizing s with
  | nil => exact (List.append_nil _).symm
  | cons e es ih =>
    rw [handleEvents_cons, ih, (handleEvent_suspends e s).told, suspensions_halts, System.haltsAlong,
      List.append_assoc]

theorem handleEvents_sends (es : List VmEvent) (s : System σ) :
    ∃ sent, (handleEvents es s).2.bus.channel = s.bus.channel.sendAll sent := by
  induction es generalizing s with
  | nil => exact ⟨[], rfl⟩
  | cons e es ih =>
    obtain ⟨sent, first⟩ := (handleEvent_suspends e s).sends
    obtain ⟨sent', later⟩ := ih (handleEvent e s).2
    exact ⟨sent ++ sent', by rw [handleEvents_cons, later, first, Channel.sendAll_append]⟩

theorem handleEvents_holdsBack {es : List VmEvent} {s : System σ} (calm : s.noneRefusedOn es) :
    HoldsBack (s.haltsAlong es) s (handleEvents es s).2 := by
  induction es generalizing s with
  | nil => exact .of_bus rfl
  | cons e es ih =>
    obtain ⟨first, later⟩ := Bool.and_eq_true_iff.mp calm
    have handled := handleEvent_suspends e s
    rw [(Bool.not_eq_true' _).mp first] at handled
    exact handled.holdsBack.trans (ih later)

/-- A refusal publishes a suspension, and it stays published. -/
private theorem published_of_refused {es : List VmEvent} {s : System σ} (refused : s.noneRefusedOn es = false) :
    (suspensions s.bus.published).length < (suspensions (handleEvents es s).2.bus.published).length := by
  induction es generalizing s with
  | nil => cases refused
  | cons e es ih =>
    rw [handleEvents_cons]
    have first := handleEvent_suspends e s
    have later : (suspensions (handleEvent e s).2.bus.published).length ≤
        (suspensions (handleEvents es (handleEvent e s).2).2.bus.published).length := by
      cases calm : (handleEvent e s).2.noneRefusedOn es with
      | true => exact Nat.le_of_eq (congrArg List.length (handleEvents_holdsBack calm).published.symm)
      | false => exact Nat.le_of_lt (ih calm)
    cases here : s.refusedOn e with
    | true =>
      rw [here] at first
      exact Nat.lt_of_lt_of_le (first.published_refused (suspensions_halts s e)) later
    | false =>
      rw [here] at first
      rw [System.noneRefusedOn, here] at refused
      rw [← first.holdsBack.published]
      exact ih refused

/-- No suspension is published among events, unless the machine refuses to let a frame drop go on. -/
theorem unpublished_iff (es : List VmEvent) (s : System σ) :
    suspensions (handleEvents es s).2.bus.published = suspensions s.bus.published ↔ s.noneRefusedOn es := by
  constructor
  · intro same
    by_contra refused
    have more := published_of_refused (Bool.eq_false_iff.mpr refused)
    rw [same] at more
    exact Nat.lt_irrefl _ more
  · intro calm
    exact (handleEvents_holdsBack calm).published

instance : AllowsCalls (HoldsBack (σ := σ) []) where
  exchange _ := .of_bus rfl

/-- The decision whether the machine goes on suspends nothing. -/
theorem decided_holdsBack (set : EventSet) (s : System σ) :
    HoldsBack [] (handleEvents set.events s).2 (s.decided set) := by
  rw [System.decided]
  split
  · exact .of_bus rfl
  · exact resumeSet_within disconnect_holdsBack set _

/-- All that an event set suspends is published once, in order, and after what was queued before: when the events are
handled and it is decided whether the machine goes on, and not before, unless the machine refuses to let a frame drop go
on among the events.  Nothing is left queued, and a subscriber that never lags hears all of it. -/
theorem suspensions_wait_for_set (s : System σ) (set : EventSet) :
    let s' := (handleEventSet set s).2
    suspensions s'.bus.published = suspensions s.told ++ s.haltsAlong set.events ∧
    s'.bus.queued = [] ∧
    s'.bus.published = (s.decided set).bus.published ++ (s.decided set).bus.queued ∧
    suspensions (s.decided set).bus.published = suspensions (handleEvents set.events s).2.bus.published ∧
    (∀ before later, set.events = before ++ later →
      (suspensions (handleEvents before s).2.bus.published = suspensions s.bus.published ↔ s.noneRefusedOn before)) ∧
    ∀ r as r', s.bus.channel.Hears r as s'.bus.channel r' → s'.bus.channel.receive? r' = none →
      as = s'.bus.published.drop r.next := by
  have published : (handleEventSet set s).2.bus.published = (s.decided set).told := by
    rw [handleEventSet_decided, published_flush]
  refine ⟨?_, ?_, published, (decided_holdsBack set s).published, fun before _ _ => unpublished_iff before s, ?_⟩
  · rw [published, (decided_holdsBack set s).told, handleEvents_told]
    exact List.append_nil _
  · rw [handleEventSet_decided]
    exact Bus.queued_flush _
  · intro r as r' heard done
    exact heard.all done

theorem handleEventSet_sends (set : EventSet) (s : System σ) :
    ∃ sent, (handleEventSet set s).2.bus.channel = s.bus.channel.sendAll sent := by
  obtain ⟨sent, events⟩ := handleEvents_sends set.events s
  obtain ⟨fired, decision, -⟩ := decided_holdsBack set s
  refine ⟨sent ++ fired ++ (s.decided set).bus.queued, ?_⟩
  rw [handleEventSet_decided, System.flush, Bus.flush_eq, Channel.sendAll_append, Channel.sendAll_append, ← events,
    congrArg Bus.channel decision]

omit [Session σ] in
/-- The news for those who have heard everything before. -/
theorem drop_published {news : List DebugEvent} (h : s'.bus.published = s.bus.published ++ news) :
    s'.bus.published.drop s.bus.channel.subscribe.next = news := by
  rw [h]
  exact List.drop_left

/-- A subscriber that reads at once hears what a set publishes. -/
theorem set_heard_at_once {set : EventSet} {news : List DebugEvent} (held : 0 < s.bus.channel.capacity)
    (published : (handleEventSet set s).2.bus.published = s.bus.published ++ news) :
    s.bus.channel.Hears s.bus.channel.subscribe news (handleEventSet set s).2.bus.channel
      (handleEventSet set s).2.bus.channel.subscribe := by
  obtain ⟨sent, channel⟩ := handleEventSet_sends set s
  have all : (handleEventSet set s).2.bus.published = s.bus.published ++ sent := by
    rw [Bus.published, channel, Channel.log_sendAll]
    rfl
  rw [all, List.append_cancel_left_eq] at published
  rw [channel, ← published]
  exact Channel.hears_sendAll held sent

end

/-- The sample program is let go on by an operation; the machine reports the landing together with a new thread. -/
private def landedWithThread (faults : List MachineCommand) (o : Operation) (set : EventSet) : System (Faulty Machine) :=
  let s := (sampleSystem ([.addTask (sampleTask 1), .defer 1] ++ faults)).performAll [.frames 0, o]
  let s := { s with session := ((MachineCommand.addTask (sampleTask 2)).applyFaulty s.session).2 }
  { s with session := ((MachineCommand.emit [set]).applyFaulty s.session).2 }

private theorem landedWithThread_reachable {faults : List MachineCommand} (spares : ∀ c ∈ faults, c.SparesSteps)
    (attaches : (attach (sampleMachine ([.addTask (sampleTask 1), .defer 1] ++ faults)) {}).isOk) (o : Operation)
    (set : EventSet) : Reachable scripted (landedWithThread faults o set) := by
  have start : Reachable scripted (sampleSystem ([.addTask (sampleTask 1), .defer 1] ++ faults)) :=
    sampleSystem_reachable (sampleMachine_starts (by simpa [Scenario.MachineCommand.SparesSteps] using spares)) attaches
  have joined := (start.performAll [.frames 0, o]).move (.machine ⟨.addTask (sampleTask 2), trivial, rfl⟩)
  exact joined.move (.machine ⟨.emit [set], trivial, rfl⟩)

private def landing (line : Int32) : VmEvent := .step 1 1 (sampleFrame 1 101 "run" line).location

private def landingAndStart (line : Int32) : EventSet := ⟨some .thread, [landing line, .threadStart 2]⟩

/-- A step ends and a thread starts, of which a subscriber that keeps up hears the other way round. -/
theorem step_end_heard_after_start :
    let s := (landedWithThread [] (.stepWithTargetFilters 0 .into) (landingAndStart 11)).turnTo
    let s' := (handleEventSet (landingAndStart 11) s).2
    let news : List DebugEvent := [⟨.thread 2, .create, .unspecified⟩, stepEndEvent 1]
    suspensions (handleEvents [landing 11] s).2.bus.published = suspensions s.bus.published ∧
      s.bus.channel.Hears s.bus.channel.subscribe news s'.bus.channel s'.bus.channel.subscribe ∧
      ∀ as r', s.bus.channel.Hears s.bus.channel.subscribe as s'.bus.channel r' →
        s'.bus.channel.receive? r' = none → as = news := by
  have calm : (landedWithThread [] (.stepWithTargetFilters 0 .into) (landingAndStart 11)).turnTo.noneRefusedOn
      [landing 11] := by decide +kernel
  have published : (handleEventSet (landingAndStart 11)
      (landedWithThread [] (.stepWithTargetFilters 0 .into) (landingAndStart 11)).turnTo).2.bus.published =
        (landedWithThread [] (.stepWithTargetFilters 0 .into) (landingAndStart 11)).turnTo.bus.published ++
          [⟨.thread 2, .create, .unspecified⟩, stepEndEvent 1] := by decide +kernel
  obtain ⟨-, -, -, -, unpublished, heard⟩ := suspensions_wait_for_set
    (landedWithThread [] (.stepWithTargetFilters 0 .into) (landingAndStart 11)).turnTo (landingAndStart 11)
  exact ⟨(unpublished [landing 11] [.threadStart 2] rfl).mpr calm,
    set_heard_at_once (by decide +kernel) published,
    fun as r' h done => (heard _ as r' h done).trans (drop_published published)⟩

/-- The machine refuses to let a frame drop go on: its end is published before the next event of the set is handled. -/
theorem refused_drop_published_early :
    let s := landedWithThread [.fault .forceReturn [none, some .timeout]] (.dropToFrame 0 1) (landingAndStart 10)
    Reachable scripted s ∧ s.Left (landingAndStart 10) ∧
      suspensions (handleEvents [landing 10] s.turnTo).2.bus.published =
        suspensions s.turnTo.bus.published ++ [stepEndEvent 1] ∧
      (handleEventSet (landingAndStart 10) s.turnTo).2.bus.published =
        s.turnTo.bus.published ++ [stepEndEvent 1, ⟨.thread 2, .create, .unspecified⟩] :=
  ⟨landedWithThread_reachable (by simp [Scenario.MachineCommand.SparesSteps]) (by decide +kernel) _ _,
    ⟨⟨by decide +kernel, by decide +kernel, by decide +kernel, by decide +kernel, by decide +kernel,
      .inl (by decide +kernel)⟩, by decide +kernel⟩,
    by decide +kernel, by decide +kernel⟩

end Debugger
