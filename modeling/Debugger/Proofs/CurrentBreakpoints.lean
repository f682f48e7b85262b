import Debugger.Proofs.BreakpointHits
import Debugger.Proofs.BreakpointNumbers
import Debugger.Proofs.Chores
import Debugger.Proofs.VetoedHit

/-! # The breakpoints that threads are at

A thread is at breakpoints only while it is suspended, and only at breakpoints that are installed: a hit
adds one, running forgets them all, and a removal takes the breakpoint from every listed thread, whether or
not the machine deletes its request.  Clients hit breakpoints themselves only while those are installed,
and no two requests for breakpoints bear the same number.
-/

namespace Debugger

variable {σ : Type}

/-- There is such a breakpoint, and its request leads to it. -/
def System.IsInstalled (s : System σ) (b : BreakpointRef) : Prop :=
  b < s.breakpoints.size ∧ s.installed.find? (s.breakpoint b).request = some b

/-- The books on breakpoints. -/
structure System.Installs (s : System σ) : Prop where
  numbered {a b : BreakpointRef} (ha : a < s.breakpoints.size) (hb : b < s.breakpoints.size)
    (h : (s.breakpoint a).request = (s.breakpoint b).request) : a = b
  leads {r : RequestId} {b : BreakpointRef} (h : s.installed.find? r = some b) :
    b < s.breakpoints.size ∧ (s.breakpoint b).request = r
  current {t : ThreadRef} {b : BreakpointRef} (ht : t ∈ s.registry) (hb : b ∈ (s.thread t).breakpoints) :
    s.IsInstalled b

/-- A request that leads to a breakpoint is that of the breakpoint. -/
theorem System.Installs.isInstalled {s : System σ} (h : s.Installs) {r : RequestId} {b : BreakpointRef}
    (hr : s.installed.find? r = some b) : s.IsInstalled b := by
  obtain ⟨hb, rfl⟩ := h.leads hr
  exact ⟨hb, hr⟩

/-- No breakpoint comes or goes, and the listed threads reach no breakpoint but the allowed ones. -/
structure Reaches (P : BreakpointRef → Prop) (s s' : System σ) : Prop where
  installed : s'.installed = s.installed
  size : s'.breakpoints.size = s.breakpoints.size
  request (b : BreakpointRef) : (s'.breakpoint b).request = (s.breakpoint b).request
  current {t : ThreadRef} {b : BreakpointRef} (ht : t ∈ s'.registry) (hb : b ∈ (s'.thread t).breakpoints) :
    P b ∨ t ∈ s.registry ∧ b ∈ (s.thread t).breakpoints

namespace Reaches

variable {P : BreakpointRef → Prop} {s s' : System σ} {t : ThreadRef} {b : BreakpointRef}

instance : IsPreorder (System σ) (Reaches P) where
  refl _ := ⟨rfl, rfl, fun _ => rfl, fun ht hb => .inr ⟨ht, hb⟩⟩
  trans _ _ _ h h' := ⟨h'.installed.trans h.installed, h'.size.trans h.size,
    fun b => (h'.request b).trans (h.request b), fun ht hb =>
      (h'.current ht hb).elim .inl fun ⟨ht, hb⟩ => h.current ht hb⟩

theorem mapThread (s : System σ) (t : ThreadRef) {f : Thread → Thread}
    (h : ∀ th, ∀ b ∈ (f th).breakpoints, P b ∨ b ∈ th.breakpoints) : Reaches P s (s.mapThread t f) where
  installed := rfl
  size := rfl
  request _ := rfl
  current {u b} hu hb := by
    rw [System.thread_mapThread] at hb
    split at hb
    · exact (h _ b hb).imp_right fun hb => ⟨hu, hb⟩
    · exact .inr ⟨hu, hb⟩

theorem of_posts (h : s'.posts = s.posts) : Reaches P s s' := by
  obtain ⟨threads, registry, installed, breakpoints⟩ : s'.threads = s.threads ∧ s'.registry = s.registry ∧
      s'.installed = s.installed ∧ s'.breakpoints = s.breakpoints := by
    simpa [System.posts] using h
  refine ⟨installed, congrArg _ breakpoints, fun b => ?_, fun ht hb => .inr ⟨registry ▸ ht, ?_⟩⟩
  · rw [System.breakpoint, System.breakpoint, breakpoints]
  · rwa [System.thread_congr threads] at hb

/-- What comes after touches no thread and no breakpoint. -/
theorem aside {s₁ : System σ} (h : Reaches P s s₁) (hs : s'.posts = s₁.posts) : Reaches P s s' :=
  trans_of (Reaches P) h (of_posts hs)

theorem setRunning (s : System σ) (t : ThreadRef) (running : Bool) :
    Reaches P s (s.mapThread t (·.setRunning running)) :=
  mapThread s t fun th b hb => by
    cases running with
    | true => cases hb
    | false => exact .inr hb

theorem startRunning (s : System σ) (t : ThreadRef) : Reaches P s (s.startRunning t) := by
  have stale := mapThread (P := P) (s.mapThread t (·.setRunning true)) t (f := Thread.markStale)
    fun _ _ hb => .inr hb
  have unbound : Reaches P ((s.mapThread t (·.setRunning true)).mapThread t Thread.markStale)
      (s.startRunning t) := of_posts rfl
  exact trans_of (Reaches P) (setRunning s t true) (trans_of (Reaches P) stale unbound)

theorem bury (s : System σ) (t : ThreadRef) : Reaches P s (s.bury t) :=
  System.bury_within (mapThread s t fun _ _ hb => .inr hb) fun _ _ => .of_posts rfl

theorem enlist (s : System σ) {th : Thread} (new : th.IsNew) : Reaches P s (s.enlist th) where
  installed := rfl
  size := rfl
  request _ := rfl
  current {u b} hu hb := by
    rw [thread_enlist] at hb
    split at hb
    · rw [new.breakpoints] at hb
      cases hb
    · rename_i hne
      rcases List.mem_append.mp hu with hu | hu
      · exact .inr ⟨hu, hb⟩
      · exact (hne (List.mem_singleton.mp hu)).elim

instance : AllowsUpkeep (fun _ => True) (Reaches (σ := σ) P) where
  aside h := of_posts (congrArg Prod.fst h)
  conclude _ := of_posts rfl
  holdAll _ _ := of_posts rfl
  hold _ _ _ _ := of_posts rfl
  update s t f h := mapThread s t fun th b hb => .inr (by
    rwa [show (f th).breakpoints = th.breakpoints from congrArg (·.2.2.2) (h th)] at hb)
  stop s t := setRunning s t false
  bury := bury
  proclaim _ _ := of_posts rfl
  fire _ _ _ _ _ := of_posts rfl
  flush _ := of_posts rfl
  charge _ posts _ _ := of_posts posts
  run _ := startRunning _ _

instance : AllowsChores (fun _ => True) (Reaches (σ := σ) P) where
  strike _ _ := ⟨rfl, rfl, fun _ => rfl, fun ht hb => .inr ⟨List.mem_of_mem_erase ht, hb⟩⟩
  enlist := enlist

/-- The thread reaches the breakpoint. -/
theorem arrive (s : System σ) (t : ThreadRef) (hb : P b) : Reaches P s (s.arrive t b) :=
  mapThread s t fun th a ha => by
    rcases List.mem_append.mp ha with ha | ha
    · exact .inr ha
    · rw [List.mem_singleton.mp ha]
      exact .inl hb

theorem countHit (s : System σ) (b : BreakpointRef) : Reaches P s (s.countHit b) := by
  refine ⟨rfl, Array.size_modify, fun a => ?_, fun ht hb => .inr ⟨ht, hb⟩⟩
  rw [System.breakpoint, System.countHit, Array.getElem?_modify, System.breakpoint]
  split
  · cases s.breakpoints[a]? <;> rfl
  · rfl

/-- The books stay in order if none but installed breakpoints are reached. -/
theorem installs (h : Reaches P s s') (hP : ∀ b, P b → s.IsInstalled b) (hs : s.Installs) : s'.Installs where
  numbered {a b} ha hb hr := by
    rw [h.size] at ha hb
    rw [h.request, h.request] at hr
    exact hs.numbered ha hb hr
  leads {r b} hr := by
    rw [h.size, h.request]
    exact hs.leads (h.installed ▸ hr)
  current {t b} ht hb := by
    have before : s.IsInstalled b := (h.current ht hb).elim (hP b) fun ⟨ht, hb⟩ => hs.current ht hb
    rw [System.IsInstalled, h.size, h.request, h.installed]
    exact before

end Reaches

/-- No breakpoint comes or goes, and none is reached. -/
abbrev Recedes : System σ → System σ → Prop := Reaches fun _ => False

theorem Recedes.books {s s' : System σ} (h : Recedes s s') (hs : s.Installs) : s'.Installs :=
  h.installs (fun _ => False.elim) hs

/-! ## Removal -/

theorem mem_leaveBreakpoint {s : System σ} {b c : BreakpointRef} {t u : ThreadRef}
    (h : c ∈ ((s.leaveBreakpoint b t).thread u).breakpoints) :
    c ∈ (s.thread u).breakpoints ∧ (t = u → c ≠ b) := by
  rw [System.leaveBreakpoint, System.thread_mapThread] at h
  split at h
  · obtain ⟨hc, hne⟩ := List.mem_filter.mp h
    exact ⟨hc, fun _ => of_decide_eq_true hne⟩
  · rename_i hu
    refine ⟨h, fun ht => (hu ⟨ht, Nat.lt_of_not_le fun hle => ?_⟩).elim⟩
    rw [System.thread_of_size_le hle] at h
    cases h

/-- Threads that leave a breakpoint are at it no more, and reach no other. -/
theorem mem_leaveBreakpoints {s : System σ} {b c : BreakpointRef} {u : ThreadRef} (ts : List ThreadRef)
    (h : c ∈ ((ts.foldl (·.leaveBreakpoint b) s).thread u).breakpoints) :
    c ∈ (s.thread u).breakpoints ∧ (u ∈ ts → c ≠ b) := by
  induction ts generalizing s with
  | nil => exact ⟨h, fun hu => (List.not_mem_nil hu).elim⟩
  | cons t ts ih =>
    obtain ⟨hc, later⟩ := ih h
    obtain ⟨hc, here⟩ := mem_leaveBreakpoint hc
    exact ⟨hc, fun hu => (List.mem_cons.mp hu).elim (fun hu => here hu.symm) later⟩

theorem uninstall_rest (s : System σ) (b : BreakpointRef) :
    (s.uninstall b).breakpoints = s.breakpoints ∧ (s.uninstall b).registry = s.registry ∧
      (s.uninstall b).installed = s.installed.erase (s.breakpoint b).request := by
  have rest := System.leaveBreakpoints_rest
    { s with installed := s.installed.erase (s.breakpoint b).request } b s.registry
  exact ⟨(congrArg System.breakpoints rest :), (congrArg System.registry rest :),
    (congrArg System.installed rest :)⟩

theorem System.Installs.uninstall {s : System σ} (hs : s.Installs) {b : BreakpointRef}
    (hb : b < s.breakpoints.size) : (s.uninstall b).Installs := by
  obtain ⟨breakpoints, registry, installed⟩ := uninstall_rest s b
  have same (a : BreakpointRef) : (s.uninstall b).breakpoint a = s.breakpoint a := by
    rw [System.breakpoint, System.breakpoint, breakpoints]
  have kept {a : BreakpointRef} (ha : a < s.breakpoints.size) (hne : a ≠ b) :
      (s.breakpoint a).request ≠ (s.breakpoint b).request := fun h => hne (hs.numbered ha hb h)
  refine ⟨fun {a c} ha hc hr => ?_, fun {r a} hr => ?_, fun {t a} ht ha => ?_⟩
  · rw [breakpoints] at ha hc
    rw [same, same] at hr
    exact hs.numbered ha hc hr
  · rw [breakpoints, same]
    rw [installed] at hr
    by_cases hrb : r = (s.breakpoint b).request
    · rw [hrb, Table.find?_erase_self] at hr
      cases hr
    · exact hs.leads ((Table.find?_erase_of_ne _ hrb).symm.trans hr)
  · rw [registry] at ht
    obtain ⟨ha, gone⟩ := mem_leaveBreakpoints s.registry ha
    obtain ⟨hlt, leads⟩ := hs.current ht ha
    rw [System.IsInstalled, breakpoints, same, installed, Table.find?_erase_of_ne _ (kept hlt (gone ht))]
    exact ⟨hlt, leads⟩

/-- A breakpoint of a new number is installed. -/
theorem System.Installs.push {s : System σ} (hs : s.Installs) (bp : Breakpoint)
    (unused : bp.request ∉ s.breakpointNumbers) (m : σ) :
    System.Installs { s with
      session := m
      breakpoints := s.breakpoints.push bp
      installed := s.installed.put bp.request s.breakpoints.size } := by
  have new (b : BreakpointRef) (hb : b < s.breakpoints.size) : (s.breakpoint b).request ≠ bp.request :=
    fun h => unused (h ▸ s.request_mem hb)
  have at_ (b : BreakpointRef) : ((s.breakpoints.push bp)[b]?.getD default : Breakpoint) =
      if b = s.breakpoints.size then bp else s.breakpoint b := by
    rw [Array.getElem?_push]
    split <;> rfl
  have old {b : BreakpointRef} (hb : b < s.breakpoints.size) :
      ((s.breakpoints.push bp)[b]?.getD default : Breakpoint) = s.breakpoint b := by
    rw [at_, if_neg (Nat.ne_of_lt hb)]
  have last : ((s.breakpoints.push bp)[s.breakpoints.size]?.getD default : Breakpoint) = bp := by
    rw [at_, if_pos rfl]
  have split {b : BreakpointRef} (hb : b < (s.breakpoints.push bp).size) :
      b < s.breakpoints.size ∨ b = s.breakpoints.size := by
    rw [Array.size_push] at hb
    exact Nat.lt_or_eq_of_le (Nat.le_of_lt_succ hb)
  refine ⟨fun {a b} ha hb hr => ?_, fun {r b} hr => ?_, fun {t b} ht hb => ?_⟩
  · simp only [System.breakpoint] at hr
    rcases split ha with ha | rfl <;> rcases split hb with hb | rfl
    · rw [old ha, old hb] at hr
      exact hs.numbered ha hb hr
    · rw [old ha, last] at hr
      exact (new a ha hr).elim
    · rw [old hb, last] at hr
      exact (new b hb hr.symm).elim
    · rfl
  · simp only [System.breakpoint, Array.size_push]
    by_cases hne : r = bp.request
    · subst hne
      rw [Table.find?_put_self] at hr
      cases hr
      exact ⟨Nat.lt_succ_self _, by rw [last]⟩
    · rw [Table.find?_put_of_ne _ _ hne] at hr
      obtain ⟨hb, hr⟩ := hs.leads hr
      exact ⟨Nat.lt_succ_of_lt hb, by rw [old hb, hr]⟩
  · obtain ⟨hlt, leads⟩ := hs.current ht hb
    simp only [System.IsInstalled, System.breakpoint, Array.size_push]
    refine ⟨Nat.lt_succ_of_lt hlt, ?_⟩
    rw [old hlt, Table.find?_put_of_ne _ _ (new b hlt)]
    exact leads

/-! ## Hits -/

section

variable [Session σ] {P : BreakpointRef → Prop} {s s' : System σ} {t : ThreadRef} {b : BreakpointRef}

/-- A hit brings a thread to the breakpoint, or makes threads run. -/
theorem suspendAtBreakpoint_reaches (queued : Bool) (hb : P b) : Reaches P s (suspendAtBreakpoint t b queued s).2 :=
  suspendAtBreakpoint_upkeep trivial (Reaches.arrive s t hb) Reaches.startRunning queued

/-- The machine reports hits by request, and only requests of installed breakpoints are heeded. -/
theorem handleBreakpoint_reaches (hP : ∀ r b, s.installed.find? r = some b → P b) (request : RequestId)
    (thread : ThreadId) : Reaches P s (handleBreakpoint request thread s).2 := by
  cases installed : s.installed.find? request with
  | none =>
    rw [handleBreakpoint_unknown installed]
    exact refl_of (Reaches P) s
  | some b =>
    have added : Reaches P s _ := trans_of (Reaches P) (.countHit s b) (addThread_chores thread _)
    rcases found : addThread thread (s.countHit b) with ⟨t, s₁⟩
    rw [found] at added
    rw [handleBreakpoint_eq installed found]
    split
    · exact trans_of (Reaches P) added (suspendAtBreakpoint_reaches true (hP request b installed))
    · exact added

/-! ## Events -/

theorem handleEvent_reaches (hP : ∀ r b, s.installed.find? r = some b → P b) (e : VmEvent) :
    Reaches P s (handleEvent e s).2 := by
  cases e with
  | step request thread landing =>
    rw [handleEvent, handleStep, run_get_bind]
    cases (s.stepOwners.find? request).bind s.find? with
    | some t => exact landStep_upkeep trivial request landing fun st _ s₁ _ => .setRunning s₁ t true
    | none => exact refl_of (Reaches P) s
  | breakpoint request thread landing => exact handleBreakpoint_reaches hP request thread
  | threadStart thread => exact addThread_chores thread s
  | threadDeath thread => exact threadDied_chores s thread
  | vmDeath => exact disconnect_handling s
  | disconnected => exact disconnect_handling s

theorem handleEvent_installs (hs : s.Installs) (e : VmEvent) : (handleEvent e s).2.Installs :=
  (handleEvent_reaches (fun _ _ => hs.isInstalled) e).installs (fun _ h => h) hs

theorem handleEvents_installs (es : List VmEvent) (hs : s.Installs) : (handleEvents es s).2.Installs := by
  induction es generalizing s with
  | nil => exact hs
  | cons e es ih => exact ih (handleEvent_installs hs e)

omit [Session σ] in
theorem System.Installs.aside (hs : s.Installs) (h : s'.posts = s.posts) : s'.Installs :=
  Recedes.books (.of_posts h) hs

theorem handleEventSet_installs (set : EventSet) (hs : s.Installs) : (handleEventSet set s).2.Installs := by
  have events := handleEvents_installs set.events hs
  rcases handled : handleEvents set.events s with ⟨stay, s₁⟩
  rw [handled] at events
  rw [handleEventSet_eq handled]
  split
  · exact events.aside rfl
  · have resumed : Recedes s₁ (resumeSet set s₁).2 := resumeSet_within disconnect_handling set s₁
    exact (resumed.books events).aside rfl

private theorem Dispatched.installs (h : Dispatched s s') (hs : s.Installs) : s'.Installs := by
  cases h with
  | idle => exact hs.aside rfl
  | closed => exact (handleEventSet_installs (.single .disconnected) hs).aside rfl
  | @handled set reader =>
    have read : System.Installs { s with reader } := hs.aside rfl
    exact (handleEventSet_installs set read).aside rfl

theorem runNext_installs (hs : s.Installs) : (runNext s).2.Installs := by
  have woken : s.wakeDispatcher.Installs := by
    rw [System.wakeDispatcher]
    split
    · exact hs.aside (System.posts_of_core (core_wake s _))
    · exact hs
  have leave (ready : List TaskId) : System.Installs { s with ready } := hs.aside rfl
  cases turn : s.turn? with
  | none =>
    rw [runNext_idle turn]
    exact woken
  | some task =>
    cases task with
    | dispatcher =>
      obtain ⟨s₁, ready, dispatched, ran⟩ := runNext_dispatcher turn
      rw [ran]
      exact (dispatched.installs woken).aside rfl
    | watch n =>
      obtain ⟨rest, -, ran⟩ := runNext_watching turn
      rw [ran]
      exact Recedes.books (runWatch_upkeep n fun _ _ => trivial) (leave rest)
    | invocation n =>
      obtain ⟨rest, -, ran⟩ := runNext_invocation turn
      rw [ran]
      exact Recedes.books (runInvocation_upkeep n _) (leave rest)
    | evaluation n =>
      obtain ⟨rest, -, ran⟩ := runNext_evaluation turn
      rw [ran]
      exact Recedes.books (runEvaluation_upkeep n fun _ _ => trivial) (leave rest)

/-! ## Operations -/

/-- The operation is one that clients may ask for: they hit breakpoints that are installed and remove such
as there were, and the machine gives a new breakpoint a new number. -/
def Operation.Proper (s : System σ) : Operation → Prop
  | atBreakpoint _ b _ | atBreakpointQuietly _ b => s.IsInstalled b
  | install typeName line policy => ∀ request m,
      Session.createBreakpointRequest ⟨typeName, line, policy⟩ s.session = .ok request m →
        request ∉ s.breakpointNumbers
  | remove b => b < s.breakpoints.size
  | _ => True

/-- What a removal does to threads and breakpoints does not depend on whether the machine deletes the
request. -/
theorem perform_remove_posts (s : System σ) (b : BreakpointRef) :
    ((Operation.remove b).perform s).posts = (s.uninstall b).posts := by
  change (stateAfter (askFor "removing breakpoint"
    (Session.deleteEventRequest .breakpoint (s.breakpoint b).request)) (s.uninstall b)).posts = _
  cases hc : Session.deleteEventRequest .breakpoint (s.breakpoint b).request (s.uninstall b).session with
  | ok v m =>
    rw [stateAfter_of_ok (askFor_ok hc)]
    rfl
  | error e m =>
    rw [stateAfter_of_error (askFor_error hc)]
    rfl

theorem Operation.installs {o : Operation} (proper : o.Proper s) (hs : s.Installs) : (o.perform s).Installs := by
  by_cases chore : o.isChore
  · exact Recedes.books (Operation.upkeep chore (fun _ _ => trivial) fun _ _ => trivial) hs
  cases o with
  | atBreakpoint t b queued => exact (suspendAtBreakpoint_reaches queued proper).installs (fun _ h => h) hs
  | atBreakpointQuietly t b => exact (suspendAtBreakpointQuietly_handling (Reaches.arrive s t proper)).installs (fun _ h => h) hs
  | resumeAll => exact Recedes.books (resumeAll_upkeep Reaches.startRunning s) hs
  | install typeName line policy =>
    rw [perform]
    cases hc : Session.createBreakpointRequest ⟨typeName, line, policy⟩ s.session with
    | error e m =>
      rw [installBreakpoint, stateAfter_bind_error (askFor_error hc)]
      exact hs.aside rfl
    | ok request m =>
      rw [installBreakpoint, stateAfter_bind_ok (askFor_ok hc)]
      exact hs.push ⟨request, typeName, line, policy, 0⟩ (proper request m hc) m
  | remove b => exact (hs.uninstall proper).aside (perform_remove_posts s b)
  | _ => exact (chore rfl).elim

/-- One thing that happens while clients ask for proper operations only. -/
inductive ProperMove (w : Surroundings σ) (s : System σ) : System σ → Prop
  | operation {o : Operation} (h : o.Proper s) : ProperMove w s (o.perform s)
  | run : ProperMove w s (runNext s).2
  | wait (time : Nat) : ProperMove w s (s.passTime time)
  | letIn : ProperMove w s (letInHeld s).2
  | machine {m : σ} (h : w.acts s.session m) : ProperMove w s { s with session := m }
  | fire {e : DebugEvent} (h : w.publishes e) : ProperMove w s { s with bus := s.bus.fire e }
  | queue {e : DebugEvent} (h : w.publishes e) : ProperMove w s { s with bus := s.bus.queue e }

/-- What an attachment and proper moves lead to. -/
inductive ProperlyReachable (w : Surroundings σ) : System σ → Prop
  | attach {m : σ} {settings : TargetSettings} {s : System σ} (start : w.starts m)
    (h : attach m settings = .ok s) : ProperlyReachable w s
  | move {s s' : System σ} (hs : ProperlyReachable w s) (h : ProperMove w s s') : ProperlyReachable w s'

section

variable {w : Surroundings σ}

theorem ProperMove.move (h : ProperMove w s s') : Move w s s' := by
  cases h with
  | operation h => exact .operation _
  | run => exact .run
  | wait time => exact .wait time
  | letIn => exact .letIn
  | machine h => exact .machine h
  | fire h => exact .fire h
  | queue h => exact .queue h

theorem ProperlyReachable.reachable (h : ProperlyReachable w s) : Reachable w s := by
  induction h with
  | attach start h => exact .attach start h
  | move _ h ih => exact ih.move h.move

theorem ProperMove.installs (h : ProperMove w s s') (hs : s.Installs) : s'.Installs := by
  cases h with
  | operation h => exact Operation.installs h hs
  | run => exact runNext_installs hs
  | wait time => exact hs.aside (System.posts_of_core (core_passTime s time))
  | letIn => exact Recedes.books (letInHeld_upkeep s) hs
  | machine h => exact hs.aside rfl
  | fire h => exact hs.aside rfl
  | queue h => exact hs.aside rfl

/-- Before the attachment there is neither a thread nor a breakpoint. -/
theorem blank_installs (m : σ) (settings : TargetSettings) : (System.blank m settings).Installs where
  numbered ha := (Nat.not_lt_zero _ ha).elim
  leads hr := by cases hr
  current ht := by cases ht

theorem ProperlyReachable.installs (h : ProperlyReachable w s) : s.Installs := by
  induction h with
  | attach _ h => exact Recedes.books (attach_chores (fun _ => .of_posts rfl) h) (blank_installs _ _)
  | move _ h ih => exact h.installs ih

end

end

private def oneInstalled : System (Faulty Machine) :=
  (Operation.install "com.example.Main" 10 .thread).perform (sampleSystem [.addTask (sampleTask 1)])

private def bothInstalled : System (Faulty Machine) :=
  (Operation.install "com.example.Main" 12 .thread).perform oneInstalled

/-- The thread runs, and the machine reports that it hit the second breakpoint. -/
private def reported : System (Faulty Machine) :=
  let s := (Operation.resume 0).perform bothInstalled
  { s with session := ((Scenario.MachineCommand.hit 1 2).applyFaulty s.session).2 }

end Debugger
