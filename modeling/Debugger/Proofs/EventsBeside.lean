import Debugger.Proofs.HaltedThreads
import Debugger.Proofs.OperationsBeside
import Debugger.Proofs.Termination

/-! # Events of other threads

What the machine reports of one thread is handled in that thread: its requests are owned by nobody else, and
the set is resumed by letting that thread go on.  So another thread takes no notice, as long as the machine
is neither stopped as a whole nor gone.
-/

namespace Debugger

/-! ## What holds all along -/

section

variable {σ : Type} [Session σ] {s s' : System σ}

private theorem BookChange.keyed (h : BookChange s s') (hk : s.stepOwners.Keyed) : s'.stepOwners.Keyed := by
  cases h with
  | fades h => exact h.owners ▸ hk
  | enlist => exact hk
  | died id =>
    cases hn : s.find? id with
    | none =>
      rw [threadDied_none hn]
      exact hk.keep _
    | some t =>
      rw [threadDied_some hn, (Fades.bury _ t).owners]
      exact hk.keep _
  | disconnect =>
    rw [System.disconnect]
    split
    · exact hk
    · exact Table.keyed_empty
  | drop =>
    rw [System.dropStep, deleteStepRequest_state]
    dsimp only
    split
    · exact hk.erase _
    · exact hk
  | take =>
    rw [System.renewStep]
    dsimp only
    split
    · exact hk.put _ _
    · exact hk

/-- The books are sound, and a request has one owner at most. -/
def System.Orderly (s : System σ) : Prop := s.Sound ∧ s.stepOwners.Keyed

theorem orderly_invariant (w : Surroundings σ) : Invariant w System.Orderly where
  blank settings start := ⟨(sound_invariant w).blank settings start, Table.keyed_empty⟩
  change hc hs := by
    have keyed {s s' : System σ} (path : BookPath s s') (hk : s.stepOwners.Keyed) : s'.stepOwners.Keyed := by
      induction path with
      | refl => exact hk
      | tail _ h ih => exact h.keyed ih
    exact ⟨(sound_invariant w).change hc hs.1, keyed (hc.books hs.1) hs.2⟩
  machine h hs := ⟨(sound_invariant w).machine h hs.1, hs.2⟩
  bus bus hs := ⟨(sound_invariant w).bus bus hs.1, hs.2⟩

end

namespace Faulty

/-- No call was answered that the machine is gone. -/
def Connected {σ : Type} (f : Faulty σ) : Prop := ∀ e ∈ f.failures, e.2 ≠ .disconnected

/-- Calls may have failed meanwhile. -/
def Grows {σ : Type} (f f' : Faulty σ) : Prop := f.failures <+: f'.failures

instance {σ : Type} : IsPreorder (Faulty σ) Grows where
  refl f := List.prefix_refl f.failures
  trans _ _ _ := List.IsPrefix.trans

theorem Connected.before {σ : Type} {f f' : Faulty σ} (h : f'.Connected) (hf : f.Grows f') : f.Connected :=
  fun e he => h e (hf.subset he)

end Faulty

variable {s s₁ s' : System (Faulty Machine)} {t u : ThreadRef} {a b : ThreadId}

private theorem Spares.grows {f f' : Faulty Machine} (h : Spares f f') : f.Grows f' := by
  cases h with
  | exchange h => exact (Faulty.lifts_exchange h).failures
  | setRequestTimeout ms => exact refl_of Faulty.Grows f
  | popFrames t frame => exact (Faulty.popFrames_steady t frame f).failures
  | breakpoint h =>
    rename_i r _
    have made := Faulty.createBreakpointRequest_steady r f
    rw [stateAfter_of_ok h] at made
    exact made.failures

private theorem BookChange.grows (h : BookChange s s') : s.session.Grows s'.session := by
  have same {s' : System (Faulty Machine)} (h : s'.session = s.session) : s.session.Grows s'.session :=
    h ▸ refl_of Faulty.Grows s.session
  cases h with
  | fades h =>
    have grow : Spares ≤ Faulty.Grows (σ := Machine) := fun _ _ => Spares.grows
    exact Relation.reflTransGen_le_of_le grow _ _ h.session
  | enlist => exact same rfl
  | died id => exact same (congrArg System.session (System.threadDied_rest s id) :)
  | disconnect => exact same (congrArg System.session (System.disconnect_rest s) :)
  | @drop t st =>
    rw [System.dropStep, deleteStepRequest_state]
    exact (Faulty.lifts_dealing (.deleteStepRequest (t := (s.thread t).id) st.request s.session)).failures
  | @take t _ wanted _ _ _ _ _ h =>
    have made := Faulty.lifts_dealing (.createStepRequest (t := (s.thread t).id) wanted s.session)
    rw [stateAfter_of_ok h] at made
    exact made.failures

theorem StepPath.grows (h : StepPath s s') (hs : s.Orderly) : s.session.Grows s'.session := by
  have along {s s' : System (Faulty Machine)} (path : BookPath s s') : s.session.Grows s'.session := by
    induction path with
    | refl => exact refl_of Faulty.Grows s.session
    | tail _ h ih => exact trans_of Faulty.Grows ih h.grows
  have both : s.session.Grows s'.session ∧ s'.Orderly := by
    induction h with
    | refl => exact ⟨refl_of Faulty.Grows s.session, hs⟩
    | tail _ h ih =>
      exact ⟨trans_of Faulty.Grows ih.1 (along (h.books ih.2.1)), (orderly_invariant scripted).change h ih.2⟩
  exact both.1

/-! ## Events of other threads -/

/-- The event happened in the thread of that number and stops nothing but it: the step request is no other
thread's, and the breakpoint does not stop the machine. -/
def System.eventOf {σ : Type} (s : System σ) (a : ThreadId) : VmEvent → Bool
  | .step request thread _ => thread = a && (s.stepOwners.find? request).all (· = a)
  | .breakpoint request thread _ =>
    thread = a && (s.installed.find? request).all fun x => (s.breakpoint x).policy = .thread
  | .threadStart thread | .threadDeath thread => thread = a
  | .vmDeath | .disconnected => false

/-- The events of the set happened in that thread, and the machine was not stopped for them. -/
def System.setOf {σ : Type} (s : System σ) (a : ThreadId) (set : EventSet) : Bool :=
  set.policy ≠ some .vm && set.events.all (s.eventOf a)

/-- The event is no affair of the thread. -/
def System.Bypasses (s : System (Faulty Machine)) (b : ThreadId) : VmEvent → Prop
  | .step request _ _ => (request, b) ∉ s.stepOwners.entries
  | .breakpoint request thread _ =>
    thread ≠ b ∧ ∀ x, s.installed.find? request = some x → (s.breakpoint x).policy = .thread
  | .threadStart thread | .threadDeath thread => thread ≠ b
  | .vmDeath | .disconnected => False

private theorem bypasses_of_eventOf {e : VmEvent} (h : s.eventOf a e) (hs : s.Orderly) (hab : a ≠ b) :
    s.Bypasses b e := by
  cases e with
  | step request thread landing =>
    intro owned
    simp only [System.eventOf, hs.2.find?_eq_some_iff.mpr owned, Option.all_some, Bool.and_eq_true,
      decide_eq_true_eq] at h
    exact hab h.2.symm
  | breakpoint request thread landing =>
    simp only [System.eventOf, Bool.and_eq_true, decide_eq_true_eq] at h
    refine ⟨fun same => hab (h.1.symm.trans same), fun x hx => ?_⟩
    rw [hx, Option.all_some] at h
    exact of_decide_eq_true h.2
  | threadStart thread => exact fun same => hab ((of_decide_eq_true h).symm.trans same)
  | threadDeath thread => exact fun same => hab ((of_decide_eq_true h).symm.trans same)
  | vmDeath => cases h
  | disconnected => cases h

private theorem thread?_of_eventOf {e : VmEvent} (h : s.eventOf a e) : e.thread? = some a := by
  cases e with
  | step => exact congrArg some (of_decide_eq_true (Bool.and_eq_true_iff.mp h).1)
  | breakpoint => exact congrArg some (of_decide_eq_true (Bool.and_eq_true_iff.mp h).1)
  | threadStart => exact congrArg some (of_decide_eq_true h)
  | threadDeath => exact congrArg some (of_decide_eq_true h)
  | vmDeath => cases h
  | disconnected => cases h

private theorem System.Bypasses.later {e : VmEvent} (h : s.Bypasses b e) (hs : Overlooks u b s s') :
    s'.Bypasses b e := by
  cases e with
  | step request thread landing => exact fun owned => h (hs.owners owned)
  | breakpoint request thread landing =>
    refine ⟨h.1, fun x hx => ?_⟩
    rw [hs.policies]
    exact h.2 x (hs.installed ▸ hx)
  | _ => exact h

private theorem addThread_aloof {id : ThreadId} (h : id ≠ b) (s : System (Faulty Machine)) :
    Aloof u b s (addThread id s).2 ∧ ((addThread id s).2.thread (addThread id s).1).id = id := by
  cases hn : s.find? id with
  | some t =>
    rw [addThread_listed hn]
    exact ⟨refl_of (Aloof u b) s, System.id_of_find? hn⟩
  | none =>
    obtain ⟨m, th, asked, rfl, new, added⟩ := addThread_new hn
    rw [added]
    have called : s.session.Keeps b m :=
      have keeps : Inquiry th.id ≤ Faulty.Keeps b := fun _ _ hi => Faulty.dealing_keeps h (.inquiry hi)
      Relation.reflTransGen_le_of_le keeps _ _ asked
    refine ⟨trans_of (Aloof u b) (.called called) (.enlist h new.frames), ?_⟩
    rw [thread_enlist, if_pos rfl]

private theorem leaveRequest_beside (request : RequestId) (s : System (Faulty Machine)) :
    Beside t u b s (s.leaveRequest t request) :=
  trans_of (Beside t u b) (deleteStepRequest_beside request s)
    (.mapAside _ (f := (·.setRunning true)) fun _ => rfl)

private theorem renewStep_beside (st : Stepping) {wanted : StepRequest} {m : Faulty Machine}
    (h : Session.createStepRequest wanted s.session = .ok st.request m) :
    Beside t u b s (s.renewStep t st m) := fun ht => by
  have made : Beside t u b s { s with session := m } :=
    .dealing (stateAfter_of_ok h ▸ .createStepRequest wanted s.session)
  have held := trans_of (Beside t u b) made (.setStepping _ (some st)) ht
  refine trans_of (Aloof u b) held (.ownersKept fun r hr => ?_)
  split at hr
  · rcases Table.mem_entries_put hr with ⟨-, own⟩ | ⟨old, -⟩
    · exact (ht own.symm).elim
    · exact old
  · exact hr

private theorem countFrames_beside {st : Stepping} {m : Faulty Machine}
    (counted : stateAfter (st.countFrames (s.thread t).id) s.session = m) : Beside t u b s { s with session := m } := by
  have asks : Inquires (s.thread t).id (st.countFrames (s.thread t).id : Call (Faulty Machine) _) := by
    unfold Stepping.countFrames
    split
    · exact .map some (Inquires.single .frameCount)
    · exact .pure _
  exact counted ▸ beside_allowsLooks.inquiries (asks s.session)

private theorem landStep_beside (request : RequestId) (landing : Location) (s : System (Faulty Machine)) :
    Beside t u b s (landStep t request landing s).2 := by
  have lands := landStep_lands t request landing s
  generalize (landStep t request landing s).2 = s' at lands
  cases lands with
  | stale => exact refl_of (Beside t u b) s
  | ended _ _ _ counted => exact trans_of (Beside t u b) (countFrames_beside counted) (stepEnd_beside _ _)
  | @abandoned st m m' _ _ _ _ _ counted refused =>
    have left := trans_of (Beside t u b) (countFrames_beside counted) (leaveRequest_beside request _)
    have asked : Beside t u b ({ s with session := m }.leaveRequest t request)
        { { s with session := m }.leaveRequest t request with session := m' } :=
      .dealing (stateAfter_of_error refused ▸ .createStepRequest _ _)
    exact trans_of (Beside t u b) (trans_of (Beside t u b) left asked) (stepEnd_beside none _)
  | renewed _ _ _ counted _ _ made =>
    have left := trans_of (Beside t u b) (countFrames_beside counted) (leaveRequest_beside request _)
    exact trans_of (Beside t u b) left (renewStep_beside _ made)
  | dropped goes =>
    obtain ⟨st, kind, next, m, -, -, -, -, made, rfl, -⟩ := dropGoingOn_cases goes
    have renewed := trans_of (Beside t u b) (leaveRequest_beside request s)
      (renewStep_beside { st with kind, request := next } made)
    exact trans_of (Beside t u b) renewed (runStep_beside _ _)

private theorem handleStep_aloof {request : RequestId} (h : (request, b) ∉ s.stepOwners.entries)
    (landing : Location) : Aloof u b s (handleStep request landing s).2 := by
  rw [handleStep, run_get_bind]
  cases found : (s.stepOwners.find? request).bind s.find? with
  | none => exact refl_of (Aloof u b) s
  | some t =>
    obtain ⟨owner, owned, listed⟩ := Option.bind_eq_some_iff.mp found
    have id : (s.thread t).id = owner := System.id_of_find? listed
    refine landStep_beside request landing s fun same => h ?_
    rw [← same, id]
    exact Table.mem_of_find? owned

private theorem countHit_aloof (s : System (Faulty Machine)) (x : BreakpointRef) : Aloof u b s (s.countHit x) :=
  fun hs =>
    { Overlooks.refl hs with
      policies := fun y => policy_scene (scene_countHit s x) y
      bystander := hs.carry (rfl) (rfl) hs.unspoken }

private theorem handleBreakpoint_aloof {request : RequestId} {thread : ThreadId} (h : thread ≠ b)
    (alone : ∀ x, s.installed.find? request = some x → (s.breakpoint x).policy = .thread) :
    Aloof u b s (handleBreakpoint request thread s).2 := fun hs => by
  cases installed : s.installed.find? request with
  | none =>
    rw [handleBreakpoint_unknown installed]
    exact refl_of (Aloof u b) s hs
  | some x =>
    have counted := countHit_aloof s x hs
    obtain ⟨added, id⟩ := addThread_aloof (u := u) h (s.countHit x)
    rcases found : addThread thread (s.countHit x) with ⟨t, s₁⟩
    rw [found] at added id
    have so_far := counted.trans (added counted.bystander)
    rw [handleBreakpoint_eq installed found]
    split
    · have own : (s₁.breakpoint x).policy = .thread := (so_far.policies x).trans (alone x installed)
      exact so_far.trans (suspendAtBreakpoint_beside own true (id ▸ h) so_far.bystander)
    · exact so_far

private theorem threadDied_aloof {id : ThreadId} (h : id ≠ b) (s : System (Faulty Machine)) :
    Aloof u b s (s.threadDied id) := by
  have owners : Aloof u b s { s with stepOwners := s.ownersBut id } :=
    .ownersKept fun r hr => (List.mem_filter.mp hr).1
  cases hn : s.find? id with
  | none =>
    rw [threadDied_none hn]
    exact owners
  | some t =>
    rw [threadDied_some hn]
    have ht : (s.thread t).id ≠ b := System.id_of_find? hn ▸ h
    have struck : Aloof u b { s with stepOwners := s.ownersBut id }
        { s with stepOwners := s.ownersBut id, registry := s.registry.erase t } := fun hs =>
      { Overlooks.refl hs with
        listed := fun hu => by
          have hne : u ≠ t := by
            rintro rfl
            exact ht hs.id
          exact (List.mem_erase_of_ne hne).mpr hu
        bystander := hs.carry (rfl) (rfl) hs.unspoken }
    exact trans_of (Aloof u b) (trans_of (Aloof u b) owners struck) (Beside.bury _ ht)

/-- The event changes nothing about the thread. -/
private theorem handleEvent_aloof {e : VmEvent} (h : s.Bypasses b e) : Aloof u b s (handleEvent e s).2 := by
  cases e with
  | step request thread landing => exact handleStep_aloof h landing
  | breakpoint request thread landing => exact handleBreakpoint_aloof h.1 h.2
  | threadStart thread => exact (addThread_aloof h s).1
  | threadDeath thread => exact threadDied_aloof h s
  | vmDeath => exact h.elim
  | disconnected => exact h.elim

/-- Nor do several events, because none of them makes a later one an affair of the thread. -/
private theorem handleEvents_aloof {es : List VmEvent} (h : ∀ e ∈ es, s.Bypasses b e) :
    Aloof u b s (handleEvents es s).2 := by
  induction es generalizing s with
  | nil => exact refl_of (Aloof u b) s
  | cons e es ih =>
    intro hs
    have first := handleEvent_aloof (h e List.mem_cons_self) hs
    have rest := ih fun e' he' => (h e' (List.mem_cons_of_mem e he')).later first
    exact first.trans (rest first.bystander)

/-- A call on schedule that fails is on record. -/
private theorem Faulty.guarded_recorded {σ α : Type} {kind : CallKind} {call : Call σ α} {f f' : Faulty σ}
    {e : SessionError} (h : guarded kind call f = .error e f') : (kind, e) ∈ f'.failures := by
  rw [guarded, noted] at h
  split at h
  · cases h
  · cases h
    exact List.mem_append_right _ (List.mem_singleton_self _)

/-- The machine lets another thread go on. -/
private theorem resumeSet_aloof {set : EventSet} (policy : set.policy ≠ some .vm)
    (own : ∀ e ∈ set.events, e.thread? = some a) (hab : a ≠ b)
    (connected : (resumeSet set s).2.session.Connected) : Aloof u b s (resumeSet set s).2 := by
  cases h : (set.resumption : Option (Call (Faulty Machine) Unit)) with
  | none =>
    rw [resumeSet_none h]
    exact refl_of (Aloof u b) s
  | some call =>
    obtain ⟨thread, found, rfl⟩ :
        ∃ thread, set.thread? = some thread ∧ call = Session.resumeThread thread := by
      unfold EventSet.resumption at h
      split at h
      · exact (policy ‹_›).elim
      · exact ⟨_, ‹_›, (Option.some.inj h).symm⟩
      · cases h
    have hne : thread ≠ b := by
      rintro rfl
      obtain ⟨e, he, happened⟩ := List.exists_of_findSome?_eq_some found
      exact hab (Option.some.inj ((own e he).symm.trans happened))
    have kept := Faulty.dealing_keeps hne (.resumeThread s.session)
    cases hc : (Session.resumeThread thread : Call (Faulty Machine) Unit) s.session with
    | ok v m =>
      rw [stateAfter_of_ok hc] at kept
      rw [resumeSet_ok h hc]
      exact .called kept
    | error e m =>
      rw [stateAfter_of_error hc] at kept
      rw [resumeSet_error h hc] at connected ⊢
      have failed : (.resumeThread, e) ∈ m.failures := Faulty.guarded_recorded hc
      by_cases gone : e = .disconnected
      · rw [if_pos gone] at connected
        have session : { s with session := m }.disconnect.session = m :=
          (congrArg System.session (System.disconnect_rest { s with session := m }) :)
        rw [session] at connected
        exact (connected _ failed gone).elim
      · rw [if_neg gone]
        exact .called kept

/-- The set changes nothing about another thread, unless the machine turns out to be gone. -/
theorem handleEventSet_aloof {set : EventSet} (h : s.setOf a set) (hs : s.Orderly) (hab : a ≠ b)
    (connected : (handleEventSet set s).2.session.Connected) : Aloof u b s (handleEventSet set s).2 := by
  obtain ⟨policy, own⟩ := Bool.and_eq_true_iff.mp h
  have own (e : VmEvent) (he : e ∈ set.events) : s.eventOf a e := List.all_eq_true.mp own e he
  have events := handleEvents_aloof (u := u) fun e he => bypasses_of_eventOf (own e he) hs hab
  rcases handled : handleEvents set.events s with ⟨stay, s₁⟩
  rw [handled] at events
  rw [handleEventSet_eq handled] at connected ⊢
  split at connected
  · rename_i stays
    rw [if_pos stays]
    exact trans_of (Aloof u b) events (.flush s₁)
  · rename_i goes
    rw [if_neg goes]
    have resumed := resumeSet_aloof (u := u) (of_decide_eq_true policy)
      (fun e he => thread?_of_eventOf (own e he)) hab connected
    exact trans_of (Aloof u b) (trans_of (Aloof u b) events resumed) (.flush _)

private theorem Dispatched.aloof {s' : System (Faulty Machine)} (hd : Dispatched s s')
    (h : ∀ set s₁, s.incoming = some (set, s₁) → s₁.setOf a set) (hs : s.Orderly) (hab : a ≠ b)
    (connected : s'.session.Connected) : Aloof u b s s' := by
  cases hd with
  | idle => exact .of_sight rfl
  | closed _ closed => cases closed
  | @handled set reader incoming =>
    have read : Aloof u b s { s with reader } := .of_sight rfl
    have orderly : ({ s with reader } : System (Faulty Machine)).Orderly :=
      ⟨hs.1.carry rfl rfl (fun _ => rfl) (fun _ h => h) fun _ h => hs.1.dead h, hs.2⟩
    have handled := handleEventSet_aloof (u := u) (h _ _ incoming) orderly hab connected
    exact (trans_of (Aloof u b) read handled).aside rfl

/-! ## Tasks -/

/-- The task that runs next is left for that thread, or the dispatcher handles what happened in it. -/
def System.nextOf {σ : Type} [Session σ] (s : System σ) (a : ThreadId) : Bool :=
  match s.wakeDispatcher.ready.head? with
  | none => true
  | some .dispatcher => s.wakeDispatcher.incoming.all fun (set, s₁) => s₁.setOf a set
  | some task => (s.wakeDispatcher.subject? task).any fun t => (s.wakeDispatcher.thread t).id = a

theorem runNext_aloof (h : s.nextOf a) (hs : s.Orderly) (hab : a ≠ b)
    (connected : (runNext s).2.session.Connected) : Aloof u b s (runNext s).2 := by
  have woken : Aloof u b s s.wakeDispatcher := by
    rw [System.wakeDispatcher]
    split
    · exact .core (core_wake s _)
    · exact refl_of (Aloof u b) s
  have orderly : s.wakeDispatcher.Orderly :=
    (orderly_invariant scripted).stepPath (wakeDispatcher_path s).stepPath hs
  have leave (ready : List TaskId) : Aloof u b s { s.wakeDispatcher with ready } := woken.aside rfl
  rw [System.nextOf] at h
  cases turn : s.turn? with
  | none =>
    rw [runNext_idle turn]
    exact woken
  | some task =>
    have head : s.wakeDispatcher.ready.head? = some task := turn
    rw [head] at h
    cases task with
    | dispatcher =>
      obtain ⟨s₁, ready, dispatched, ran⟩ := runNext_dispatcher turn
      rw [ran] at connected ⊢
      have aloof := dispatched.aloof (u := u) (fun set s₁ incoming => by simpa [incoming] using h) orderly hab connected
      exact (trans_of (Aloof u b) woken aloof).aside rfl
    | watch n =>
      obtain ⟨rest, -, ran⟩ := runNext_watching turn
      obtain ⟨t, ht, own⟩ := (Option.any_eq_true _ _).mp h
      have beside := runWatch_beside (u := u) (b := b) (s := { s.wakeDispatcher with ready := rest }) ht
      rw [ran, ← dequeued]
      exact trans_of (Aloof u b) (leave rest) (beside (of_decide_eq_true own ▸ hab))
    | invocation n =>
      obtain ⟨rest, -, ran⟩ := runNext_invocation turn
      obtain ⟨t, ht, own⟩ := (Option.any_eq_true _ _).mp h
      have beside := runInvocation_beside (u := u) (b := b) (s := { s.wakeDispatcher with ready := rest }) ht
      rw [ran, ← dequeued]
      exact trans_of (Aloof u b) (leave rest) (beside (of_decide_eq_true own ▸ hab))
    | evaluation n =>
      obtain ⟨rest, -, ran⟩ := runNext_evaluation turn
      obtain ⟨t, ht, own⟩ := (Option.any_eq_true _ _).mp h
      have beside := runEvaluation_beside (u := u) (b := b) (s := { s.wakeDispatcher with ready := rest }) ht
      rw [ran, ← dequeued]
      exact trans_of (Aloof u b) (leave rest) (beside (of_decide_eq_true own ▸ hab))

theorem letInHeld_aloof : Debug.Within (Aloof u b) (letInHeld : Debug (Faulty Machine) _) :=
  .get_bind fun s => by
    generalize s.invocations.findIdx? _ = found
    cases found with
    | none => exact refl_of (Aloof u b) s
    | some n =>
      have marked : Aloof u b s (s.setInvocation n .letIn) := .of_sight rfl
      exact marked.wake _

end Debugger
