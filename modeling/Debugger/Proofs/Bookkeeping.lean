import Mathlib.Data.List.Nodup
import Debugger.Proofs.Reachable

/-! # The books a debugger keeps on its threads

Which threads are listed, which are dead, and which steps are under way.  Almost every change leaves the
books alone or strikes dead threads from them; the changes that do more are told apart here, once.
-/

namespace Debugger

variable {σ : Type}

/-- What the books say of a thread. -/
def Thread.mark (th : Thread) : ThreadId × Bool × Option Stepping := (th.id, th.terminated, th.stepping)

/-- The books say the same of a thread, or it is dead now. -/
def Thread.Fades (th th' : Thread) : Prop :=
  th'.mark = th.mark ∨ th'.id = th.id ∧ th'.terminated ∧ th'.stepping = none

theorem Thread.Fades.id {th th' : Thread} (h : th.Fades th') : th'.id = th.id := by
  rcases h with h | h
  · exact congrArg Prod.fst h
  · exact h.1

theorem Thread.Fades.terminated {th th' : Thread} (h : th.Fades th') (ht : th.terminated) :
    th'.terminated := by
  rcases h with h | h
  · exact (congrArg (fun m => m.2.1) h).trans ht
  · exact h.2.1

/-- A step under way after the change was under way before. -/
theorem Thread.Fades.stepping {th th' : Thread} {st : Stepping} (h : th.Fades th')
    (hs : th'.stepping = some st) : th.stepping = some st := by
  rcases h with h | h
  · exact (congrArg (fun m => m.2.2) h).symm.trans hs
  · rw [h.2.2] at hs
    cases hs

theorem Thread.Fades.trans {a b c : Thread} (h : a.Fades b) (h' : b.Fades c) : a.Fades c := by
  rcases h' with h' | h'
  · rcases h with h | h
    · exact .inl (h'.trans h)
    · simp only [Thread.mark, Prod.mk.injEq] at h'
      exact .inr ⟨h'.1.trans h.1, h'.2.1.trans h.2.1, h'.2.2.trans h.2.2⟩
  · exact .inr ⟨h'.1.trans h.id, h'.2⟩

theorem fades_bury (s : System σ) (t u : ThreadRef) : (s.thread u).Fades ((s.bury t).thread u) := by
  rw [System.bury]
  split
  · exact .inl rfl
  · change (s.thread u).Fades ((s.mapThread t Thread.bury).thread u)
    rw [System.thread_mapThread]
    split
    · exact .inr ⟨rfl, rfl, rfl⟩
    · exact .inl rfl

theorem size_bury (s : System σ) (t : ThreadRef) : (s.bury t).threads.size = s.threads.size := by
  rw [System.bury]
  split
  · rfl
  · exact System.size_mapThread s t Thread.bury

/-- A thread that is buried is dead. -/
theorem dead_bury {s : System σ} {t : ThreadRef} (h : t < s.threads.size) :
    ((s.bury t).thread t).terminated := by
  rw [System.bury]
  split
  · assumption
  · exact congrArg Thread.terminated (System.thread_mapThread_self h Thread.bury)

/-- What the books hold besides the threads. -/
def System.ledger (s : System σ) : List ThreadRef × Table RequestId ThreadId × σ × Bool × Nat :=
  (s.registry, s.stepOwners, s.session, s.released, s.activeInvocations)

variable [Session σ]

/-- The target lists each thread once, and every thread that it does not list is dead. -/
structure System.Sound (s : System σ) : Prop where
  inRange {t : ThreadRef} : t ∈ s.registry → t < s.threads.size
  distinct : (s.registry.map fun t => (s.thread t).id).Nodup
  unlisted {t : ThreadRef} : t < s.threads.size → t ∉ s.registry → (s.thread t).terminated
  dead {t : ThreadRef} : (s.thread t).terminated → (s.thread t).stepping = none

omit [Session σ] in
theorem System.Sound.live {s : System σ} (h : s.Sound) {t : ThreadRef} {st : Stepping}
    (hs : (s.thread t).stepping = some st) : (s.thread t).terminated = false := by
  cases ht : (s.thread t).terminated with
  | false => rfl
  | true =>
    rw [h.dead ht] at hs
    cases hs

/-- A call that neither makes nor deletes a step request. -/
inductive Spares : σ → σ → Prop
  | exchange {m m' : σ} (h : Exchange m m') : Spares m m'
  | setRequestTimeout {m : σ} (ms : Option Nat) : Spares m (Session.setRequestTimeout ms m)
  | popFrames {m : σ} (t : ThreadId) (frame : FrameId) :
    Spares m (stateAfter (Session.popFrames t frame) m)
  | breakpoint {m m' : σ} {r : BreakpointRequest} {request : RequestId}
    (h : Session.createBreakpointRequest r m = .ok request m') : Spares m m'

/-- A change after which the books say the same, but for threads that died. -/
structure Fades (s s' : System σ) : Prop where
  size : s'.threads.size = s.threads.size
  threads (u : ThreadRef) : (s.thread u).Fades (s'.thread u)
  registry : s'.registry = s.registry
  owners : s'.stepOwners = s.stepOwners
  session : Relation.ReflTransGen Spares s.session s'.session
  alive : s'.targetAlive → s.targetAlive

/-- The pending step of a thread is struck from the books. -/
def System.dropStep (s : System σ) (t : ThreadRef) (request : RequestId) : System σ :=
  (deleteStepRequest request (s.mapThread t (·.setStepping none))).2

/-- The changes by what they do to the books. -/
inductive BookChange : System σ → System σ → Prop
  | fades {s s' : System σ} (h : Fades s s') : BookChange s s'
  | enlist {s : System σ} {th : Thread} (new : s.find? th.id = none) (hs : th.stepping = none) :
    BookChange s (s.enlist th)
  | died (s : System σ) (id : ThreadId) : BookChange s (s.threadDied id)
  | disconnect (s : System σ) : BookChange s s.disconnect
  | drop {s : System σ} {t : ThreadRef} {st : Stepping} (hp : (s.thread t).stepping = some st) :
    BookChange s (s.dropStep t st.request)
  /-- A step is entered for a thread that has none. -/
  | take {s : System σ} {t : ThreadRef} {new : Stepping} {wanted : StepRequest} {session : σ}
    (ht : t < s.threads.size) (hn : (s.thread t).stepping = none)
    (hl : (s.thread t).terminated = false) (hw : wanted.thread = (s.thread t).id)
    (h : Session.createStepRequest wanted s.session = .ok new.request session) :
    BookChange s (s.renewStep t new session)

namespace Fades

variable {a b c s s' : System σ}

theorem trans (h : Fades a b) (h' : Fades b c) : Fades a c where
  size := h'.size.trans h.size
  threads u := (h.threads u).trans (h'.threads u)
  registry := h'.registry.trans h.registry
  owners := h'.owners.trans h.owners
  session := h.session.trans h'.session
  alive hc := h.alive (h'.alive hc)

/-- Updates that touch nothing the books hold. -/
theorem of_eq (threads : s'.threads = s.threads) (h : s'.ledger = s.ledger) : Fades s s' := by
  simp only [System.ledger, Prod.mk.injEq] at h
  obtain ⟨hr, ho, hs, hl, hi⟩ := h
  refine ⟨by rw [threads], fun u => .inl ?_, hr, ho, hs ▸ .refl, ?_⟩
  · rw [System.thread_congr threads]
  · rw [System.targetAlive, System.targetAlive, hl, hi]
    exact id

theorem of_core (h : s'.core = s.core) : Fades s s' :=
  of_eq (congrArg Core.threads h) (congrArg (fun c : Core σ =>
    (c.registry, c.stepOwners, c.session, c.released, c.activeInvocations)) h)

protected theorem rfl : Fades s s := of_eq (Eq.refl _) (Eq.refl _)

instance : IsPreorder (System σ) Fades where
  refl _ := .rfl
  trans _ _ _ h h' := h.trans h'

theorem exchange {m : σ} (h : Exchange s.session m) : Fades s { s with session := m } where
  size := Eq.refl _
  threads _ := .inl (Eq.refl _)
  registry := Eq.refl _
  owners := Eq.refl _
  session := .single (.exchange h)
  alive := id

/-- An update of one thread that keeps its mark. -/
theorem mapThread (s : System σ) (t : ThreadRef) {f : Thread → Thread}
    (h : ∀ th, (f th).mark = th.mark) : Fades s (s.mapThread t f) where
  size := System.size_mapThread s t f
  threads u := .inl (System.mapThread_keeps (g := Thread.mark) h s t u)
  registry := Eq.refl _
  owners := Eq.refl _
  session := .refl
  alive := id

theorem stopRunning (s : System σ) (t : ThreadRef) : Fades s (s.stopRunning t) :=
  mapThread s t fun _ => Eq.refl _

theorem preserve (s : System σ) (t : ThreadRef) : Fades s (s.preserveFrames t) :=
  (mapThread s t (f := Thread.markStale) fun _ => Eq.refl _).trans (of_eq (Eq.refl _) (Eq.refl _))

theorem startRunning (s : System σ) (t : ThreadRef) : Fades s (s.startRunning t) :=
  (mapThread s t (f := (·.setRunning true)) fun _ => Eq.refl _).trans (preserve _ t)

theorem bury (s : System σ) (t : ThreadRef) : Fades s (s.bury t) where
  size := size_bury s t
  threads := fades_bury s t
  registry := (congrArg System.registry (System.bury_rest s t) :)
  owners := (congrArg System.stepOwners (System.bury_rest s t) :)
  session := (congrArg System.session (System.bury_rest s t) :) ▸ .refl
  alive := (congrArg System.targetAlive (System.bury_rest s t) :) ▸ id

theorem updateFrames (s : System σ) (t : ThreadRef) (remote : List RemoteFrame) :
    Fades s (s.updateFrames t remote) := by
  have rest := congrArg System.ledger (System.updateFrames_rest s t remote)
  rcases s.threads_updateFrames t remote with h | ⟨hs, h⟩
  · exact of_eq h rest
  · have frames := mapThread s t (f := fun th => { th with frames := hs, refresh := false })
      fun _ => Eq.refl _
    exact frames.trans (of_eq h rest)

theorem liftTimeout (s : System σ) (alive : s.targetAlive) : Fades s s.liftTimeout := by
  unfold System.liftTimeout
  dsimp only
  split
  · exact ⟨Eq.refl _, fun _ => .inl (Eq.refl _), Eq.refl _, Eq.refl _, .single (.setRequestTimeout _),
      fun _ => alive⟩
  · exact ⟨Eq.refl _, fun _ => .inl (Eq.refl _), Eq.refl _, Eq.refl _, .refl, fun _ => alive⟩

theorem restoreTimeout (s : System σ) : Fades s s.restoreTimeout := by
  have less {r : Bool} {n : Nat} (h : (!r || decide (n - 1 > 0)) = true) :
      (!r || decide (n > 0)) = true := by
    rcases Bool.or_eq_true_iff.mp h with h | h
    · rw [h, Bool.true_or]
    · have h := of_decide_eq_true h
      rw [decide_eq_true (show n > 0 by omega), Bool.or_true]
  have called : Relation.ReflTransGen Spares s.session
      (Session.setRequestTimeout s.savedTimeout s.session) := .single (.setRequestTimeout _)
  unfold System.restoreTimeout
  dsimp only
  split
  · split
    · exact ⟨Eq.refl _, fun _ => .inl (Eq.refl _), Eq.refl _, Eq.refl _, called, less⟩
    · exact ⟨Eq.refl _, fun _ => .inl (Eq.refl _), Eq.refl _, Eq.refl _, called, less⟩
  · exact ⟨Eq.refl _, fun _ => .inl (Eq.refl _), Eq.refl _, Eq.refl _, .refl, less⟩

theorem release (s : System σ) : Fades s s.release := by
  have alive : { s with released := true }.targetAlive → s.targetAlive := by
    simp [System.targetAlive]
    exact .inr
  unfold System.release
  dsimp only
  split
  · exact ⟨Eq.refl _, fun _ => .inl (Eq.refl _), Eq.refl _, Eq.refl _, .refl, alive⟩
  · exact ⟨Eq.refl _, fun _ => .inl (Eq.refl _), Eq.refl _, Eq.refl _, .refl, alive⟩

theorem suspendListed (s : System σ) : Fades s s.suspendListed :=
  System.suspendListed_within (R := Fades) (fun _ => of_eq (Eq.refl _) (Eq.refl _)) stopRunning s

theorem leaveBreakpoint (s : System σ) (b : BreakpointRef) (t : ThreadRef) :
    Fades s (s.leaveBreakpoint b t) :=
  mapThread s t fun _ => Eq.refl _

theorem arrive (s : System σ) (t : ThreadRef) (b : BreakpointRef) : Fades s (s.arrive t b) :=
  mapThread s t fun _ => Eq.refl _

end Fades

/-- A sequence of changes by what they do to the books. -/
abbrev BookPath : System σ → System σ → Prop := Relation.ReflTransGen BookChange

theorem Fades.path {s s' : System σ} (h : Fades s s') : BookPath s s' := .single (.fades h)

/-! ## Changes as book changes -/

section

variable {s : System σ} {t : ThreadRef} {old new : Stepping} {wanted : StepRequest}

theorem session_leaveRequest (s : System σ) (t : ThreadRef) (request : RequestId) :
    (s.leaveRequest t request).session =
      stateAfter (Session.deleteEventRequest .step request) s.session := by
  change (deleteStepRequest request s).2.session = _
  rw [deleteStepRequest_state]

theorem session_dropStep (s : System σ) (t : ThreadRef) (request : RequestId) :
    (s.dropStep t request).session =
      stateAfter (Session.deleteEventRequest .step request) s.session := by
  rw [System.dropStep, deleteStepRequest_state]
  rfl

theorem thread_dropStep (s : System σ) (t u : ThreadRef) (request : RequestId) :
    (s.dropStep t request).thread u = (s.mapThread t (·.setStepping none)).thread u :=
  System.thread_congr (by rw [System.dropStep, deleteStepRequest_state]) u

theorem mark_leaveRequest (s : System σ) (t u : ThreadRef) (request : RequestId) :
    ((s.leaveRequest t request).thread u).mark = (s.thread u).mark := by
  refine (System.mapThread_keeps (g := Thread.mark) (fun _ => by rfl) _ t u).trans ?_
  rw [deleteStepRequest_state]
  rfl

theorem size_dropStep (s : System σ) (t : ThreadRef) (request : RequestId) :
    (s.dropStep t request).threads.size = s.threads.size := by
  rw [System.dropStep, deleteStepRequest_state]
  exact System.size_mapThread s t _

/-- To the books, a step that goes on with another request is dropped and entered again. -/
private theorem books_renewStep (sound : s.Sound) {session : σ} (hp : (s.thread t).stepping = some old)
    (hw : wanted.thread = (s.thread t).id)
    (h : Session.createStepRequest wanted (s.leaveRequest t old.request).session =
      .ok new.request session) :
    BookPath s ((s.leaveRequest t old.request).renewStep t new session) := by
  have ht := System.lt_size_of_stepping hp
  have gone : (s.dropStep t old.request).thread t = (s.thread t).setStepping none := by
    rw [thread_dropStep, System.thread_mapThread_self ht]
  rw [session_leaveRequest, ← session_dropStep] at h
  have taken : BookChange (s.dropStep t old.request) ((s.dropStep t old.request).renewStep t new session) :=
    .take ((size_dropStep s t old.request).symm ▸ ht) (by rw [gone]; rfl)
      (by rw [gone]; exact sound.live hp) (by rw [gone]; exact hw) h
  have owners : ((s.leaveRequest t old.request).renewStep t new session).stepOwners =
      ((s.dropStep t old.request).renewStep t new session).stepOwners := by
    have ids : ((s.leaveRequest t old.request).thread t).id = ((s.dropStep t old.request).thread t).id := by
      rw [gone]
      exact congrArg Prod.fst (mark_leaveRequest s t t old.request)
    rw [System.renewStep, System.renewStep, ids, System.dropStep, System.leaveRequest,
      deleteStepRequest_state, deleteStepRequest_state]
    rfl
  refine ((Relation.ReflTransGen.single (.drop hp)).tail taken).trans (Fades.path ?_)
  refine ⟨?_, fun u => .inl ?_, ?_, owners, .refl, ?_⟩ <;>
    rw [System.dropStep, System.leaveRequest, deleteStepRequest_state, deleteStepRequest_state]
  · exact ((System.size_mapThread _ t _).trans (System.size_mapThread s t _)).trans
      ((System.size_mapThread _ t _).trans (System.size_mapThread s t _)).symm
  · change (((s.mapThread t (·.setRunning true)).mapThread t (·.setStepping (some new))).thread u).mark =
      (((s.mapThread t (·.setStepping none)).mapThread t (·.setStepping (some new))).thread u).mark
    simp only [System.thread_mapThread, System.size_mapThread]
    split <;> rfl
  · rfl
  · exact id

private theorem books_giveUp {e : SessionError} {session : σ} (hp : (s.thread t).stepping = some old)
    (h : Session.createStepRequest wanted (s.leaveRequest t old.request).session = .error e session) :
    BookPath s (stepEnd t none { s.leaveRequest t old.request with session }).2 := by
  rw [session_leaveRequest, ← session_dropStep] at h
  refine (Relation.ReflTransGen.single (.drop hp)).trans (Fades.path ?_)
  have refused := Fades.exchange (.stepRefused h)
  refine refused.trans ?_
  rw [stepEnd_none, System.dropStep, System.leaveRequest, deleteStepRequest_state,
    deleteStepRequest_state]
  refine ⟨?_, fun u => .inl ?_, rfl, rfl, .refl, id⟩
  · simp [System.mapThread, System.stopRunning, System.queue]
  · change ((((s.mapThread t (·.setRunning true)).mapThread t (·.setRunning false)).mapThread t
      (·.setStepping none)).thread u).mark = ((s.mapThread t (·.setStepping none)).thread u).mark
    simp only [System.thread_mapThread, System.size_mapThread]
    split <;> rfl

/-- What a change is to the books. -/
inductive Noted (s : System σ) : System σ → Prop
  | fades {s' : System σ} (h : Fades s s') : Noted s s'
  | enlist {th : Thread} (new : s.find? th.id = none) (hn : th.stepping = none) : Noted s (s.enlist th)
  | died (id : ThreadId) : Noted s (s.threadDied id)
  | disconnect : Noted s s.disconnect
  | drop {t : ThreadRef} {st : Stepping} (hp : (s.thread t).stepping = some st) :
    Noted s (s.dropStep t st.request)
  | renew {t : ThreadRef} {old new : Stepping} {wanted : StepRequest} {session : σ}
    (hp : (s.thread t).stepping = some old) (hk : new.kind.detail = old.kind.detail)
    (hw : wanted.thread = (s.thread t).id)
    (h : Session.createStepRequest wanted (s.leaveRequest t old.request).session =
      .ok new.request session) : Noted s ((s.leaveRequest t old.request).renewStep t new session)

theorem Change.noted {s' : System σ} (h : Change s s') : Noted s s' := by
  cases h with
  | exchange h => exact .fades (Fades.exchange h)
  | aside h => exact .fades (.of_core h)
  | @refresh t _ _ hs h =>
    have called := Exchange.frames (s.thread t).id s.session
    rw [stateAfter_of_ok h] at called
    exact .fades ((Fades.exchange called).trans (.updateFrames _ _ _))
  | preserve t => exact .fades (.preserve s t)
  | pop t frame =>
    have asked : Fades (s.preserveFrames t) (s.popFrames t frame) :=
      ⟨rfl, fun _ => .inl rfl, rfl, rfl, .single (.popFrames _ frame), id⟩
    exact .fades ((Fades.preserve s t).trans asked)
  | run t => exact .fades (Fades.startRunning s t)
  | stop t => exact .fades (Fades.stopRunning s t)
  | bury t => exact .fades (Fades.bury s t)
  | groupName t name => exact .fades (.mapThread s t fun _ => rfl)
  | @beginInvocation t call alive hi hs =>
    have marked := Fades.mapThread s t (f := fun th => { th with invoking := true }) fun _ => rfl
    exact .fades (((marked.trans (.startRunning _ t)).trans (.liftTimeout _ alive)).trans (.of_eq rfl rfl))
  | @endInvocation n task =>
    have marked := Fades.mapThread (s.stopRunning task.thread) task.thread
      (f := fun th => { th with invoking := false }) fun _ => rfl
    exact .fades ((((Fades.stopRunning s _).trans marked).trans (.restoreTimeout _)).trans
      (.of_eq rfl rfl))
  | stopAt t b all => exact .fades (System.stopAt_within (.arrive s t b) Fades.suspendListed (.stopRunning · t) all)
  | install h =>
    exact .fades ⟨rfl, fun _ => .inl rfl, rfl, rfl, .single (.breakpoint h), id⟩
  | uninstall b =>
    exact .fades (System.uninstall_within (fun _ _ => .of_eq rfl rfl) (fun s t => .leaveBreakpoint s b t) s)
  | enlist new fresh => exact .enlist new fresh.stepping
  | died id => exact .died id
  | disconnect => exact .disconnect
  | release => exact .fades (Fades.release s)
  | renewStep hp hk hw h => exact .renew hp hk hw h
  | abort t =>
    cases hp : (s.thread t).stepping with
    | none =>
      rw [abortStep_none hp]
      exact .fades .rfl
    | some st =>
      rw [abortStep_some hp]
      exact .drop hp
  | _ => exact .fades (.of_eq rfl rfl)

theorem Change.books (sound : s.Sound) {s' : System σ} (h : Change s s') : BookPath s s' := by
  cases h.noted with
  | fades h => exact h.path
  | enlist new hn => exact .single (.enlist new hn)
  | died id => exact .single (.died s id)
  | disconnect => exact .single (.disconnect s)
  | drop hp => exact .single (.drop hp)
  | renew hp hk hw made => exact books_renewStep sound hp hw made

theorem Evaluating.fades {s' : System σ} (h : Evaluating s s') : Fades s s' := by
  cases h with
  | tasks => exact .of_eq rfl rfl
  | mark t e => exact .mapThread s t fun _ => rfl

theorem Watching.fades {s' : System σ} (h : Watching s s') : Fades s s' := by
  cases h with
  | aside h => exact .of_core h
  | suspending t b => exact .mapThread s t fun _ => rfl

theorem StepChange.books (sound : s.Sound) {s' : System σ} (h : StepChange s s') : BookPath s s' := by
  cases h with
  | landing h =>
    cases h with
    | change h => exact h.books sound
    | finish t h =>
      cases h with
      | @finish stepping hp =>
        have stopped : ((s.stopRunning t).thread t).stepping = some stepping :=
          (System.mapThread_keeps (g := Thread.stepping) (fun _ => by rfl) s t t).trans hp
        exact ((Fades.stopRunning s t).path.tail (.drop stopped)).trans (Fades.path (.of_eq rfl rfl))
      | giveUp hp h => exact books_giveUp hp h
  | start h =>
    cases h with
    | @enter t stepping _ session alive hs hn hf hw h =>
      have live : (s.thread t).terminated = false := by
        simp [Thread.isSuspended] at hs
        exact hs.2
      refine (Relation.ReflTransGen.single
        (.take (System.lt_size_of_frames hf) hn live hw h)).trans (Fades.path ?_)
      have entered : Fades (s.renewStep t stepping session)
          ((s.renewStep t stepping session).startRunning t) := .startRunning _ t
      refine entered.trans (.of_eq rfl ?_)
      rw [System.renewStep, if_pos alive]
      rfl
  | evaluating h => exact h.fades.path
  | watching h => exact h.fades.path

end

/-! ## The books stay sound -/

omit [Session σ] in
theorem System.id_of_find? {s : System σ} {t : ThreadRef} {id : ThreadId} (h : s.find? id = some t) :
    (s.thread t).id = id := of_decide_eq_true (List.find?_some (p := fun t => decide ((s.thread t).id = id)) h)

namespace System.Sound

variable {s s' : System σ} {t u : ThreadRef}

omit [Session σ]

theorem carry (h : s.Sound) (size : s'.threads.size = s.threads.size)
    (registry : s'.registry = s.registry) (ids : ∀ u, (s'.thread u).id = (s.thread u).id)
    (terminated : ∀ u, (s.thread u).terminated → (s'.thread u).terminated)
    (dead : ∀ u, (s'.thread u).terminated → (s'.thread u).stepping = none) : s'.Sound where
  inRange ht := by
    rw [size]
    exact h.inRange (registry ▸ ht)
  distinct := by
    rw [registry, List.map_congr_left fun u _ => ids u]
    exact h.distinct
  unlisted hu hn := terminated _ (h.unlisted (size ▸ hu) (registry ▸ hn))
  dead := dead _

theorem nodup (h : s.Sound) : s.registry.Nodup := h.distinct.of_map _

theorem eq_of_id (h : s.Sound) (ht : t ∈ s.registry) (hu : u ∈ s.registry)
    (hid : (s.thread t).id = (s.thread u).id) : t = u :=
  List.inj_on_of_nodup_map h.distinct ht hu hid

/-- A listed thread is found under its number. -/
theorem find? (h : s.Sound) (ht : t ∈ s.registry) : s.find? (s.thread t).id = some t := by
  rw [System.find?]
  cases hf : s.registry.find? fun u => (s.thread u).id = (s.thread t).id with
  | none =>
    have := List.find?_eq_none.mp hf t ht
    simp at this
  | some u =>
    have hid := List.find?_some hf
    rw [h.eq_of_id (List.mem_of_find?_eq_some hf) ht (of_decide_eq_true hid)]

theorem listed (h : s.Sound) {st : Stepping} (hs : (s.thread t).stepping = some st) :
    t ∈ s.registry := by
  by_contra hn
  have := h.unlisted (lt_size_of_stepping hs) hn
  rw [h.live hs] at this
  cases this

end System.Sound

section

variable {s s' : System σ}

theorem Fades.sound (h : Fades s s') (hs : s.Sound) : s'.Sound := by
  refine hs.carry h.size h.registry (fun u => (h.threads u).id) (fun u => (h.threads u).terminated)
    fun u hu => ?_
  rcases h.threads u with hm | hd
  · simp only [Thread.mark, Prod.mk.injEq] at hm
    rw [hm.2.2]
    exact hs.dead (hm.2.1 ▸ hu)
  · exact hd.2.2

private theorem drop_sound (hs : s.Sound) (t : ThreadRef) (request : RequestId) :
    (s.dropStep t request).Sound := by
  refine hs.carry (size_dropStep s t request) ?_ (fun u => ?_) (fun u hu => ?_) fun u hu => ?_
  · rw [System.dropStep, deleteStepRequest_state]
    rfl
  · rw [thread_dropStep]
    exact System.mapThread_keeps (g := Thread.id) (fun _ => by rfl) s t u
  · rw [thread_dropStep]
    exact (System.mapThread_keeps (g := Thread.terminated) (fun _ => by rfl) s t u).trans hu
  · rw [thread_dropStep] at hu ⊢
    rw [System.mapThread_keeps (g := Thread.terminated) (fun _ => by rfl) s t u] at hu
    rw [System.thread_mapThread]
    split
    · rfl
    · exact hs.dead hu

omit [Session σ] in
private theorem take_sound (hs : s.Sound) {t : ThreadRef} {new : Stepping} {session : σ}
    (hl : (s.thread t).terminated = false) : (s.renewStep t new session).Sound := by
  have thread (u : ThreadRef) : (s.renewStep t new session).thread u =
      (s.mapThread t (·.setStepping (some new))).thread u := rfl
  refine hs.carry (System.size_mapThread s t _) rfl (fun u => ?_) (fun u hu => ?_) fun u hu => ?_
  · rw [thread]
    exact System.mapThread_keeps (g := Thread.id) (fun _ => by rfl) s t u
  · rw [thread]
    exact (System.mapThread_keeps (g := Thread.terminated) (fun _ => by rfl) s t u).trans hu
  · rw [thread] at hu ⊢
    rw [System.mapThread_keeps (g := Thread.terminated) (fun _ => by rfl) s t u] at hu
    by_cases ht : t = u
    · rw [ht, hu] at hl
      cases hl
    · rw [System.thread_mapThread_of_ne s ht]
      exact hs.dead hu

omit [Session σ] in
theorem thread_enlist (s : System σ) (th : Thread) (u : ThreadRef) :
    (s.enlist th).thread u = if u = s.threads.size then th else s.thread u := by
  change (s.threads.push th)[u]?.getD default = _
  rw [Array.getElem?_push]
  split
  · rfl
  · rfl

omit [Session σ] in
private theorem enlist_sound (hs : s.Sound) {th : Thread} (new : s.find? th.id = none)
    (hn : th.stepping = none) : (s.enlist th).Sound := by
  have old {u : ThreadRef} (hu : u < s.threads.size) : (s.enlist th).thread u = s.thread u := by
    rw [thread_enlist, if_neg (Nat.ne_of_lt hu)]
  have last : (s.enlist th).thread s.threads.size = th := by rw [thread_enlist, if_pos rfl]
  have size : (s.enlist th).threads.size = s.threads.size + 1 := Array.size_push th
  refine ⟨fun ht => ?_, ?_, fun hu hn => ?_, fun {u} hu => ?_⟩
  · rw [size]
    rcases List.mem_append.mp ht with ht | ht
    · exact Nat.lt_succ_of_lt (hs.inRange ht)
    · rw [List.mem_singleton.mp ht]
      exact Nat.lt_succ_self _
  · change ((s.registry ++ [s.threads.size]).map _).Nodup
    rw [List.map_append, List.map_congr_left fun u hu => congrArg Thread.id (old (hs.inRange hu)),
      List.map_singleton, last]
    refine List.nodup_append.mpr ⟨hs.distinct, List.nodup_singleton _, ?_⟩
    intro a ha b hb hab
    obtain ⟨u, hu, rfl⟩ := List.mem_map.mp ha
    have := List.find?_eq_none.mp new u hu
    rw [hab, List.mem_singleton.mp hb] at this
    simp at this
  · rw [size] at hu
    rcases Nat.lt_succ_iff_lt_or_eq.mp hu with hu | rfl
    · rw [old hu]
      exact hs.unlisted hu fun hm => hn (List.mem_append_left _ hm)
    · exact (hn (List.mem_append_right _ (List.mem_singleton_self _))).elim
  · by_cases hl : u = s.threads.size
    · rw [hl, last]
      exact hn
    · rw [thread_enlist, if_neg hl] at hu ⊢
      exact hs.dead hu

/-- A thread that is listed no more is dead. -/
private theorem strikeOff_sound (hs : s.Sound) {t : ThreadRef} (ht : t ∈ s.registry)
    (owners : Table RequestId ThreadId) :
    ({ s with stepOwners := owners, registry := s.registry.erase t }.bury t).Sound := by
  have fades := Fades.bury { s with stepOwners := owners, registry := s.registry.erase t } t
  have kept {u : ThreadRef} (hu : u ∈ s.registry.erase t) : u ∈ s.registry := List.mem_of_mem_erase hu
  refine ⟨fun hu => ?_, ?_, fun {u} hu hn => ?_, fun {u} hu => ?_⟩
  · rw [fades.registry] at hu
    rw [fades.size]
    exact hs.inRange (kept hu)
  · rw [fades.registry, List.map_congr_left fun u _ => (fades.threads u).id]
    exact hs.distinct.sublist (List.erase_sublist.map _)
  · rw [fades.registry] at hn
    rw [fades.size] at hu
    by_cases he : u = t
    · rw [he]
      exact dead_bury (s := { s with stepOwners := owners, registry := s.registry.erase t })
        (hs.inRange ht)
    · exact (fades.threads u).terminated
        (hs.unlisted hu fun hm => hn ((List.mem_erase_of_ne he).mpr hm))
  · rcases fades.threads u with hm | hd
    · simp only [Thread.mark, Prod.mk.injEq] at hm
      rw [hm.2.2]
      exact hs.dead (hm.2.1 ▸ hu)
    · exact hd.2.2

/-- The owners of step requests when no request of that thread counts any more. -/
def System.ownersBut (s : System σ) (id : ThreadId) : Table RequestId ThreadId :=
  s.stepOwners.keep fun _ owner => owner ≠ id

omit [Session σ] in
theorem threadDied_none {id : ThreadId} (h : s.find? id = none) :
    s.threadDied id = { s with stepOwners := s.ownersBut id } := by
  unfold System.threadDied
  have found : System.find? { s with stepOwners := s.ownersBut id } id = none := h
  simp only [System.ownersBut] at found
  simp only [found, System.ownersBut]

omit [Session σ] in
theorem threadDied_some {id : ThreadId} {t : ThreadRef} (h : s.find? id = some t) :
    s.threadDied id =
      { s with stepOwners := s.ownersBut id, registry := s.registry.erase t }.bury t := by
  unfold System.threadDied
  have found : System.find? { s with stepOwners := s.ownersBut id } id = some t := h
  simp only [System.ownersBut] at found
  simp only [found, System.ownersBut]

/-- Apart from who is listed and who owns requests, the death of a thread is a death in the books. -/
theorem Fades.threadDied (s : System σ) (id : ThreadId) :
    Fades { s with stepOwners := s.ownersBut id, registry := (s.threadDied id).registry }
      (s.threadDied id) := by
  cases h : s.find? id with
  | none =>
    rw [threadDied_none h]
    exact .rfl
  | some t =>
    rw [threadDied_some h, (Fades.bury _ t).registry]
    exact .bury _ t

private theorem died_sound (hs : s.Sound) (id : ThreadId) : (s.threadDied id).Sound := by
  cases h : s.find? id with
  | none =>
    rw [threadDied_none h]
    exact hs.carry rfl rfl (fun _ => rfl) (fun _ h => h) fun _ h => hs.dead h
  | some t =>
    rw [threadDied_some h]
    exact strikeOff_sound hs (List.mem_of_find?_eq_some h) _

/-- The thread that died does not step any more. -/
theorem System.Sound.threadDied (hs : s.Sound) {u : ThreadRef} (hu : u ∈ s.registry) :
    ((s.threadDied (s.thread u).id).thread u).stepping = none := by
  refine (died_sound hs _).dead ?_
  rw [threadDied_some (hs.find? hu)]
  exact dead_bury (s := { s with stepOwners := _, registry := _ }) (hs.inRange hu)

/-- Everybody on the list is dead after a burial of all. -/
private theorem dead_buryAll {ts : List ThreadRef} {t : ThreadRef} (h : t ∈ ts)
    (ht : t < s.threads.size) : ((ts.foldl System.bury s).thread t).terminated := by
  induction ts generalizing s with
  | nil => cases h
  | cons u ts ih =>
    rcases List.mem_cons.mp h with rfl | h
    · exact ((System.foldl_within Fades.bury ts (s.bury t)).threads t).terminated (dead_bury ht)
    · exact ih h ((size_bury s u).symm ▸ ht)

private theorem fades_buryListed (s : System σ) :
    Fades s (s.registry.foldl System.bury { s with disconnected := true }) := by
  have start : Fades s { s with disconnected := true } := .of_eq rfl rfl
  exact start.trans (System.foldl_within Fades.bury s.registry _)

/-- Apart from who owns requests, the end of the machine is a death of threads in the books. -/
theorem Fades.disconnect (s : System σ) :
    Fades { s with stepOwners := s.disconnect.stepOwners } s.disconnect := by
  by_cases h : s.disconnected
  · have same : s.disconnect = s := by rw [System.disconnect, if_pos h]
    rw [same]
    exact .rfl
  · have buried := fades_buryListed s
    rw [System.disconnect, if_neg h]
    exact ⟨buried.size, buried.threads, buried.registry, rfl, buried.session, buried.alive⟩

private theorem disconnect_sound (hs : s.Sound) : s.disconnect.Sound := by
  rw [System.disconnect]
  split
  · exact hs
  · have buried := (fades_buryListed s).sound hs
    exact buried.carry rfl rfl (fun _ => rfl) (fun _ h => h) fun _ h => buried.dead h

/-- After the machine is gone for the first time, every thread is dead. -/
theorem System.Sound.disconnect (hs : s.Sound) (h : s.disconnected = false) {t : ThreadRef}
    (ht : t < s.threads.size) : (s.disconnect.thread t).terminated := by
  have thread : s.disconnect.thread t =
      (s.registry.foldl System.bury { s with disconnected := true }).thread t := by
    rw [System.disconnect, h]
    rfl
  rw [thread]
  by_cases hm : t ∈ s.registry
  · exact dead_buryAll hm ht
  · exact ((fades_buryListed s).threads t).terminated (hs.unlisted ht hm)

theorem BookChange.sound (h : BookChange s s') (hs : s.Sound) : s'.Sound := by
  cases h with
  | fades h => exact h.sound hs
  | enlist new hn => exact enlist_sound hs new hn
  | died id => exact died_sound hs id
  | disconnect => exact disconnect_sound hs
  | drop hp => exact drop_sound hs _ _
  | take ht hn hl hw h => exact take_sound hs hl

theorem BookPath.sound (h : BookPath s s') (hs : s.Sound) : s'.Sound := by
  induction h with
  | refl => exact hs
  | tail _ hc ih => exact hc.sound ih

/-- A thread that there is stays, and stays dead. -/
theorem BookChange.remains {t : ThreadRef} (h : BookChange s s') (ht : t < s.threads.size) :
    t < s'.threads.size ∧ ((s.thread t).terminated → (s'.thread t).terminated) := by
  have faded {a : System σ} (h : Fades a s') (size : a.threads.size = s.threads.size)
      (thread : (s.thread t).terminated → (a.thread t).terminated) :
      t < s'.threads.size ∧ ((s.thread t).terminated → (s'.thread t).terminated) :=
    ⟨(h.size.trans size).symm ▸ ht, fun hd => (h.threads t).terminated (thread hd)⟩
  have kept {f : Thread → Thread} (h : ∀ th, (f th).terminated = th.terminated) (u : ThreadRef) :
      ((s.mapThread u f).thread t).terminated = (s.thread t).terminated :=
    System.mapThread_keeps (g := Thread.terminated) h s u t
  cases h with
  | fades h => exact faded h rfl id
  | enlist new hn =>
    rw [thread_enlist, if_neg (Nat.ne_of_lt ht)]
    exact ⟨(Array.size_push _).symm ▸ Nat.lt_succ_of_lt ht, id⟩
  | died id => exact faded (.threadDied s id) rfl fun h => h
  | disconnect => exact faded (.disconnect s) rfl id
  | drop hp =>
    rw [size_dropStep, thread_dropStep]
    exact ⟨ht, (kept (f := (·.setStepping none)) (fun _ => rfl) _).trans⟩
  | @take u new _ m =>
    exact ⟨(System.size_mapThread _ u _).symm ▸ ht,
      (kept (f := (·.setStepping (some new))) (fun _ => rfl) u).trans⟩

theorem BookPath.remains {t : ThreadRef} (h : BookPath s s') (ht : t < s.threads.size) :
    t < s'.threads.size ∧ ((s.thread t).terminated → (s'.thread t).terminated) := by
  induction h with
  | refl => exact ⟨ht, id⟩
  | tail _ hc ih => exact ⟨(hc.remains ih.1).1, (hc.remains ih.1).2 ∘ ih.2⟩

theorem Happens.remains {w : Surroundings σ} {t : ThreadRef} (h : Happens w s s') (sound : s.Sound)
    (ht : t < s.threads.size) :
    t < s'.threads.size ∧ ((s.thread t).terminated → (s'.thread t).terminated) := by
  cases h with
  | change h => exact (h.books sound).remains ht
  | machine h => exact ⟨ht, id⟩
  | bus bus => exact ⟨ht, id⟩

theorem sound_blank (m : σ) (settings : TargetSettings) :
    (System.blank m settings).Sound := by
  refine ⟨fun h => ?_, List.nodup_nil, fun h => ?_, fun h => ?_⟩
  · cases h
  · cases h
  · rw [System.thread_of_size_le (Nat.zero_le _)]
    rfl

theorem sound_invariant (w : Surroundings σ) : Invariant w System.Sound where
  blank settings _ := sound_blank _ settings
  change hc hs := (hc.books hs).sound hs
  machine _ hs := hs.carry rfl rfl (fun _ => rfl) (fun _ h => h) fun _ h => hs.dead h
  bus _ hs := hs.carry rfl rfl (fun _ => rfl) (fun _ h => h) fun _ h => hs.dead h

/-- Whatever happens around it, a debugger keeps sound books. -/
theorem Reachable.sound {w : Surroundings σ} (h : Reachable w s) : s.Sound :=
  (sound_invariant w).reachable h

end

end Debugger
