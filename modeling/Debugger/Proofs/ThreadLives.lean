import Debugger.Proofs.Attachment
import Debugger.Proofs.CurrentBreakpoints
import Debugger.Proofs.Termination
import Debugger.Proofs.ThreadHistory
import Debugger.Proofs.Transcripts

/-! # The lives of threads

Threads come to be listed when the debugger attaches, when the machine reports their start and when they hit an
installed breakpoint; they are listed no more when the machine reports their death.  Nothing else that happens changes
the registry, and whatever happens, of every thread object there is exactly one creation and at most one end to be heard.
-/

namespace Debugger

variable {σ : Type}

/-- The numbers of the listed threads, in order. -/
def System.roster (s : System σ) : List ThreadId := s.registry.map fun t => (s.thread t).id

/-- What the registry learns from an event; only hits of installed breakpoints are heeded. -/
def VmEvent.news? (installed : Table RequestId BreakpointRef) : VmEvent → Option RegistryEntry
  | threadStart thread => some (.registered thread)
  | breakpoint request thread _ => (installed.find? request).map fun _ => .registered thread
  | threadDeath thread => some (.died thread)
  | _ => none

/-- Background tasks are about threads that there are. -/
def System.Charged (s : System σ) : Prop := ∀ t ∈ s.charges, t < s.threads.size

variable [Session σ] {w : Surroundings σ} {s s₁ s' : System σ} {t : ThreadRef} {n : Nat}

/-! ## The threads there are -/

/-- No thread comes or goes, and announcements and new tasks are about one of the first `n`. -/
structure Tends (w : Surroundings σ) (n : Nat) (s s' : System σ) : Prop where
  registry : s'.registry = s.registry
  size : s'.threads.size = s.threads.size
  id (t : ThreadRef) : (s'.thread t).id = (s.thread t).id
  charges {t : ThreadRef} (ht : t ∈ s'.charges) : t < n ∨ t ∈ s.charges
  tells (known : n ≤ s.threads.size) : Tells w s s'

namespace Tends

instance : IsPreorder (System σ) (Tends w n) where
  refl s := ⟨rfl, rfl, fun _ => rfl, .inr, fun _ => refl_of (Tells w) s⟩
  trans _ _ _ h h' := ⟨h'.registry.trans h.registry, h'.size.trans h.size, fun t => (h'.id t).trans (h.id t),
    fun ht => (h'.charges ht).elim .inl h.charges,
    fun known => trans_of (Tells w) (h.tells known) (h'.tells (h.size ▸ known))⟩

/-- Nothing happens to a thread or is said. -/
theorem of_posts (posts : s'.posts = s.posts) (bus : s'.bus = s.bus)
    (h : ∀ t ∈ s'.charges, t < n ∨ t ∈ s.charges) : Tends w n s s' := by
  obtain ⟨threads, registry⟩ : s'.threads = s.threads ∧ s'.registry = s.registry := by
    simp_all [System.posts]
  have same (t : ThreadRef) : s'.thread t = s.thread t := System.thread_congr threads t
  exact ⟨registry, congrArg _ threads, fun t => congrArg _ (same t), h _,
    fun _ => .carry (congrArg _ threads) (fun t => congrArg _ (same t)) (fun t ht => same t ▸ ht) bus⟩

theorem of_affairs (h : s'.affairs = s.affairs) : Tends w n s s' := by
  have charges : s'.charges = s.charges := congrArg (·.2.2) h
  exact of_posts (congrArg Prod.fst h) (congrArg (·.2.1) h) fun t ht => .inr (charges ▸ ht)

theorem mapThread (s : System σ) (t : ThreadRef) {f : Thread → Thread} (id : ∀ th, (f th).id = th.id)
    (terminated : ∀ th, (f th).terminated = th.terminated) : Tends w n s (s.mapThread t f) := by
  have size := System.size_mapThread s t f
  have ids := System.id_mapThread id s t
  have ends (u : ThreadRef) := System.mapThread_keeps (g := Thread.terminated) terminated s t u
  exact ⟨rfl, size, ids, .inr, fun _ => .carry size ids (fun u hu => (ends u).trans hu) rfl⟩

theorem startRunning (s : System σ) (t : ThreadRef) : Tends w n s (s.startRunning t) := by
  have runs : Tends w n s (s.mapThread t (·.setRunning true)) := mapThread s t (fun _ => rfl) fun _ => rfl
  have stale : Tends w n (s.mapThread t (·.setRunning true))
      ((s.mapThread t (·.setRunning true)).mapThread t Thread.markStale) :=
    mapThread _ t (fun _ => rfl) fun _ => rfl
  have unbound : Tends w n ((s.mapThread t (·.setRunning true)).mapThread t Thread.markStale) (s.startRunning t) :=
    of_affairs rfl
  exact trans_of (Tends w n) runs (trans_of (Tends w n) stale unbound)

theorem bury (s : System σ) (t : ThreadRef) : Tends w n s (s.bury t) := by
  have tells : Tells w s (s.bury t) := .bury s t
  rw [System.bury] at tells ⊢
  split
  · exact refl_of (Tends w n) s
  · rename_i lives
    rw [if_neg lives] at tells
    exact ⟨rfl, System.size_mapThread s t Thread.bury, System.id_mapThread (fun _ => by rfl) s t, .inr, fun _ => tells⟩

/-- Something is said of the target or by one of those threads. -/
theorem fire (s : System σ) {u : Utterance} (hu : n ≤ s.threads.size → s.Voices w u)
    (hp : ∀ t, u.speaker = some t → u.event.IsPassing) : Tends w n s { s with bus := s.bus.fire u.event } :=
  ⟨rfl, rfl, fun _ => rfl, .inr, fun known => .fire (hu known) hp⟩

theorem queue (s : System σ) {u : Utterance} (hu : n ≤ s.threads.size → s.Voices w u)
    (hp : ∀ t, u.speaker = some t → u.event.IsPassing) : Tends w n s { s with bus := s.bus.queue u.event } :=
  ⟨rfl, rfl, fun _ => rfl, .inr, fun known => .queue (hu known) hp⟩

instance : AllowsUpkeep (· < n) (Tends w n) where
  aside := of_affairs
  conclude s := fire (u := ⟨none, Announcement.terminate.event .target⟩) s (fun _ => .inl rfl) fun _ h => by cases h
  holdAll s detail := queue (u := ⟨none, (Announcement.suspend detail).event .target⟩) s (fun _ => .inl rfl) fun _ h => by
    cases h
  hold s t detail ht := queue (u := ⟨some t, (Announcement.suspend detail).event (s.element t)⟩) s
    (fun known => ⟨Nat.lt_of_lt_of_le ht known, rfl⟩) fun _ _ => Announcement.passing_event rfl _
  update s t f h := mapThread s t (fun th => congrArg Prod.fst (h th)) fun th => congrArg (·.2.1) (h th)
  stop s t := mapThread s t (fun _ => rfl) fun _ => rfl
  bury := bury
  proclaim s a := fire (u := ⟨none, a.event .target⟩) s (fun _ => .inl (a.source_event .target)) fun _ h => by cases h
  fire s t a ht h := fire (u := ⟨some t, a.event (s.element t)⟩) s
    (fun known => ⟨Nat.lt_of_lt_of_le ht known, a.source_event _⟩) fun _ _ => a.passing_event h _
  flush s := ⟨rfl, rfl, fun _ => rfl, .inr, fun _ => .flush s⟩
  charge ht posts bus h := of_posts posts bus fun u hu => by
    rcases h u hu with rfl | old
    · exact .inl ht
    · exact .inr old
  run _ := startRunning _ _

theorem countHit (s : System σ) (b : BreakpointRef) : Tends w n s (s.countHit b) :=
  ⟨rfl, rfl, fun _ => rfl, .inr, fun _ => .carry rfl (fun _ => rfl) (fun _ h => h) rfl⟩

theorem arrive (s : System σ) (t : ThreadRef) (b : BreakpointRef) : Tends w n s (s.arrive t b) :=
  mapThread s t (fun _ => rfl) fun _ => rfl

theorem uninstall (s : System σ) (b : BreakpointRef) : Tends w n s (s.uninstall b) := by
  have deinstalled (s : System σ) (installed : Table RequestId BreakpointRef) : Tends w n s { s with installed } :=
    ⟨rfl, rfl, fun _ => rfl, .inr, fun _ => .carry rfl (fun _ => rfl) (fun _ h => h) rfl⟩
  have left (s : System σ) (t : ThreadRef) : Tends w n s (s.leaveBreakpoint b t) :=
    mapThread s t (fun _ => rfl) fun _ => rfl
  exact System.uninstall_within deinstalled left s

end Tends

theorem Operation.tends {o : Operation} (known : o.Known s) (charged : s.Charged) :
    Tends w s.threads.size s (o.perform s) := by
  by_cases chore : o.isChore
  · exact Operation.upkeep chore known charged
  cases o with
  | atBreakpoint t b queued =>
    refine suspendAtBreakpoint_upkeep (R := Tends w s.threads.size) ?_ (.arrive s t b) Tends.startRunning queued
    exact known t rfl
  | atBreakpointQuietly t b =>
    exact suspendAtBreakpointQuietly_handling (R := Tends w s.threads.size) (.arrive s t b)
  | resumeAll => exact resumeAll_upkeep Tends.startRunning s
  | install typeName line policy =>
    rw [perform]
    cases hc : Session.createBreakpointRequest ⟨typeName, line, policy⟩ s.session with
    | error e m =>
      rw [installBreakpoint, stateAfter_bind_error (askFor_error hc)]
      exact .of_affairs rfl
    | ok request m =>
      rw [installBreakpoint, stateAfter_bind_ok (askFor_ok hc)]
      exact ⟨rfl, rfl, fun _ => rfl, .inr, fun _ => .carry rfl (fun _ => rfl) (fun _ h => h) rfl⟩
  | remove b =>
    have asked : Within (Tends w s.threads.size) (askFor "removing breakpoint"
        (Session.deleteEventRequest .breakpoint (s.breakpoint b).request) : Client σ _) :=
      askFor_within (.single (.deleteBreakpoint _))
    exact trans_of (Tends w s.threads.size) (.uninstall s b) (asked (s.uninstall b))
  | _ => exact (chore rfl).elim

/-! ## What the registry learns -/

/-- The registry learns the entries, and nothing else; threads that do not die stay listed. -/
structure Registers (w : Surroundings σ) (s s' : System σ) (entries : List RegistryEntry) : Prop where
  roster : s'.roster = entries.foldl RegistryEntry.enter s.roster
  kept {t : ThreadRef} (ht : t ∈ s.registry) (alive : .died (s.thread t).id ∉ entries) : t ∈ s'.registry
  size : s.threads.size ≤ s'.threads.size
  id {t : ThreadRef} (ht : t < s.threads.size) : (s'.thread t).id = (s.thread t).id
  charges {t : ThreadRef} (ht : t ∈ s'.charges) : t < s'.threads.size ∨ t ∈ s.charges
  tells : Tells w s s'

namespace Registers

variable {es es' : List RegistryEntry}

theorem trans (h : Registers w s s₁ es) (h' : Registers w s₁ s' es') (sound : s.Sound) : Registers w s s' (es ++ es') where
  roster := by rw [h'.roster, h.roster, List.foldl_append]
  kept {t} ht alive := by
    rw [List.mem_append, not_or] at alive
    refine h'.kept (h.kept ht alive.1) ?_
    rw [h.id (sound.inRange ht)]
    exact alive.2
  size := Nat.le_trans h.size h'.size
  id ht := (h'.id (Nat.lt_of_lt_of_le ht h.size)).trans (h.id ht)
  charges ht := by
    rcases h'.charges ht with known | old
    · exact .inl known
    · exact (h.charges old).imp_left fun known => Nat.lt_of_lt_of_le known h'.size
  tells := trans_of (Tells w) h.tells h'.tells

end Registers

theorem Tends.registers (h : Tends w n s s') (known : n ≤ s.threads.size) : Registers w s s' [] where
  roster := by
    rw [System.roster, h.registry]
    exact List.map_congr_left fun t _ => h.id t
  kept ht _ := h.registry ▸ ht
  size := Nat.le_of_eq h.size.symm
  id _ := h.id _
  charges ht := (h.charges ht).imp_left fun small => h.size ▸ Nat.lt_of_lt_of_le small known
  tells := h.tells known

namespace Registers

variable {es : List RegistryEntry}

theorem refl (s : System σ) : Registers w s s [] := by
  have same : Tends w 0 s s := refl_of (Tends w 0) s
  exact same.registers (Nat.zero_le _)

/-- What comes after is nothing to a thread, and nothing is said. -/
theorem aside (h : Registers w s s₁ es) (sound : s.Sound) (hs : s'.affairs = s₁.affairs) : Registers w s s' es := by
  have same : Tends w 0 s₁ s' := .of_affairs hs
  have both := h.trans (same.registers (Nat.zero_le _)) sound
  rwa [List.append_nil] at both

/-- Tasks are still about threads that there are. -/
theorem charged (h : Registers w s s' es) (charged : s.Charged) : s'.Charged := fun t ht => by
  rcases h.charges ht with known | old
  · exact known
  · exact Nat.lt_of_lt_of_le (charged t old) h.size

end Registers

omit [Session σ] in
theorem mem_roster_of_find? {id : ThreadId} (h : s.find? id = some t) : id ∈ s.roster :=
  List.mem_map.mpr ⟨t, List.mem_of_find?_eq_some h, System.id_of_find? h⟩

omit [Session σ] in
theorem not_mem_roster_of_find? {id : ThreadId} (h : s.find? id = none) : id ∉ s.roster := fun hm => by
  obtain ⟨t, ht, rfl⟩ := List.mem_map.mp hm
  simpa using List.find?_eq_none.mp h t ht

/-- The registration of a thread that is listed changes nothing, and that of another one lists it last. -/
theorem addThread_registers (sound : s.Sound) (id : ThreadId) :
    Registers w s (addThread id s).2 [.registered id] ∧ (addThread id s).1 < (addThread id s).2.threads.size := by
  cases hn : s.find? id with
  | some t =>
    rw [addThread_listed hn]
    have same : Registers w s s [] := .refl s
    refine ⟨⟨?_, fun ht _ => ht, same.size, same.id, same.charges, same.tells⟩, sound.inRange (List.mem_of_find?_eq_some hn)⟩
    exact (if_pos (mem_roster_of_find? hn)).symm
  | none =>
    obtain ⟨m, th, -, named, -, h⟩ := addThread_new hn
    have asked : Tells w s { s with session := m } := .carry rfl (fun _ => rfl) (fun _ h => h) rfl
    have size : ({ s with session := m }.enlist th).threads.size = s.threads.size + 1 := Array.size_push th
    have old {t : ThreadRef} (ht : t < s.threads.size) : ({ s with session := m }.enlist th).thread t = s.thread t := by
      rw [thread_enlist, if_neg (Nat.ne_of_lt ht)]
      rfl
    rw [h]
    refine ⟨⟨?_, fun ht _ => List.mem_append_left _ ht, size ▸ Nat.le_succ _, fun ht => by rw [old ht], .inr,
      trans_of (Tells w) asked (.enlist _ th)⟩, size ▸ Nat.lt_succ_self _⟩
    have last : ({ s with session := m }.enlist th).thread s.threads.size = th := by
      rw [thread_enlist, if_pos rfl]
    have before : s.registry.map (fun t => (({ s with session := m }.enlist th).thread t).id) = s.roster :=
      List.map_congr_left fun t ht => by rw [old (sound.inRange ht)]
    change (s.registry ++ [s.threads.size]).map _ = _
    rw [List.map_append, before, List.map_singleton, last, named]
    exact (if_neg (not_mem_roster_of_find? hn)).symm

omit [Session σ] in
/-- The number of a thread that is struck off is listed no more. -/
private theorem map_erase_registry (sound : s.Sound) (ht : t ∈ s.registry) :
    (s.registry.erase t).map (fun u => (s.thread u).id) = s.roster.erase (s.thread t).id := by
  rw [sound.nodup.erase_eq_filter, System.roster, sound.distinct.erase_eq_filter, List.filter_map]
  refine congrArg _ (List.filter_congr fun u hu => ?_)
  by_cases same : u = t
  · subst same
    simp
  · have other : (s.thread u).id ≠ (s.thread t).id := fun h => same (sound.eq_of_id hu ht h)
    exact (bne_iff_ne.mpr same).trans (bne_iff_ne.mpr other).symm

theorem threadDied_registers (sound : s.Sound) (id : ThreadId) : Registers w s (s.threadDied id) [.died id] := by
  cases found : s.find? id with
  | none =>
    rw [threadDied_none found]
    have same : Registers w s { s with stepOwners := s.ownersBut id } [] := (Registers.refl s).aside sound rfl
    refine ⟨?_, fun ht _ => ht, same.size, same.id, same.charges, same.tells⟩
    exact (List.erase_of_not_mem (not_mem_roster_of_find? found)).symm
  | some t =>
    have ht : t ∈ s.registry := List.mem_of_find?_eq_some found
    obtain rfl : (s.thread t).id = id := System.id_of_find? found
    rw [threadDied_some found]
    have struck : Registers w s { s with stepOwners := s.ownersBut (s.thread t).id, registry := s.registry.erase t }
        [.died (s.thread t).id] := by
      refine ⟨map_erase_registry sound ht, fun {u} hu alive => ?_, Nat.le_refl _, fun _ => rfl, .inr,
        .carry rfl (fun _ => rfl) (fun _ h => h) rfl⟩
      refine (List.mem_erase_of_ne ?_).mpr hu
      rintro rfl
      exact alive (List.mem_singleton_self _)
    have buried := (Tends.bury (w := w) (n := 0)
      { s with stepOwners := s.ownersBut (s.thread t).id, registry := s.registry.erase t } t).registers (Nat.zero_le _)
    exact struck.trans buried sound

/-! ## Events -/

private theorem handleBreakpoint_registers (sound : s.Sound) (request : RequestId) (thread : ThreadId)
    (landing : Location) : Registers w s (handleBreakpoint request thread s).2
      ((VmEvent.breakpoint request thread landing).news? s.installed).toList := by
  rw [VmEvent.news?]
  cases installed : s.installed.find? request with
  | none =>
    rw [handleBreakpoint_unknown installed]
    exact .refl s
  | some b =>
    have counted := (Tends.countHit (w := w) (n := 0) s b).registers (Nat.zero_le _)
    have sound' : (s.countHit b).Sound := sound.carry rfl rfl (fun _ => rfl) (fun _ h => h) fun _ => sound.dead
    obtain ⟨added, inRange⟩ := addThread_registers (w := w) sound' thread
    have listed : Registers w s _ [.registered thread] := counted.trans added sound
    rcases found : addThread thread (s.countHit b) with ⟨t, s₁⟩
    rw [found] at listed inRange
    rw [handleBreakpoint_eq installed found]
    split
    · have hit : Tends w s₁.threads.size s₁ (suspendAtBreakpoint t b true s₁).2 := by
        refine suspendAtBreakpoint_upkeep (R := Tends w s₁.threads.size) ?_ (.arrive s₁ t b) Tends.startRunning true
        exact inRange
      exact listed.trans (hit.registers (Nat.le_refl _)) sound
    · exact listed

/-- An event comes to its entry. -/
theorem handleEvent_registers (sound : s.Sound) (e : VmEvent) :
    Registers w s (handleEvent e s).2 (e.news? s.installed).toList := by
  cases e with
  | step request thread landing =>
    rw [handleEvent, handleStep, run_get_bind]
    cases found : (s.stepOwners.find? request).bind s.find? with
    | none => exact .refl s
    | some t =>
      obtain ⟨id, -, listed⟩ := Option.bind_eq_some_iff.mp found
      have landed : Tends w s.threads.size s (landStep t request landing s).2 := by
        refine landStep_upkeep (R := Tends w s.threads.size) ?_ request landing fun st _ s₁ _ =>
          Tends.mapThread s₁ t (fun _ => rfl) fun _ => rfl
        exact sound.inRange (List.mem_of_find?_eq_some listed)
      exact landed.registers (Nat.le_refl _)
  | breakpoint request thread landing => exact handleBreakpoint_registers sound request thread landing
  | threadStart thread => exact (addThread_registers sound thread).1
  | threadDeath thread => exact threadDied_registers sound thread
  | vmDeath | disconnected =>
    have off : Tends w 0 s s.disconnect := disconnect_handling s
    exact off.registers (Nat.zero_le _)

theorem handleEvents_registers (sound : s.Sound) (es : List VmEvent) :
    Registers w s (handleEvents es s).2 (es.filterMap (·.news? s.installed)) := by
  induction es generalizing s with
  | nil => exact .refl s
  | cons e es ih =>
    have installed : (handleEvent e s).2.installed = s.installed :=
      (handleEvent_reaches (P := fun _ => True) (fun _ _ _ => trivial) e).installed
    have first := handleEvent_registers (w := w) sound e
    have later := ih (handleEvent_sound sound e)
    rw [installed] at later
    have both := first.trans later sound
    rw [List.filterMap_cons]
    cases entry : e.news? s.installed with
    | none =>
      rw [entry] at both
      exact both
    | some entered =>
      rw [entry] at both
      exact both

theorem handleEventSet_registers (sound : s.Sound) (set : EventSet) :
    Registers w s (handleEventSet set s).2 (set.events.filterMap (·.news? s.installed)) := by
  have events := handleEvents_registers (w := w) sound set.events
  rcases handled : handleEvents set.events s with ⟨stay, s₁⟩
  rw [handled] at events
  rw [handleEventSet_eq handled]
  have ended : Tends w 0 s₁ (if stay || s₁.disconnected then s₁ else (resumeSet set s₁).2).flush := by
    refine trans_of (Tends w 0) ?_ (AllowsUpkeep.flush _)
    split
    · exact refl_of (Tends w 0) s₁
    · exact resumeSet_within disconnect_handling set s₁
  simpa using events.trans (ended.registers (Nat.zero_le _)) sound

/-! ## Turns -/

/-- What the registry learns when the next task runs: what the event set reports that the dispatcher handles, if it is
its turn. -/
def System.news (s : System σ) : List RegistryEntry :=
  if s.turn? = some .dispatcher then
    s.wakeDispatcher.incoming.elim [] fun (set, s₁) => set.events.filterMap (·.news? s₁.installed)
  else []

private theorem Dispatched.registers (h : Dispatched s s') (sound : s.Sound) :
    Registers w s s' (s.incoming.elim [] fun (set, s₁) => set.events.filterMap (·.news? s₁.installed)) := by
  cases h with
  | idle nothing =>
    rw [nothing]
    exact (Registers.refl s).aside sound rfl
  | closed nothing =>
    rw [nothing]
    exact (handleEventSet_registers sound (.single .disconnected)).aside sound rfl
  | @handled set reader incoming =>
    have read : Registers w s { s with reader } [] := (Registers.refl s).aside sound rfl
    have sound' : System.Sound { s with reader } :=
      sound.carry rfl rfl (fun _ => rfl) (fun _ h => h) fun _ => sound.dead
    rw [incoming]
    exact (read.trans (handleEventSet_registers sound' set) sound).aside sound rfl

theorem runNext_registers (sound : s.Sound) (charged : s.Charged) : Registers w s (runNext s).2 s.news := by
  have woken : Registers w s s.wakeDispatcher [] := by
    refine (Registers.refl s).aside sound ?_
    rw [System.wakeDispatcher]
    split
    · exact s.affairs_wake _
    · rfl
  have leave (ready : List TaskId) : Tends w s.threads.size s { s with ready } := .of_affairs rfl
  rw [System.news]
  cases turn : s.turn? with
  | none =>
    rw [runNext_idle turn, if_neg (by rintro ⟨⟩)]
    exact woken
  | some task =>
    cases task with
    | dispatcher =>
      obtain ⟨s₁, ready, dispatched, ran⟩ := runNext_dispatcher turn
      have handled := woken.trans (dispatched.registers (wakeDispatcher_sound sound)) sound
      rw [ran, if_pos rfl]
      exact handled.aside sound rfl
    | watch n =>
      obtain ⟨rest, -, ran⟩ := runNext_watching turn
      have watched : Tends w s.threads.size { s with ready := rest } (runWatch n { s with ready := rest }).2 :=
        runWatch_upkeep n charged
      rw [ran, if_neg (by rintro ⟨⟩)]
      exact (trans_of (Tends w s.threads.size) (leave rest) watched).registers (Nat.le_refl _)
    | invocation n =>
      obtain ⟨rest, -, ran⟩ := runNext_invocation turn
      have invoked : Tends w s.threads.size { s with ready := rest } (runInvocation n { s with ready := rest }).2 :=
        runInvocation_upkeep n _
      rw [ran, if_neg (by rintro ⟨⟩)]
      exact (trans_of (Tends w s.threads.size) (leave rest) invoked).registers (Nat.le_refl _)
    | evaluation n =>
      obtain ⟨rest, -, ran⟩ := runNext_evaluation turn
      have evaluated : Tends w s.threads.size { s with ready := rest } (runEvaluation n { s with ready := rest }).2 :=
        runEvaluation_upkeep n charged
      rw [ran, if_neg (by rintro ⟨⟩)]
      exact (trans_of (Tends w s.threads.size) (leave rest) evaluated).registers (Nat.le_refl _)

/-! ## The course of events -/

/-- One thing that happens, and what the registry learns from it; clients operate on threads that there are. -/
inductive RegistryTurn (w : Surroundings σ) (s : System σ) : System σ → List RegistryEntry → Prop
  | operation {o : Operation} (h : o.Known s) : RegistryTurn w s (o.perform s) []
  | run : RegistryTurn w s (runNext s).2 s.news
  | wait (time : Nat) : RegistryTurn w s (s.passTime time) []
  | letIn : RegistryTurn w s (letInHeld s).2 []
  | machine {m : σ} (h : w.acts s.session m) : RegistryTurn w s { s with session := m } []
  | fire {e : DebugEvent} (h : w.publishes e) : RegistryTurn w s { s with bus := s.bus.fire e } []
  | queue {e : DebugEvent} (h : w.publishes e) : RegistryTurn w s { s with bus := s.bus.queue e } []

/-- A sequence of such, and what the registry learns meanwhile. -/
inductive RegistryCourse (w : Surroundings σ) (s : System σ) : System σ → List RegistryEntry → Prop
  | refl : RegistryCourse w s s []
  | tail {s₁ s' : System σ} {es es' : List RegistryEntry} (h : RegistryCourse w s s₁ es)
      (turn : RegistryTurn w s₁ s' es') : RegistryCourse w s s' (es ++ es')

theorem RegistryTurn.move {es : List RegistryEntry} (h : RegistryTurn w s s' es) : Move w s s' := by
  cases h with
  | operation h => exact .operation _
  | run => exact .run
  | wait time => exact .wait time
  | letIn => exact .letIn
  | machine h => exact .machine h
  | fire h => exact .fire h
  | queue h => exact .queue h

theorem RegistryTurn.registers {es : List RegistryEntry} (h : RegistryTurn w s s' es) (sound : s.Sound)
    (charged : s.Charged) : Registers w s s' es := by
  cases h with
  | operation known => exact (Operation.tends known charged).registers (Nat.le_refl _)
  | run => exact runNext_registers sound charged
  | wait time =>
    refine (Registers.refl s).aside sound ?_
    rw [System.passTime]
    generalize s.sleeping.partition (·.1 ≤ time) = parts
    obtain ⟨due, later⟩ := parts
    exact foldl_keeps (g := System.affairs) (fun (s : System σ) e => s.affairs_wake e.2) due { s with now := time, sleeping := later }
  | letIn =>
    have letIn : Tends w 0 s (letInHeld s).2 := letInHeld_upkeep s
    exact letIn.registers (Nat.zero_le _)
  | machine => exact (Registers.refl s).aside sound rfl
  | @fire e publishes =>
    have fired := Tends.fire (w := w) (n := 0) s (u := ⟨none, e⟩) (fun _ => .inr publishes) fun _ h => by cases h
    exact fired.registers (Nat.zero_le _)
  | @queue e publishes =>
    have queued := Tends.queue (w := w) (n := 0) s (u := ⟨none, e⟩) (fun _ => .inr publishes) fun _ h => by cases h
    exact queued.registers (Nat.zero_le _)

/-- What holds of every turn holds of them all together. -/
theorem RegistryCourse.registers {es : List RegistryEntry} (h : RegistryCourse w s s' es) (sound : s.Sound)
    (charged : s.Charged) : Registers w s s' es ∧ s'.Sound := by
  induction h with
  | refl => exact ⟨.refl s, sound⟩
  | tail _ turn ih =>
    obtain ⟨before, sound'⟩ := ih
    have last := turn.registers sound' (before.charged charged)
    exact ⟨before.trans last sound, (sound_invariant w).course turn.move.course sound'⟩

/-! ## Attachment -/

private theorem exists_adds (ids : List ThreadId) (s : System σ) : ∃ s', Adds s ids s' := by
  induction ids generalizing s with
  | nil => exact ⟨s, .nil s⟩
  | cons id ids ih =>
    obtain ⟨s', rest⟩ := ih (addThread id s).2
    exact ⟨s', .cons rfl rest⟩

private theorem Adds.registers {ids : List ThreadId} (h : Adds s ids s') (sound : s.Sound) :
    Registers w s s' (ids.map .registered) ∧ s'.Sound := by
  induction h with
  | nil s => exact ⟨.refl s, sound⟩
  | @cons s s₁ s' id ids t first _ ih =>
    have added := (addThread_registers (w := w) sound id).1
    have sound' := (sound_invariant w).stepPath (addThread_path id s).stepPath sound
    rw [first] at added sound'
    obtain ⟨later, sound''⟩ := ih sound'
    exact ⟨added.trans later sound, sound''⟩

private theorem attach_registers {m m' : σ} {ids : List ThreadId} {settings : TargetSettings}
    (listed : Session.allThreads m = .ok ids m') (h : attach m settings = .ok s) :
    Registers w (.blank m settings) s (ids.map .registered) ∧ s.Sound := by
  obtain ⟨s₁, added⟩ := exists_adds ids { System.blank m settings with session := m' }
  obtain rfl : s₁.fire .target .create = s := Except.ok.inj ((attach_ok listed added).symm.trans h)
  have blank := sound_blank m settings
  have asked : Registers w (.blank m settings) { System.blank m settings with session := m' } [] :=
    (Registers.refl _).aside blank rfl
  obtain ⟨all, sound⟩ := added.registers (w := w)
    (blank.carry rfl rfl (fun _ => rfl) (fun _ h => h) fun _ h => blank.dead h)
  have told : Tends w 0 s₁ (s₁.fire .target .create) := AllowsUpkeep.proclaim s₁ .create
  have start := (asked.trans all blank).trans (told.registers (Nat.zero_le _)) blank
  rw [List.nil_append, List.append_nil] at start
  exact ⟨start, (sound_invariant w).bus _ sound⟩

/-- Before the attachment nobody has said anything. -/
private theorem blank_transcript (m : σ) (settings : TargetSettings) :
    (System.blank m settings).Transcript w [] [] where
  published := rfl
  pending := rfl
  voices h := (List.not_mem_nil h).elim
  passing h := (List.not_mem_nil h).elim
  life h := (Nat.not_lt_zero _ h).elim

/-- However threads start and die after an attachment, no two listed threads have the same number; a number is listed
as long as a registration of it lasts, in the order of the first registrations that do; and a thread stays the object
that it is until its death is reported.  What is published can be ascribed, once and for all, so that every thread
object there ever was is created first and once, and ends at most once. -/
theorem threads_live_once {m m' : σ} {ids : List ThreadId} {settings : TargetSettings} {s₀ s : System σ}
    {es : List RegistryEntry} (listed : Session.allThreads m = .ok ids m') (attached : attach m settings = .ok s₀)
    (course : RegistryCourse w s₀ s es) :
    let history := ids.map .registered ++ es
    s.roster.Nodup ∧ (∀ id, id ∈ s.roster ↔ ∃ k, Lasts history id k) ∧
    (s.roster.Pairwise fun i j =>
      ∃ k l, k < l ∧ IsLeast {k | Lasts history i k} k ∧ IsLeast {k | Lasts history j k} l) ∧
    ∃ told queued, s.Transcript w told queued ∧
      ∀ s' later, RegistryCourse w s s' later →
        (∀ id t, s.find? id = some t → .died id ∉ later → s'.find? id = some t) ∧
        ∃ more queued', s'.Transcript w (told ++ more) queued' := by
  intro history
  obtain ⟨start, sound₀⟩ := attach_registers (w := w) listed attached
  have charged₀ : s₀.Charged := start.charged fun _ ht => (List.not_mem_nil ht).elim
  obtain ⟨onward, sound⟩ := course.registers sound₀ charged₀
  have all := start.trans onward (sound_blank m settings)
  have roster : s.roster = roll history := all.roster
  obtain ⟨told, queued, transcript⟩ := all.tells [] [] (blank_transcript m settings)
  refine ⟨sound.distinct, fun id => ?_, ?_, told, queued, transcript, fun s' later course' => ⟨fun id t found alive => ?_, ?_⟩⟩
  · rw [roster]
    exact mem_roll_iff
  · rw [roster]
    exact roll_ordered history
  · obtain ⟨after, sound'⟩ := course'.registers sound (onward.charged charged₀)
    have ht : t ∈ s.registry := List.mem_of_find?_eq_some found
    obtain rfl := System.id_of_find? found
    have kept := sound'.find? (after.kept ht alive)
    rwa [after.id (sound.inRange ht)] at kept
  · exact (course'.registers sound (onward.charged charged₀)).1.tells told queued transcript

/-- A machine that lists its thread twice; the thread dies and another starts under its number. -/
private def restarting : System (Faulty Machine) :=
  let s := sampleSystem [.addTask (sampleTask 1), .addTask (sampleTask 1)]
  let restart : EventSet := ⟨none, [.threadStart 1, .threadDeath 1, .threadStart 2, .threadStart 1]⟩
  { s with session := ((Scenario.MachineCommand.emit [restart]).applyFaulty s.session).2 }

theorem restarted_threads_live_once :
    let s := (runNext restarting).2
    s.threads.size = 3 ∧ s.roster.Nodup ∧ s.find? 1 = some 2 ∧
      (∃ k, Lasts [.registered 1, .registered 1, .registered 1, .died 1, .registered 2, .registered 1] 1 k) ∧
      ∃ told queued, s.Transcript scripted told queued ∧
        ((Operation.disconnect).perform s).find? 1 = some 2 ∧
        ∃ more queued', ((Operation.disconnect).perform s).Transcript scripted (told ++ more) queued' := by
  have attached : attach (sampleMachine [.addTask (sampleTask 1), .addTask (sampleTask 1)]) {} =
      .ok (sampleSystem [.addTask (sampleTask 1), .addTask (sampleTask 1)]) :=
    sampleSystem_attached (by decide +kernel)
  have emits : RegistryTurn scripted (sampleSystem [.addTask (sampleTask 1), .addTask (sampleTask 1)]) restarting [] :=
    .machine ⟨.emit _, trivial, rfl⟩
  have course := (RegistryCourse.refl.tail emits).tail .run
  have news : restarting.news = [.registered 1, .died 1, .registered 2, .registered 1] := by decide +kernel
  rw [news] at course
  have twice : Session.allThreads (sampleMachine [.addTask (sampleTask 1), .addTask (sampleTask 1)]) = .ok [1, 1] _ := rfl
  obtain ⟨distinct, listed, -, told, queued, transcript, later⟩ := threads_live_once twice attached course
  have found : (runNext restarting).2.find? 1 = some 2 := by decide +kernel
  have one : 1 ∈ (runNext restarting).2.roster := mem_roster_of_find? found
  have known : Operation.disconnect.Known (runNext restarting).2 := by rintro t ⟨⟩
  obtain ⟨kept, onward⟩ := later _ _ (RegistryCourse.refl.tail (.operation known))
  exact ⟨by decide +kernel, distinct, found, (listed 1).mp one, told, queued, transcript,
    kept 1 2 found (List.not_mem_nil), onward⟩

end Debugger
