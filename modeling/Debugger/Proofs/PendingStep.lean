import Debugger.Proofs.Bookkeeping
import Debugger.Proofs.MachineSurroundings

/-! # The three records of a pending step

A pending step is on record with its thread, with the target and with the machine.  The records agree in
every reachable system, as long as the machine's numbers for requests have not run out.
-/

namespace Debugger

/-- The request of the thread of that number is accounted for: it belongs to a step under way, or the
thread is dead. -/
def System.Accounts {σ : Type} (s : System σ) (id : ThreadId) (request : RequestId) : Prop :=
  ∃ t < s.threads.size, (s.thread t).id = id ∧
    ((s.thread t).terminated ∨ ∃ st, (s.thread t).stepping = some st ∧ st.request = request)

/-- The three records of pending steps agree. -/
structure System.Tied (s : System (Faulty Machine)) : Prop where
  owner {t : ThreadRef} {st : Stepping} (h : (s.thread t).stepping = some st) :
    s.stepOwners.find? st.request = some (s.thread t).id
  ticket {t : ThreadRef} {st : Stepping} (h : (s.thread t).stepping = some st) :
    ⟨st.request, (s.thread t).id, false⟩ ∈ s.session.inner.tickets
  owned {r : RequestId} {id : ThreadId} (h : (r, id) ∈ s.stepOwners.entries) : s.Accounts id r
  counted {k : Ticket} (h : k ∈ s.session.inner.tickets) (hk : k.deleted = false) :
    s.Accounts k.thread k.id

/-- The records of steps, as far as they can be kept. -/
structure System.Booked (s : System (Faulty Machine)) : Prop where
  sound : s.Sound
  numbered : s.session.inner.Numbered
  deletions : s.session.DeletionsSucceed
  tied (alive : s.targetAlive) (few : s.session.inner.requestsMade < UInt32.size) : s.Tied

variable {s s' : System (Faulty Machine)} {t u : ThreadRef} {st st' : Stepping} {id : ThreadId}
  {r : RequestId}

namespace System

theorem Accounts.fades (h : s.Accounts id r) (hf : Fades s s') : s'.Accounts id r := by
  obtain ⟨t, ht, rfl, hr⟩ := h
  refine ⟨t, hf.size.symm ▸ ht, (hf.threads t).id, ?_⟩
  rcases hf.threads t with hm | hd
  · simp only [Thread.mark, Prod.mk.injEq] at hm
    rw [hm.2.1, hm.2.2]
    exact hr
  · exact .inl hd.2.1

/-- Requests other than the dropped one are accounted for as before. -/
theorem Accounts.dropStep (h : s.Accounts id r) (hp : (s.thread t).stepping = some st)
    (hr : r ≠ st.request) : (s.dropStep t st.request).Accounts id r := by
  obtain ⟨u, hu, rfl, ha⟩ := h
  refine ⟨u, (size_dropStep s t _).symm ▸ hu, ?_, ?_⟩
  · rw [thread_dropStep]
    exact mapThread_keeps (g := Thread.id) (fun _ => by rfl) s t u
  · rw [thread_dropStep]
    rcases ha with ha | ⟨st', hs, rfl⟩
    · exact .inl ((mapThread_keeps (g := Thread.terminated) (fun _ => by rfl) s t u).trans ha)
    · have ht : t ≠ u := by
        rintro rfl
        rw [hp] at hs
        exact hr (congrArg Stepping.request (Option.some.inj hs)).symm
      rw [thread_mapThread_of_ne s ht]
      exact .inr ⟨st', hs, rfl⟩

/-- A step entered for a thread without one leaves all requests accounted for. -/
theorem Accounts.renewStep (h : s.Accounts id r) (hn : (s.thread t).stepping = none)
    (new : Stepping) (session : Faulty Machine) : (s.renewStep t new session).Accounts id r := by
  have thread (u : ThreadRef) : (s.renewStep t new session).thread u =
      (s.mapThread t (·.setStepping (some new))).thread u := rfl
  obtain ⟨u, hu, rfl, ha⟩ := h
  refine ⟨u, (size_mapThread s t _).symm ▸ hu, ?_, ?_⟩
  · rw [thread]
    exact mapThread_keeps (g := Thread.id) (fun _ => by rfl) s t u
  · rw [thread]
    rcases ha with ha | ⟨st', hs, rfl⟩
    · exact .inl ((mapThread_keeps (g := Thread.terminated) (fun _ => by rfl) s t u).trans ha)
    · have ht : t ≠ u := by
        rintro rfl
        rw [hn] at hs
        cases hs
      rw [thread_mapThread_of_ne s ht]
      exact .inr ⟨st', hs, rfl⟩

/-- Two threads never share a step request. -/
theorem Tied.eq_of_request (hs : s.Sound) (ht : s.Tied) (h : (s.thread t).stepping = some st)
    (h' : (s.thread u).stepping = some st') (hr : st.request = st'.request) : t = u := by
  have o := ht.owner h
  rw [hr, ht.owner h'] at o
  exact hs.eq_of_id (hs.listed h) (hs.listed h') (Option.some.inj o).symm

end System

/-! ## The records stay in agreement -/

theorem steady_spares {f f' : Faulty Machine} (h : Relation.ReflTransGen Spares f f') : f.Steady f' := by
  induction h with
  | refl => exact refl_of _ _
  | @tail b c _ hc ih =>
    refine trans_of _ ih ?_
    cases hc with
    | exchange h => exact Faulty.steady_exchange h
    | setRequestTimeout ms => exact Faulty.setRequestTimeout_steady ms b
    | popFrames t frame => exact Faulty.popFrames_steady t frame b
    | @breakpoint _ r request h =>
      have := Faulty.createBreakpointRequest_steady r b
      rwa [stateAfter_of_ok h] at this

private theorem fades_booked (h : Fades s s') (hs : s.Booked) : s'.Booked := by
  have steady := steady_spares h.session
  refine ⟨h.sound hs.sound, steady.inner.numbered hs.numbered, steady.deletions hs.deletions,
    fun alive few => ?_⟩
  have tied := hs.tied (h.alive alive) (Nat.lt_of_le_of_lt steady.inner.made few)
  refine ⟨fun {u st} hu => ?_, fun {u st} hu => ?_, fun ho => ?_, fun hk hd => ?_⟩
  · rw [h.owners, (h.threads u).id]
    exact tied.owner ((h.threads u).stepping hu)
  · rw [steady.inner.tickets, (h.threads u).id]
    exact tied.ticket ((h.threads u).stepping hu)
  · rw [h.owners] at ho
    exact (tied.owned ho).fades h
  · rw [steady.inner.tickets] at hk
    exact (tied.counted hk hd).fades h

private theorem drop_booked (hp : (s.thread t).stepping = some st) (hs : s.Booked) :
    (s.dropStep t st.request).Booked := by
  obtain ⟨f, hd, hi, -, hf⟩ := Faulty.deleteStepRequest_cases st.request hs.deletions
  have session : (s.dropStep t st.request).session = f := by
    rw [session_dropStep, stateAfter_of_ok hf]
  have numbered : f.inner.Numbered := hi ▸ hs.numbered.withoutStep _
  have tickets : f.inner.tickets = Machine.strike st.request s.session.inner.tickets := by
    rw [hi, Machine.tickets_withoutStep]
  refine ⟨(BookChange.drop hp).sound hs.sound, session ▸ numbered, session ▸ hd, fun alive few => ?_⟩
  have alive : s.targetAlive := by
    rw [System.dropStep, deleteStepRequest_state] at alive
    exact alive
  have few : s.session.inner.requestsMade < UInt32.size := by
    rw [session, hi, Machine.requestsMade_withoutStep] at few
    exact few
  have owners : (s.dropStep t st.request).stepOwners = s.stepOwners.erase st.request := by
    rw [System.dropStep, deleteStepRequest_state]
    exact if_pos alive
  have tied := hs.tied alive few
  -- what is pending after the drop belongs to another thread, and so has another request
  have others {u : ThreadRef} {st' : Stepping}
      (hu : ((s.dropStep t st.request).thread u).stepping = some st') :
      (s.dropStep t st.request).thread u = s.thread u ∧ (s.thread u).stepping = some st' ∧
        st'.request ≠ st.request := by
    rw [thread_dropStep] at hu ⊢
    by_cases ht : t = u
    · subst ht
      rw [System.thread_mapThread_self (System.lt_size_of_stepping hp)] at hu
      cases hu
    · rw [System.thread_mapThread_of_ne s ht] at hu ⊢
      exact ⟨rfl, hu, fun hr => ht (tied.eq_of_request hs.sound hp hu hr.symm)⟩
  refine ⟨fun {u st'} hu => ?_, fun {u st'} hu => ?_, fun ho => ?_, fun hk hd => ?_⟩
  · obtain ⟨he, hu, hr⟩ := others hu
    rw [owners, he, Table.find?_erase_of_ne _ hr]
    exact tied.owner hu
  · obtain ⟨he, hu, hr⟩ := others hu
    rw [session, tickets, he]
    exact Machine.mem_strike_of_ne (tied.ticket hu) hr
  · rw [owners] at ho
    obtain ⟨ho, hr⟩ := Table.mem_entries_erase.mp ho
    exact (tied.owned ho).dropStep hp hr
  · rw [session, tickets] at hk
    obtain ⟨hk, hr⟩ := Machine.mem_of_mem_strike (hs.numbered.nodup few) hk hd
    exact (tied.counted hk hd).dropStep hp hr

private theorem take_booked {new : Stepping} {wanted : StepRequest} {session : Faulty Machine}
    (ht : t < s.threads.size) (hn : (s.thread t).stepping = none)
    (hl : (s.thread t).terminated = false) (hw : wanted.thread = (s.thread t).id)
    (h : Session.createStepRequest wanted s.session = .ok new.request session) (hs : s.Booked) :
    (s.renewStep t new session).Booked := by
  obtain ⟨f, hf, hi, -, hc⟩ | ⟨e, f, hf, -, -, hc⟩ := s.session.createStepRequest_cases wanted
  case inr =>
    rw [hc] at h
    cases h
  have hr : s.session.inner.nextRequest = new.request := by
    rw [hc] at h
    exact congrArg (fun r => match r with | .ok a _ => a | .error _ _ => 0) h
  have session_eq : session = { f with inner := s.session.inner.withStep wanted } := by
    have state := stateAfter_of_ok h
    rw [stateAfter_of_ok hc] at state
    exact state.symm
  subst session_eq
  have numbered := hs.numbered.withStep wanted
  have tickets := s.session.inner.tickets_withStep wanted
  rw [hr, hw] at tickets
  refine ⟨(BookChange.take ht hn hl hw h).sound hs.sound, numbered, hf.deletions hs.deletions,
    fun alive few => ?_⟩
  have alive : s.targetAlive := alive
  have fresh := numbered.nodup few
  rw [tickets, List.map_append] at fresh
  have few : s.session.inner.requestsMade < UInt32.size := by
    have made := s.session.inner.requestsMade_withStep wanted
    change (s.session.inner.withStep wanted).requestsMade < _ at few
    omega
  have tied := hs.tied alive few
  have owners : (s.renewStep t new { f with inner := s.session.inner.withStep wanted }).stepOwners =
      s.stepOwners.put new.request (s.thread t).id := if_pos alive
  have thread (u : ThreadRef) :
      (s.renewStep t new { f with inner := s.session.inner.withStep wanted }).thread u =
        (s.mapThread t (·.setStepping (some new))).thread u := rfl
  have ids (u : ThreadRef) := System.mapThread_keeps (g := Thread.id)
    (f := (·.setStepping (some new))) (fun _ => by rfl) s t u
  have entered := System.thread_mapThread_self ht (·.setStepping (some new))
  -- a step that was pending before has a ticket, so its request is not the new one
  have others {u : ThreadRef} {st' : Stepping} (hne : t ≠ u)
      (hu : ((s.mapThread t (·.setStepping (some new))).thread u).stepping = some st') :
      (s.thread u).stepping = some st' ∧ st'.request ≠ new.request := by
    rw [System.thread_mapThread_of_ne s hne] at hu
    refine ⟨hu, fun hr => ?_⟩
    have old : st'.request ∈ s.session.inner.tickets.map (·.id) :=
      List.mem_map_of_mem (f := (·.id)) (tied.ticket hu)
    exact (List.nodup_append.mp fresh).2.2 _ old _ (List.mem_singleton_self _) hr
  have here : (s.renewStep t new { f with inner := s.session.inner.withStep wanted }).Accounts
      (s.thread t).id new.request := by
    refine ⟨t, (System.size_mapThread s t _).symm ▸ ht, ids t, .inr ⟨new, ?_, rfl⟩⟩
    rw [thread, entered]
    rfl
  refine ⟨fun {u st'} hu => ?_, fun {u st'} hu => ?_, fun ho => ?_, fun hk hd => ?_⟩
  · rw [thread] at hu ⊢
    rw [owners, ids]
    by_cases hne : t = u
    · subst hne
      rw [entered] at hu
      rw [← Option.some.inj hu, Table.find?_put_self]
    · obtain ⟨hu, hr⟩ := others hne hu
      rw [Table.find?_put_of_ne _ _ hr]
      exact tied.owner hu
  · rw [thread] at hu ⊢
    rw [ids]
    change _ ∈ (s.session.inner.withStep wanted).tickets
    rw [tickets]
    by_cases hne : t = u
    · subst hne
      rw [entered] at hu
      rw [← Option.some.inj hu]
      exact List.mem_append_right _ (List.mem_singleton_self _)
    · exact List.mem_append_left _ (tied.ticket (others hne hu).1)
  · rw [owners] at ho
    rcases Table.mem_entries_put ho with ⟨rfl, rfl⟩ | ⟨ho, hr⟩
    · exact here
    · exact (tied.owned ho).renewStep hn new _
  · change _ ∈ (s.session.inner.withStep wanted).tickets at hk
    rw [tickets] at hk
    rcases List.mem_append.mp hk with hk | hk
    · exact (tied.counted hk hd).renewStep hn new _
    · rw [List.mem_singleton.mp hk]
      exact here

private theorem enlist_booked {th : Thread} (new : s.find? th.id = none) (hn : th.stepping = none)
    (hs : s.Booked) : (s.enlist th).Booked := by
  refine ⟨(BookChange.enlist new hn).sound hs.sound, hs.numbered, hs.deletions, fun alive few => ?_⟩
  have tied := hs.tied alive few
  have old {u : ThreadRef} {st : Stepping} (hu : ((s.enlist th).thread u).stepping = some st) :
      (s.enlist th).thread u = s.thread u := by
    rw [thread_enlist] at hu ⊢
    split at hu
    · rw [hn] at hu
      cases hu
    · rw [if_neg ‹_›]
  have kept {id : ThreadId} {r : RequestId} (h : s.Accounts id r) : (s.enlist th).Accounts id r := by
    obtain ⟨u, hu, ha⟩ := h
    refine ⟨u, ?_, ?_⟩
    · exact Nat.lt_of_lt_of_eq (Nat.lt_succ_of_lt hu) (Array.size_push th).symm
    · rw [thread_enlist, if_neg (Nat.ne_of_lt hu)]
      exact ha
  refine ⟨fun {u st} hu => ?_, fun {u st} hu => ?_, fun ho => kept (tied.owned ho),
    fun hk hd => kept (tied.counted hk hd)⟩
  · have hu' := hu
    rw [old hu] at hu' ⊢
    exact tied.owner hu'
  · have hu' := hu
    rw [old hu] at hu' ⊢
    exact tied.ticket hu'

private theorem died_booked (id : ThreadId) (hs : s.Booked) : (s.threadDied id).Booked := by
  have fades := Fades.threadDied s id
  have steady := steady_spares fades.session
  refine ⟨(BookChange.died s id).sound hs.sound, steady.inner.numbered hs.numbered,
    steady.deletions hs.deletions, fun alive few => ?_⟩
  have tied := hs.tied (fades.alive alive) (Nat.lt_of_le_of_lt steady.inner.made few)
  have before {u : ThreadRef} {st : Stepping} (hu : ((s.threadDied id).thread u).stepping = some st) :
      (s.thread u).stepping = some st := (fades.threads u).stepping hu
  have kept {id' : ThreadId} {r : RequestId} (h : s.Accounts id' r) :
      (s.threadDied id).Accounts id' r :=
    System.Accounts.fades (s := { s with
      stepOwners := s.ownersBut id, registry := (s.threadDied id).registry }) h fades
  refine ⟨fun {u st} hu => ?_, fun {u st} hu => ?_, fun ho => ?_, fun hk hd => ?_⟩
  · rw [fades.owners, (fades.threads u).id]
    refine Table.find?_keep (tied.owner (before hu)) (decide_eq_true fun he => ?_)
    obtain rfl : (s.thread u).id = id := he
    rw [hs.sound.threadDied (hs.sound.listed (before hu))] at hu
    cases hu
  · rw [steady.inner.tickets, (fades.threads u).id]
    exact tied.ticket (before hu)
  · rw [fades.owners] at ho
    exact kept (tied.owned (List.mem_of_mem_filter ho))
  · rw [steady.inner.tickets] at hk
    exact kept (tied.counted hk hd)

private theorem disconnect_booked (hs : s.Booked) : s.disconnect.Booked := by
  have sound := (BookChange.disconnect s).sound hs.sound
  cases h : s.disconnected with
  | true =>
    have : s.disconnect = s := by rw [System.disconnect, if_pos h]
    exact this.symm ▸ hs
  | false =>
    have fades := Fades.disconnect s
    have steady := steady_spares fades.session
    have owners : s.disconnect.stepOwners = .empty := by
      rw [System.disconnect, h]
      rfl
    have none_left (u : ThreadRef) : (s.disconnect.thread u).stepping = none := by
      by_cases hu : u < s.threads.size
      · exact sound.dead (hs.sound.disconnect h hu)
      · rw [System.thread_of_size_le (Nat.le_of_not_lt fun hl => hu (fades.size ▸ hl))]
        rfl
    refine ⟨sound, steady.inner.numbered hs.numbered, steady.deletions hs.deletions, fun alive few => ?_⟩
    have tied := hs.tied (fades.alive alive) (Nat.lt_of_le_of_lt steady.inner.made few)
    refine ⟨fun {u st} hu => ?_, fun {u st} hu => ?_, fun ho => ?_, fun hk hd => ?_⟩
    · rw [none_left] at hu
      cases hu
    · rw [none_left] at hu
      cases hu
    · rw [owners] at ho
      cases ho
    · rw [steady.inner.tickets] at hk
      obtain ⟨u, hu, he, -⟩ := tied.counted hk hd
      exact ⟨u, fades.size.symm ▸ hu, (fades.threads u).id.trans he,
        .inl (hs.sound.disconnect h hu)⟩

theorem BookChange.booked (h : BookChange s s') (hs : s.Booked) : s'.Booked := by
  cases h with
  | fades h => exact fades_booked h hs
  | enlist new hn => exact enlist_booked new hn hs
  | died id => exact died_booked id hs
  | disconnect => exact disconnect_booked hs
  | drop hp => exact drop_booked hp hs
  | take ht hn hl hw h => exact take_booked ht hn hl hw h hs

theorem BookPath.booked (h : BookPath s s') (hs : s.Booked) : s'.Booked := by
  induction h with
  | refl => exact hs
  | tail _ hc ih => exact hc.booked ih

theorem booked_invariant : Invariant scripted System.Booked where
  blank {m} settings start := by
    obtain ⟨tickets, numbered, deletions⟩ := scripted_start start
    have none_left (u : ThreadRef) : ((System.blank m settings).thread u).stepping = none := by
      rw [System.thread_of_size_le (Nat.zero_le _)]
      rfl
    refine ⟨sound_blank m settings, numbered, deletions, fun _ _ => ⟨fun hu => ?_, fun hu => ?_,
      fun ho => ?_, fun hk _ => ?_⟩⟩
    · rw [none_left] at hu
      cases hu
    · rw [none_left] at hu
      cases hu
    · cases ho
    · change _ ∈ m.inner.tickets at hk
      rw [tickets] at hk
      cases hk
  change hc hs := (hc.books hs.sound).booked hs
  machine {s m} hm hs := by
    have steady := scripted_steady hm
    refine ⟨(sound_invariant scripted).machine hm hs.sound, steady.inner.numbered hs.numbered,
      steady.deletions hs.deletions, fun alive few => ?_⟩
    have tied := hs.tied alive (Nat.lt_of_le_of_lt steady.inner.made few)
    refine ⟨tied.owner, fun hu => ?_, tied.owned, fun hk hd => ?_⟩
    · exact steady.inner.tickets.symm ▸ tied.ticket hu
    · exact tied.counted (steady.inner.tickets ▸ hk) hd
  bus {s} bus hs := fades_booked (show Fades s { s with bus } from .of_eq rfl rfl) hs

theorem Occurs.booked (h : Occurs scripted s) : s.Booked := booked_invariant.occurs h

theorem Reachable.booked (h : Reachable scripted s) : s.Booked := h.occurs.booked

/-! ## What is never lost -/

/-- No thread came back under the number of one that died. -/
def System.NoIdReused {σ : Type} (s : System σ) : Prop :=
  ∀ t < s.threads.size, ∀ u < s.threads.size, (s.thread t).id = (s.thread u).id → t = u

instance {σ : Type} (s : System σ) : Decidable s.NoIdReused :=
  inferInstanceAs (Decidable (∀ t < _, ∀ u < _, _))

/-- Numbers that were handed out, failures that were recorded and tickets stay, and what a system lacks
now it lacked before. -/
structure Keeps (s s' : System (Faulty Machine)) : Prop where
  made : s.session.inner.requestsMade ≤ s'.session.inner.requestsMade
  failures : s.session.failures <+: s'.session.failures
  issued {r : RequestId} {id : ThreadId} : s.session.inner.Issued r id → s'.session.inner.Issued r id
  alive : s'.targetAlive → s.targetAlive
  ids : s'.NoIdReused → s.NoIdReused

/-- Thread objects stay and keep their numbers. -/
private theorem noIdReused_of (size : s.threads.size ≤ s'.threads.size)
    (keep : ∀ u < s.threads.size, (s'.thread u).id = (s.thread u).id) (ids : s'.NoIdReused) :
    s.NoIdReused := by
  intro t ht u hu he
  refine ids t (Nat.lt_of_lt_of_le ht size) u (Nat.lt_of_lt_of_le hu size) ?_
  rw [keep t ht, keep u hu, he]

private theorem keeps_of_fades (h : Fades s s') : Keeps s s' := by
  have steady := steady_spares h.session
  refine ⟨steady.inner.made, steady.failures, fun hi => ?_, h.alive,
    noIdReused_of (Nat.le_of_eq h.size.symm) fun u _ => (h.threads u).id⟩
  rw [Machine.Issued, steady.inner.tickets]
  exact hi

private theorem drop_keeps (hd : s.session.DeletionsSucceed) (t : ThreadRef) (request : RequestId) :
    Keeps s (s.dropStep t request) := by
  obtain ⟨f, -, hi, hf, h⟩ := Faulty.deleteStepRequest_cases request hd
  have session : (s.dropStep t request).session = f := by
    rw [session_dropStep, stateAfter_of_ok h]
  refine ⟨?_, ?_, fun hk => ?_, fun alive => ?_,
    noIdReused_of (Nat.le_of_eq (size_dropStep s t request).symm) fun u _ => ?_⟩
  · have made : (s.dropStep t request).session.inner.requestsMade = s.session.inner.requestsMade := by
      rw [session, hi, Machine.requestsMade_withoutStep]
    exact Nat.le_of_eq made.symm
  · have log : (s.dropStep t request).session.failures = s.session.failures := by rw [session, hf]
    exact log ▸ List.prefix_refl _
  · obtain ⟨k, hk, rfl, rfl⟩ := hk
    rw [Machine.Issued, session, hi, Machine.tickets_withoutStep]
    exact Machine.issued_strike hk
  · rw [System.dropStep, deleteStepRequest_state] at alive
    exact alive
  · rw [thread_dropStep]
    exact System.mapThread_keeps (g := Thread.id) (fun _ => by rfl) s t u

private theorem take_keeps {new : Stepping} {wanted : StepRequest} {session : Faulty Machine}
    (h : Session.createStepRequest wanted s.session = .ok new.request session) :
    Keeps s (s.renewStep t new session) := by
  have keep (u : ThreadRef) : ((s.renewStep t new session).thread u).id = (s.thread u).id :=
    System.mapThread_keeps (g := Thread.id) (f := (·.setStepping (some new))) (fun _ => by rfl) s t u
  have size : s.threads.size ≤ (s.renewStep t new session).threads.size :=
    Nat.le_of_eq (System.size_mapThread s t _).symm
  obtain ⟨f, hf, -, hi, hc⟩ | ⟨e, f, -, -, -, hc⟩ := s.session.createStepRequest_cases wanted
  · have state := stateAfter_of_ok h
    rw [stateAfter_of_ok hc] at state
    subst state
    refine ⟨?_, hf.failures, fun hk => ?_, id, noIdReused_of size fun u _ => keep u⟩
    · change _ ≤ (s.session.inner.withStep wanted).requestsMade
      rw [Machine.requestsMade_withStep]
      exact Nat.le_succ _
    · obtain ⟨k, hk, hi⟩ := hk
      refine ⟨k, ?_, hi⟩
      change k ∈ (s.session.inner.withStep wanted).tickets
      rw [Machine.tickets_withStep]
      exact List.mem_append_left _ hk
  · rw [hc] at h
    cases h

theorem BookChange.keeps (h : BookChange s s') (hs : s.Booked) : Keeps s s' := by
  cases h with
  | fades h => exact keeps_of_fades h
  | enlist new hn =>
    refine ⟨Nat.le_refl _, List.prefix_refl _, id, id, noIdReused_of ?_ fun u hu => ?_⟩
    · exact Nat.le_trans (Nat.le_succ _) (Nat.le_of_eq (Array.size_push _).symm)
    · rw [thread_enlist, if_neg (Nat.ne_of_lt hu)]
  | died id =>
    have kept := keeps_of_fades (.threadDied s id)
    exact ⟨kept.made, kept.failures, kept.issued, kept.alive, kept.ids⟩
  | disconnect =>
    have kept := keeps_of_fades (.disconnect s)
    exact ⟨kept.made, kept.failures, kept.issued, kept.alive, kept.ids⟩
  | drop hp => exact drop_keeps hs.deletions _ _
  | take ht hn hl hw h => exact take_keeps h

theorem Keeps.trans {a b c : System (Faulty Machine)} (h : Keeps a b) (h' : Keeps b c) : Keeps a c :=
  ⟨Nat.le_trans h.made h'.made, h.failures.trans h'.failures, fun hi => h'.issued (h.issued hi),
    fun ha => h.alive (h'.alive ha), fun hi => h.ids (h'.ids hi)⟩

/-- Along any changes the records stay in agreement and lose nothing. -/
theorem StepPath.booked (h : StepPath s s') (hs : s.Booked) : s'.Booked ∧ Keeps s s' := by
  have books {a b : System (Faulty Machine)} (h : BookPath a b) (ha : a.Booked) : b.Booked ∧ Keeps a b := by
    induction h with
    | refl => exact ⟨ha, keeps_of_fades .rfl⟩
    | tail _ hc ih => exact ⟨hc.booked ih.1, ih.2.trans (hc.keeps ih.1)⟩
  induction h with
  | refl => exact ⟨hs, keeps_of_fades .rfl⟩
  | tail _ hc ih =>
    have h := books (hc.books ih.1.sound) ih.1
    exact ⟨h.1, ih.2.trans h.2⟩

/-! ## One request for each pending step -/

private theorem eq_singleton {α : Type} {a : α} {as : List α} (hn : as.Nodup) (ha : a ∈ as)
    (h : ∀ b ∈ as, b = a) : as = [a] := by
  cases as with
  | nil => cases ha
  | cons b bs =>
    obtain rfl := h b List.mem_cons_self
    cases bs with
    | nil => rfl
    | cons c cs =>
      obtain rfl := h c (List.mem_cons_of_mem _ List.mem_cons_self)
      exact ((List.nodup_cons.mp hn).1 List.mem_cons_self).elim

/-- What accounts for a request of a live thread is the step of that very thread. -/
private theorem Accounts.pending (h : s.Accounts (s.thread t).id r) (ids : s.NoIdReused)
    (ht : t < s.threads.size) (hl : (s.thread t).terminated = false) :
    ∃ st, (s.thread t).stepping = some st ∧ st.request = r := by
  obtain ⟨u, hu, he, ha⟩ := h
  obtain rfl := ids u hu t ht he
  rcases ha with ha | ha
  · rw [hl] at ha
    cases ha
  · exact ha

/-- The requests of a live thread that are not deleted. -/
theorem Machine.mem_outstanding {m : Machine} :
    r ∈ m.outstanding id ↔ ⟨r, id, false⟩ ∈ m.tickets := by
  simp only [Machine.outstanding, List.mem_map, List.mem_filter, Bool.and_eq_true,
    decide_eq_true_eq, Bool.not_eq_true']
  constructor
  · rintro ⟨⟨_, _, _⟩, ⟨hk, rfl, rfl⟩, rfl⟩
    exact hk
  · exact fun h => ⟨_, ⟨h, rfl, rfl⟩, rfl⟩

theorem Machine.issued_of_outstanding {m : Machine} (h : r ∈ m.outstanding id) : m.Issued r id :=
  ⟨_, mem_outstanding.mp h, rfl, rfl⟩

/-- A live thread without a step owns no request, and the machine has none of the thread left. -/
theorem System.Booked.none_pending (booked : s.Booked) (alive : s.targetAlive)
    (few : s.session.inner.requestsMade < UInt32.size) (ids : s.NoIdReused) (ht : t ∈ s.registry)
    (hl : (s.thread t).terminated = false) (hp : (s.thread t).stepping = none) :
    (∀ r, (r, (s.thread t).id) ∉ s.stepOwners.entries) ∧
      s.session.inner.outstanding (s.thread t).id = [] := by
  have tied := booked.tied alive few
  have nothing {r : RequestId} (ha : s.Accounts (s.thread t).id r) : False := by
    obtain ⟨st, hp', -⟩ := Accounts.pending ha ids (booked.sound.inRange ht) hl
    rw [hp] at hp'
    cases hp'
  refine ⟨fun r hr => nothing (tied.owned hr), List.eq_nil_iff_forall_not_mem.mpr fun r hr => ?_⟩
  exact nothing (tied.counted (Machine.mem_outstanding.mp hr) rfl)

/-- The request of a pending step is owned by the thread, finds its way back to it when it completes, and
is the only one of the thread. -/
theorem System.Booked.one_pending (booked : s.Booked) (alive : s.targetAlive)
    (few : s.session.inner.requestsMade < UInt32.size) (ids : s.NoIdReused) (ht : t ∈ s.registry)
    (hl : (s.thread t).terminated = false) (hp : (s.thread t).stepping = some st) :
    s.stepOwners.find? st.request = some (s.thread t).id ∧
      (s.stepOwners.find? st.request).bind s.find? = some t ∧
      (∀ r, (r, (s.thread t).id) ∈ s.stepOwners.entries → r = st.request) ∧
      s.session.inner.outstanding (s.thread t).id = [st.request] := by
  have tied := booked.tied alive few
  have owner := tied.owner hp
  have only {r : RequestId} (ha : s.Accounts (s.thread t).id r) : r = st.request := by
    obtain ⟨st', hp', rfl⟩ := Accounts.pending ha ids (booked.sound.inRange ht) hl
    rw [hp] at hp'
    cases hp'
    rfl
  refine ⟨owner, ?_, fun r hr => only (tied.owned hr), ?_⟩
  · rw [owner]
    exact booked.sound.find? ht
  · refine eq_singleton ?_ (Machine.mem_outstanding.mpr (tied.ticket hp)) fun r hr => ?_
    · exact (booked.numbered.nodup few).sublist (List.filter_sublist.map _)
    · exact only (tied.counted (Machine.mem_outstanding.mp hr) rfl)

/-- The three records of a pending step agree for every live thread: with a step under way its request is
owned by the thread, is the only one that the thread owns and the only one of the thread that the machine
still holds, and finds its way back to the thread when it completes; without a step there is none. -/
theorem pending_step_has_one_request (h : Reachable scripted s) (alive : s.targetAlive)
    (few : s.session.inner.requestsMade < UInt32.size) (ids : s.NoIdReused) (ht : t ∈ s.registry)
    (hl : (s.thread t).terminated = false) :
    (∀ st, (s.thread t).stepping = some st →
      s.stepOwners.find? st.request = some (s.thread t).id ∧
        (s.stepOwners.find? st.request).bind s.find? = some t ∧
        (∀ r, (r, (s.thread t).id) ∈ s.stepOwners.entries → r = st.request) ∧
        s.session.inner.outstanding (s.thread t).id = [st.request]) ∧
    ((s.thread t).stepping = none →
      (∀ r, (r, (s.thread t).id) ∉ s.stepOwners.entries) ∧
        s.session.inner.outstanding (s.thread t).id = []) :=
  ⟨fun _ hp => h.booked.one_pending alive few ids ht hl hp,
    fun hp => h.booked.none_pending alive few ids ht hl hp⟩

/-- The sample program after its first step was asked for. -/
private def firstStep : System (Faulty Machine) :=
  (Operation.stepWithTargetFilters 0 .into).perform (sampleSystem [.addTask (sampleTask 1)])

theorem first_step_has_one_request :
    ∃ st, (firstStep.thread 0).stepping = some st ∧
      firstStep.session.inner.outstanding (firstStep.thread 0).id = [st.request] := by
  have start : Reachable scripted (sampleSystem [.addTask (sampleTask 1)]) :=
    sampleSystem_reachable (sampleMachine_starts (by simp [Scenario.MachineCommand.SparesSteps]))
      (by decide +kernel)
  have reached : Reachable scripted firstStep := by
    unfold firstStep
    exact start.move (.operation _)
  have h := pending_step_has_one_request (t := 0) reached (by decide +kernel) (by decide +kernel)
    (by decide +kernel) (by decide +kernel) (by decide +kernel)
  have pending : (firstStep.thread 0).stepping.isSome := by decide +kernel
  obtain ⟨st, hp⟩ := Option.isSome_iff_exists.mp pending
  exact ⟨st, hp, (h.1 st hp).2.2.2⟩

end Debugger
