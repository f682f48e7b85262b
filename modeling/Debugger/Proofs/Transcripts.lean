import Debugger.Proofs.Chores

/-! # Who said what

An event on the bus names its thread by number, and in the course of time a number may belong to several thread objects.
A transcript ascribes what was published, and what is queued, to the objects that said it.  Every object is heard of
first when it is created and that once, and its end is announced at most once, whatever ends it.
-/

namespace Debugger

/-- An event, and the thread object that published it; no object is named if the target or others did. -/
structure Utterance where
  speaker : Option ThreadRef
  event : DebugEvent

/-- What the thread object has published, in order. -/
def utteredBy (t : ThreadRef) (us : List Utterance) : List DebugEvent :=
  (us.filter (·.speaker = some t)).map (·.event)

@[simp] theorem utteredBy_append (t : ThreadRef) (us vs : List Utterance) :
    utteredBy t (us ++ vs) = utteredBy t us ++ utteredBy t vs := by simp [utteredBy]

@[simp] theorem utteredBy_singleton (t : ThreadRef) (u : Utterance) :
    utteredBy t [u] = if u.speaker = some t then [u.event] else [] := by
  by_cases h : u.speaker = some t <;> simp [utteredBy, h]

theorem utteredBy_eq_nil {t : ThreadRef} {us : List Utterance} (h : ∀ u ∈ us, u.speaker ≠ some t) :
    utteredBy t us = [] := by simpa [utteredBy] using h

theorem mem_of_mem_utteredBy {t : ThreadRef} {us : List Utterance} {e : DebugEvent} (h : e ∈ utteredBy t us) :
    ⟨some t, e⟩ ∈ us := by
  obtain ⟨u, hu, rfl⟩ := List.mem_map.mp h
  obtain ⟨hu, speaker⟩ := List.mem_filter.mp hu
  obtain ⟨speaker', event⟩ := u
  obtain rfl : speaker' = some t := of_decide_eq_true speaker
  exact hu

/-- The event is neither the first nor the last one of a thread. -/
def DebugEvent.IsPassing (e : DebugEvent) : Prop := e.kind ≠ .create ∧ e.kind ≠ .terminate

theorem Announcement.passing_event {a : Announcement} (h : a.isPassing) (source : Element) :
    (a.event source).IsPassing := by
  cases a with
  | create | terminate => cases h
  | resume | suspend | change => constructor <;> rintro ⟨⟩

theorem Announcement.source_event (a : Announcement) (source : Element) : (a.event source).source = source := by
  cases a <;> rfl

/-- What is published of a thread: it is created first and once, and its end is announced at most once, and only if
it is dead. -/
def Thread.Biography (th : Thread) (es : List DebugEvent) : Prop :=
  ∃ rest, es = Announcement.create.event (.thread th.id) :: rest ∧ (∀ e ∈ rest, e.kind ≠ .create) ∧
    rest.countP (·.kind = .terminate) ≤ th.terminated.toNat

namespace Thread.Biography

variable {th th' : Thread} {es more : List DebugEvent}

theorem carry (h : th.Biography es) (id : th'.id = th.id) (terminated : th.terminated → th'.terminated) :
    th'.Biography es := by
  obtain ⟨rest, first, once, ends⟩ := h
  refine ⟨rest, by rw [first, id], once, Nat.le_trans ends ?_⟩
  cases dead : th.terminated with
  | false => exact Nat.zero_le _
  | true => exact Nat.le_of_eq (congrArg Bool.toNat (terminated dead)).symm

/-- The thread goes on to be heard of. -/
theorem passing (h : th.Biography es) (hm : ∀ e ∈ more, e.IsPassing) : th.Biography (es ++ more) := by
  obtain ⟨rest, rfl, once, ends⟩ := h
  refine ⟨rest ++ more, rfl, fun e he => ?_, ?_⟩
  · rcases List.mem_append.mp he with he | he
    · exact once e he
    · exact (hm e he).1
  · have none : more.countP (·.kind = .terminate) = 0 :=
      List.countP_eq_zero.mpr fun e he => by simpa using (hm e he).2
    rwa [List.countP_append, none]

/-- A thread that lived ends. -/
theorem ending (h : th.Biography es) (lived : th.terminated = false) (id : th'.id = th.id) (dead : th'.terminated) :
    th'.Biography (es ++ [Announcement.terminate.event (.thread th.id)]) := by
  obtain ⟨rest, rfl, once, ends⟩ := h
  rw [lived] at ends
  refine ⟨rest ++ [Announcement.terminate.event (.thread th.id)], by rw [id]; rfl, fun e he => ?_, ?_⟩
  · rcases List.mem_append.mp he with he | he
    · exact once e he
    · rw [List.mem_singleton.mp he]
      rintro ⟨⟩
  · rw [List.countP_append, dead, Nat.le_zero.mp ends]
    exact Nat.le_refl 1

end Thread.Biography

variable {σ : Type}

/-- The utterance is that of a thread object there is, or of the target, or of others. -/
def System.Voices [Session σ] (w : Surroundings σ) (s : System σ) (u : Utterance) : Prop :=
  match u.speaker with
  | some t => t < s.threads.size ∧ u.event.source = s.element t
  | none => u.event.source = .target ∨ w.publishes u.event

variable [Session σ] {w : Surroundings σ}

/-- All that was published and is queued, ascribed to those who said it. -/
structure System.Transcript (w : Surroundings σ) (s : System σ) (told queued : List Utterance) : Prop where
  published : s.bus.published = told.map (·.event)
  pending : s.bus.queued = queued.map (·.event)
  voices {u : Utterance} (h : u ∈ told ++ queued) : s.Voices w u
  passing {u : Utterance} {t : ThreadRef} (h : u ∈ queued) (ht : u.speaker = some t) : u.event.IsPassing
  life {t : ThreadRef} (ht : t < s.threads.size) : (s.thread t).Biography (utteredBy t told)

namespace System.Transcript

variable {s s' : System σ} {told queued : List Utterance} {u : Utterance}

/-- Threads change, but neither their numbers nor does one come back to life, and nothing is said. -/
theorem carry (h : s.Transcript w told queued) (size : s'.threads.size = s.threads.size)
    (id : ∀ t, (s'.thread t).id = (s.thread t).id)
    (terminated : ∀ t, (s.thread t).terminated → (s'.thread t).terminated) (bus : s'.bus = s.bus) :
    s'.Transcript w told queued where
  published := bus ▸ h.published
  pending := bus ▸ h.pending
  voices {u} hu := by
    have before := h.voices hu
    rw [System.Voices] at before ⊢
    split at before
    · rwa [size, System.element, id]
    · exact before
  passing := h.passing
  life ht := (h.life (size ▸ ht)).carry (id _) (terminated _)

/-- Something is published that is neither the first nor the last word of a thread. -/
theorem fire (h : s.Transcript w told queued) (hu : s.Voices w u) (hp : ∀ t, u.speaker = some t → u.event.IsPassing) :
    System.Transcript w { s with bus := s.bus.fire u.event } (told ++ [u]) queued where
  published := by simp [h.published]
  pending := h.pending
  voices {v} hv := by
    have either : v ∈ told ++ queued ∨ v = u := by
      simp only [List.mem_append, List.mem_singleton] at hv ⊢
      tauto
    rcases either with old | rfl
    · exact h.voices old
    · exact hu
  passing := h.passing
  life {t} ht := by
    rw [utteredBy_append, utteredBy_singleton]
    refine (h.life ht).passing fun e he => ?_
    split at he
    · rename_i own
      rw [List.mem_singleton.mp he]
      exact hp t own
    · cases he

theorem queue (h : s.Transcript w told queued) (hu : s.Voices w u) (hp : ∀ t, u.speaker = some t → u.event.IsPassing) :
    System.Transcript w { s with bus := s.bus.queue u.event } told (queued ++ [u]) where
  published := h.published
  pending := by simp [h.pending]
  voices {v} hv := by
    rcases List.mem_append.mp (List.append_assoc told queued [u] ▸ hv) with old | new
    · exact h.voices old
    · rw [List.mem_singleton.mp new]
      exact hu
  passing {v t} hv ht := by
    rcases List.mem_append.mp hv with old | new
    · exact h.passing old ht
    · rw [List.mem_singleton] at new
      subst new
      exact hp t ht
  life := h.life

/-- What was queued is published in its order. -/
theorem flush (h : s.Transcript w told queued) : s.flush.Transcript w (told ++ queued) [] where
  published := by
    change s.bus.flush.published = _
    rw [Bus.published_flush, h.published, h.pending, List.map_append]
  pending := Bus.queued_flush s.bus
  voices hu := h.voices (by simpa using hu)
  passing hu := (List.not_mem_nil hu).elim
  life {t} ht := by
    rw [utteredBy_append]
    refine (h.life ht).passing fun e he => ?_
    exact h.passing (mem_of_mem_utteredBy he) rfl

/-- A thread that lives ends, and says so. -/
theorem bury (h : s.Transcript w told queued) (t : ThreadRef) : ∃ more, (s.bury t).Transcript w (told ++ more) queued := by
  rw [System.bury]
  split
  · exact ⟨[], by rwa [List.append_nil]⟩
  · rename_i lives
    have lived : (s.thread t).terminated = false := Bool.eq_false_iff.mpr lives
    have ht : t < s.threads.size := by
      by_contra beyond
      rw [System.thread_of_size_le (Nat.le_of_not_lt beyond)] at lived
      cases lived
    have size := System.size_mapThread s t Thread.bury
    have id (u : ThreadRef) : ((s.mapThread t Thread.bury).thread u).id = (s.thread u).id :=
      System.id_mapThread (fun _ => by rfl) s t u
    have buried : ((s.mapThread t Thread.bury).thread t).terminated := by
      rw [System.thread_mapThread_self ht]
      rfl
    let last : Utterance := ⟨some t, Announcement.terminate.event (s.element t)⟩
    refine ⟨[last], ?_, h.pending, fun {u} hu => ?_, h.passing, fun {u} hu => ?_⟩
    · change (s.bus.fire _).published = _
      simp [h.published, last]
    · have kept (u : Utterance) (hu : s.Voices w u) :
          ((s.mapThread t Thread.bury).fire (s.element t) .terminate).Voices w u := by
        rw [System.Voices] at hu ⊢
        split at hu
        · exact ⟨size ▸ hu.1, hu.2.trans (congrArg Element.thread (id _).symm)⟩
        · exact hu
      refine kept u ?_
      have either : u ∈ told ++ queued ∨ u = last := by
        simp only [List.mem_append, List.mem_singleton] at hu ⊢
        tauto
      rcases either with old | rfl
      · exact h.voices old
      · exact ⟨ht, rfl⟩
    · have before := h.life (size ▸ hu)
      rw [utteredBy_append, utteredBy_singleton]
      by_cases own : u = t
      · subst own
        rw [if_pos rfl]
        exact before.ending lived (id u) buried
      · rw [if_neg fun same => own (Option.some.inj same).symm, List.append_nil]
        refine before.carry (id u) fun dead => ?_
        change ((s.mapThread t Thread.bury).thread u).terminated
        rwa [System.thread_mapThread_of_ne s (Ne.symm own)]

/-- A thread object that is new is created, and nothing was heard of it before. -/
theorem enlist (h : s.Transcript w told queued) (th : Thread) :
    (s.enlist th).Transcript w (told ++ [⟨some s.threads.size, Announcement.create.event (.thread th.id)⟩]) queued := by
  have size : (s.enlist th).threads.size = s.threads.size + 1 := Array.size_push th
  have old {t : ThreadRef} (ht : t < s.threads.size) : (s.enlist th).thread t = s.thread t := by
    rw [thread_enlist, if_neg (Nat.ne_of_lt ht)]
  have last : (s.enlist th).thread s.threads.size = th := by rw [thread_enlist, if_pos rfl]
  refine ⟨?_, h.pending, fun {u} hu => ?_, h.passing, fun {t} ht => ?_⟩
  · change (s.bus.fire _).published = _
    simp [h.published]
  · have either : u ∈ told ++ queued ∨ u = ⟨some s.threads.size, Announcement.create.event (.thread th.id)⟩ := by
      simp only [List.mem_append, List.mem_singleton] at hu ⊢
      tauto
    rcases either with before | rfl
    · have before := h.voices before
      rw [System.Voices] at before ⊢
      split at before
      · rw [System.element, old before.1, size]
        exact ⟨Nat.lt_succ_of_lt before.1, before.2⟩
      · exact before
    · refine ⟨size ▸ Nat.lt_succ_self _, ?_⟩
      rw [System.element, last]
      rfl
  · rw [utteredBy_append, utteredBy_singleton]
    by_cases new : t = s.threads.size
    · subst new
      have silent : utteredBy s.threads.size told = [] := utteredBy_eq_nil fun u hu own => by
        have voice := h.voices (List.mem_append_left _ hu)
        rw [System.Voices, own] at voice
        exact Nat.lt_irrefl _ voice.1
      rw [if_pos rfl, silent, last]
      exact ⟨[], rfl, fun e he => (List.not_mem_nil he).elim, Nat.zero_le _⟩
    · rw [size] at ht
      have ht : t < s.threads.size := Nat.lt_of_le_of_ne (Nat.le_of_lt_succ ht) new
      rw [if_neg fun same => new (Option.some.inj same).symm, List.append_nil, old ht]
      exact h.life ht

end System.Transcript

/-- Whatever was said so far, and by whomever, the story goes on. -/
def Tells (w : Surroundings σ) (s s' : System σ) : Prop :=
  ∀ told queued, s.Transcript w told queued → ∃ more queued', s'.Transcript w (told ++ more) queued'

namespace Tells

variable {s s' : System σ} {u : Utterance}

instance : IsPreorder (System σ) (Tells w) where
  refl _ told queued h := ⟨[], queued, by rwa [List.append_nil]⟩
  trans _ _ _ h h' told queued before := by
    obtain ⟨more, queued₁, middle⟩ := h told queued before
    obtain ⟨more', queued₂, after⟩ := h' (told ++ more) queued₁ middle
    exact ⟨more ++ more', queued₂, by rwa [← List.append_assoc]⟩

theorem carry (size : s'.threads.size = s.threads.size) (id : ∀ t, (s'.thread t).id = (s.thread t).id)
    (terminated : ∀ t, (s.thread t).terminated → (s'.thread t).terminated) (bus : s'.bus = s.bus) : Tells w s s' :=
  fun _ queued h => ⟨[], queued, by
    rw [List.append_nil]
    exact h.carry size id terminated bus⟩

theorem fire (hu : s.Voices w u) (hp : ∀ t, u.speaker = some t → u.event.IsPassing) :
    Tells w s { s with bus := s.bus.fire u.event } := fun _ queued h => ⟨[u], queued, h.fire hu hp⟩

theorem queue (hu : s.Voices w u) (hp : ∀ t, u.speaker = some t → u.event.IsPassing) :
    Tells w s { s with bus := s.bus.queue u.event } := fun _ queued h => ⟨[], queued ++ [u], by
  rw [List.append_nil]
  exact h.queue hu hp⟩

theorem flush (s : System σ) : Tells w s s.flush := fun _ queued h => ⟨queued, [], h.flush⟩

theorem bury (s : System σ) (t : ThreadRef) : Tells w s (s.bury t) := fun _ queued h => by
  obtain ⟨more, after⟩ := h.bury t
  exact ⟨more, queued, after⟩

theorem enlist (s : System σ) (th : Thread) : Tells w s (s.enlist th) := fun _ queued h => ⟨_, queued, h.enlist th⟩

end Tells

end Debugger
