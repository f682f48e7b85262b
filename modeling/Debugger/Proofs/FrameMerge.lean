import Mathlib.Data.List.Nodup
import Debugger.Frame

/-! # What a look at a stack does to the frames

A look gives each place of the stack one frame, which was known before or is new, and binds it to what
is there now.  No other frame changes, and no frame ever changes the method it last ran.
-/

namespace Debugger.FrameStore

variable {store store' : FrameStore} {thread : ThreadId}

/-- A frame that stands for something last ran its method. -/
def Coherent (store : FrameStore) : Prop :=
  ∀ h r, store.remote h = some r → store.lastMethod h = some r.location.method.id

/-! ## One frame -/

theorem get?_alloc (store : FrameStore) (thread : ThreadId) (r : RemoteFrame) (h : FrameRef) :
    (store.alloc thread r).2[h]? = if h = store.size then some (.bound thread r) else store[h]? := by
  simp only [alloc, Array.getElem?_push]

theorem get?_bind (store : FrameStore) (h g : FrameRef) (r : RemoteFrame) :
    (store.modify h (·.bind r))[g]? = if h = g then store[g]?.map (·.bind r) else store[g]? := by
  simp only [Array.getElem?_modify]

/-- A frame of the store after a place was bound to `r`. -/
structure Takes (store store' : FrameStore) (r : RemoteFrame) (h : FrameRef) : Prop where
  size : store.size ≤ store'.size
  inRange : h < store'.size
  bound : store'.remote h = some r
  method : store'.lastMethod h = some r.location.method.id
  /-- A frame that was known keeps its method. -/
  known : h < store.size → store.lastMethod h = some r.location.method.id
  others {g : FrameRef} (hg : g < store.size) (hne : g ≠ h) : store'[g]? = store[g]?
  coherent : store.Coherent → store'.Coherent

theorem alloc_takes (store : FrameStore) (thread : ThreadId) (r : RemoteFrame) :
    Takes store (store.alloc thread r).2 r store.size where
  size := by simp [alloc]
  inRange := by simp [alloc]
  bound := by simp [remote, get?_alloc, Frame.bound]
  method := by simp [lastMethod, get?_alloc, Frame.bound]
  known h := (Nat.lt_irrefl _ h).elim
  others hg _ := by rw [get?_alloc, if_neg (Nat.ne_of_lt hg)]
  coherent hc g r' hb := by
    rw [remote, get?_alloc] at hb
    rw [lastMethod, get?_alloc]
    split at hb
    · rename_i hg
      cases hb
      rw [if_pos hg]
      rfl
    · rename_i hg
      rw [if_neg hg]
      exact hc g r' hb

theorem bind_takes {h : FrameRef} {r : RemoteFrame} (hr : h < store.size)
    (hm : store.lastMethod h = some r.location.method.id) :
    Takes store (store.modify h (·.bind r)) r h where
  size := by simp
  inRange := by simpa using hr
  bound := by
    rw [remote, get?_bind, if_pos rfl, Array.getElem?_eq_getElem hr]
    rfl
  method := by
    rw [lastMethod, get?_bind, if_pos rfl, Array.getElem?_eq_getElem hr]
    rfl
  known _ := hm
  others _ hne := by rw [get?_bind, if_neg hne.symm]
  coherent hc g r' hb := by
    rw [remote, get?_bind] at hb
    rw [lastMethod, get?_bind]
    split at hb
    · rename_i hg
      subst hg
      rw [Array.getElem?_eq_getElem hr] at hb ⊢
      cases hb
      rw [if_pos rfl]
      rfl
    · rename_i hg
      rw [if_neg hg]
      exact hc g r' hb

theorem Takes.methods {r : RemoteFrame} {h g : FrameRef} (ht : Takes store store' r h)
    (hg : g < store.size) : store'.lastMethod g = store.lastMethod g := by
  by_cases hne : g = h
  · subst hne
    rw [ht.method, ht.known hg]
  · rw [lastMethod, lastMethod, ht.others hg hne]

/-! ## A whole stack -/

/-- The frames `hs` of the new store stand for the stack, and were among the `known` ones or are new. -/
structure Fits (store store' : FrameStore) (known hs : List FrameRef) (stack : List RemoteFrame) :
    Prop where
  size : store.size ≤ store'.size
  origin {h : FrameRef} (hh : h ∈ hs) : h ∈ known ∨ store.size ≤ h
  inRange {h : FrameRef} (hh : h ∈ hs) : h < store'.size
  nodup : hs.Nodup
  bound : hs.map store'.remote = stack.map some
  others {g : FrameRef} (hg : g < store.size) (hn : g ∉ hs) : store'[g]? = store[g]?
  methods {g : FrameRef} (hg : g < store.size) : store'.lastMethod g = store.lastMethod g
  ran : hs.map store'.lastMethod = stack.map fun r => some r.location.method.id
  coherent : store.Coherent → store'.Coherent

/-- The frames that slots offer. -/
def offered (slots : List (Option FrameRef × RemoteFrame)) : List FrameRef := slots.filterMap (·.1)

/-- How the first of several places is bound. -/
theorem bindSlots_cons (store : FrameStore) (thread : ThreadId) (slot : Option FrameRef)
    (r : RemoteFrame) (rest : List (Option FrameRef × RemoteFrame))
    (hr : ∀ h ∈ slot, h < store.size) :
    ∃ h store₁, Takes store store₁ r h ∧ (h ∈ slot ∨ h = store.size) ∧
      store.bindSlots thread ((slot, r) :: rest) =
        (h :: (store₁.bindSlots thread rest).1, (store₁.bindSlots thread rest).2) := by
  have fresh := alloc_takes store thread r
  cases slot with
  | none => exact ⟨store.size, _, fresh, .inr rfl, rfl⟩
  | some h =>
    by_cases hm : store.lastMethod h = some r.location.method.id
    · refine ⟨h, _, bind_takes (hr h rfl) hm, .inl rfl, ?_⟩
      simp only [bindSlots, hm, if_true]
    · refine ⟨store.size, _, fresh, .inr rfl, ?_⟩
      simp only [bindSlots, hm, if_false]
      rfl

theorem bindSlots_fits (thread : ThreadId) {slots : List (Option FrameRef × RemoteFrame)}
    (hn : (offered slots).Nodup) (hr : ∀ h ∈ offered slots, h < store.size) :
    Fits store (store.bindSlots thread slots).2 (offered slots) (store.bindSlots thread slots).1
      (slots.map (·.2)) := by
  induction slots generalizing store with
  | nil =>
    exact ⟨Nat.le_refl _, fun h => (List.not_mem_nil h).elim, fun h => (List.not_mem_nil h).elim,
      List.nodup_nil, rfl, fun _ _ => rfl, fun _ => rfl, rfl, id⟩
  | cons p rest ih =>
    obtain ⟨slot, r⟩ := p
    have inSlot (h : FrameRef) (hh : h ∈ slot) : h ∈ offered ((slot, r) :: rest) := by
      obtain rfl := Option.mem_def.mp hh
      simp [offered]
    have inRest (h : FrameRef) (hh : h ∈ offered rest) : h ∈ offered ((slot, r) :: rest) := by
      obtain ⟨q, hq, hs⟩ := List.mem_filterMap.mp hh
      exact List.mem_filterMap.mpr ⟨q, List.mem_cons_of_mem _ hq, hs⟩
    have restNodup : (offered rest).Nodup := hn.sublist ((List.sublist_cons_self _ _).filterMap _)
    obtain ⟨h, store₁, takes, chosen, eq⟩ :=
      bindSlots_cons store thread slot r rest fun h hh => hr h (inSlot h hh)
    have fits : Fits store₁ _ _ _ _ := ih restNodup fun g hg =>
      Nat.lt_of_lt_of_le (hr g (inRest g hg)) takes.size
    -- The place just bound is offered to no later one, and is no new frame of theirs either.
    have apart : h ∉ (store₁.bindSlots thread rest).1 := by
      intro hh
      rcases fits.origin hh with ho | ho
      · rcases chosen with hs | rfl
        · obtain rfl := Option.mem_def.mp hs
          simp only [offered, List.filterMap_cons] at hn
          exact (List.nodup_cons.mp hn).1 ho
        · exact Nat.lt_irrefl _ (hr _ (inRest _ ho))
      · exact Nat.lt_irrefl _ (Nat.lt_of_lt_of_le takes.inRange ho)
    have kept : (store₁.bindSlots thread rest).2[h]? = store₁[h]? := fits.others takes.inRange apart
    rw [eq]
    refine ⟨Nat.le_trans takes.size fits.size, fun {g} hg => ?_, fun {g} hg => ?_,
      List.nodup_cons.mpr ⟨apart, fits.nodup⟩, ?_, fun {g} hg hn => ?_, fun {g} hg => ?_, ?_,
      fun hc => fits.coherent (takes.coherent hc)⟩
    · rcases List.mem_cons.mp hg with rfl | hg
      · exact chosen.imp (inSlot g) fun h => Nat.le_of_eq h.symm
      · exact (fits.origin hg).imp (inRest g) (Nat.le_trans takes.size)
    · rcases List.mem_cons.mp hg with rfl | hg
      · exact Nat.lt_of_lt_of_le takes.inRange fits.size
      · exact fits.inRange hg
    · rw [List.map_cons, List.map_cons, List.map_cons, fits.bound, remote, kept, ← takes.bound]
      rfl
    · obtain ⟨hne, hn⟩ := not_or.mp (mt List.mem_cons.mpr hn)
      rw [fits.others (Nat.lt_of_lt_of_le hg takes.size) hn, takes.others hg hne]
    · rw [fits.methods (Nat.lt_of_lt_of_le hg takes.size), takes.methods hg]
    · rw [List.map_cons, List.map_cons, List.map_cons, fits.ran, lastMethod, kept, ← takes.method]
      rfl

/-! ## A merge -/

theorem offered_zip {slots : List (Option FrameRef)} {stack : List RemoteFrame}
    (h : slots.length = stack.length) : offered (slots.zip stack) = slots.filterMap id := by
  have map := List.filterMap_map (f := Prod.fst) (g := id) (l := slots.zip stack)
  rw [List.map_fst_zip (Nat.le_of_eq h)] at map
  exact map.symm

theorem align_sublist (topDown : Bool) (cached : List FrameRef) (m : Nat) :
    ((align topDown cached m).filterMap id).Sublist cached := by
  have none (n : Nat) : (List.replicate n (none : Option FrameRef)).filterMap id = [] := by
    rw [List.filterMap_eq_nil_iff]
    intro a ha
    rw [List.eq_of_mem_replicate ha]
    rfl
  have some (l : List FrameRef) : (l.map some).filterMap id = l := by
    rw [List.filterMap_map]
    exact List.filterMap_some
  cases topDown with
  | true =>
    simp only [align, if_true, List.filterMap_append, none, some, List.append_nil]
    exact List.take_sublist _ _
  | false =>
    simp only [align, Bool.false_eq_true, if_false, List.filterMap_append, none, some, List.nil_append]
    exact List.drop_sublist _ _

/-- The merged frames stand for the present stack. -/
theorem merge_fits (thread : ThreadId) {cached : List FrameRef} (stack : List RemoteFrame)
    (hn : cached.Nodup) (hr : ∀ h ∈ cached, h < store.size) :
    Fits store (store.merge thread cached stack).2 cached (store.merge thread cached stack).1 stack := by
  have length := length_align (store.topMatches cached stack) cached stack.length
  have sub := align_sublist (store.topMatches cached stack) cached stack.length
  rw [← offered_zip length] at sub
  have fits := bindSlots_fits thread (hn.sublist sub) fun h hh => hr h (sub.subset hh)
  rw [List.map_snd_zip (Nat.le_of_eq length.symm)] at fits
  exact { fits with origin := fun hh => (fits.origin hh).imp_left fun h => sub.subset h }

/-- Frames for a stack of which nothing is known are a merge with nothing. -/
theorem bindFresh_eq (store : FrameStore) (thread : ThreadId) (stack : List RemoteFrame) :
    store.bindFresh thread stack = store.merge thread [] stack := by
  have slots : (align (store.topMatches [] stack) [] stack.length).zip stack =
      stack.map fun r => (none, r) := by
    have none : align (store.topMatches [] stack) [] stack.length =
        stack.map fun _ => (none : Option FrameRef) := by
      cases stack <;> simp [align, topMatches, List.replicate_succ]
    rw [none]
    simpa using List.zip_map' (f := fun _ => (Option.none : Option FrameRef)) (g := id) (l := stack)
  rw [merge, slots]
  clear slots
  induction stack generalizing store with
  | nil => rfl
  | cons r rs ih =>
    simp only [bindFresh, List.map_cons, bindSlots]
    rw [ih]

/-- Where every known frame last ran the method that is at its place now, the frames stay the same. -/
theorem bindSlots_same (thread : ThreadId) {hs : List FrameRef} {stack : List RemoteFrame}
    (hr : ∀ h ∈ hs, h < store.size)
    (hm : hs.map store.lastMethod = stack.map fun r => some r.location.method.id) :
    (store.bindSlots thread ((hs.map some).zip stack)).1 = hs := by
  induction stack generalizing store hs with
  | nil =>
    rw [List.map_nil, List.map_eq_nil_iff] at hm
    subst hm
    rfl
  | cons r rs ih =>
    cases hs with
    | nil => cases hm
    | cons h hs =>
      obtain ⟨hh, hm⟩ := List.cons.inj hm
      have takes := bind_takes (hr h List.mem_cons_self) hh
      have rest : hs.map (FrameStore.lastMethod (store.modify h (·.bind r))) = hs.map store.lastMethod :=
        List.map_congr_left fun g hg => takes.methods (hr g (List.mem_cons_of_mem _ hg))
      simp only [List.map_cons, List.zip_cons_cons, bindSlots, hh, if_true, List.cons.injEq, true_and]
      exact ih (fun g hg => Nat.lt_of_lt_of_le (hr g (List.mem_cons_of_mem _ hg)) takes.size)
        (rest.trans hm)

/-- A merge with a stack whose methods are those of the known frames keeps the frames. -/
theorem merge_same (thread : ThreadId) {cached : List FrameRef} {stack : List RemoteFrame}
    (hr : ∀ h ∈ cached, h < store.size)
    (hm : cached.map store.lastMethod = stack.map fun r => some r.location.method.id) :
    (store.merge thread cached stack).1 = cached := by
  have length : cached.length = stack.length := by simpa using congrArg List.length hm
  have all (b : Bool) : align b cached stack.length = cached.map some := by
    rw [← length]
    cases b <;> simp [align]
  rw [merge, all]
  exact bindSlots_same thread hr hm

end Debugger.FrameStore
