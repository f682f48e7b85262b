import Debugger.Proofs.FrameMerge

/-! # Which frame each place of a merged stack gets

Every place of the stack has a source among the frames known before, counted from the top where the top
frame still runs the method it last ran and from the bottom elsewhere.  A place keeps its source if that
exists and last ran the method that is at the place now; else it gets a frame that was never handed out.
-/

namespace Debugger.FrameStore

variable {store : FrameStore} {cached : List FrameRef} {stack : List RemoteFrame}

/-- The known frame at a place that may lie above or below the known ones. -/
def knownAt (cached : List FrameRef) (place : Int) : Option FrameRef :=
  if 0 ≤ place then cached[place.toNat]? else none

/-- The top of the stack runs the method that the top of the known frames last ran. -/
def KeepsTop (store : FrameStore) (cached : List FrameRef) (stack : List RemoteFrame) : Prop :=
  ∃ h r, cached.head? = some h ∧ stack.head? = some r ∧ store.lastMethod h = some r.location.method.id

/-- The place among the known frames that answers to place `i` of the stack. -/
def IsSource (store : FrameStore) (cached : List FrameRef) (stack : List RemoteFrame) (i : Nat)
    (place : Int) : Prop :=
  (store.KeepsTop cached stack ∧ place = i) ∨
    (¬ store.KeepsTop cached stack ∧ place = i + cached.length - stack.length)

theorem exists_source (store : FrameStore) (cached : List FrameRef) (stack : List RemoteFrame) (i : Nat) :
    ∃ place, store.IsSource cached stack i place := by
  by_cases top : store.KeepsTop cached stack
  · exact ⟨_, .inl ⟨top, rfl⟩⟩
  · exact ⟨_, .inr ⟨top, rfl⟩⟩

theorem topMatches_iff : store.topMatches cached stack = true ↔ store.KeepsTop cached stack := by
  cases cached <;> cases stack <;> simp [topMatches, KeepsTop]

/-! ## The slot of a place -/

theorem align_top_getElem? (cached : List FrameRef) {m i : Nat} (hi : i < m) :
    (align true cached m)[i]? = some (knownAt cached i) := by
  have inRange : (align true cached m)[i]? = some cached[i]? := by
    simp only [align, if_true]
    by_cases h : i < cached.length
    · rw [List.getElem?_append_left (by simp; omega)]
      simp [hi, List.getElem?_eq_getElem h]
    · rw [List.getElem?_append_right (by simp; omega), List.getElem?_replicate_of_lt (by simp; omega),
        List.getElem?_eq_none (by omega)]
  rw [inRange, knownAt, if_pos (Int.natCast_nonneg i), Int.toNat_natCast]

theorem align_bottom_getElem? (cached : List FrameRef) {m i : Nat} (hi : i < m) :
    (align false cached m)[i]? = some (knownAt cached (i + cached.length - m)) := by
  simp only [align, Bool.false_eq_true, if_false, knownAt]
  by_cases h : i < m - cached.length
  · rw [List.getElem?_append_left (by simpa using h), List.getElem?_replicate_of_lt h, if_neg (by omega)]
  · rw [List.getElem?_append_right (by simpa using h), if_pos (by omega), List.length_replicate,
      List.getElem?_map, List.getElem?_drop]
    -- Subtraction stops at zero on one side only: the stack has grown or it has not.
    have place : cached.length - m + (i - (m - cached.length)) = ((i : Int) + cached.length - m).toNat := by
      omega
    rw [place, List.getElem?_eq_getElem (by omega)]
    rfl

theorem align_source {i : Nat} {place : Int} (hi : i < stack.length)
    (hs : store.IsSource cached stack i place) :
    (align (store.topMatches cached stack) cached stack.length)[i]? = some (knownAt cached place) := by
  rcases hs with ⟨top, rfl⟩ | ⟨bottom, rfl⟩
  · rw [topMatches_iff.mpr top, align_top_getElem? cached hi]
  · rw [Bool.eq_false_iff.mpr (mt topMatches_iff.mp bottom), align_bottom_getElem? cached hi]

/-! ## The frame of a place -/

/-- What the place for `r` got, to which the slot offered a known frame or none. -/
structure Chosen (store : FrameStore) (slot : Option FrameRef) (r : RemoteFrame) (h : FrameRef) :
    Prop where
  kept {g : FrameRef} (hg : slot = some g) : h = g ↔ store.lastMethod g = some r.location.method.id
  fresh (hf : ∀ g, slot = some g → store.lastMethod g ≠ some r.location.method.id) : store.size ≤ h

theorem bindSlots_first (thread : ThreadId) (slot : Option FrameRef) (r : RemoteFrame)
    (rest : List (Option FrameRef × RemoteFrame)) (hr : ∀ g, slot = some g → g < store.size) :
    ∃ h, (store.bindSlots thread ((slot, r) :: rest)).1[0]? = some h ∧ Chosen store slot r h := by
  cases slot with
  | none => exact ⟨store.size, rfl, nofun, fun _ => Nat.le_refl _⟩
  | some g =>
    by_cases hm : store.lastMethod g = some r.location.method.id
    · refine ⟨g, by simp [bindSlots, hm], fun hg => ?_, fun hf => (hf g rfl hm).elim⟩
      cases hg
      exact iff_of_true rfl hm
    · refine ⟨store.size, by simp [bindSlots, hm, alloc], fun hg => ?_, fun _ => Nat.le_refl _⟩
      cases hg
      exact iff_of_false (Nat.ne_of_gt (hr g rfl)) hm

/-- Binding the places above changes nothing about the choice at a place. -/
theorem bindSlots_chosen (thread : ThreadId) {slots : List (Option FrameRef × RemoteFrame)}
    (hr : ∀ g ∈ offered slots, g < store.size) {i : Nat} {slot : Option FrameRef} {r : RemoteFrame}
    (hi : slots[i]? = some (slot, r)) :
    ∃ h, (store.bindSlots thread slots).1[i]? = some h ∧ Chosen store slot r h := by
  induction slots generalizing store i with
  | nil => cases hi
  | cons p rest ih =>
    obtain ⟨first, top⟩ := p
    have inFirst (g : FrameRef) (hg : first = some g) : g < store.size :=
      hr g (by simp [offered, hg])
    have inRest (g : FrameRef) (hg : g ∈ offered rest) : g < store.size := by
      refine hr g ?_
      obtain ⟨q, hq, hs⟩ := List.mem_filterMap.mp hg
      exact List.mem_filterMap.mpr ⟨q, List.mem_cons_of_mem _ hq, hs⟩
    cases i with
    | zero =>
      cases hi
      exact bindSlots_first thread slot r rest inFirst
    | succ i =>
      obtain ⟨_, store₁, takes, -, eq⟩ := bindSlots_cons store thread first top rest inFirst
      rw [eq]
      have hi : rest[i]? = some (slot, r) := hi
      obtain ⟨h, at_i, chosen⟩ := ih (fun g hg => Nat.lt_of_lt_of_le (inRest g hg) takes.size) hi
      have same {g : FrameRef} (hg : slot = some g) : store₁.lastMethod g = store.lastMethod g := by
        refine takes.methods (inRest g ?_)
        exact List.mem_filterMap.mpr ⟨_, List.mem_of_getElem? hi, hg⟩
      refine ⟨h, at_i, fun hg => same hg ▸ chosen.kept hg, fun hf => ?_⟩
      exact Nat.le_trans takes.size (chosen.fresh fun g hg => same hg ▸ hf g hg)

/-! ## All places -/

/-- The frame `h` of the new store that place `i` of the stack holds. -/
structure Holds (store store' : FrameStore) (cached : List FrameRef) (stack : List RemoteFrame) (i : Nat)
    (r : RemoteFrame) (h : FrameRef) : Prop where
  bound : store'.remote h = some r
  method : store'.lastMethod h = some r.location.method.id
  chosen : ∃ place, store.IsSource cached stack i place ∧ Chosen store (knownAt cached place) r h

/-- A merge gives every place of the stack its source where that last ran the method at the place, and a
new frame elsewhere; no frame is at two places, and what is at none stays as it was. -/
theorem merge_exactly (store : FrameStore) (thread : ThreadId) (cached : List FrameRef)
    (stack : List RemoteFrame) (distinct : cached.Nodup) (handedOut : ∀ h ∈ cached, h < store.size) :
    (store.merge thread cached stack).1.length = stack.length ∧
    (store.merge thread cached stack).1.Nodup ∧
    (∀ i r, stack[i]? = some r → ∃ h, (store.merge thread cached stack).1[i]? = some h ∧
      Holds store (store.merge thread cached stack).2 cached stack i r h) ∧
    ∀ g < store.size, g ∉ (store.merge thread cached stack).1 →
      (store.merge thread cached stack).2[g]? = store[g]? := by
  have fits := merge_fits thread stack distinct handedOut
  refine ⟨length_merge .., fits.nodup, fun i r hi => ?_, fun g hg hn => fits.others hg hn⟩
  have inStack : i < stack.length := (List.getElem?_eq_some_iff.mp hi).1
  have slotsLength := length_align (store.topMatches cached stack) cached stack.length
  have offers (g : FrameRef)
      (hg : g ∈ offered ((align (store.topMatches cached stack) cached stack.length).zip stack)) :
      g < store.size :=
    handedOut g ((align_sublist _ cached _).subset (offered_zip slotsLength ▸ hg))
  have inMerge : i < (store.merge thread cached stack).1.length := by rwa [length_merge]
  have bound := congrArg (·[i]?) fits.bound
  have ran := congrArg (·[i]?) fits.ran
  simp only [List.getElem?_map, hi, List.getElem?_eq_getElem inMerge, Option.map_some,
    Option.some.injEq] at bound ran
  obtain ⟨place, source⟩ := exists_source store cached stack i
  have slot : ((align (store.topMatches cached stack) cached stack.length).zip stack)[i]? =
      some (knownAt cached place, r) :=
    List.getElem?_zip_eq_some.mpr ⟨align_source inStack source, hi⟩
  obtain ⟨h, at_i, chosen⟩ := bindSlots_chosen thread offers slot
  have same : (store.merge thread cached stack).1[i]? = some h := at_i
  rw [List.getElem?_eq_getElem inMerge, Option.some.injEq] at same
  exact ⟨_, List.getElem?_eq_getElem inMerge, bound, ran, place, source, same ▸ chosen⟩

/-- A frame of a sample program. -/
def sampleCall (id : FrameId) (method : MethodId) : RemoteFrame :=
  ⟨id, ⟨⟨⟨1, method⟩, "call", "com.example.Main", "()V", 0⟩, 0, some 1⟩⟩

/-- Frames of a stack that has run on since, and the frame that its look dropped. -/
def sampleFrames : FrameStore :=
  #[.bound 1 (sampleCall 1 40), (Frame.bound 1 (sampleCall 2 20)).unbind,
    (Frame.bound 1 (sampleCall 3 30)).unbind]

theorem merge_exactly_called :
    [1, 2].Nodup ∧ (∀ h ∈ [1, 2], h < sampleFrames.size) ∧
    ∃ h, (sampleFrames.merge 1 [1, 2] [sampleCall 5 20, sampleCall 6 30, sampleCall 7 30]).1[1]? = some h ∧
      Holds sampleFrames (sampleFrames.merge 1 [1, 2] [sampleCall 5 20, sampleCall 6 30, sampleCall 7 30]).2
        [1, 2] [sampleCall 5 20, sampleCall 6 30, sampleCall 7 30] 1 (sampleCall 6 30) h :=
  ⟨by decide, by decide, (merge_exactly sampleFrames 1 [1, 2] _ (by decide) (by decide)).2.2.1 1 _ rfl⟩

/-- A call on top, recursive or not, and a return from it: what is below keeps its frames. -/
example : (sampleFrames.merge 1 [1, 2] [sampleCall 5 50, sampleCall 6 20, sampleCall 7 30]).1 = [3, 1, 2] ∧
    (sampleFrames.merge 1 [1, 2] [sampleCall 5 20, sampleCall 6 20, sampleCall 7 30]).1 = [1, 3, 4] ∧
    (sampleFrames.merge 1 [1, 2] [sampleCall 5 30]).1 = [2] := by
  decide

end Debugger.FrameStore
