import Debugger.Target.Dispatch
import Mathlib.Logic.Basic

/-! # What each event of a set says about its thread

An event lets its thread stop, or the listeners object to that, or it says nothing.  The set is resumed
unless an event stopped the thread, but whether the thread runs is up to the last event that had a say.
-/

namespace Debugger

/-- What an event says about its thread. -/
inductive Verdict where
  | stop
  /-- The thread was to stop, and a listener objected. -/
  | objected
  /-- The event leaves the thread as it is. -/
  | pass
  deriving DecidableEq, Repr, Inhabited

/-- The verdict of an event that was handled with that result. -/
def VmEvent.verdict : VmEvent → Disposition → Verdict
  | _, .staySuspended => .stop
  | .breakpoint .., .resume => .objected
  | _, .resume => .pass

/-- The verdicts of events that are handled one after another. -/
def verdicts {σ : Type} [Session σ] : List VmEvent → System σ → List Verdict
  | [], _ => []
  | e :: es, s => e.verdict (handleEvent e s).1 :: verdicts es (handleEvent e s).2

namespace Verdict

/-- Whether a thread runs after the verdict. -/
def leaves (running : Bool) : Verdict → Bool
  | stop => false
  | objected => true
  | pass => running

/-- After a verdict to stop, and after the last one, a listener objected. -/
def Overruled (vs : List Verdict) : Prop :=
  ∃ before after, vs = before ++ stop :: after ∧ stop ∉ after ∧ objected ∈ after

theorem overruled_cons {v : Verdict} {vs : List Verdict} :
    Overruled (v :: vs) ↔ Overruled vs ∨ v = stop ∧ stop ∉ vs ∧ objected ∈ vs := by
  constructor
  · rintro ⟨before, after, h, hs, ho⟩
    cases before with
    | nil =>
      obtain ⟨rfl, rfl⟩ := List.cons.inj h
      exact .inr ⟨rfl, hs, ho⟩
    | cons w before =>
      obtain ⟨rfl, rfl⟩ := List.cons.inj h
      exact .inl ⟨before, after, rfl, hs, ho⟩
  · rintro (⟨before, after, rfl, hs, ho⟩ | ⟨rfl, hs, ho⟩)
    · exact ⟨v :: before, after, rfl, hs, ho⟩
    · exact ⟨[], vs, rfl, hs, ho⟩

theorem Overruled.stop_mem {vs : List Verdict} (h : Overruled vs) : stop ∈ vs := by
  obtain ⟨before, after, rfl, -, -⟩ := h
  exact List.mem_append_right _ List.mem_cons_self

/-- A thread runs in the end if nothing stopped it, or the last stop was overruled. -/
theorem foldl_leaves {running : Bool} {vs : List Verdict} :
    vs.foldl leaves running = true ↔
      Overruled vs ∨ stop ∉ vs ∧ (running = true ∨ objected ∈ vs) := by
  induction vs generalizing running with
  | nil =>
    have none_overruled : ¬ Overruled [] := fun h => by cases h.stop_mem
    simp [none_overruled]
  | cons v vs ih =>
    rw [List.foldl_cons, ih, overruled_cons]
    cases v <;> simp [leaves]

end Verdict

section

variable {σ : Type} [Session σ]

theorem handleEvents_cons (e : VmEvent) (es : List VmEvent) (s : System σ) :
    handleEvents (e :: es) s =
      (decide ((handleEvent e s).1 = .staySuspended) || (handleEvents es (handleEvent e s).2).1,
        (handleEvents es (handleEvent e s).2).2) := rfl

theorem verdicts_append (es es' : List VmEvent) (s : System σ) :
    verdicts (es ++ es') s = verdicts es s ++ verdicts es' (handleEvents es s).2 := by
  induction es generalizing s with
  | nil => rfl
  | cons e es ih =>
    rw [List.cons_append, verdicts, verdicts, ih, handleEvents_cons]
    rfl

theorem handleEvents_append (es es' : List VmEvent) (s : System σ) :
    (handleEvents (es ++ es') s).2 = (handleEvents es' (handleEvents es s).2).2 := by
  induction es generalizing s with
  | nil => rfl
  | cons e es ih =>
    rw [List.cons_append, handleEvents_cons, handleEvents_cons]
    exact ih _

/-- An event set leaves its thread suspended exactly if one of its events said so. -/
theorem handleEvents_stays (es : List VmEvent) (s : System σ) :
    (handleEvents es s).1 = true ↔ Verdict.stop ∈ verdicts es s := by
  induction es generalizing s with
  | nil => simp [handleEvents, verdicts]; rfl
  | cons e es ih =>
    rw [handleEvents_cons, verdicts, List.mem_cons, ← ih, Bool.or_eq_true, decide_eq_true_iff]
    refine or_congr_left ?_
    cases (handleEvent e s).1 <;> cases e <;> simp [VmEvent.verdict]

end

end Debugger
