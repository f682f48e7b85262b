import Debugger.Proofs.Bookkeeping
import Mathlib.Data.List.Induction
import Mathlib.Order.Bounds.Basic
import Mathlib.Data.Nat.Find

/-! # The history of the thread registry

The registry is told of threads that start and of threads that die.  What it lists then follows from the history: the
threads that were registered and have not died since, each once, in the order of their first registrations since they
last died.
-/

namespace Debugger

/-- What the registry is told of a thread. -/
inductive RegistryEntry where
  | registered (id : ThreadId)
  | died (id : ThreadId)
  deriving DecidableEq

/-- The numbers that are listed after an entry. -/
def RegistryEntry.enter (ids : List ThreadId) : RegistryEntry → List ThreadId
  | registered id => if id ∈ ids then ids else ids ++ [id]
  | died id => ids.erase id

/-- The numbers that are listed after a history. -/
def roll (history : List RegistryEntry) : List ThreadId := history.foldl RegistryEntry.enter []

/-- A registration that is not followed by the death of its thread. -/
structure Lasts (history : List RegistryEntry) (id : ThreadId) (k : Nat) : Prop where
  registered : history[k]? = some (.registered id)
  alive {l : Nat} (later : k < l) : history[l]? ≠ some (.died id)

variable {history : List RegistryEntry} {e : RegistryEntry} {id : ThreadId} {k : Nat}

theorem Lasts.lt_length (h : Lasts history id k) : k < history.length := (List.getElem?_eq_some_iff.mp h.registered).1

/-- What an entry does to the registrations that last. -/
theorem lasts_concat_iff : Lasts (history ++ [e]) id k ↔
    (Lasts history id k ∧ e ≠ .died id) ∨ (k = history.length ∧ e = .registered id) := by
  constructor
  · intro h
    rcases Nat.lt_or_eq_of_le (Nat.le_of_lt_succ (by simpa using h.lt_length)) with before | rfl
    · refine .inl ⟨⟨?_, fun {l} later died => ?_⟩, ?_⟩
      · rw [← List.getElem?_append_left before]
        exact h.registered
      · refine h.alive later ?_
        rw [List.getElem?_append_left (List.getElem?_eq_some_iff.mp died).1, died]
      · rintro rfl
        exact h.alive before (by simp)
    · exact .inr ⟨rfl, by simpa using h.registered⟩
  · rintro (⟨h, other⟩ | ⟨rfl, rfl⟩)
    · refine ⟨?_, fun {l} later => ?_⟩
      · rw [List.getElem?_append_left h.lt_length, h.registered]
      · by_cases old : l < history.length
        · rw [List.getElem?_append_left old]
          exact h.alive later
        · by_cases last : l = history.length
          · simpa [last] using other
          · rw [List.getElem?_eq_none (by simp; omega)]
            simp
    · refine ⟨by simp, fun {l} later => ?_⟩
      rw [List.getElem?_eq_none (by simp; omega)]
      simp

theorem roll_concat (history : List RegistryEntry) (e : RegistryEntry) :
    roll (history ++ [e]) = e.enter (roll history) := by simp [roll]

theorem RegistryEntry.nodup_enter {ids : List ThreadId} (h : ids.Nodup) (e : RegistryEntry) : (e.enter ids).Nodup := by
  cases e with
  | registered id =>
    rw [enter]
    split
    · exact h
    · rename_i new
      refine List.nodup_append.mpr ⟨h, List.nodup_singleton id, fun a ha b hb => ?_⟩
      rw [List.mem_singleton.mp hb]
      rintro rfl
      exact new ha
  | died id => exact h.erase id

theorem nodup_roll (history : List RegistryEntry) : (roll history).Nodup := by
  induction history using List.reverseRecOn with
  | nil => exact List.nodup_nil
  | append_singleton history e ih =>
    rw [roll_concat]
    exact e.nodup_enter ih

/-- A thread is listed as long as a registration of it lasts. -/
theorem mem_roll_iff : id ∈ roll history ↔ ∃ k, Lasts history id k := by
  induction history using List.reverseRecOn with
  | nil => simp [roll, show ∀ k, ¬ Lasts [] id k from fun k h => by simpa using h.lt_length]
  | append_singleton history e ih =>
    simp only [roll_concat, lasts_concat_iff, exists_or, exists_and_right, ← ih]
    cases e with
    | registered j =>
      rw [RegistryEntry.enter]
      split
      · rename_i listed
        have given : j = id → id ∈ roll history := fun same => same ▸ listed
        simpa using given
      · simp [eq_comm]
    | died j =>
      rw [RegistryEntry.enter, (nodup_roll history).mem_erase_iff]
      simp [and_comm, eq_comm]

theorem exists_first (h : ∃ k, Lasts history id k) : ∃ k, IsLeast {k | Lasts history id k} k := by
  classical
  exact ⟨Nat.find h, Nat.find_spec h, fun _ => Nat.find_min' h⟩

/-- The threads are listed in the order of their first registrations that last. -/
theorem roll_ordered (history : List RegistryEntry) : (roll history).Pairwise fun i j =>
    ∃ k l, k < l ∧ IsLeast {k | Lasts history i k} k ∧ IsLeast {k | Lasts history j k} l := by
  induction history using List.reverseRecOn with
  | nil => exact .nil
  | append_singleton history e ih =>
    -- the first registration of a thread that is listed and stays so is the same as before
    have same {i : ThreadId} {k : Nat} (other : e ≠ .died i) (h : IsLeast {k | Lasts history i k} k) :
        IsLeast {k | Lasts (history ++ [e]) i k} k := by
      refine ⟨lasts_concat_iff.mpr (.inl ⟨h.1, other⟩), fun l hl => ?_⟩
      rcases lasts_concat_iff.mp hl with ⟨hl, -⟩ | ⟨rfl, -⟩
      · exact h.2 hl
      · exact Nat.le_of_lt h.1.lt_length
    rw [roll_concat]
    cases e with
    | registered j =>
      have alive (i : ThreadId) : RegistryEntry.registered j ≠ .died i := by rintro ⟨⟩
      have kept : (roll history).Pairwise fun i i' => ∃ k l, k < l ∧
          IsLeast {k | Lasts (history ++ [.registered j]) i k} k ∧
          IsLeast {k | Lasts (history ++ [.registered j]) i' k} l := by
        refine ih.imp ?_
        rintro i i' ⟨k, l, order, hk, hl⟩
        exact ⟨k, l, order, same (alive i) hk, same (alive i') hl⟩
      rw [RegistryEntry.enter]
      split
      · exact kept
      · rename_i new
        refine List.pairwise_append.mpr ⟨kept, List.pairwise_singleton _ _, fun i listed j' new' => ?_⟩
        obtain rfl := List.mem_singleton.mp new'
        obtain ⟨k, hk⟩ := exists_first (mem_roll_iff.mp listed)
        refine ⟨k, history.length, hk.1.lt_length, same (alive i) hk, lasts_concat_iff.mpr (.inr ⟨rfl, rfl⟩), fun l hl => ?_⟩
        rcases lasts_concat_iff.mp hl with ⟨hl, -⟩ | ⟨rfl, -⟩
        · exact (new (mem_roll_iff.mpr ⟨l, hl⟩)).elim
        · exact Nat.le_refl _
    | died j =>
      rw [RegistryEntry.enter]
      refine (ih.sublist (List.erase_sublist ..)).imp_of_mem fun {a b} ha hb => ?_
      rintro ⟨k, l, order, hk, hl⟩
      have alive {i : ThreadId} (hi : i ∈ (roll history).erase j) : RegistryEntry.died j ≠ .died i := by
        rintro ⟨⟩
        exact (((nodup_roll history).mem_erase_iff).mp hi).1 rfl
      exact ⟨k, l, order, same (alive ha) hk, same (alive hb) hl⟩

end Debugger
