/-! # Finite tables

A table gives a value for each of finitely many keys; putting a value for a key replaces what the
table held for it.
-/

namespace Debugger

/-- A table as the list of its entries, of which a key has at most one. -/
structure Table (κ α : Type) where
  entries : List (κ × α) := []
  deriving DecidableEq, Repr, Inhabited

namespace Table

variable {κ α : Type} [DecidableEq κ]

/-- The table without entries. -/
def empty : Table κ α := ⟨[]⟩

def find? (t : Table κ α) (k : κ) : Option α := (t.entries.find? (·.1 = k)).map (·.2)

/-- The table without the entries that fail the test. -/
def keep (t : Table κ α) (p : κ → α → Bool) : Table κ α := ⟨t.entries.filter fun e => p e.1 e.2⟩

def erase (t : Table κ α) (k : κ) : Table κ α := t.keep fun k' _ => k' ≠ k

def put (t : Table κ α) (k : κ) (a : α) : Table κ α := ⟨(k, a) :: (t.erase k).entries⟩

def contains (t : Table κ α) (k : κ) : Bool := (t.find? k).isSome

def values (t : Table κ α) : List α := t.entries.map (·.2)

@[simp] theorem find?_empty (k : κ) : (empty : Table κ α).find? k = none := rfl

@[simp] theorem find?_erase_self (t : Table κ α) (k : κ) : (t.erase k).find? k = none := by
  simp [find?, erase, keep]

@[simp] theorem find?_erase_of_ne (t : Table κ α) {k k' : κ} (h : k' ≠ k) :
    (t.erase k).find? k' = t.find? k' := by
  simp only [find?, erase, keep, List.find?_filter]
  congr 2
  funext e
  by_cases he : e.1 = k' <;> simp [he, h]

@[simp] theorem find?_put_self (t : Table κ α) (k : κ) (a : α) :
    (t.put k a).find? k = some a := by
  simp [find?, put]

@[simp] theorem find?_put_of_ne (t : Table κ α) {k k' : κ} (a : α) (h : k' ≠ k) :
    (t.put k a).find? k' = t.find? k' := by
  rw [← find?_erase_of_ne t h]
  simp [find?, put, Ne.symm h]

theorem mem_of_find? {t : Table κ α} {k : κ} {a : α} (h : t.find? k = some a) : (k, a) ∈ t.entries := by
  obtain ⟨e, he, rfl⟩ := Option.map_eq_some_iff.mp h
  have hk := List.find?_some he
  rw [← of_decide_eq_true hk]
  exact List.mem_of_find?_eq_some he

theorem mem_entries_erase {t : Table κ α} {k k' : κ} {a : α} :
    (k', a) ∈ (t.erase k).entries ↔ (k', a) ∈ t.entries ∧ k' ≠ k := by
  simp [erase, keep]

theorem mem_entries_put {t : Table κ α} {k k' : κ} {a a' : α} (h : (k', a') ∈ (t.put k a).entries) :
    (k' = k ∧ a' = a) ∨ ((k', a') ∈ t.entries ∧ k' ≠ k) := by
  rcases List.mem_cons.mp h with h | h
  · exact .inl (Prod.mk.inj h)
  · exact .inr (mem_entries_erase.mp h)

/-- What passes the test is found as before. -/
theorem find?_keep {t : Table κ α} {p : κ → α → Bool} {k : κ} {a : α} (h : t.find? k = some a)
    (hp : p k a) : (t.keep p).find? k = some a := by
  obtain ⟨e, he, rfl⟩ := Option.map_eq_some_iff.mp h
  have hk := of_decide_eq_true (List.find?_some (p := fun e : κ × α => e.1 = k) he)
  have test : (List.filter (fun e => p e.1 e.2) t.entries).find? (fun e => e.1 = k) = some e := by
    rw [List.find?_filter]
    rw [List.find?_eq_some_iff_append] at he ⊢
    obtain ⟨_, pre, post, heq, hpre⟩ := he
    refine ⟨by simp [hk, hp], pre, post, heq, fun a ha => ?_⟩
    have := hpre a ha
    simp_all
  rw [find?, keep, test]
  rfl

/-! ### Tables with one entry for a key -/

/-- No key has two entries. -/
def Keyed (t : Table κ α) : Prop := (t.entries.map (·.1)).Nodup

omit [DecidableEq κ] in
theorem keyed_empty : (empty : Table κ α).Keyed := List.nodup_nil

omit [DecidableEq κ] in
theorem Keyed.keep {t : Table κ α} (h : t.Keyed) (p : κ → α → Bool) : (t.keep p).Keyed :=
  List.Nodup.sublist (List.filter_sublist.map _) h

theorem Keyed.erase {t : Table κ α} (h : t.Keyed) (k : κ) : (t.erase k).Keyed := h.keep _

theorem Keyed.put {t : Table κ α} (h : t.Keyed) (k : κ) (a : α) : (t.put k a).Keyed := by
  refine List.nodup_cons.mpr ⟨fun hk => ?_, h.erase k⟩
  obtain ⟨⟨k', a'⟩, he, rfl⟩ := List.mem_map.mp hk
  exact (mem_entries_erase.mp he).2 rfl

theorem Keyed.find?_eq_some_iff {t : Table κ α} (h : t.Keyed) {k : κ} {a : α} :
    t.find? k = some a ↔ (k, a) ∈ t.entries := by
  refine ⟨mem_of_find?, fun hm => ?_⟩
  obtain ⟨entries⟩ := t
  induction entries with
  | nil => cases hm
  | cons e es ih =>
    obtain ⟨new, rest⟩ := List.nodup_cons.mp h
    rw [find?, List.find?_cons]
    rcases List.mem_cons.mp hm with rfl | hm
    · rw [decide_eq_true rfl]
      rfl
    · have he : e.1 ≠ k := fun he => new (List.mem_map.mpr ⟨(k, a), hm, he.symm⟩)
      rw [decide_eq_false he]
      exact ih rest hm

theorem Keyed.mem_values {t : Table κ α} (h : t.Keyed) {a : α} :
    a ∈ t.values ↔ ∃ k, t.find? k = some a := by
  rw [values, List.mem_map]
  constructor
  · rintro ⟨⟨k, a⟩, he, rfl⟩
    exact ⟨k, h.find?_eq_some_iff.mpr he⟩
  · rintro ⟨k, hk⟩
    exact ⟨(k, a), mem_of_find? hk, rfl⟩

end Table

end Debugger
