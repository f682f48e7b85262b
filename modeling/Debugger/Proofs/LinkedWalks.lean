import Mathlib.Data.Fintype.Pigeonhole
import Mathlib.Logic.Relation
import Debugger.Proofs.Within

/-! # Walks along links

A walk goes from place to place along the links that the machine reports, until it comes upon what it looks for
or there is nowhere to go on to.  Nothing keeps the links from leading back to where the walk has been.  Since
there are only so many places, that is also the only way in which a walk has no end.
-/

namespace Debugger

/-- What a walk comes upon in a place. -/
inductive Sight (α β : Type) where
  | found (b : β)
  | onward (next : Option α)

variable {ε τ α β γ : Type}

/-- Goes from place to place until something is found or there is no next place; nothing if the way is longer
than `fuel`. -/
def follow (look : α → EStateM ε τ (Sight α β)) :
    (fuel : Nat) → Option α → EStateM ε τ (Option (Option β))
  | _, none => return some none
  | 0, some _ => return none
  | fuel + 1, some a => do
    match ← look a with
    | .found b => return some (some b)
    | .onward next => follow look fuel next

/-! ## Places and links -/

section

/- What there is in every place; some places do not exist. -/
variable (links : α → Option (Sight α β))

/-- The walk goes on from one place to the other. -/
def Leads (a a' : α) : Prop := links a = some (.onward (some a'))

/-- The walk gets into a circle. -/
def Circles (a : α) : Prop :=
  ∃ c, Relation.ReflTransGen (Leads links) a c ∧ Relation.TransGen (Leads links) c c

/-- The walk comes to an end, with what it has found. -/
inductive Arrives : Option α → Option β → Prop
  | nowhere : Arrives none none
  | found {a : α} {b : β} (h : links a = some (.found b)) : Arrives (some a) (some b)
  | onward {a : α} {next : Option α} {r : Option β} (h : links a = some (.onward next))
    (rest : Arrives next r) : Arrives (some a) r

/-- At least `n` links can be followed. -/
def Far : Nat → α → Prop
  | 0, _ => True
  | n + 1, a => ∃ a', Leads links a a' ∧ Far n a'

end

variable {links : α → Option (Sight α β)}

theorem Leads.unique {a b c : α} (hb : Leads links a b) (hc : Leads links a c) : b = c := by
  have h := hb.symm.trans hc
  simpa using h

/-- Who gets into a circle goes on, and gets into it from there too. -/
theorem Circles.onward {a : α} (h : Circles links a) : ∃ a', Leads links a a' ∧ Circles links a' := by
  obtain ⟨c, reach, circle⟩ := h
  rcases Relation.ReflTransGen.cases_head reach with rfl | ⟨a', leads, rest⟩
  · obtain ⟨a', leads, back⟩ := Relation.TransGen.head'_iff.mp circle
    exact ⟨a', leads, a, back, circle⟩
  · exact ⟨a', leads, c, rest, circle⟩

theorem Circles.far {a : α} (h : Circles links a) (n : Nat) : Far links n a := by
  induction n generalizing a with
  | zero => trivial
  | succ n ih =>
    obtain ⟨a', leads, h'⟩ := h.onward
    exact ⟨a', leads, ih h'⟩

/-- A walk that gets into a circle has no end. -/
theorem Arrives.not_circles {a : α} {r : Option β} (h : Arrives links (some a) r) : ¬ Circles links a := by
  generalize place : some a = start at h
  induction h generalizing a with
  | nowhere => cases place
  | found h =>
    cases place
    intro circles
    obtain ⟨a', leads, -⟩ := circles.onward
    cases h.symm.trans leads
  | onward h rest ih =>
    cases place
    intro circles
    obtain ⟨a', leads, circles'⟩ := circles.onward
    cases h.symm.trans leads
    apply ih rfl circles'

/-- The places on the way, in order. -/
theorem Far.places {n : Nat} {a : α} (h : Far links n a) :
    ∃ f : Nat → α, f 0 = a ∧ ∀ i < n, Leads links (f i) (f (i + 1)) := by
  induction n generalizing a with
  | zero => exact ⟨fun _ => a, rfl, fun i hi => absurd hi (Nat.not_lt_zero i)⟩
  | succ n ih =>
    obtain ⟨a', leads, rest⟩ := h
    obtain ⟨f, rfl, linked⟩ := ih rest
    refine ⟨fun i => i.casesOn a f, rfl, ?_⟩
    intro i hi
    cases i with
    | zero => exact leads
    | succ i => exact linked i (by omega)

private theorem reach_of_linked {n : Nat} {f : Nat → α} (linked : ∀ i < n, Leads links (f i) (f (i + 1)))
    {i j : Nat} (hij : i ≤ j) (hj : j ≤ n) : Relation.ReflTransGen (Leads links) (f i) (f j) := by
  induction j, hij using Nat.le_induction with
  | base => exact .refl
  | succ j hij ih => exact (ih (by omega)).tail (linked j (by omega))

/-- Who follows as many links as there are places has been somewhere twice. -/
theorem Far.circles {N : Nat} {key : α → Fin N} (distinct : Function.Injective key) {a : α}
    (h : Far links N a) : Circles links a := by
  obtain ⟨f, rfl, linked⟩ := h.places
  obtain ⟨i, j, apart, same⟩ := Fintype.exists_ne_map_eq_of_card_lt (fun i : Fin (N + 1) => key (f i)) (by simp)
  wlog hij : i < j generalizing i j
  · apply this j i apart.symm same.symm
    omega
  have met : f i = f j := distinct same
  refine ⟨f i, reach_of_linked linked (Nat.zero_le i) (by omega), ?_⟩
  apply Relation.TransGen.head' (linked i (by omega))
  rw [met]
  apply reach_of_linked linked (by omega) (by omega)

/-! ## Looking for something on the way -/

/-- What the walk comes upon in a place that has such a content and such a next place: what it looks for, or the way
onward. -/
def sights (content : α → Option γ) (sought : γ → Option β) (next : α → Option (Option α)) (a : α) :
    Option (Sight α β) :=
  (content a).bind fun c => (sought c).elim ((next a).map .onward) (some <| .found ·)

/-- One place comes next after the other. -/
def NextTo (next : α → Option (Option α)) (a a' : α) : Prop := next a = some (some a')

section

variable {content : α → Option γ} {sought : γ → Option β} {next : α → Option (Option α)}

theorem sights_found {a : α} {b : β} (h : sights content sought next a = some (.found b)) :
    ∃ c, content a = some c ∧ sought c = some b := by
  obtain ⟨c, there, sight⟩ := Option.bind_eq_some_iff.mp h
  refine ⟨c, there, ?_⟩
  cases hc : sought c with
  | some b' => simpa [hc] using sight
  | none => simp [hc] at sight

theorem sights_onward {a : α} {a' : Option α} (h : sights content sought next a = some (.onward a')) :
    ∃ c, content a = some c ∧ sought c = none ∧ next a = some a' := by
  obtain ⟨c, there, sight⟩ := Option.bind_eq_some_iff.mp h
  refine ⟨c, there, ?_⟩
  cases hc : sought c with
  | some b => simp [hc] at sight
  | none => simpa [hc] using sight

/-- A walk that comes to its end without having found anything has seen everything there is on the way. -/
theorem Arrives.eq_none_iff {start : Option α} {r : Option β} (h : Arrives (sights content sought next) start r) :
    r = none ↔ ∀ a, start = some a → ∀ a', Relation.ReflTransGen (NextTo next) a a' →
      ∀ c, content a' = some c → sought c = none := by
  induction h with
  | nowhere => simp
  | @found a b h =>
    obtain ⟨c, there, here⟩ := sights_found h
    simp only [reduceCtorEq, false_iff]
    intro nothing
    cases here.symm.trans (nothing a rfl a .refl c there)
  | @onward a a' r h rest ih =>
    obtain ⟨c, there, nothing, up⟩ := sights_onward h
    rw [ih]
    constructor
    · rintro further _ ⟨⟩ outer path c' hc'
      rcases Relation.ReflTransGen.cases_head path with rfl | ⟨b, leads, path'⟩
      · cases there.symm.trans hc'
        exact nothing
      · cases up.symm.trans leads
        apply further b rfl outer path' c' hc'
    · rintro further b rfl outer path c' hc'
      apply further a rfl outer (path.head up) c' hc'

/-- What a walk has found is in the first place, on the way, where it could be found. -/
theorem Arrives.found_at {a : α} {b : β} (h : Arrives (sights content sought next) (some a) (some b)) :
    ∃ a', Relation.ReflTransGen (Leads (sights content sought next)) a a' ∧
      ∃ c, content a' = some c ∧ sought c = some b := by
  generalize place : some a = start at h
  generalize result : some b = r at h
  induction h generalizing a with
  | nowhere => cases place
  | @found a b h =>
    cases place
    cases result
    exact ⟨a, .refl, sights_found h⟩
  | @onward a next r h rest ih =>
    cases place
    cases result
    cases next with
    | none => cases rest
    | some a' =>
      obtain ⟨a'', path, there⟩ := ih rfl rfl
      exact ⟨a'', path.head h, there⟩

end

/-! ## Questions about the places -/

/-- Where `S` holds, the question is answered with the truth or fails, and `S` stays. -/
def Honest (S : τ → Prop) (x : EStateM ε τ α) (truth : Option α) : Prop :=
  ∀ s, S s → ∃ s', S s' ∧ ((∃ e, x s = .error e s') ∨ ∃ a, truth = some a ∧ x s = .ok a s')

/-- Where `S` holds, the question is answered if there is an answer, and `S` stays. -/
def Answers (S : τ → Prop) (x : EStateM ε τ α) (truth : Option α) : Prop :=
  ∀ a, truth = some a → ∀ s, S s → ∃ s', S s' ∧ x s = .ok a s'

variable {S : τ → Prop} {s : τ}

theorem Honest.pure (a : α) : Honest S (Pure.pure a : EStateM ε τ α) (some a) :=
  fun s h => ⟨s, h, .inr ⟨a, rfl, rfl⟩⟩

theorem Honest.bind {x : EStateM ε τ α} {truth : Option α} {f : α → EStateM ε τ γ} {g : α → Option γ}
    (hx : Honest S x truth) (hf : ∀ a, truth = some a → Honest S (f a) (g a)) :
    Honest S (x >>= f) (truth.bind g) := by
  intro s h
  obtain ⟨s₁, h₁, ⟨e, failed⟩ | ⟨a, rfl, told⟩⟩ := hx s h
  · refine ⟨s₁, h₁, .inl ⟨e, ?_⟩⟩
    simp only [Bind.bind, EStateM.bind, failed]
  · rw [run_ok_bind told]
    apply hf a rfl s₁ h₁

theorem Answers.pure (a : α) : Answers S (Pure.pure a : EStateM ε τ α) (some a) := by
  rintro _ ⟨⟩ s h
  exact ⟨s, h, rfl⟩

theorem Answers.bind {x : EStateM ε τ α} {truth : Option α} {f : α → EStateM ε τ γ} {g : α → Option γ}
    (hx : Answers S x truth) (hf : ∀ a, truth = some a → Answers S (f a) (g a)) :
    Answers S (x >>= f) (truth.bind g) := by
  intro c hc s h
  obtain ⟨a, rfl, given⟩ := Option.bind_eq_some_iff.mp hc
  obtain ⟨s₁, h₁, told⟩ := hx a rfl s h
  rw [run_ok_bind told]
  apply hf a rfl c given s₁ h₁

theorem Answers.honest {x : EStateM ε τ α} {a : α} (h : Answers S x (some a)) : Honest S x (some a) := by
  intro s hs
  obtain ⟨s', hs', run⟩ := h a rfl s hs
  exact ⟨s', hs', .inr ⟨a, rfl, run⟩⟩

/-- Asks what is in a place, and for the next one if that is not what is sought. -/
def lookFor (content : α → EStateM ε τ γ) (sought : γ → Option β) (next : α → EStateM ε τ (Option α)) (a : α) :
    EStateM ε τ (Sight α β) := do
  match sought (← content a) with
  | some b => return .found b
  | none => return .onward (← next a)

section

variable {ask : α → EStateM ε τ γ} {askNext : α → EStateM ε τ (Option α)} {content : α → Option γ}
  {next : α → Option (Option α)}

theorem lookFor_honest (there : ∀ a, Honest S (ask a) (content a)) (onward : ∀ a, Honest S (askNext a) (next a))
    (sought : γ → Option β) (a : α) : Honest S (lookFor ask sought askNext a) (sights content sought next a) := by
  apply (there a).bind
  intro c _
  cases sought c with
  | some b => exact .pure _
  | none =>
    rw [Option.elim_none, Option.map_eq_bind]
    exact (onward a).bind fun a' _ => .pure _

theorem lookFor_answers (there : ∀ a, Answers S (ask a) (content a)) (onward : ∀ a, Answers S (askNext a) (next a))
    (sought : γ → Option β) (a : α) : Answers S (lookFor ask sought askNext a) (sights content sought next a) := by
  apply (there a).bind
  intro c _
  cases sought c with
  | some b => exact .pure _
  | none =>
    rw [Option.elim_none, Option.map_eq_bind]
    exact (onward a).bind fun a' _ => .pure _

end

/-! ## Where walks lead -/

/-- A question on the way fails, and it is the first to do so. -/
inductive Fails (look : α → EStateM ε τ (Sight α β)) : Option α → τ → ε → τ → Prop
  | here {a : α} {s s' : τ} {e : ε} (h : look a s = .error e s') : Fails look (some a) s e s'
  | later {a : α} {next : Option α} {s s₁ s' : τ} {e : ε} (h : look a s = .ok (.onward next) s₁)
    (rest : Fails look next s₁ e s') : Fails look (some a) s e s'

section

variable {look : α → EStateM ε τ (Sight α β)}

/-- A walk comes to its end, fails where a question fails, or is still on its way when the fuel is used up. -/
theorem follow_cases (honest : ∀ a, Honest S (look a) (links a)) (fuel : Nat) (start : Option α) (h : S s) :
    (∃ a s', start = some a ∧ Far links fuel a ∧ S s' ∧ follow look fuel start s = .ok none s') ∨
      (∃ r s', Arrives links start r ∧ S s' ∧ follow look fuel start s = .ok (some r) s') ∨
        ∃ e s', Fails look start s e s' ∧ S s' ∧ follow look fuel start s = .error e s' := by
  induction fuel generalizing start s with
  | zero =>
    cases start with
    | none => exact .inr (.inl ⟨none, s, .nowhere, h, rfl⟩)
    | some a => exact .inl ⟨a, s, rfl, trivial, h, rfl⟩
  | succ fuel ih =>
    cases start with
    | none => exact .inr (.inl ⟨none, s, .nowhere, h, rfl⟩)
    | some a =>
      obtain ⟨s₁, h₁, ⟨e, failed⟩ | ⟨sight, there, told⟩⟩ := honest a s h
      · refine .inr (.inr ⟨e, s₁, .here failed, h₁, ?_⟩)
        simp only [follow, Bind.bind, EStateM.bind, failed]
      · rw [follow, run_ok_bind told]
        cases sight with
        | found b => exact .inr (.inl ⟨some b, s₁, .found there, h₁, rfl⟩)
        | onward next =>
          obtain ⟨a', s', rfl, far, h', run⟩ | ⟨r, s', arrives, h', run⟩ | ⟨e, s', fails, h', run⟩ := ih next h₁
          · exact .inl ⟨a, s', rfl, ⟨a', there, far⟩, h', run⟩
          · exact .inr (.inl ⟨r, s', .onward there arrives, h', run⟩)
          · exact .inr (.inr ⟨e, s', .later told fails, h', run⟩)

/-- With fuel for every place there is, only a walk that gets into a circle is without an end. -/
theorem follow_ends (honest : ∀ a, Honest S (look a) (links a)) {N : Nat} {key : α → Fin N}
    (distinct : Function.Injective key) {fuel : Nat} (enough : N ≤ fuel) {start : Option α}
    (straight : ∀ a, start = some a → ¬ Circles links a) (h : S s) :
    (∃ r s', Arrives links start r ∧ S s' ∧ follow look fuel start s = .ok (some r) s') ∨
      ∃ e s', Fails look start s e s' ∧ S s' ∧ follow look fuel start s = .error e s' := by
  rcases follow_cases honest fuel start h with ⟨a, -, rfl, far, -, -⟩ | ended
  · apply absurd _ (straight a rfl)
    exact Far.circles (Function.Injective.comp (Fin.castLE_injective enough) distinct) far
  · exact ended

/-- A walk that gets into a circle, where no question fails, goes on for ever. -/
theorem follow_circles (answers : ∀ a, Answers S (look a) (links a)) {a : α} (circles : Circles links a) (h : S s)
    (fuel : Nat) : ∃ s', S s' ∧ follow look fuel (some a) s = .ok none s' := by
  induction fuel generalizing a s with
  | zero => exact ⟨s, h, rfl⟩
  | succ fuel ih =>
    obtain ⟨a', leads, circles'⟩ := circles.onward
    obtain ⟨s₁, h₁, told⟩ := answers a _ leads s h
    rw [follow, run_ok_bind told]
    apply ih circles' h₁

end

end Debugger
