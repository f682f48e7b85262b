import Mathlib.Logic.Relation
import Mathlib.Order.Defs.Unbundled
import Debugger.Schedule

/-! # What an action does, as a relation

An action stays within a relation if it relates the system before to the system after, wherever the
action starts and whether or not it fails.  For a preorder this follows the structure of the action.
-/

namespace Debugger

variable {σ α β : Type}

/-- The state that an action leaves behind, whether or not it fails. -/
def stateAfter {ε σ α : Type} (x : EStateM ε σ α) (s : σ) : σ :=
  match x s with
  | .ok _ s => s
  | .error _ s => s

theorem stateAfter_of_ok {ε σ α : Type} {x : EStateM ε σ α} {s s' : σ} {a : α}
    (h : x s = .ok a s') : stateAfter x s = s' := by rw [stateAfter, h]

theorem stateAfter_of_error {ε σ α : Type} {x : EStateM ε σ α} {s s' : σ} {e : ε}
    (h : x s = .error e s') : stateAfter x s = s' := by rw [stateAfter, h]

theorem run'_of_ok {ε σ α : Type} {x : EStateM ε σ α} {s s' : σ} {a : α} (h : x s = .ok a s') :
    x.run' s = some a := by
  delta EStateM.run' EStateM.run
  rw [h]

theorem run'_of_error {ε σ α : Type} {x : EStateM ε σ α} {s s' : σ} {e : ε} (h : x s = .error e s') :
    x.run' s = none := by
  delta EStateM.run' EStateM.run
  rw [h]

theorem ok_of_run' {ε σ α : Type} {x : EStateM ε σ α} {s : σ} {a : α} (h : x.run' s = some a) :
    x s = .ok a (stateAfter x s) := by
  cases hs : x s with
  | ok b s' =>
    obtain rfl : b = a := Option.some.inj ((run'_of_ok hs).symm.trans h)
    rw [stateAfter_of_ok hs]
  | error e s' => cases (run'_of_error hs).symm.trans h

theorem get_run {ε σ : Type} (s : σ) : (get : EStateM ε σ σ) s = .ok s s := rfl

theorem act_get_bind {ε σ α : Type} (f : σ → EStateM ε σ α) (s : σ) : (get >>= f) s = f s s := rfl

theorem act_modify_bind {ε σ α : Type} (g : σ → σ) (f : Unit → EStateM ε σ α) (s : σ) :
    (modify g >>= f) s = f () (g s) := rfl

theorem stateAfter_get_bind {ε σ α : Type} (f : σ → EStateM ε σ α) (s : σ) :
    stateAfter (get >>= f) s = stateAfter (f s) s := rfl

theorem stateAfter_modify_bind {ε σ α : Type} (g : σ → σ) (f : Unit → EStateM ε σ α) (s : σ) :
    stateAfter (modify g >>= f) s = stateAfter (f ()) (g s) := rfl

theorem stateAfter_bind_ok {ε σ α β : Type} {x : EStateM ε σ α} {f : α → EStateM ε σ β} {s s' : σ}
    {a : α} (h : x s = .ok a s') : stateAfter (x >>= f) s = stateAfter (f a) s' := by
  simp only [stateAfter, bind, EStateM.bind, h]

theorem stateAfter_bind_error {ε σ α β : Type} {x : EStateM ε σ α} {f : α → EStateM ε σ β} {s s' : σ}
    {e : ε} (h : x s = .error e s') : stateAfter (x >>= f) s = s' := by
  simp only [stateAfter, bind, EStateM.bind, h]

theorem attempt_state (op : Client σ α) (s : System σ) :
    ((attempt op : Debug σ _) s).2 = stateAfter op s := by
  simp only [attempt, act, stateAfter]
  cases op s <;> rfl

theorem ask_state (call : Call σ α) (s : System σ) :
    ((ask call : Debug σ _) s).2 = { s with session := stateAfter call s.session } := by
  simp only [ask, act, stateAfter]
  cases call s.session <;> rfl

theorem stateAfter_ask (call : Call σ α) (s : System σ) :
    stateAfter (ask call : Client σ _) s = { s with session := stateAfter call s.session } :=
  ask_state call s

/-! ## Running an action -/

theorem run_get_bind (f : System σ → Debug σ α) (s : System σ) : (get >>= f) s = f s s := rfl

theorem run_modify_bind (g : System σ → System σ) (f : Unit → Debug σ α) (s : System σ) :
    (modify g >>= f) s = f () (g s) := rfl

theorem run_modifyGet_bind (g : System σ → α × System σ) (f : α → Debug σ β) (s : System σ) :
    (modifyGet g >>= f) s = f (g s).1 (g s).2 := rfl

theorem run_bind {x : Debug σ α} {f : α → Debug σ β} {s s' : System σ} {a : α}
    (h : x s = (a, s')) : (x >>= f) s = f a s' := by
  simp only [bind, StateT.bind, h]

theorem run_ask_ok {call : Call σ α} {f : Except SessionError α → Debug σ β} {s : System σ} {a : α}
    {m : σ} (h : call s.session = .ok a m) : (ask call >>= f) s = f (.ok a) { s with session := m } :=
  run_bind (by simp only [ask, act, h])

theorem run_ask_error {call : Call σ α} {f : Except SessionError α → Debug σ β} {s : System σ}
    {e : SessionError} {m : σ} (h : call s.session = .error e m) :
    (ask call >>= f) s = f (.error e) { s with session := m } :=
  run_bind (by simp only [ask, act, h])

theorem attempt_ok {op : Client σ α} {s s' : System σ} {a : α} (h : op s = .ok a s') :
    (attempt op : Debug σ _) s = (.ok a, s') := by simp only [attempt, act, h]

theorem attempt_error {op : Client σ α} {s s' : System σ} {e : DebugError} (h : op s = .error e s') :
    (attempt op : Debug σ _) s = (.error e, s') := by simp only [attempt, act, h]

/-- The second part of an operation that succeeds starts where the first one ended. -/
theorem bind_ok {ε σ α β : Type} {x : EStateM ε σ α} {f : α → EStateM ε σ β} {s s'' : σ} {b : β}
    (h : (x >>= f) s = .ok b s'') : ∃ a s', x s = .ok a s' ∧ f a s' = .ok b s'' := by
  simp only [bind, EStateM.bind] at h
  cases hx : x s with
  | ok a s' =>
    rw [hx] at h
    exact ⟨a, s', rfl, h⟩
  | error e s' =>
    rw [hx] at h
    cases h

/-- What follows an action that succeeds starts where the action ended. -/
theorem run_ok_bind {ε σ α β : Type} {x : EStateM ε σ α} {f : α → EStateM ε σ β} {s s' : σ} {a : α}
    (h : x s = .ok a s') : (x >>= f) s = f a s' := by
  simp only [bind, EStateM.bind, h]

/-- A client's call always gives a result, which may be a failure. -/
theorem ask_ok {call : Call σ α} {s s' : System σ} {r : Except SessionError α}
    (h : (ask call : Client σ _) s = .ok r s') :
    (∃ a m, call s.session = .ok a m ∧ r = .ok a ∧ s' = { s with session := m }) ∨
    (∃ e m, call s.session = .error e m ∧ r = .error e ∧ s' = { s with session := m }) := by
  simp only [ask, act] at h
  cases hc : call s.session with
  | ok a m =>
    rw [hc] at h
    cases h
    exact .inl ⟨a, m, rfl, rfl, rfl⟩
  | error e m =>
    rw [hc] at h
    cases h
    exact .inr ⟨e, m, rfl, rfl, rfl⟩

/-- A call always gives an answer, and leaves everything but the machine alone. -/
theorem ask_answer (call : Call σ α) (s : System σ) :
    ∃ r, (ask call : Debug σ _) s = (r, { s with session := stateAfter call s.session }) :=
  ⟨_, Prod.ext rfl (ask_state call s)⟩

theorem ask_of_ok {call : Call σ α} {s : System σ} {a : α} {m : σ} (h : call s.session = .ok a m) :
    (ask call : Client σ _) s = .ok (.ok a) { s with session := m } := by
  simp only [ask, act, h]

theorem needTarget_alive {s : System σ} (h : s.targetAlive) : needTarget s = .ok () s := by
  simp only [needTarget, act_get_bind, h]
  rfl

theorem needTarget_gone {s : System σ} (h : s.targetAlive = false) :
    needTarget s = .error .targetGone s := by
  simp only [needTarget, act_get_bind, h]
  rfl

theorem askFor_ok {activity : String} {call : Call σ α} {s : System σ} {a : α} {m : σ}
    (h : call s.session = .ok a m) : askFor activity call s = .ok a { s with session := m } := by
  simp only [askFor, bind, EStateM.bind, ask, act, h]
  rfl

theorem askFor_error {activity : String} {call : Call σ α} {s : System σ} {e : SessionError} {m : σ}
    (h : call s.session = .error e m) :
    askFor activity call s = .error (.session activity e) { s with session := m } := by
  simp only [askFor, bind, EStateM.bind, ask, act, h]
  rfl

/-! ## Relating what was before to what is after -/

/-- An action that cannot fail stays within the relation. -/
def Debug.Within (R : System σ → System σ → Prop) (x : Debug σ α) : Prop := ∀ s, R s (x s).2

/-- An operation that may fail stays within the relation. -/
def Within {ε τ α : Type} (R : τ → τ → Prop) (op : EStateM ε τ α) : Prop := ∀ s, R s (stateAfter op s)

section

variable {R R' : System σ → System σ → Prop}

namespace Debug.Within

theorem mono {x : Debug σ α} (hR : ∀ {s s'}, R s s' → R' s s') (h : Debug.Within R x) :
    Debug.Within R' x := fun s => hR (h s)

/-- What follows a look at the system may use that it starts in that system. -/
theorem get_bind {f : System σ → Debug σ α} (h : ∀ s, R s (f s s).2) :
    Debug.Within R (get >>= f) := h

theorem modify {f : System σ → System σ} (h : ∀ s, R s (f s)) :
    Debug.Within R (modify f : Debug σ _) := h

theorem modifyGet {f : System σ → α × System σ} (h : ∀ s, R s (f s).2) :
    Debug.Within R (modifyGet f : Debug σ _) := h

theorem ite {c : Prop} [Decidable c] {x y : Debug σ α} (hx : Debug.Within R x)
    (hy : Debug.Within R y) : Debug.Within R (if c then x else y) := by
  split <;> assumption

theorem ask {call : Call σ α} (h : ∀ s, R s { s with session := stateAfter call s.session }) :
    Debug.Within R (ask call) := fun s => (ask_state call s).symm ▸ h s

theorem attempt {op : Client σ α} (h : Debugger.Within R op) : Debug.Within R (attempt op) :=
  fun s => (attempt_state op s).symm ▸ h s

variable [IsPreorder (System σ) R]

theorem pure (a : α) : Debug.Within R (Pure.pure a) := fun s => refl_of R s

theorem bind {x : Debug σ α} {f : α → Debug σ β} (hx : Debug.Within R x)
    (hf : ∀ a, Debug.Within R (f a)) : Debug.Within R (x >>= f) :=
  fun s => trans_of R (hx s) (hf _ _)

end Debug.Within

end

namespace Within

section

variable {ε τ : Type} {R R' : τ → τ → Prop}

theorem mono {op : EStateM ε τ α} (hR : ∀ {s s'}, R s s' → R' s s') (h : Within R op) :
    Within R' op := fun s => hR (h s)

theorem get_bindAt {f : τ → EStateM ε τ α} {s : τ} (h : R s (stateAfter (f s) s)) :
    R s (stateAfter (get >>= f) s) := h

theorem get_bind {f : τ → EStateM ε τ α} (h : ∀ s, R s (stateAfter (f s) s)) :
    Within R (get >>= f) := h

theorem modify {f : τ → τ} (h : ∀ s, R s (f s)) : Within R (modify f : EStateM ε τ _) := h

theorem modifyGet {f : τ → α × τ} (h : ∀ s, R s (f s).2) :
    Within R (modifyGet f : EStateM ε τ _) := h

theorem ite {c : Prop} [Decidable c] {x y : EStateM ε τ α} (hx : Within R x) (hy : Within R y) :
    Within R (if c then x else y) := by
  split <;> assumption

theorem map {op : EStateM ε τ α} (f : α → β) (h : Within R op) : Within R (f <$> op) := by
  intro s
  have h := h s
  simp only [stateAfter, Functor.map, EStateM.map] at h ⊢
  cases hs : op s with
  | ok a s' => rwa [hs] at h
  | error e s' => rwa [hs] at h

variable [IsPreorder τ R]

theorem pure (a : α) : Within R (Pure.pure a : EStateM ε τ α) := fun s => refl_of R s

theorem throw (e : ε) : Within R (throw e : EStateM ε τ α) := fun s => refl_of R s

/-- What follows an action may use how the action went. -/
theorem bindAt {x : EStateM ε τ α} {f : α → EStateM ε τ β} {s₀ s : τ} (h : R s₀ (stateAfter x s))
    (hf : ∀ a s', x s = .ok a s' → R s' (stateAfter (f a) s')) : R s₀ (stateAfter (x >>= f) s) := by
  simp only [stateAfter, Bind.bind, EStateM.bind] at h ⊢
  cases hxs : x s with
  | ok a s' =>
    rw [hxs] at h
    exact trans_of R h (hf a s' hxs)
  | error e s' => rwa [hxs] at h

theorem bind {x : EStateM ε τ α} {f : α → EStateM ε τ β} (hx : Within R x)
    (hf : ∀ a, Within R (f a)) : Within R (x >>= f) :=
  fun s => bindAt (hx s) fun a s' _ => hf a s'

end

variable {R : System σ → System σ → Prop}

theorem act {x : Debug σ α} (h : Debug.Within R x) : Within R (act x : Client σ α) := h

theorem ask {call : Call σ α} (h : ∀ s, R s { s with session := stateAfter call s.session }) :
    Within R (ask call : Client σ _) := act (Debug.Within.ask h)

theorem attempt {op : Client σ α} (h : Within R op) : Within R (attempt op : Client σ _) :=
  act (Debug.Within.attempt h)

variable [IsPreorder (System σ) R]

theorem askFor {activity : String} {call : Call σ α}
    (h : ∀ s, R s { s with session := stateAfter call s.session }) :
    Within R (askFor activity call) :=
  bind (ask h) fun r => by
    cases r with
    | ok a => exact pure a
    | error e => exact throw _

theorem needTarget : Within R (needTarget : Client σ Unit) :=
  get_bind fun s => by
    split
    · exact refl_of R s
    · exact refl_of R s

end Within

end Debugger
