import Debugger.Proofs.CallReplies

/-! # The end of a connection

Once the receiver hears no more, every call that waits fails, with or without a time limit, and so does
every later one.  No call waits for ever after that, and the table ends up empty.
-/

namespace Debugger.Wire

namespace Intake

/-- The receiver hears no more. -/
def Deaf : Intake → Prop
  | leaving | emptying | closing _ | .over => True
  | _ => False

/-- Calls can know that the connection has ended. -/
def Announced : Intake → Prop
  | emptying | closing _ | .over => True
  | _ => False

/-- The table has been emptied. -/
def Emptied : Intake → Prop
  | closing _ | .over => True
  | _ => False

/-- At most so many calls are still to be told, and then that this is over. -/
def Tells : Intake → Nat → Prop
  | closing ns, k => ns.length < k
  | .over, _ => True
  | _, _ => False

theorem Emptied.announced {i : Intake} (h : i.Emptied) : i.Announced := by
  cases i with
  | closing => exact trivial
  | «over» => exact trivial
  | _ => exact h.elim

/-- How the receiver can go on. -/
inductive Next : Intake → Intake → Prop
  | matched (n : Nat) (reply : Reply) : Next listening (handing n reply)
  | hand (n : Nat) (reply : Reply) : Next (handing n reply) listening
  | leave : Next listening leaving
  | announce : Next leaving emptying
  | empty (ns : List Nat) : Next emptying (closing ns)
  | tell (n : Nat) (ns : List Nat) : Next (closing (n :: ns)) (closing ns)
  | done : Next (closing []) .over

namespace Next

variable {i i' : Intake}

theorem deaf (h : Next i i') (hi : i.Deaf) : i'.Deaf := by
  cases h <;> first | exact trivial | exact hi.elim

theorem announced (h : Next i i') (hi : i.Announced) : i'.Announced := by
  cases h <;> first | exact trivial | exact hi.elim

theorem emptied (h : Next i i') (hi : i.Emptied) : i'.Emptied := by
  cases h <;> first | exact trivial | exact hi.elim

theorem tells {k : Nat} (h : Next i i') (hi : i.Tells k) : i'.Tells k := by
  cases h with
  | tell => exact Nat.lt_of_succ_lt hi
  | done => exact trivial
  | _ => exact hi.elim

end Next

end Intake

namespace Connection

variable {c c' : Connection} {a : Action} {as bs : List Action} {n m j : Nat} {id : UInt32} {st : CallStage}

/-- What is the case from the time on when the receiver hears no more: calls can know it, and once the table
is empty every call that sleeps has been told, or will be. -/
structure WindsUp (c : Connection) : Prop where
  ended : c.intake.Announced → c.ended
  served {n : Nat} {id : UInt32} {limit : Option Nat} : c.intake.Emptied →
    c.stage? n = some (.waiting id limit true) → c.Served n

/-- The receiver stays at what it is about, or goes on. -/
theorem Turn.intake (h : Turn c a c') : c'.intake = c.intake ∨ c.intake.Next c'.intake := by
  cases h with
  | aside _ _ _ _ intake => exact .inl intake
  | matched hi => exact .inr (hi ▸ .matched _ _)
  | hand hi => exact .inr (hi ▸ .hand _ _)
  | leave _ hi => exact .inr (hi ▸ .leave)
  | announce hi => exact .inr (hi ▸ .announce)
  | empty hi => exact .inr (hi ▸ .empty _)
  | tell hi => exact .inr (hi ▸ .tell _ _)
  | done hi => exact .inr (hi ▸ .done)
  | _ => exact .inl rfl

theorem Turn.intake_keeps (h : Turn c a c') {P : Intake → Prop} (keeps : ∀ {i i'}, Intake.Next i i' → P i → P i')
    (hi : P c.intake) : P c'.intake := by
  rcases h.intake with same | next
  · exact same ▸ hi
  · exact keeps next hi

theorem Turn.ended_stays (h : Turn c a c') (he : c.ended) : c'.ended := by
  cases h with
  | aside _ _ _ _ _ ended => exact ended he
  | announce => rfl
  | _ => exact he

/-- The receiver winds up step by step, and the emptying of the table is one. -/
theorem Turn.intake_before (h : Turn c a c') :
    (c'.intake.Announced → c.intake.Announced ∨ c'.ended) ∧
      (c'.intake.Emptied → c.intake.Emptied ∨
        c.intake = .emptying ∧ c' = { c with intake := .closing c.pending.values, pending := .empty }) := by
  cases h with
  | aside _ _ _ _ intake => exact ⟨fun h => .inl (intake ▸ h), fun h => .inl (intake ▸ h)⟩
  | matched => exact ⟨False.elim, False.elim⟩
  | hand => exact ⟨False.elim, False.elim⟩
  | leave => exact ⟨False.elim, False.elim⟩
  | announce => exact ⟨fun _ => .inr rfl, False.elim⟩
  | empty hi => exact ⟨fun _ => .inl (hi ▸ trivial), fun _ => .inr ⟨hi, rfl⟩⟩
  | tell hi => exact ⟨fun _ => .inl (hi ▸ trivial), fun _ => .inl (hi ▸ trivial)⟩
  | done hi => exact ⟨fun _ => .inl (hi ▸ trivial), fun _ => .inl (hi ▸ trivial)⟩
  | _ => exact ⟨.inl, .inl⟩

theorem Turn.windsUp (h : Turn c a c') (ho : c.Orderly) (hw : c.WindsUp) : c'.WindsUp where
  ended hi := by
    rcases h.intake_before.1 hi with before | ended
    · exact h.ended_stays (hw.ended before)
    · exact ended
  served {n id limit} hi hs := by
    rcases h.intake_before.2 hi with before | ⟨emptying, rfl⟩
    · rcases h.stage_before hs with same | ⟨st, -, next⟩ | ⟨-, first⟩
      · exact h.served_stays ho.known (hw.served before same)
      · cases next with
        | sleep id limit hm he =>
          rw [hw.ended before.announced] at he
          cases he
      · rw [firstStage] at first
        split at first <;> cases first
    · by_cases served : c.Served n
      · exact h.served_stays ho.known served
      · exact .inl (ho.keyed.mem_values.mpr ⟨id, (ho.tabled id n).mpr ⟨registered?_of_stage hs, served⟩⟩)

theorem windsUp_new (limit : Option Nat) (capacity : Nat) : (new limit capacity).WindsUp :=
  ⟨False.elim, fun h => h.elim⟩

theorem WindsUp.performAll (hw : c.WindsUp) (ho : c.Orderly) (as : List Action)
    (few : (c.performAll as).calls.size < UInt32.size) : (c.performAll as).WindsUp := by
  induction as generalizing c with
  | nil => exact hw
  | cons a as ih =>
    have turn := perform_turn c a
    have earlier := Nat.le_trans turn.size_le (size_le_performAll (c.perform a) as)
    exact ih (turn.windsUp ho hw) (turn.orderly (Nat.lt_of_le_of_lt earlier few) ho) few

/-! ## Calls that the end of the connection finds -/

theorem Turn.over_stays (h : Turn c a c') (hi : c.intake = .over) : c'.intake = .over :=
  h.intake_keeps (P := (· = .over)) (fun next hi => by cases next <;> cases hi) hi

/-- There is no mail from a receiver that is done. -/
theorem Turn.mail_stays (h : Turn c a c') (hi : c.intake = .over) (n : Nat) : c'.mail? n = c.mail? n := by
  rcases h.mail n with same | ⟨reply, hh, -⟩ | ⟨ns, hh, -⟩
  · exact same
  · cases hh.symm.trans hi
  · cases hh.symm.trans hi

/-- The call was to wait for no time at all. -/
def Hasty (c : Connection) (as : List Action) (n : Nat) : Prop :=
  ∃ k id, (c.performAll (as.take k)).stage? n = some (.waiting id (some 0) false)

/-- Why a call can fail that the end of the connection finds: out of reach the machine is, unless the call is not
told so and waits for no time at all. -/
def Fails (c : Connection) (as : List Action) (n : Nat) (e : WireError) : Prop :=
  e.isDisconnect ∨ e = .timeout ∧ c.mail? n = none ∧ Hasty c as n

theorem Hasty.concat (h : Hasty c as n) (a : Action) : Hasty c (as ++ [a]) n := by
  obtain ⟨k, id, hs⟩ := h
  refine ⟨min k as.length, id, ?_⟩
  rw [List.take_append_of_le_length (Nat.min_le_right _ _), ← List.take_eq_take_min]
  exact hs

theorem Fails.concat {e : WireError} (h : Fails c as n e) (a : Action) : Fails c (as ++ [a]) n e :=
  h.imp_right fun ⟨he, hm, hasty⟩ => ⟨he, hm, hasty.concat a⟩

/-- How it goes on with a call that had not given up when the receiver was done. -/
inductive Fate (c : Connection) (as : List Action) (n : Nat) : CallStage → Prop
  | open {st : CallStage} (h : 2 ≤ st.rank) : Fate c as n st
  | leaving {e : WireError} (id : UInt32) (h : Fails c as n e) : Fate c as n (.leaving id e)
  | failed {e : WireError} (i : Option UInt32) (h : Fails c as n e) : Fate c as n (.finished i (.error e))
  | read {mail : Except WireError Reply} (i : Option UInt32) (h : c.mail? n = some mail) :
    Fate c as n (.finished i (mail.bind Reply.result))

theorem Fate.concat (h : Fate c as n st) (a : Action) : Fate c (as ++ [a]) n st := by
  cases h with
  | «open» h => exact .open h
  | leaving id h => exact .leaving id (h.concat a)
  | failed i h => exact .failed i (h.concat a)
  | read i h => exact .read i h

/-- Whatever is done then, that is how it goes on. -/
theorem fate (hi : c.intake = .over) (hw : c.WindsUp) (ho : c.Orderly) (hs : c.stage? n = some st)
    (waits : 2 ≤ st.rank) (as : List Action) (few : (c.performAll as).calls.size < UInt32.size) :
    ∃ st', (c.performAll as).stage? n = some st' ∧ Fate c as n st' := by
  induction as using List.reverseRecOn with
  | nil => exact ⟨st, hs, .open waits⟩
  | append_singleton as a ih =>
    have turn := perform_turn (c.performAll as) a
    rw [performAll_concat] at few
    have fewer := Nat.lt_of_le_of_lt turn.size_le few
    obtain ⟨st₁, hs₁, fate⟩ := ih fewer
    have still : (c.performAll as).intake = .over ∧ (c.performAll as).mail? n = c.mail? n :=
      performAll_keeps (P := fun d => d.intake = .over ∧ d.mail? n = c.mail? n)
        (fun turn h => ⟨turn.over_stays h.1, (turn.mail_stays h.1 n).trans h.2⟩) ⟨hi, rfl⟩ as
    have hw₁ := hw.performAll ho as fewer
    rw [performAll_concat]
    rcases turn.stage hs₁ with same | ⟨st₂, next, moved⟩
    · exact ⟨st₁, same, fate.concat a⟩
    refine ⟨st₂, moved, ?_⟩
    cases fate with
    | «open» rank =>
      cases next with
      | number => exact .open (by decide : 2 ≤ 5)
      | register id => exact .open (by decide : 2 ≤ 4)
      | sent id => exact .open (by decide : 2 ≤ 3)
      | sleep id limit hm he => exact .open (by decide : 2 ≤ 2)
      | unsent id text => exact .leaving id (.inl rfl)
      | cancel id limit asleep he => exact .leaving id (.inl rfl)
      | collect id limit asleep hm => exact .read _ (still.2 ▸ hm)
      | withdraw id e => exact absurd rank (by decide : ¬ 2 ≤ 1)
      | @expire id ms asleep hm hs =>
        have awake : asleep = false := Bool.eq_false_iff.mpr fun sleeps => by
          have served := hw₁.served (still.1 ▸ trivial) (sleeps ▸ hs₁)
          rcases served with held | mail
          · rw [still.1] at held
            exact held
          · rw [hm] at mail
            cases mail
        have zero : ms = 0 := hs.resolve_left (by simp [awake])
        refine .leaving id (.inr ⟨rfl, still.2 ▸ hm, as.length, id, ?_⟩)
        rw [List.take_left', ← zero, ← awake]
        · exact hs₁
        · rfl
    | leaving id h =>
      cases next with
      | withdraw => exact .failed _ (h.concat a)
    | failed => cases next
    | read => cases next

/-! ## Calls that come later -/

/-- A connection that has ended turns calls away. -/
theorem turnedAway (he : c.ended) (as : List Action) (hn : c.calls.size ≤ n)
    (hl : n < (c.performAll as).calls.size) :
    (c.performAll as).stage? n = some (.finished none (.error .closed)) := by
  have kept : (c.performAll as).ended ∧ ∀ st, (c.performAll as).stage? n = some st →
      st = .finished none (.error .closed) := by
    refine performAll_keeps (P := fun d => d.ended ∧ ∀ st, d.stage? n = some st → st = .finished none (.error .closed))
      (fun {d d' a} turn h => ⟨turn.ended_stays h.1, fun st hst => ?_⟩) ⟨he, fun st hst => ?_⟩ as
    · rcases turn.stage_before hst with same | ⟨st₀, hst₀, next⟩ | ⟨-, first⟩
      · exact h.2 st same
      · cases h.2 st₀ hst₀
        cases next
      · rw [first, firstStage, if_pos h.1]
    · rw [stage?_of_size_le hn] at hst
      cases hst
  have there : (c.performAll as).stage? n = some (c.performAll as).calls[n].stage := by
    rw [stage?, Array.getElem?_eq_getElem hl]
    rfl
  rw [there, kept.2 _ there]

/-- When every call is over, the table is empty. -/
theorem Orderly.pending_empty (ho : c.Orderly)
    (h : ∀ n, n < c.calls.size → ∃ i r, c.stage? n = some (.finished i r)) : c.pending = .empty := by
  cases hp : c.pending with
  | mk entries =>
    cases entries with
    | nil => rfl
    | cons e es =>
      have found : c.pending.find? e.1 = some e.2 := by
        rw [ho.keyed.find?_eq_some_iff, hp]
        exact List.mem_cons_self
      have waits := ((ho.tabled _ _).mp found).1
      obtain ⟨st, hst, hr⟩ := Option.bind_eq_some_iff.mp waits
      obtain ⟨i, r, finished⟩ := h _ (lt_size_of_stage hst)
      cases hst.symm.trans finished
      cases hr

/-! ## No call waits for ever -/

/-- The turns by which a call comes to its end. -/
def ownTurns (n : Nat) (failure : Option String) : List Action :=
  [.number n, .register n, .write n failure, .cancel n, .withdraw n]

/-- The connection has ended, and the call is that near its end. -/
def Nears (c : Connection) (n k : Nat) : Prop := c.ended ∧ ∃ st, c.stage? n = some st ∧ st.rank ≤ k

theorem Next.rank_lt {st' : CallStage} (h : c.Next n st st') : st'.rank < st.rank := by
  cases h with
  | number => exact (by decide : 5 < 6)
  | register => exact (by decide : 4 < 5)
  | sent => exact (by decide : 3 < 4)
  | unsent => exact (by decide : 1 < 4)
  | sleep => exact (by decide : 2 < 3)
  | @expire id ms asleep => cases asleep <;> exact Nat.succ_le_succ (Nat.succ_le_succ (Nat.zero_le _))
  | cancel id limit asleep => cases asleep <;> exact Nat.succ_le_succ (Nat.succ_le_succ (Nat.zero_le _))
  | collect id limit asleep => cases asleep <;> exact Nat.succ_pos _
  | withdraw => exact Nat.one_pos

theorem Turn.nears_stays {k : Nat} (h : Turn c a c') (hn : c.Nears n k) : c'.Nears n k := by
  obtain ⟨he, st, hst, rank⟩ := hn
  refine ⟨h.ended_stays he, ?_⟩
  rcases h.stage hst with same | ⟨st', next, moved⟩
  · exact ⟨st, same, rank⟩
  · exact ⟨st', moved, Nat.le_of_lt (Nat.lt_of_lt_of_le next.rank_lt rank)⟩

/-- The actions lead from one property to another, whatever else is done in between. -/
def Leads (P : Connection → Prop) (as : List Action) (Q : Connection → Prop) : Prop :=
  ∀ c, P c → ∀ bs, as.Sublist bs → Q (c.performAll bs)

theorem leads_nil {P : Connection → Prop} (stays : ∀ {c c' a}, Turn c a c' → P c → P c') : Leads P [] P :=
  fun _ hc bs _ => performAll_keeps stays hc bs

theorem Leads.cons {P P' Q : Connection → Prop} (h : Leads P' as Q)
    (stays : ∀ {c c' a}, Turn c a c' → P c → P c') (leads : ∀ c, P c → P' (c.perform a)) : Leads P (a :: as) Q := by
  intro c hc bs hb
  induction bs generalizing c with
  | nil => cases hb
  | cons b bs ih =>
    cases hb with
    | cons _ hb => exact ih _ (stays (perform_turn c b) hc) hb
    | cons_cons _ hb => exact h _ (leads c hc) _ hb

/-- A turn brings a call nearer to its end that is not that near yet. -/
theorem Nears.perform {k l : Nat} (hn : c.Nears n k) (a : Action)
    (goes : c.ended → ∀ st, c.stage? n = some st → st.rank ≤ k → l < st.rank →
      ∃ st', (c.perform a).stage? n = some st' ∧ st'.rank ≤ l) : (c.perform a).Nears n l := by
  have turn := perform_turn c a
  obtain ⟨he, st, hst, rank⟩ := hn
  by_cases near : st.rank ≤ l
  · exact turn.nears_stays ⟨he, st, hst, near⟩
  · exact ⟨turn.ended_stays he, goes he st hst rank (Nat.lt_of_not_le near)⟩

private theorem number_nears (hn : c.Nears n 6) : (c.perform (.number n)).Nears n 5 := by
  refine hn.perform _ fun _ st hst _ far => ?_
  cases st with
  | admitted =>
    rw [perform, number, hst]
    exact ⟨_, stage?_setStage_self hst, Nat.le_refl 5⟩
  | waiting id limit asleep => cases asleep <;> simp [CallStage.rank] at far
  | _ => simp [CallStage.rank] at far

private theorem register_nears (hn : c.Nears n 5) : (c.perform (.register n)).Nears n 4 := by
  refine hn.perform _ fun _ st hst near far => ?_
  cases st with
  | admitted => simp [CallStage.rank] at near
  | numbered id =>
    rw [perform, register, hst]
    exact ⟨_, stage?_setStage_self hst, Nat.le_refl 4⟩
  | waiting id limit asleep => cases asleep <;> simp [CallStage.rank] at far
  | _ => simp [CallStage.rank] at far

private theorem write_nears (failure : Option String) (hn : c.Nears n 4) :
    (c.perform (.write n failure)).Nears n 3 := by
  refine hn.perform _ fun _ st hst near far => ?_
  cases st with
  | admitted => simp [CallStage.rank] at near
  | numbered id => simp [CallStage.rank] at near
  | writing id =>
    rw [perform, write.eq_def, hst]
    cases failure with
    | none => exact ⟨_, stage?_setStage_self hst, Nat.le_refl 3⟩
    | some text => exact ⟨_, stage?_setStage_self hst, (by decide : 1 ≤ 3)⟩
  | waiting id limit asleep => cases asleep <;> simp [CallStage.rank] at far
  | _ => simp [CallStage.rank] at far

private theorem cancel_nears (hn : c.Nears n 3) : (c.perform (.cancel n)).Nears n 1 := by
  refine hn.perform _ fun he st hst near far => ?_
  cases st with
  | waiting id limit asleep =>
    rw [perform, cancel, hst]
    dsimp only
    rw [if_pos he]
    exact ⟨_, stage?_setStage_self hst, Nat.le_refl 1⟩
  | leaving id e => simp [CallStage.rank] at far
  | finished i r => simp [CallStage.rank] at far
  | _ => simp [CallStage.rank] at near

private theorem withdraw_nears (hn : c.Nears n 1) : (c.perform (.withdraw n)).Nears n 0 := by
  refine hn.perform _ fun _ st hst near far => ?_
  cases st with
  | leaving id e =>
    rw [perform, withdraw, hst]
    exact ⟨_, stage?_setStage_self hst, Nat.le_refl 0⟩
  | finished i r => simp [CallStage.rank] at far
  | waiting id limit asleep => cases asleep <;> simp [CallStage.rank] at near
  | _ => simp [CallStage.rank] at near

/-- Once the connection has ended, a call that takes its turns comes to its end. -/
theorem ownTurns_lead (n : Nat) (failure : Option String) :
    Leads (fun c => c.Nears n 6) (ownTurns n failure) (fun c => c.Nears n 0) := by
  have stays {k : Nat} {c c' : Connection} {a : Action} (turn : Turn c a c') (h : c.Nears n k) : c'.Nears n k :=
    turn.nears_stays h
  have struck := (leads_nil (P := fun c => c.Nears n 0) stays).cons stays fun _ => withdraw_nears
  have cancelled := struck.cons stays fun _ => cancel_nears
  have written := cancelled.cons stays fun _ => write_nears failure
  have registered := written.cons stays fun _ => register_nears
  exact registered.cons stays fun _ => number_nears

/-! ## The receiver winds up -/

theorem Turn.deaf_stays (h : Turn c a c') (hi : c.intake.Deaf) : c'.intake.Deaf :=
  h.intake_keeps Intake.Next.deaf hi

theorem Turn.announced_stays (h : Turn c a c') (hi : c.intake.Announced) : c'.intake.Announced :=
  h.intake_keeps Intake.Next.announced hi

theorem Turn.emptied_stays (h : Turn c a c') (hi : c.intake.Emptied) : c'.intake.Emptied :=
  h.intake_keeps Intake.Next.emptied hi

theorem Turn.tells_stays {k : Nat} (h : Turn c a c') (hi : c.intake.Tells k) : c'.intake.Tells k :=
  h.intake_keeps (P := (·.Tells k)) Intake.Next.tells hi

private theorem announce_announced (hi : c.intake.Deaf) : (c.perform .announce).intake.Announced := by
  rw [perform, announce]
  split
  · exact trivial
  · cases h : c.intake <;> simp_all [Intake.Deaf, Intake.Announced]

private theorem empty_emptied (hi : c.intake.Announced) : (c.perform .empty).intake.Emptied := by
  rw [perform, empty]
  split
  · exact trivial
  · cases h : c.intake <;> simp_all [Intake.Announced, Intake.Emptied]

private theorem tell_tells {k : Nat} (hi : c.intake.Tells (k + 1)) : (c.perform .tell).intake.Tells k := by
  rw [perform, tell]
  cases h : c.intake with
  | «over» =>
    dsimp only
    rw [h]
    exact trivial
  | closing ns =>
    rw [h] at hi
    cases ns with
    | nil => exact trivial
    | cons n ns => exact Nat.lt_of_succ_lt_succ hi
  | _ => exact (h ▸ hi :).elim

/-- The receiver announces the end and empties the table. -/
theorem windUp_leads : Leads (fun c => c.intake.Deaf) [.announce, .empty] (fun c => c.intake.Emptied) := by
  have emptied := (leads_nil (P := fun c => c.intake.Emptied) fun turn h => turn.emptied_stays h).cons
    (fun turn h => turn.announced_stays h) fun _ => empty_emptied
  exact emptied.cons (fun turn h => turn.deaf_stays h) fun _ => announce_announced

private theorem tell_leads (k : Nat) :
    Leads (fun c => c.intake.Tells k) (List.replicate k .tell) (fun c => c.intake.Tells 0) := by
  induction k with
  | zero => exact leads_nil fun turn h => turn.tells_stays h
  | succ k ih => exact ih.cons (fun turn h => turn.tells_stays h) fun _ => tell_tells

/-- With the table empty, the receiver is done when it has told all who waited. -/
theorem over_of_emptied (hi : c.intake.Emptied) :
    ∃ k, ∀ bs, (List.replicate k Action.tell).Sublist bs → (c.performAll bs).intake = .over := by
  have done {i : Intake} (h : i.Tells 0) : i = .over := by
    cases i with
    | «over» => rfl
    | closing ns => exact absurd h (Nat.not_lt_zero _)
    | _ => exact h.elim
  have soon : ∃ k, c.intake.Tells k := by
    cases h : c.intake with
    | «over» => exact ⟨0, trivial⟩
    | closing ns => exact ⟨ns.length + 1, Nat.lt_succ_self _⟩
    | _ => exact (h ▸ hi :).elim
  obtain ⟨k, tells⟩ := soon
  exact ⟨k, fun bs hb => done (tell_leads k c tells bs hb)⟩


/-! ## Calls that the table held -/

/-- The call is among those that are told of the end, or has been. -/
def Told (c : Connection) (n : Nat) : Prop :=
  (∃ ns, c.intake = .closing ns ∧ n ∈ ns) ∨ c.intake.Emptied ∧ c.mail? n = some (.error .closed)

theorem Turn.told_stays (h : Turn c a c') (hk : c.Known) (ht : c.Told n) : c'.Told n := by
  rcases ht with ⟨ns, hi, hn⟩ | ⟨hi, hm⟩
  · obtain ⟨st, hst, -⟩ := hk n (.inl (hi ▸ hn))
    cases h with
    | aside _ _ _ _ intake => exact .inl ⟨ns, intake.trans hi, hn⟩
    | matched hl => cases hl.symm.trans hi
    | hand hl => cases hl.symm.trans hi
    | leave _ hl => cases hl.symm.trans hi
    | announce hl => cases hl.symm.trans hi
    | empty hl => cases hl.symm.trans hi
    | @tell m ms hl =>
      obtain rfl := Intake.closing.inj (hi.symm.trans hl)
      rcases List.mem_cons.mp hn with rfl | hn
      · exact .inr ⟨trivial, mail?_setMail_self hst _⟩
      · exact .inl ⟨ms, rfl, hn⟩
    | done hl =>
      obtain rfl := Intake.closing.inj (hi.symm.trans hl)
      cases hn
    | _ => exact .inl ⟨ns, hi, hn⟩
  · refine .inr ⟨h.emptied_stays hi, ?_⟩
    rcases h.mail n with same | ⟨reply, handing, -⟩ | ⟨ns, -, told⟩
    · exact same.trans hm
    · rw [handing] at hi
      exact hi.elim
    · exact told

theorem told_performAll (ho : c.Orderly) (few : (c.performAll as).calls.size < UInt32.size) (ht : c.Told n) :
    (c.performAll as).Told n := by
  induction as generalizing c with
  | nil => exact ht
  | cons a as ih =>
    have turn := perform_turn c a
    have earlier := Nat.le_trans turn.size_le (size_le_performAll (c.perform a) as)
    exact ih (turn.orderly (Nat.lt_of_le_of_lt earlier few) ho) few (turn.told_stays ho.known ht)

/-- Whoever the table holds when it is emptied is told. -/
theorem told_empty (ho : c.Orderly) (hi : c.intake = .emptying) (found : c.pending.find? id = some n) :
    (c.perform .empty).Told n := by
  refine .inl ⟨c.pending.values, ?_, ho.keyed.mem_values.mpr ⟨id, found⟩⟩
  rw [perform, Connection.empty, hi]

/-! ## Replies and the end -/

/-- Every reply completes the call of its own command, if that still waits, and nothing else. -/
structure Delivered (c : Connection) (as : List Action) : Prop where
  /-- What a call returns is the payload of a reply to its own command. -/
  returned {n : Nat} {i : Option UInt32} {payload : Bytes} :
    (c.performAll as).stage? n = some (.finished i (.ok payload)) →
      ∃ k p, Completes c as k p n ∧ i = some p.id ∧ p.code = 0 ∧ p.payload = payload
  /-- So is the error code with which it is refused. -/
  refused {n : Nat} {i : Option UInt32} {code : UInt16} :
    (c.performAll as).stage? n = some (.finished i (.error (.refused code))) →
      ∃ k p, Completes c as k p n ∧ i = some p.id ∧ p.code = code
  /-- A packet completes one call. -/
  single {k n m : Nat} {p p' : Packet} : Completes c as k p n → Completes c as k p' m → n = m
  /-- A call is completed by one packet. -/
  once {j k n : Nat} {p p' : Packet} : Completes c as j p n → Completes c as k p' n → j = k
  /-- A reply to a call whose time was up completes none. -/
  late {j k n m : Nat} {p : Packet} : (c.performAll (as.take j)).GaveUp n .timeout →
    (c.performAll (as.take j)).id? n = some p.id → ¬ Completes c as k p m
  table (id : UInt32) (n : Nat) : (c.performAll as).pending.find? id = some n ↔ (c.performAll as).Waits n id

/-- The receiver is done after the first `j` actions: nobody gets anything but a failure any more, and nothing is
left in the table. -/
structure Concluded (c : Connection) (as : List Action) (j : Nat) : Prop where
  /-- A call that the table held when it was emptied, and that did not give up. -/
  waiting {k n : Nat} {id : UInt32} {st : CallStage} {i : Option UInt32} {r : Except WireError Bytes} :
    as[k]? = some .empty → (c.performAll (as.take k)).intake = .emptying →
      (c.performAll (as.take k)).pending.find? id = some n →
      (c.performAll (as.take j)).stage? n = some st → 2 ≤ st.rank →
      (c.performAll as).stage? n = some (.finished i r) → ∃ e, r = .error e ∧ e.isDisconnect
  /-- A call to which nothing was replied, be it that it was not even in the table yet. -/
  unanswered {n : Nat} {st : CallStage} {i : Option UInt32} {r : Except WireError Bytes} :
    (c.performAll (as.take j)).stage? n = some st → 2 ≤ st.rank →
      (∀ reply, (c.performAll (as.take j)).mail? n ≠ some (.ok reply)) →
      (c.performAll as).stage? n = some (.finished i r) →
      ∃ e, r = .error e ∧ Fails (c.performAll (as.take j)) (as.drop j) n e
  /-- A call that begins later. -/
  later {n : Nat} : (c.performAll (as.take j)).calls.size ≤ n → n < (c.performAll as).calls.size →
    (c.performAll as).stage? n = some (.finished none (.error .closed))
  cleared : (∀ n, n < (c.performAll as).calls.size → ∃ i r, (c.performAll as).stage? n = some (.finished i r)) →
    (c.performAll as).pending = .empty

section

variable {limit : Option Nat} {capacity : Nat}

theorem delivered (few : ((new limit capacity).performAll as).calls.size < UInt32.size) :
    Delivered (new limit capacity) as := by
  have reads {p : Packet} {reply : Reply} (h : p.reply? = some reply) : reply = ⟨p.code, p.payload⟩ := by
    rw [Packet.reply?] at h
    split at h
    · exact (Option.some.inj h).symm
    · cases h
  constructor
  case returned =>
    intro n i payload hs
    obtain ⟨k, p, reply, completes, hid, hr, hp⟩ := completes_of_finished few hs (fun _ => (nomatch ·))
    rw [Reply.result, reads hr] at hp
    split at hp
    · exact ⟨k, p, completes, hid, ‹_›, (Except.ok.inj hp).symm⟩
    · cases hp
  case refused =>
    intro n i code hs
    obtain ⟨k, p, reply, completes, hid, hr, hp⟩ :=
      completes_of_finished few hs fun e he => ⟨code, (Except.error.inj he).symm⟩
    rw [Reply.result, reads hr] at hp
    split at hp
    · cases hp
    · exact ⟨k, p, completes, hid, (WireError.refused.inj (Except.error.inj hp)).symm⟩
  case single => exact fun h h' => h.1.call_eq h'.1
  case once => exact fun h h' => h.1.index_eq few h'.1
  case late => exact fun expired hid => not_completes_late few expired hid _
  case table => exact ((orderly_new limit capacity).performAll as few).tabled

private theorem unanswered_fails {c d : Connection} {r : Except WireError Bytes} {i : Option UInt32}
    (hi : c.intake = .over) (hw : c.WindsUp) (ho : c.Orderly) (few : (c.performAll as).calls.size < UInt32.size)
    (told : ∀ e, c.mail? n = some (.error e) → e = .closed) (hs : c.stage? n = some st) (waits : 2 ≤ st.rank)
    (unanswered : ∀ reply, c.mail? n ≠ some (.ok reply)) (hd : c.performAll as = d)
    (hf : d.stage? n = some (.finished i r)) : ∃ e, r = .error e ∧ Fails c as n e := by
  subst hd
  obtain ⟨st', hst', fate⟩ := fate hi hw ho hs waits as few
  obtain rfl := Option.some.inj (hst'.symm.trans hf)
  cases fate with
  | «open» rank => exact absurd rank (by decide : ¬ 2 ≤ 0)
  | failed _ h => exact ⟨_, rfl, h⟩
  | @read mail _ hm =>
    cases mail with
    | ok reply => exact (unanswered reply hm).elim
    | error e =>
      obtain rfl := told e hm
      exact ⟨.closed, rfl, .inl rfl⟩

theorem concluded (few : ((new limit capacity).performAll as).calls.size < UInt32.size)
    (hi : ((new limit capacity).performAll (as.take j)).intake = .over) :
    Concluded (new limit capacity) as j := by
  have fewer := few_take few j
  have ho := (orderly_new limit capacity).performAll _ fewer
  have hw := (windsUp_new limit capacity).performAll (orderly_new limit capacity) _ fewer
  have rest := (performAll_drop (new limit capacity) as j).symm
  have told {n : Nat} {e : WireError} := (traced limit capacity _ fewer).told (n := n) (e := e)
  constructor
  case waiting =>
    intro k n id st i r emptied hk found hs waits hf
    have before : k < j := Nat.lt_of_not_le fun hjk => by
      have late : ((new limit capacity).performAll (as.take k)).intake = .over := by
        rw [performAll_take _ as hjk]
        exact performAll_keeps (P := fun c => c.intake = .over) Turn.over_stays hi _
      cases late.symm.trans hk
    have mail : ((new limit capacity).performAll (as.take j)).mail? n = some (.error .closed) := by
      have start := told_empty ((orderly_new limit capacity).performAll _ (few_take few k)) hk found
      rw [← performAll_concat, ← Option.toList_some, ← emptied, ← List.take_add_one] at start
      have later := performAll_take (new limit capacity) as before
      have held := told_performAll ((orderly_new limit capacity).performAll _ (few_take few (k + 1)))
        (later ▸ fewer) start
      rw [← later] at held
      rcases held with ⟨ns, closing, -⟩ | ⟨-, mail⟩
      · cases closing.symm.trans hi
      · exact mail
    obtain ⟨e, rfl, fails⟩ := unanswered_fails hi hw ho (rest ▸ few) (fun _ => told) hs waits
      (fun reply hm => nomatch mail.symm.trans hm) rest hf
    refine ⟨e, rfl, fails.resolve_right fun h => ?_⟩
    cases mail.symm.trans h.2.1
  case unanswered =>
    intro n st i r hs waits unanswered hf
    exact unanswered_fails hi hw ho (rest ▸ few) (fun _ => told) hs waits unanswered rest hf
  case later =>
    intro n hn hl
    rw [← rest] at hl ⊢
    exact turnedAway (hw.ended (hi ▸ trivial)) _ hn hl
  case cleared => exact ((orderly_new limit capacity).performAll as few).pending_empty

/-- After the receiver has taken its turns, the end is known. -/
private theorem ended_of_windUp (ended : c.intake.Announced → c.ended) (hi : c.intake.Deaf)
    (turns : [Action.announce, .empty].Sublist bs) : (c.performAll bs).ended := by
  have known : (c.performAll bs).intake.Announced → (c.performAll bs).ended :=
    performAll_keeps (P := fun c => c.intake.Announced → c.ended)
      (fun turn h hi => (turn.intake_before.1 hi).elim (fun before => turn.ended_stays (h before)) id) ended bs
  exact known (windUp_leads c hi bs turns).announced

/-- Replies reach their own calls, and no call waits for ever on a connection that has ended.  The parties take
their turns in any order: a reply completes the call that waits under its number, late and unknown replies
complete none, and the table holds the calls that wait.  Once the receiver is done, whoever waits fails, and so
does whoever comes later.  From the moment it hears no more, its own turns make it so, and the turns of a
call bring the call to its end. -/
theorem replies_reach_their_calls (limit : Option Nat) (capacity : Nat) (as : List Action)
    (few : ((new limit capacity).performAll as).calls.size < UInt32.size) :
    Delivered (new limit capacity) as ∧
      (∀ j, ((new limit capacity).performAll (as.take j)).intake = .over → Concluded (new limit capacity) as j) ∧
      (((new limit capacity).performAll as).intake.Deaf → ∀ bs, [Action.announce, .empty].Sublist bs →
        (((new limit capacity).performAll as).performAll bs).ended ∧
          ∃ k, ∀ bs', (List.replicate k Action.tell).Sublist bs' →
            ((((new limit capacity).performAll as).performAll bs).performAll bs').intake = .over) ∧
      (((new limit capacity).performAll as).ended → ∀ n, n < ((new limit capacity).performAll as).calls.size →
        ∀ failure bs, (ownTurns n failure).Sublist bs →
          ∃ i r, (((new limit capacity).performAll as).performAll bs).stage? n = some (.finished i r)) := by
  refine ⟨delivered few, fun j hi => concluded few hi, fun hi bs turns => ⟨?_, ?_⟩, fun he n hn failure bs turns => ?_⟩
  · have ended := ((windsUp_new limit capacity).performAll (orderly_new limit capacity) as few).ended
    exact ended_of_windUp ended hi turns
  · exact over_of_emptied (windUp_leads _ hi bs turns)
  · have there : ((new limit capacity).performAll as).stage? n =
        some ((new limit capacity).performAll as).calls[n].stage := by
      rw [stage?, Array.getElem?_eq_getElem hn]
      rfl
    obtain ⟨-, st, hst, rank⟩ := ownTurns_lead n failure _ ⟨he, _, there, CallStage.rank_le _⟩ bs turns
    cases st with
    | finished i r => exact ⟨i, r, hst⟩
    | waiting id limit asleep => cases asleep <;> exact absurd rank (by simp [CallStage.rank])
    | _ => exact absurd rank (by simp [CallStage.rank])

end

/-- One call is replied to and reads its reply, another one waits, and the stream ends. -/
private def sampleActions : List Action :=
  [.begin 1 7 [], .number 0, .register 0, .write 0 none, .begin 1 17 [], .number 1, .register 1, .write 1 none,
    .sleep 1, .take (.reply 1 0 [7]), .hand, .collect 0, .breakOff, .announce, .empty, .tell, .tell, .collect 1]

/-- The first returns what its reply says, and the second one fails. -/
theorem reply_reaches_call_before_end :
    ((new none 1).performAll sampleActions).calls.size < UInt32.size ∧
      (∃ k p, Completes (new none 1) sampleActions k p 0 ∧ p.payload = [7]) ∧
      ∃ e, ((new none 1).performAll sampleActions).stage? 1 = some (.finished (some 2) (.error e)) ∧ e.isDisconnect := by
  have few : ((new none 1).performAll sampleActions).calls.size < UInt32.size := by decide
  obtain ⟨delivered, concluded, -, -⟩ := replies_reach_their_calls none 1 sampleActions few
  have first : ((new none 1).performAll sampleActions).stage? 0 = some (.finished (some 1) (.ok [7])) := rfl
  have second : ((new none 1).performAll sampleActions).stage? 1 = some (.finished (some 2) (.error .closed)) := rfl
  obtain ⟨k, p, completes, -, -, payload⟩ := delivered.returned first
  have listed : ((new none 1).performAll (sampleActions.take 14)).pending.find? 2 = some 1 := rfl
  obtain ⟨e, he, gone⟩ :=
    (concluded 17 rfl).waiting (k := 14) rfl rfl listed rfl (by decide) second
  refine ⟨few, ⟨k, p, completes, payload⟩, e, ?_, gone⟩
  rw [second, he]

end Connection

end Debugger.Wire
