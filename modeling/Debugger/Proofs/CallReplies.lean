import Debugger.Proofs.CallTable
import Mathlib.Data.List.Induction

/-! # Replies reach their own calls

What a call returns that was not its own doing comes from a packet that the receiver took while the call
waited under the packet's number.
-/

namespace Debugger.Wire.Connection

variable {c c' : Connection} {a : Action} {as bs : List Action} {n m k : Nat} {id : UInt32} {p : Packet}

/-! ## What stays -/

theorem Next.id?_stays {st st' : CallStage} (h : c.Next n st st') (hi : st.id? = some id) : st'.id? = some id := by
  cases h <;> first | exact hi | cases hi

theorem Turn.id?_stays (h : Turn c a c') (hn : c.id? n = some id) : c'.id? n = some id := by
  obtain ⟨st, hst, hi⟩ := Option.bind_eq_some_iff.mp hn
  rcases h.stage hst with same | ⟨st', next, moved⟩
  · rw [id?_of_stage same, hi]
  · rw [id?_of_stage moved, next.id?_stays hi]

/-- What the receiver has matched once it never has in hand again without mail. -/
theorem Turn.served_stays (h : Turn c a c') (hk : c.Known) (hn : c.Served n) : c'.Served n := by
  have kept (stage : CallStage) (u : Nat) (h : c.Served n) : (c.setStage u stage).Served n := by
    rwa [Served, mail?_setStage]
  cases h with
  | aside _ calls _ _ intake => rwa [Served, mail?, calls, intake]
  | begin => rwa [Served, mail?_begin]
  | hand hi =>
    obtain ⟨st, hst, -⟩ := hk _ (.inl (hi ▸ holds_handing.mpr (.inl rfl)))
    exact (served_setMail hst _ (fun m => by rw [hi]; exact holds_handing) n).mpr hn
  | tell hi =>
    obtain ⟨st, hst, -⟩ := hk _ (.inl (hi ▸ holds_closing.mpr (.inl rfl)))
    exact (served_setMail hst _ (fun m => by rw [hi]; exact holds_closing) n).mpr hn
  | matched hi => exact .inr (hn.resolve_left fun h => (hi ▸ h :))
  | leave _ hi => exact .inr (hn.resolve_left fun h => (hi ▸ h :))
  | announce hi => exact .inr (hn.resolve_left fun h => (hi ▸ h :))
  | empty hi => exact .inr (hn.resolve_left fun h => (hi ▸ h :))
  | done hi => exact .inr (hn.resolve_left fun h => holds_nobody.mpr (hi ▸ h))
  | _ => exact kept _ _ hn

/-- The call has given up for that reason. -/
def GaveUp (c : Connection) (n : Nat) (e : WireError) : Prop :=
  ∃ id, c.stage? n = some (.leaving id e) ∨ c.stage? n = some (.finished (some id) (.error e))

theorem Turn.finished_stays (h : Turn c a c') {i : Option UInt32} {r : Except WireError Bytes}
    (hn : c.stage? n = some (.finished i r)) : c'.stage? n = some (.finished i r) := by
  rcases h.stage hn with same | ⟨st', next, -⟩
  · exact same
  · cases next

theorem Turn.gaveUp_stays (h : Turn c a c') {e : WireError} (hn : c.GaveUp n e) : c'.GaveUp n e := by
  obtain ⟨id, leaving | finished⟩ := hn
  · rcases h.stage leaving with same | ⟨st', next, moved⟩
    · exact ⟨id, .inl same⟩
    · cases next with
      | withdraw => exact ⟨id, .inr moved⟩
  · exact ⟨id, .inr (h.finished_stays finished)⟩

/-- What holds and stays in every turn holds after any sequence of actions. -/
theorem performAll_keeps {P : Connection → Prop} (stays : ∀ {c c' a}, Turn c a c' → P c → P c') (hc : P c)
    (as : List Action) : P (c.performAll as) := by
  induction as generalizing c with
  | nil => exact hc
  | cons a as ih => exact ih (stays (perform_turn c a) hc)

theorem served_performAll (ho : c.Orderly) (few : (c.performAll as).calls.size < UInt32.size) (hn : c.Served n) :
    (c.performAll as).Served n := by
  induction as generalizing c with
  | nil => exact hn
  | cons a as ih =>
    have turn := perform_turn c a
    have earlier := Nat.le_trans turn.size_le (size_le_performAll (c.perform a) as)
    exact ih (turn.orderly (Nat.lt_of_le_of_lt earlier few) ho) few (turn.served_stays ho.known hn)

/-! ## Packets and the calls they are matched with -/

/-- The action takes a reply off the stream and matches it with the call. -/
structure Matches (c : Connection) (as : List Action) (k : Nat) (p : Packet) (n : Nat) : Prop where
  taken : as[k]? = some (.take p)
  listening : (c.performAll (as.take k)).intake = .listening
  reply : p.reply?.isSome
  found : (c.performAll (as.take k)).pending.find? p.id = some n

theorem Matches.append (h : Matches c as k p n) (bs : List Action) : Matches c (as ++ bs) k p n := by
  have inside := (List.getElem?_eq_some_iff.mp h.taken).1
  have start : (as ++ bs).take k = as.take k := List.take_append_of_le_length (Nat.le_of_lt inside)
  exact ⟨by rw [List.getElem?_append_left inside]; exact h.taken, start ▸ h.listening, h.reply, start ▸ h.found⟩

/-- Taking the packet puts the reply into the receiver's hand. -/
theorem Matches.served (h : Matches c as k p n) : (c.performAll (as.take (k + 1))).Served n := by
  obtain ⟨reply, hr⟩ := Option.isSome_iff_exists.mp h.reply
  rw [List.take_add_one, h.taken, Option.toList_some, performAll_concat]
  have hand : ((c.performAll (as.take k)).take p).intake = .handing n reply := by
    rw [take, h.listening, hr]
    dsimp only
    rw [h.found]
  exact .inl (show ((c.performAll (as.take k)).take p).intake.Holds n from hand ▸ holds_handing.mpr (.inl rfl))

/-- One packet is matched with one call. -/
theorem Matches.call_eq {p' : Packet} (h : Matches c as k p n) (h' : Matches c as k p' m) : n = m := by
  obtain rfl := Action.take.inj (Option.some.inj (h.taken.symm.trans h'.taken))
  exact Option.some.inj (h.found.symm.trans h'.found)

/-- A reply that the receiver took is on its way to the call, or was. -/
def Provided (c : Connection) (as : List Action) (n : Nat) (reply : Reply) : Prop :=
  ∃ k p, Matches c as k p n ∧ p.reply? = some reply ∧ (c.performAll as).id? n = some p.id

theorem Provided.append {reply : Reply} (h : Provided c as n reply) (bs : List Action) :
    Provided c (as ++ bs) n reply := by
  obtain ⟨k, p, found, hr, hid⟩ := h
  refine ⟨k, p, found.append bs, hr, ?_⟩
  rw [performAll_append]
  exact performAll_keeps (P := fun c => c.id? n = some p.id) Turn.id?_stays hid bs

/-- Where what is said to calls comes from. -/
structure Traced (c : Connection) (as : List Action) : Prop where
  handing {n : Nat} {reply : Reply} : (c.performAll as).intake = .handing n reply → Provided c as n reply
  mail {n : Nat} {reply : Reply} : (c.performAll as).mail? n = some (.ok reply) → Provided c as n reply
  told {n : Nat} {e : WireError} : (c.performAll as).mail? n = some (.error e) → e = .closed
  leaving {n : Nat} {id : UInt32} {e : WireError} : (c.performAll as).stage? n = some (.leaving id e) →
    ∀ code, e ≠ .refused code
  finished {n : Nat} {i : Option UInt32} {r : Except WireError Bytes} :
    (c.performAll as).stage? n = some (.finished i r) →
      (∃ reply, Provided c as n reply ∧ i = (c.performAll as).id? n ∧ r = reply.result) ∨
        ∃ e, r = .error e ∧ ∀ code, e ≠ .refused code

theorem Traced.concat (ht : Traced c as) (ho : (c.performAll as).Orderly) (a : Action) :
    Traced c (as ++ [a]) := by
  have turn := perform_turn (c.performAll as) a
  rw [← performAll_concat] at turn
  have stays {n : Nat} {id : UInt32} (h : (c.performAll as).id? n = some id) :
      (c.performAll (as ++ [a])).id? n = some id := turn.id?_stays h
  constructor
  case handing =>
    intro n reply hi
    rcases turn.handing hi with before | ⟨p, rfl, listening, hr, hp⟩
    · exact (ht.handing before).append [a]
    · have start : (as ++ [Action.take p]).take as.length = as := by rw [List.take_left']; rfl
      refine ⟨as.length, p, ⟨?_, ?_, hr ▸ rfl, ?_⟩, hr, stays (id?_of_registered? ((ho.tabled _ _).mp hp).1)⟩
      · rw [List.getElem?_append_right (Nat.le_refl _), Nat.sub_self]
        rfl
      · rw [start]
        exact listening
      · rw [start]
        exact hp
  case mail =>
    intro n reply hm
    rcases turn.mail n with same | ⟨reply', hi, hm'⟩ | ⟨ns, -, hm'⟩
    · exact (ht.mail (same.symm.trans hm)).append [a]
    · obtain rfl := Except.ok.inj (Option.some.inj (hm'.symm.trans hm))
      exact (ht.handing hi).append [a]
    · cases hm'.symm.trans hm
  case told =>
    intro n e hm
    rcases turn.mail n with same | ⟨reply, -, hm'⟩ | ⟨ns, -, hm'⟩
    · exact ht.told (same.symm.trans hm)
    · cases hm'.symm.trans hm
    · exact (Except.error.inj (Option.some.inj (hm'.symm.trans hm))).symm
  case leaving =>
    intro n id e hs code
    rcases turn.stage_before hs with before | ⟨st, -, next⟩ | ⟨-, first⟩
    · exact ht.leaving before code
    · cases next <;> intro h <;> cases h
    · rw [firstStage] at first
      split at first <;> cases first
  case finished =>
    intro n i r hs
    rcases turn.stage_before hs with before | ⟨st, hst, next⟩ | ⟨-, first⟩
    · rcases ht.finished before with ⟨reply, provided, rfl, rfl⟩ | own
      · refine .inl ⟨reply, provided.append [a], ?_, rfl⟩
        obtain ⟨k, p, -, -, hid⟩ := provided
        rw [hid, stays hid]
      · exact .inr own
    · cases next with
      | @collect id limit asleep mail hm =>
        rcases mail with e | reply
        · refine .inr ⟨e, rfl, ?_⟩
          rw [ht.told hm]
          intro _ h
          cases h
        · refine .inl ⟨reply, (ht.mail hm).append [a], ?_, rfl⟩
          exact (stays (id?_of_stage hst)).symm
      | withdraw id e => exact .inr ⟨e, rfl, ht.leaving hst⟩
    · rw [firstStage] at first
      split at first
      · obtain ⟨-, rfl⟩ := CallStage.finished.inj first
        exact .inr ⟨.closed, rfl, fun _ h => by cases h⟩
      · cases first

theorem traced_new (limit : Option Nat) (capacity : Nat) : Traced (new limit capacity) [] where
  handing := (nomatch ·)
  mail := (nomatch ·)
  told := (nomatch ·)
  leaving := (nomatch ·)
  finished := (nomatch ·)

/-- Whatever the parties do, what is said to calls comes from the packets that were taken. -/
theorem traced (limit : Option Nat) (capacity : Nat) (as : List Action)
    (few : ((new limit capacity).performAll as).calls.size < UInt32.size) : Traced (new limit capacity) as := by
  induction as using List.reverseRecOn with
  | nil => exact traced_new limit capacity
  | append_singleton as a ih =>
    have earlier : ((new limit capacity).performAll as).calls.size < UInt32.size := by
      rw [performAll_concat] at few
      exact Nat.lt_of_le_of_lt (perform_turn _ a).size_le few
    exact (ih earlier).concat ((orderly_new limit capacity).performAll as earlier) a

/-! ## Completion -/

section

variable {limit : Option Nat} {capacity : Nat} {j : Nat} {p' : Packet}

theorem performAll_drop (c : Connection) (as : List Action) (j : Nat) :
    c.performAll as = (c.performAll (as.take j)).performAll (as.drop j) := by
  rw [← performAll_append, List.take_append_drop]

theorem performAll_take (c : Connection) (as : List Action) (hjk : j ≤ k) :
    c.performAll (as.take k) = (c.performAll (as.take j)).performAll ((as.take k).drop j) := by
  have pieces := performAll_drop c (as.take k) j
  rwa [List.take_take, Nat.min_eq_left hjk] at pieces

theorem few_take (few : (c.performAll as).calls.size < UInt32.size) (k : Nat) :
    (c.performAll (as.take k)).calls.size < UInt32.size := by
  rw [performAll_drop c as k] at few
  exact Nat.lt_of_le_of_lt (size_le_performAll _ _) few

/-- One call is matched with one packet at most. -/
theorem Matches.index_eq (few : ((new limit capacity).performAll as).calls.size < UInt32.size)
    (h : Matches (new limit capacity) as j p n) (h' : Matches (new limit capacity) as k p' n) : j = k := by
  have early {j k : Nat} {p p' : Packet} (h : Matches (new limit capacity) as j p n)
      (h' : Matches (new limit capacity) as k p' n) (hjk : j < k) : False := by
    have few := few_take few k
    have orderly := (orderly_new limit capacity).performAll (as.take k) few
    have later := performAll_take (new limit capacity) as hjk
    rw [later] at few
    have start := (orderly_new limit capacity).performAll (as.take (j + 1))
      (Nat.lt_of_le_of_lt (size_le_performAll _ _) few)
    have served := served_performAll start few h.served
    rw [← later] at served
    exact ((orderly.tabled _ _).mp h'.found).2 served
  rcases Nat.lt_trichotomy j k with hjk | rfl | hjk
  · exact (early h h' hjk).elim
  · rfl
  · exact (early h' h hjk).elim

/-- The reply that the action takes is what the call ends with. -/
def Completes (c : Connection) (as : List Action) (k : Nat) (p : Packet) (n : Nat) : Prop :=
  Matches c as k p n ∧ ∃ reply, p.reply? = some reply ∧
    (c.performAll as).stage? n = some (.finished (some p.id) reply.result)

theorem Reply.result_ne {e : WireError} (h : ∀ code, e ≠ .refused code) (reply : Reply) :
    reply.result ≠ .error e := by
  rw [Reply.result]
  split
  · exact (nomatch ·)
  · exact fun he => h _ (Except.error.inj he).symm

/-- A call whose time was up is not completed by a reply that comes after that. -/
theorem not_completes_late (few : ((new limit capacity).performAll as).calls.size < UInt32.size)
    (expired : ((new limit capacity).performAll (as.take j)).GaveUp n .timeout)
    (hid : ((new limit capacity).performAll (as.take j)).id? n = some p.id) (m : Nat) :
    ¬ Completes (new limit capacity) as k p m := by
  rintro ⟨matched, reply, -, finished⟩
  have orderly := (orderly_new limit capacity).performAll as few
  have later := performAll_drop (new limit capacity) as
  have waits := (((orderly_new limit capacity).performAll (as.take k) (few_take few k)).tabled _ _).mp matched.found
  have hm : ((new limit capacity).performAll as).id? m = some p.id := by
    rw [later k]
    exact performAll_keeps (P := fun c => c.id? m = some p.id) Turn.id?_stays (id?_of_registered? waits.1) _
  have hn : ((new limit capacity).performAll as).id? n = some p.id := by
    rw [later j]
    exact performAll_keeps (P := fun c => c.id? n = some p.id) Turn.id?_stays hid _
  obtain rfl := orderly.distinct few hm hn
  have late : ((new limit capacity).performAll as).GaveUp m .timeout := by
    rw [later j]
    exact performAll_keeps (P := fun c => c.GaveUp m .timeout) (fun turn h => turn.gaveUp_stays h) expired _
  obtain ⟨id, h | h⟩ := late
  · cases h.symm.trans finished
  · have same := (CallStage.finished.inj (Option.some.inj (h.symm.trans finished))).2
    exact Reply.result_ne (e := .timeout) (fun _ => (nomatch ·)) reply same.symm

/-- What a call returns that does not come from itself comes from its own reply. -/
theorem completes_of_finished (few : ((new limit capacity).performAll as).calls.size < UInt32.size)
    {i : Option UInt32} {r : Except WireError Bytes}
    (hs : ((new limit capacity).performAll as).stage? n = some (.finished i r))
    (answer : ∀ e, r = .error e → ∃ code, e = .refused code) :
    ∃ k p reply, Completes (new limit capacity) as k p n ∧ i = some p.id ∧ p.reply? = some reply ∧
      r = reply.result := by
  rcases (traced limit capacity as few).finished hs with ⟨reply, ⟨k, p, matched, hr, hid⟩, rfl, rfl⟩ | ⟨e, rfl, own⟩
  · refine ⟨k, p, reply, ⟨matched, reply, hr, ?_⟩, hid, hr, rfl⟩
    rw [hs, hid]
  · obtain ⟨code, he⟩ := answer e rfl
    exact (own code he).elim

end

end Debugger.Wire.Connection
