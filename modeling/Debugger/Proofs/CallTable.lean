import Debugger.Proofs.ConnectionTurns
import Mathlib.Data.List.Perm.Subperm
import Mathlib.Data.List.Nodup

/-! # The table of calls that wait

The numbers that calls are given are as many as there are calls, so that they differ as long as there are
fewer than numbers.  The table then holds exactly the calls that wait for a reply under their numbers: those
that are registered, and neither matched with a reply nor told that there will be none.
-/

namespace Debugger.Wire.Connection

variable {c c' : Connection} {a : Action} {n m : Nat} {id : UInt32}

/-! ## Numbers -/

/-- The calls that have a number, in the order in which they got it. -/
structure Numbering (c : Connection) (order : List Nat) : Prop where
  nodup : order.Nodup
  mem (n : Nat) : n ∈ order ↔ (c.id? n).isSome
  next : c.nextId = .ofNat (order.length + 1)
  nth {k n : Nat} : order[k]? = some n → c.id? n = some (.ofNat (k + 1))

namespace Numbering

variable {order : List Nat}

theorem of_same (h : Numbering c order) (ids : ∀ m, c'.id? m = c.id? m) (next : c'.nextId = c.nextId) :
    Numbering c' order where
  nodup := h.nodup
  mem n := by rw [ids, h.mem]
  next := next.trans h.next
  nth hk := by rw [ids, h.nth hk]

/-- No more numbers are given than there are calls. -/
theorem length_le (h : Numbering c order) : order.length ≤ c.calls.size := by
  have inside : order ⊆ List.range c.calls.size := fun n hn => by
    obtain ⟨id, hid⟩ := Option.isSome_iff_exists.mp ((h.mem n).mp hn)
    obtain ⟨st, hst, -⟩ := Option.bind_eq_some_iff.mp hid
    exact List.mem_range.mpr (lt_size_of_stage hst)
  have shorter := (List.subperm_of_subset h.nodup inside).length_le
  rwa [List.length_range] at shorter

/-- While there are fewer calls than numbers, two calls have different numbers. -/
theorem distinct (h : Numbering c order) (few : c.calls.size < UInt32.size) (hn : c.id? n = some id)
    (hm : c.id? m = some id) : n = m := by
  obtain ⟨j, hj⟩ := List.mem_iff_getElem?.mp ((h.mem n).mpr (hn ▸ rfl))
  obtain ⟨k, hk⟩ := List.mem_iff_getElem?.mp ((h.mem m).mpr (hm ▸ rfl))
  have jl := (List.getElem?_eq_some_iff.mp hj).1
  have kl := (List.getElem?_eq_some_iff.mp hk).1
  have length := h.length_le
  have same : UInt32.ofNat (j + 1) = UInt32.ofNat (k + 1) :=
    Option.some.inj ((h.nth hj).symm.trans (hn.trans (hm.symm.trans (h.nth hk))))
  have value := congrArg UInt32.toNat same
  rw [UInt32.toNat_ofNat_of_lt' (by omega), UInt32.toNat_ofNat_of_lt' (by omega)] at value
  obtain rfl : j = k := by omega
  exact Option.some.inj (hj.symm.trans hk)

/-- A call that gets a number gets the next one. -/
theorem number (h : Numbering c order) (hs : c.stage? n = some .admitted) :
    Numbering { c.setStage n (.numbered c.nextId) with nextId := c.nextId + 1 } (order ++ [n]) := by
  let c' : Connection := { c.setStage n (.numbered c.nextId) with nextId := c.nextId + 1 }
  have self : c'.id? n = some c.nextId := id?_of_stage (c := c') (stage?_setStage_self hs)
  have other {m : Nat} (hm : m ≠ n) : c'.id? m = c.id? m :=
    congrArg (·.bind CallStage.id?) (stage?_setStage_of_ne c _ hm)
  have fresh : n ∉ order := fun hn => by
    have some := (h.mem n).mp hn
    rw [id?_of_stage hs] at some
    cases some
  refine ⟨?_, fun m => ?_, ?_, fun {k m} hk => ?_⟩
  · exact List.nodup_append.mpr ⟨h.nodup, List.nodup_singleton n, fun m hm k hk => by
      rw [List.mem_singleton.mp hk]
      rintro rfl
      exact fresh hm⟩
  · rw [List.mem_append, List.mem_singleton]
    by_cases hm : m = n
    · subst hm
      exact ⟨fun _ => by rw [show Connection.id? _ m = some c.nextId from self]; rfl, fun _ => .inr rfl⟩
    · rw [show Connection.id? _ m = c.id? m from other hm, or_iff_left hm]
      exact h.mem m
  · change c.nextId + 1 = _
    rw [h.next, List.length_append, List.length_singleton]
    exact (UInt32.ofNat_add (order.length + 1) 1).symm
  · rw [List.getElem?_append] at hk
    split at hk
    · have hm : m ≠ n := fun hm => fresh (hm ▸ List.mem_of_getElem? hk)
      rw [show Connection.id? _ m = c.id? m from other hm]
      exact h.nth hk
    · obtain ⟨hl, hm⟩ := List.getElem?_eq_some_iff.mp hk
      rw [List.length_singleton] at hl
      obtain rfl : k = order.length := by omega
      simp only [Nat.sub_self, List.getElem_cons_zero] at hm
      subst hm
      rw [show Connection.id? _ n = some c.nextId from self, h.next]

end Numbering

/-- A call that goes on keeps its number. -/
theorem id?_setStage {st st₀ : CallStage} (h : c.stage? n = some st₀) (same : st.id? = st₀.id?) (m : Nat) :
    (c.setStage n st).id? m = c.id? m := by
  by_cases hm : m = n
  · subst hm
    rw [id?_of_stage (stage?_setStage_self h), id?_of_stage h, same]
  · rw [id?, stage?_setStage_of_ne c st hm, id?]

theorem id?_begin (c : Connection) (set number : UInt8) (payload : Bytes) (m : Nat) :
    (c.begin set number payload).id? m = c.id? m := by
  rw [id?, stage?_begin]
  split
  · rename_i h
    rw [id?, stage?_of_size_le (Nat.le_of_eq h.symm), firstStage]
    cases c.ended <;> rfl
  · rfl

theorem registered?_setStage_of_ne (c : Connection) (st : CallStage) (h : m ≠ n) :
    (c.setStage n st).registered? m = c.registered? m := by
  rw [registered?, stage?_setStage_of_ne c st h, registered?]

theorem registered?_setStage_self {st st₀ : CallStage} (h : c.stage? n = some st₀) :
    (c.setStage n st).registered? n = st.registered? := registered?_of_stage (stage?_setStage_self h)

theorem registered?_setStage {st st₀ : CallStage} (h : c.stage? n = some st₀)
    (same : st.registered? = st₀.registered?) (m : Nat) : (c.setStage n st).registered? m = c.registered? m := by
  by_cases hm : m = n
  · subst hm
    rw [registered?_setStage_self h, registered?_of_stage h, same]
  · exact registered?_setStage_of_ne c st hm

theorem id?_of_registered? (h : c.registered? n = some id) : c.id? n = some id := by
  obtain ⟨st, hst, hr⟩ := Option.bind_eq_some_iff.mp h
  rw [id?_of_stage hst, CallStage.id?_of_registered hr]

theorem Turn.numbering (h : Turn c a c') {order : List Nat} (ho : Numbering c order) :
    ∃ order', Numbering c' order' := by
  cases h with
  | number hs => exact ⟨_, ho.number hs⟩
  | aside _ calls _ nextId =>
    exact ⟨order, ho.of_same (fun m => by rw [id?, stage?, calls, id?, stage?]) nextId⟩
  | begin => exact ⟨order, ho.of_same (id?_begin c _ _ _) rfl⟩
  | register hs => exact ⟨order, ho.of_same (id?_setStage hs rfl) rfl⟩
  | sent hs => exact ⟨order, ho.of_same (id?_setStage hs rfl) rfl⟩
  | unsent _ hs => exact ⟨order, ho.of_same (id?_setStage hs rfl) rfl⟩
  | sleep hs => exact ⟨order, ho.of_same (id?_setStage hs rfl) rfl⟩
  | expire hs => exact ⟨order, ho.of_same (id?_setStage hs rfl) rfl⟩
  | cancel hs => exact ⟨order, ho.of_same (id?_setStage hs rfl) rfl⟩
  | collect hs => exact ⟨order, ho.of_same (id?_setStage hs rfl) rfl⟩
  | withdraw hs => exact ⟨order, ho.of_same (id?_setStage hs rfl) rfl⟩
  | hand => exact ⟨order, ho.of_same (fun m => congrArg (·.bind CallStage.id?) (stage?_setMail c _ _ m)) rfl⟩
  | tell => exact ⟨order, ho.of_same (fun m => congrArg (·.bind CallStage.id?) (stage?_setMail c _ _ m)) rfl⟩
  | _ => exact ⟨order, ho.of_same (fun _ => rfl) rfl⟩

/-! ## The table -/

/-- The receiver has matched the call with a reply, or is telling it that there will be none. -/
def Served (c : Connection) (n : Nat) : Prop := c.intake.Holds n ∨ (c.mail? n).isSome

/-- The call waits for a reply under its number: it is registered, has not been struck off, and nothing is on
the way to it. -/
def Waits (c : Connection) (n : Nat) (id : UInt32) : Prop := c.registered? n = some id ∧ ¬ c.Served n

/-- The table holds exactly the calls that wait. -/
def Tabled (c : Connection) : Prop := ∀ id n, c.pending.find? id = some n ↔ c.Waits n id

/-- What the receiver is about concerns calls that were registered. -/
def Known (c : Connection) : Prop := ∀ n, c.Served n → ∃ st, c.stage? n = some st ∧ st.rank ≤ 4

theorem Served.of_same (mail : ∀ m, c'.mail? m = c.mail? m) (holds : ∀ m, c'.intake.Holds m ↔ c.intake.Holds m)
    (m : Nat) : c'.Served m ↔ c.Served m := by
  rw [Served, Served, mail, holds]

theorem Tabled.of_same (h : c.Tabled) (pending : c'.pending = c.pending)
    (registered : ∀ m, c'.registered? m = c.registered? m) (served : ∀ m, c'.Served m ↔ c.Served m) :
    c'.Tabled := fun id n => by
  rw [pending, h id n, Waits, Waits, registered, served]

theorem Known.of_same (h : c.Known) (stage : ∀ m, c'.stage? m = c.stage? m)
    (served : ∀ m, c'.Served m ↔ c.Served m) : c'.Known := fun n hn => by
  rw [stage]
  exact h n ((served n).mp hn)

theorem holds_handing {reply : Reply} : (Intake.handing n reply).Holds m ↔ m = n ∨ Intake.listening.Holds m :=
  ⟨fun h => .inl (Eq.symm h), fun h => h.elim Eq.symm False.elim⟩

theorem holds_closing {ns : List Nat} :
    (Intake.closing (n :: ns)).Holds m ↔ m = n ∨ (Intake.closing ns).Holds m := List.mem_cons

theorem holds_nobody : Intake.over.Holds m ↔ (Intake.closing []).Holds m := ⟨False.elim, fun h => nomatch h⟩

/-- A call that the receiver had in hand has mail afterwards. -/
theorem served_setMail {st : CallStage} (hs : c.stage? n = some st) (mail : Except WireError Reply)
    {intake : Intake} (h : ∀ m, c.intake.Holds m ↔ m = n ∨ intake.Holds m) (m : Nat) :
    ({ c.setMail n mail with intake } : Connection).Served m ↔ c.Served m := by
  change intake.Holds m ∨ ((c.setMail n mail).mail? m).isSome ↔ c.intake.Holds m ∨ (c.mail? m).isSome
  by_cases hm : m = n
  · subst hm
    rw [mail?_setMail_self hs]
    exact ⟨fun _ => .inl ((h m).mpr (.inl rfl)), fun _ => .inr rfl⟩
  · rw [mail?_setMail_of_ne c mail hm, h, or_iff_right hm]

/-- A call that goes on was known before if it is known now. -/
theorem Known.setStage (h : c.Known) {st st₀ : CallStage} (hs : c.stage? n = some st₀) (le : st.rank ≤ st₀.rank) :
    (c.setStage n st).Known := fun m hm => by
  have served : c.Served m := by
    rwa [Served, mail?_setStage] at hm
  obtain ⟨stm, hst, rank⟩ := h m served
  by_cases hmn : m = n
  · subst hmn
    obtain rfl := Option.some.inj (hs.symm.trans hst)
    exact ⟨st, stage?_setStage_self hs, Nat.le_trans le rank⟩
  · exact ⟨stm, (stage?_setStage_of_ne c st hmn).trans hst, rank⟩

/-- What a sequence of actions keeps, as long as there are fewer calls than numbers. -/
structure Orderly (c : Connection) : Prop where
  numbering : ∃ order, c.Numbering order
  known : c.Known
  keyed : c.pending.Keyed
  tabled : c.Tabled

theorem Orderly.distinct (h : c.Orderly) (few : c.calls.size < UInt32.size) (hn : c.id? n = some id)
    (hm : c.id? m = some id) : n = m := by
  obtain ⟨order, ho⟩ := h.numbering
  exact ho.distinct few hn hm

theorem Turn.keyed (h : Turn c a c') (hk : c.pending.Keyed) : c'.pending.Keyed := by
  cases h with
  | aside _ _ pending => exact pending ▸ hk
  | register => exact hk.put _ _
  | withdraw => exact hk.erase _
  | matched => exact hk.erase _
  | empty => exact Table.keyed_empty
  | _ => exact hk

private theorem le_rank_waiting (id : UInt32) (limit : Option Nat) (asleep : Bool) :
    2 ≤ (CallStage.waiting id limit asleep).rank := by
  cases asleep with
  | false => exact (by decide : 2 ≤ 3)
  | true => exact Nat.le_refl 2

/-- A call that was registered is known. -/
private theorem Tabled.rank (h : c.Tabled) (hp : c.pending.find? id = some n) :
    ∃ st, c.stage? n = some st ∧ st.rank ≤ 4 := by
  obtain ⟨st, hst, hr⟩ := Option.bind_eq_some_iff.mp ((h id n).mp hp).1
  exact ⟨st, hst, CallStage.rank_of_registered hr⟩

theorem Turn.known (h : Turn c a c') (ho : c.Orderly) : c'.Known := by
  have hk := ho.known
  cases h with
  | aside _ calls _ _ intake =>
    exact hk.of_same (fun m => by rw [stage?, calls, stage?])
      (Served.of_same (fun m => by rw [mail?, calls, mail?]) fun m => by rw [intake])
  | begin set number payload =>
    intro m hm
    have served : c.Served m := by rwa [Served, mail?_begin] at hm
    obtain ⟨st, hst, rank⟩ := hk m served
    refine ⟨st, ?_, rank⟩
    rw [stage?_begin, if_neg (Nat.ne_of_lt (lt_size_of_stage hst)), hst]
  | number hs => exact hk.setStage hs (by decide : 5 ≤ 6)
  | register hs => exact hk.setStage hs (by decide : 4 ≤ 5)
  | sent hs => exact hk.setStage hs (by decide : 3 ≤ 4)
  | unsent _ hs => exact hk.setStage hs (by decide : 1 ≤ 4)
  | sleep hs => exact hk.setStage hs (by decide : 2 ≤ 3)
  | expire hs => exact hk.setStage hs (Nat.le_trans (by decide : 1 ≤ 2) (le_rank_waiting _ _ _))
  | cancel hs => exact hk.setStage hs (Nat.le_trans (by decide : 1 ≤ 2) (le_rank_waiting _ _ _))
  | collect hs => exact hk.setStage hs (Nat.zero_le _)
  | withdraw hs => exact hk.setStage hs (Nat.zero_le _)
  | matched hi hr hp =>
    rintro m (rfl | hm)
    · exact ho.tabled.rank hp
    · exact hk m (.inr hm)
  | hand hi =>
    obtain ⟨st, hst, -⟩ := hk _ (.inl (hi ▸ holds_handing.mpr (.inl rfl)))
    exact hk.of_same (stage?_setMail c _ _) (served_setMail hst _ fun m => by rw [hi]; exact holds_handing)
  | tell hi =>
    obtain ⟨st, hst, -⟩ := hk _ (.inl (hi ▸ holds_closing.mpr (.inl rfl)))
    exact hk.of_same (stage?_setMail c _ _) (served_setMail hst _ fun m => by rw [hi]; exact holds_closing)
  | empty hi =>
    rintro m (hm | hm)
    · obtain ⟨id, hp⟩ := ho.keyed.mem_values.mp hm
      exact ho.tabled.rank hp
    · exact hk m (.inr hm)
  | leave _ hi => exact hk.of_same (fun _ => rfl) (Served.of_same (fun _ => rfl) fun m => by rw [hi]; rfl)
  | announce hi => exact hk.of_same (fun _ => rfl) (Served.of_same (fun _ => rfl) fun m => by rw [hi]; rfl)
  | done hi =>
    exact hk.of_same (fun _ => rfl) (Served.of_same (fun _ => rfl) fun m => by rw [hi]; exact holds_nobody)

/-- A call that goes on under its number waits as before. -/
private theorem Tabled.setStage (h : c.Tabled) {st st₀ : CallStage} (hs : c.stage? n = some st₀)
    (same : st.registered? = st₀.registered?) : (c.setStage n st).Tabled :=
  h.of_same rfl (registered?_setStage hs same) (Served.of_same (mail?_setStage c n st) fun _ => Iff.rfl)

/-- A call is put into the table. -/
private theorem tabled_register (ho : c.Orderly) (few : c.calls.size < UInt32.size)
    (hs : c.stage? n = some (.numbered id)) :
    ({ c.setStage n (.writing id) with pending := c.pending.put id n } : Connection).Tabled := by
  intro id' m
  change (c.pending.put id n).find? id' = some m ↔
    (c.setStage n (.writing id)).registered? m = some id' ∧ ¬ (c.setStage n (.writing id)).Served m
  rw [Served, mail?_setStage]
  change _ ↔ _ ∧ ¬ c.Served m
  by_cases hm : m = n
  · subst hm
    rw [registered?_setStage_self hs]
    have free : ¬ c.Served m := fun served => by
      obtain ⟨st, hst, rank⟩ := ho.known m served
      obtain rfl := Option.some.inj (hs.symm.trans hst)
      exact absurd rank (by decide : ¬ 5 ≤ 4)
    constructor
    · intro hp
      by_cases hid : id' = id
      · exact ⟨congrArg some hid.symm, free⟩
      · rw [Table.find?_put_of_ne _ _ hid] at hp
        have waits := ((ho.tabled id' m).mp hp).1
        rw [registered?_of_stage hs] at waits
        cases waits
    · rintro ⟨hr, -⟩
      obtain rfl := Option.some.inj hr
      exact Table.find?_put_self _ _ _
  · rw [registered?_setStage_of_ne c _ hm]
    by_cases hid : id' = id
    · subst hid
      rw [Table.find?_put_self]
      refine ⟨fun h => absurd (Option.some.inj h).symm hm, fun h => absurd ?_ hm⟩
      exact ho.distinct few (id?_of_registered? h.1) (id?_of_stage hs)
    · rw [Table.find?_put_of_ne _ _ hid]
      exact ho.tabled id' m

/-- A call is struck off the table, be it that it gave up or that it was matched with a reply. -/
private theorem tabled_erase (ho : c.Orderly) (few : c.calls.size < UInt32.size) (hn : c.id? n = some id)
    (pending : c'.pending = c.pending.erase id) (gone : ∀ id', ¬ c'.Waits n id')
    (rest : ∀ m, m ≠ n → ∀ id', c'.Waits m id' ↔ c.Waits m id') : c'.Tabled := by
  intro id' m
  rw [pending]
  by_cases hid : id' = id
  · subst hid
    rw [Table.find?_erase_self]
    refine ⟨(nomatch ·), fun h => ?_⟩
    by_cases hm : m = n
    · exact absurd (hm ▸ h) (gone id')
    · exact absurd (ho.distinct few (id?_of_registered? ((rest m hm id').mp h).1) hn) hm
  · rw [Table.find?_erase_of_ne _ hid, ho.tabled id' m]
    by_cases hm : m = n
    · subst hm
      refine ⟨fun h => absurd (Option.some.inj ((id?_of_registered? h.1).symm.trans hn)) hid,
        fun h => absurd h (gone id')⟩
    · exact (rest m hm id').symm

theorem Turn.tabled (h : Turn c a c') (few : c.calls.size < UInt32.size) (ho : c.Orderly) : c'.Tabled := by
  have ht := ho.tabled
  cases h with
  | aside _ calls pending _ intake =>
    exact ht.of_same pending (fun m => by rw [registered?, stage?, calls, registered?, stage?])
      (Served.of_same (fun m => by rw [mail?, calls, mail?]) fun m => by rw [intake])
  | begin set number payload =>
    refine ht.of_same rfl (fun m => ?_) (Served.of_same (mail?_begin c set number payload) fun _ => Iff.rfl)
    rw [registered?, stage?_begin]
    split
    · rename_i hm
      rw [registered?, stage?_of_size_le (Nat.le_of_eq hm.symm), firstStage]
      cases c.ended <;> rfl
    · rfl
  | number hs => exact ht.setStage hs rfl
  | register hs => exact tabled_register ho few hs
  | sent hs => exact ht.setStage hs rfl
  | unsent _ hs => exact ht.setStage hs rfl
  | sleep hs => exact ht.setStage hs rfl
  | expire hs => exact ht.setStage hs rfl
  | cancel hs => exact ht.setStage hs rfl
  | @collect n id limit asleep mail hs hm =>
    intro id' m
    by_cases hmn : m = n
    · subst hmn
      have served : c.Served m := .inr (hm ▸ rfl)
      refine ⟨fun hp => absurd served ((ht id' m).mp hp).2, fun hw => ?_⟩
      have given := hw.1
      rw [registered?_setStage_self hs] at given
      cases given
    · rw [Waits, registered?_setStage_of_ne c _ hmn, Served, mail?_setStage]
      exact ht id' m
  | @withdraw n id e hs =>
    refine tabled_erase ho few (id?_of_stage hs) rfl (fun id' hw => ?_) fun m hm id' => ?_
    · have given : (c.setStage n (.finished (some id) (.error e))).registered? n = some id' := hw.1
      rw [registered?_setStage_self hs] at given
      cases given
    · change (c.setStage n _).registered? m = some id' ∧ ¬ (c.setStage n _).Served m ↔ _
      rw [registered?_setStage_of_ne c _ hm, Served, mail?_setStage]
      rfl
  | @matched p reply n hi hr hp =>
    have waits := (ht p.id n).mp hp
    refine tabled_erase ho few (id?_of_registered? waits.1) rfl (fun id' hw => hw.2 (.inl rfl)) fun m hm id' => ?_
    refine and_congr_right fun _ => not_congr (or_congr ?_ Iff.rfl)
    rw [hi]
    exact holds_handing.trans (or_iff_right hm)
  | hand hi =>
    obtain ⟨st, hst, -⟩ := ho.known _ (.inl (hi ▸ holds_handing.mpr (.inl rfl)))
    exact ht.of_same rfl (fun m => congrArg (·.bind CallStage.registered?) (stage?_setMail c _ _ m))
      (served_setMail hst _ fun m => by rw [hi]; exact holds_handing)
  | tell hi =>
    obtain ⟨st, hst, -⟩ := ho.known _ (.inl (hi ▸ holds_closing.mpr (.inl rfl)))
    exact ht.of_same rfl (fun m => congrArg (·.bind CallStage.registered?) (stage?_setMail c _ _ m))
      (served_setMail hst _ fun m => by rw [hi]; exact holds_closing)
  | empty hi =>
    intro id m
    refine ⟨fun hp => absurd hp (Option.some_ne_none m).symm, fun hw => ?_⟩
    have waited : c.Waits m id := ⟨hw.1, fun served => served.elim (fun h => (hi ▸ h :)) fun h => hw.2 (.inr h)⟩
    exact absurd (.inl (ho.keyed.mem_values.mpr ⟨id, (ht id m).mpr waited⟩)) hw.2
  | leave _ hi => exact ht.of_same rfl (fun _ => rfl) (Served.of_same (fun _ => rfl) fun m => by rw [hi]; rfl)
  | announce hi => exact ht.of_same rfl (fun _ => rfl) (Served.of_same (fun _ => rfl) fun m => by rw [hi]; rfl)
  | done hi =>
    exact ht.of_same rfl (fun _ => rfl) (Served.of_same (fun _ => rfl) fun m => by rw [hi]; exact holds_nobody)

theorem Turn.orderly (h : Turn c a c') (few : c.calls.size < UInt32.size) (ho : c.Orderly) : c'.Orderly where
  numbering := ho.numbering.elim fun _ hn => h.numbering hn
  known := h.known ho
  keyed := h.keyed ho.keyed
  tabled := h.tabled few ho

theorem orderly_new (limit : Option Nat) (capacity : Nat) : (new limit capacity).Orderly where
  numbering := ⟨[], List.nodup_nil, fun _ => ⟨(nomatch ·), (nomatch ·)⟩, rfl, (nomatch ·)⟩
  known _ hn := hn.elim False.elim (nomatch ·)
  keyed := Table.keyed_empty
  tabled _ _ := ⟨(nomatch ·), fun h => nomatch h.1⟩

/-- Calls are only added. -/
theorem Turn.size_le (h : Turn c a c') : c.calls.size ≤ c'.calls.size := by
  cases h with
  | aside _ calls => exact Nat.le_of_eq (congrArg Array.size calls).symm
  | begin => exact Nat.le.intro (Array.size_push _).symm
  | hand => exact Nat.le_of_eq (size_setMail c _ _).symm
  | tell => exact Nat.le_of_eq (size_setMail c _ _).symm
  | matched => exact Nat.le_refl _
  | leave => exact Nat.le_refl _
  | announce => exact Nat.le_refl _
  | empty => exact Nat.le_refl _
  | done => exact Nat.le_refl _
  | _ => exact Nat.le_of_eq (size_setStage c _ _).symm

theorem performAll_append (c : Connection) (as bs : List Action) :
    c.performAll (as ++ bs) = (c.performAll as).performAll bs := List.foldl_append

theorem performAll_concat (c : Connection) (as : List Action) (a : Action) :
    c.performAll (as ++ [a]) = (c.performAll as).perform a := performAll_append c as [a]

theorem size_le_performAll (c : Connection) (as : List Action) : c.calls.size ≤ (c.performAll as).calls.size := by
  induction as generalizing c with
  | nil => exact Nat.le_refl _
  | cons a as ih => exact Nat.le_trans (perform_turn c a).size_le (ih _)

theorem Orderly.performAll (ho : c.Orderly) (as : List Action) (few : (c.performAll as).calls.size < UInt32.size) :
    (c.performAll as).Orderly := by
  induction as generalizing c with
  | nil => exact ho
  | cons a as ih =>
    have earlier := Nat.le_trans (perform_turn c a).size_le (size_le_performAll (c.perform a) as)
    exact ih ((perform_turn c a).orderly (Nat.lt_of_le_of_lt earlier few) ho) few

end Debugger.Wire.Connection
