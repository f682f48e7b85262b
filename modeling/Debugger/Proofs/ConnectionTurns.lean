import Debugger.Wire.Connection

/-! # What an action does to a connection

Every action moves one call, or the receiver, by one stage, or leaves both where they are.
-/

namespace Debugger.Wire

namespace CallStage

/-- The number of the call, once it has one. -/
def id? : CallStage → Option UInt32
  | admitted => none
  | numbered id | writing id | waiting id _ _ | leaving id _ => some id
  | finished id _ => id

/-- The number under which the call was put into the table, unless it is over. -/
def registered? : CallStage → Option UInt32
  | writing id | waiting id _ _ | leaving id _ => some id
  | _ => none

/-- How many turns of its own the call is from its end. -/
def rank : CallStage → Nat
  | admitted => 6
  | numbered _ => 5
  | writing _ => 4
  | waiting _ _ false => 3
  | waiting _ _ true => 2
  | leaving _ _ => 1
  | finished _ _ => 0

theorem rank_le (st : CallStage) : st.rank ≤ 6 := by
  cases st with
  | admitted => exact Nat.le_refl 6
  | numbered => exact (by decide : 5 ≤ 6)
  | writing => exact (by decide : 4 ≤ 6)
  | waiting id limit asleep =>
    cases asleep with
    | false => exact (by decide : 3 ≤ 6)
    | true => exact (by decide : 2 ≤ 6)
  | leaving => exact (by decide : 1 ≤ 6)
  | finished => exact Nat.zero_le 6

theorem id?_of_registered {st : CallStage} {id : UInt32} (h : st.registered? = some id) : st.id? = some id := by
  cases st <;> first | exact h | cases h

theorem rank_of_registered {st : CallStage} {id : UInt32} (h : st.registered? = some id) : st.rank ≤ 4 := by
  cases st with
  | writing => exact Nat.le_refl 4
  | waiting id limit asleep =>
    cases asleep with
    | false => exact (by decide : 3 ≤ 4)
    | true => exact (by decide : 2 ≤ 4)
  | leaving => exact (by decide : 1 ≤ 4)
  | _ => cases h

end CallStage

/-- The receiver has the call in hand. -/
def Intake.Holds : Intake → Nat → Prop
  | handing m _, n => m = n
  | closing ns, n => n ∈ ns
  | _, _ => False

namespace Connection

variable {c c' : Connection} {n m : Nat}

def id? (c : Connection) (n : Nat) : Option UInt32 := (c.stage? n).bind CallStage.id?

def registered? (c : Connection) (n : Nat) : Option UInt32 := (c.stage? n).bind CallStage.registered?

/-! ### Looking up calls -/

theorem stage?_setStage (c : Connection) (n : Nat) (st : CallStage) (m : Nat) :
    (c.setStage n st).stage? m = if m = n then (c.stage? n).map fun _ => st else c.stage? m := by
  rw [stage?, setStage, Array.getElem?_modify]
  by_cases h : n = m
  · subst h
    rw [if_pos rfl, if_pos rfl, stage?, Option.map_map, Option.map_map]
    rfl
  · rw [if_neg h, if_neg (Ne.symm h)]
    rfl

theorem stage?_setStage_self {st₀ st : CallStage} (h : c.stage? n = some st₀) :
    (c.setStage n st).stage? n = some st := by
  rw [stage?_setStage, if_pos rfl, h]
  rfl

theorem stage?_setStage_of_ne (c : Connection) (st : CallStage) (h : m ≠ n) :
    (c.setStage n st).stage? m = c.stage? m := by
  rw [stage?_setStage, if_neg h]

@[simp] theorem mail?_setStage (c : Connection) (n : Nat) (st : CallStage) (m : Nat) :
    (c.setStage n st).mail? m = c.mail? m := by
  rw [mail?, setStage, Array.getElem?_modify, mail?]
  split
  · cases c.calls[m]? <;> rfl
  · rfl

@[simp] theorem stage?_setMail (c : Connection) (n : Nat) (mail : Except WireError Reply) (m : Nat) :
    (c.setMail n mail).stage? m = c.stage? m := by
  rw [stage?, setMail, Array.getElem?_modify, stage?]
  split
  · cases c.calls[m]? <;> rfl
  · rfl

theorem mail?_setMail_self {st : CallStage} (h : c.stage? n = some st) (mail : Except WireError Reply) :
    (c.setMail n mail).mail? n = some mail := by
  obtain ⟨caller, hc, -⟩ := Option.map_eq_some_iff.mp h
  rw [mail?, setMail, Array.getElem?_modify, if_pos rfl, hc]
  rfl

theorem mail?_setMail_of_ne (c : Connection) (mail : Except WireError Reply) (h : m ≠ n) :
    (c.setMail n mail).mail? m = c.mail? m := by
  rw [mail?, setMail, Array.getElem?_modify, if_neg (Ne.symm h), mail?]

theorem mail?_setMail (c : Connection) (n : Nat) (mail : Except WireError Reply) (m : Nat) :
    (c.setMail n mail).mail? m = c.mail? m ∨ m = n ∧ (c.setMail n mail).mail? m = some mail := by
  by_cases hm : m = n
  · subst hm
    cases hs : c.stage? m with
    | none =>
      have missing := Option.map_eq_none_iff.mp hs
      rw [mail?, mail?, setMail, Array.getElem?_modify, if_pos rfl, missing]
      exact .inl rfl
    | some st => exact .inr ⟨rfl, mail?_setMail_self hs mail⟩
  · exact .inl (mail?_setMail_of_ne c mail hm)

@[simp] theorem size_setStage (c : Connection) (n : Nat) (st : CallStage) :
    (c.setStage n st).calls.size = c.calls.size := Array.size_modify ..

@[simp] theorem size_setMail (c : Connection) (n : Nat) (mail : Except WireError Reply) :
    (c.setMail n mail).calls.size = c.calls.size := Array.size_modify ..

/-- The stage at which a call begins. -/
def firstStage (c : Connection) : CallStage := if c.ended then .finished none (.error .closed) else .admitted

theorem stage?_begin (c : Connection) (set number : UInt8) (payload : Bytes) (m : Nat) :
    (c.begin set number payload).stage? m = if m = c.calls.size then some c.firstStage else c.stage? m := by
  rw [stage?, begin, Array.getElem?_push]
  split
  · rfl
  · rfl

@[simp] theorem mail?_begin (c : Connection) (set number : UInt8) (payload : Bytes) (m : Nat) :
    (c.begin set number payload).mail? m = c.mail? m := by
  rw [mail?, begin, Array.getElem?_push]
  split
  · rename_i h
    rw [mail?, Array.getElem?_eq_none (Nat.le_of_eq h.symm)]
    rfl
  · rfl

theorem stage?_of_size_le (h : c.calls.size ≤ n) : c.stage? n = none := by
  rw [stage?, Array.getElem?_eq_none h]
  rfl

theorem lt_size_of_stage {st : CallStage} (h : c.stage? n = some st) : n < c.calls.size :=
  Nat.lt_of_not_le fun hn => by
    rw [stage?_of_size_le hn] at h
    cases h

theorem id?_of_stage {st : CallStage} (h : c.stage? n = some st) : c.id? n = st.id? := by
  rw [id?, h]
  rfl

theorem registered?_of_stage {st : CallStage} (h : c.stage? n = some st) : c.registered? n = st.registered? := by
  rw [registered?, h]
  rfl

/-! ### Turns -/

/-- What an action can do. -/
inductive Turn (c : Connection) : Action → Connection → Prop
  /-- No call goes on, and neither does the receiver. -/
  | aside {c' : Connection} (a : Action) (calls : c'.calls = c.calls) (pending : c'.pending = c.pending)
    (nextId : c'.nextId = c.nextId) (intake : c'.intake = c.intake) (ended : c.ended → c'.ended) : Turn c a c'
  | begin (set number : UInt8) (payload : Bytes) : Turn c (.begin set number payload) (c.begin set number payload)
  | number {n : Nat} (h : c.stage? n = some .admitted) :
    Turn c (.number n) { c.setStage n (.numbered c.nextId) with nextId := c.nextId + 1 }
  | register {n : Nat} {id : UInt32} (h : c.stage? n = some (.numbered id)) :
    Turn c (.register n) { c.setStage n (.writing id) with pending := c.pending.put id n }
  | sent {n : Nat} {id : UInt32} (h : c.stage? n = some (.writing id)) :
    Turn c (.write n none) (c.setStage n (.waiting id c.replyTimeout false))
  | unsent {n : Nat} {id : UInt32} (text : String) (h : c.stage? n = some (.writing id)) :
    Turn c (.write n (some text)) (c.setStage n (.leaving id (.io text)))
  | sleep {n : Nat} {id : UInt32} {limit : Option Nat} (h : c.stage? n = some (.waiting id limit false))
    (hm : c.mail? n = none) (he : c.ended = false) : Turn c (.sleep n) (c.setStage n (.waiting id limit true))
  | expire {n ms : Nat} {id : UInt32} {asleep : Bool} (h : c.stage? n = some (.waiting id (some ms) asleep))
    (hm : c.mail? n = none) (hs : asleep ∨ ms = 0) : Turn c (.expire n) (c.setStage n (.leaving id .timeout))
  | cancel {n : Nat} {id : UInt32} {limit : Option Nat} {asleep : Bool}
    (h : c.stage? n = some (.waiting id limit asleep)) (he : c.ended) :
    Turn c (.cancel n) (c.setStage n (.leaving id .cancelled))
  | collect {n : Nat} {id : UInt32} {limit : Option Nat} {asleep : Bool} {mail : Except WireError Reply}
    (h : c.stage? n = some (.waiting id limit asleep)) (hm : c.mail? n = some mail) :
    Turn c (.collect n) (c.setStage n (.finished (some id) (mail.bind Reply.result)))
  | withdraw {n : Nat} {id : UInt32} {e : WireError} (h : c.stage? n = some (.leaving id e)) :
    Turn c (.withdraw n) { c.setStage n (.finished (some id) (.error e)) with pending := c.pending.erase id }
  | matched {p : Packet} {reply : Reply} {n : Nat} (hi : c.intake = .listening) (hr : p.reply? = some reply)
    (hp : c.pending.find? p.id = some n) :
    Turn c (.take p) { c with pending := c.pending.erase p.id, intake := .handing n reply }
  | hand {n : Nat} {reply : Reply} (hi : c.intake = .handing n reply) :
    Turn c .hand { c.setMail n (.ok reply) with intake := .listening }
  | leave (a : Action) (hi : c.intake = .listening) : Turn c a { c with intake := .leaving }
  | announce (hi : c.intake = .leaving) : Turn c .announce { c with intake := .emptying, ended := true }
  | empty (hi : c.intake = .emptying) :
    Turn c .empty { c with intake := .closing c.pending.values, pending := .empty }
  | tell {n : Nat} {ns : List Nat} (hi : c.intake = .closing (n :: ns)) :
    Turn c .tell { c.setMail n (.error .closed) with intake := .closing ns }
  | done (hi : c.intake = .closing []) : Turn c .tell { c with intake := .over }

/-- How a call can go on. -/
inductive Next (c : Connection) (n : Nat) : CallStage → CallStage → Prop
  | number : Next c n .admitted (.numbered c.nextId)
  | register (id : UInt32) : Next c n (.numbered id) (.writing id)
  | sent (id : UInt32) : Next c n (.writing id) (.waiting id c.replyTimeout false)
  | unsent (id : UInt32) (text : String) : Next c n (.writing id) (.leaving id (.io text))
  | sleep (id : UInt32) (limit : Option Nat) (hm : c.mail? n = none) (he : c.ended = false) :
    Next c n (.waiting id limit false) (.waiting id limit true)
  | expire (id : UInt32) {ms : Nat} {asleep : Bool} (hm : c.mail? n = none) (hs : asleep ∨ ms = 0) :
    Next c n (.waiting id (some ms) asleep) (.leaving id .timeout)
  | cancel (id : UInt32) (limit : Option Nat) (asleep : Bool) (he : c.ended) :
    Next c n (.waiting id limit asleep) (.leaving id .cancelled)
  | collect (id : UInt32) (limit : Option Nat) (asleep : Bool) {mail : Except WireError Reply}
    (hm : c.mail? n = some mail) :
    Next c n (.waiting id limit asleep) (.finished (some id) (mail.bind Reply.result))
  | withdraw (id : UInt32) (e : WireError) : Next c n (.leaving id e) (.finished (some id) (.error e))

/-- A call stays at its stage or goes on from it. -/
theorem Turn.stage (h : Turn c a c') {st : CallStage} (hn : c.stage? n = some st) :
    c'.stage? n = some st ∨ ∃ st', c.Next n st st' ∧ c'.stage? n = some st' := by
  have moved {u : Nat} {st₀ st₁ : CallStage} (hs : c.stage? u = some st₀) (next : c.Next u st₀ st₁) :
      (c.setStage u st₁).stage? n = some st ∨ ∃ st', c.Next n st st' ∧ (c.setStage u st₁).stage? n = some st' := by
    by_cases hu : n = u
    · subst hu
      obtain rfl := Option.some.inj (hs.symm.trans hn)
      exact .inr ⟨st₁, next, stage?_setStage_self hs⟩
    · exact .inl ((stage?_setStage_of_ne c st₁ hu).trans hn)
  cases h with
  | aside _ calls => exact .inl (by rwa [stage?, calls])
  | begin => exact .inl (by rw [stage?_begin, if_neg (Nat.ne_of_lt (lt_size_of_stage hn)), hn])
  | number hs => exact moved hs .number
  | register hs => exact moved hs (.register _)
  | sent hs => exact moved hs (.sent _)
  | unsent text hs => exact moved hs (.unsent _ text)
  | sleep hs hm he => exact moved hs (.sleep _ _ hm he)
  | expire hs hm hz => exact moved hs (.expire _ hm hz)
  | cancel hs he => exact moved hs (.cancel _ _ _ he)
  | collect hs hm => exact moved hs (.collect _ _ _ hm)
  | withdraw hs => exact moved hs (.withdraw _ _)
  | hand => exact .inl ((stage?_setMail c _ _ n).trans hn)
  | tell => exact .inl ((stage?_setMail c _ _ n).trans hn)
  | _ => exact .inl hn

/-- Where a call stands, it stood before, or it went there, or it has just begun. -/
theorem Turn.stage_before (h : Turn c a c') {st' : CallStage} (hn : c'.stage? n = some st') :
    c.stage? n = some st' ∨ (∃ st, c.stage? n = some st ∧ c.Next n st st') ∨
      c.stage? n = none ∧ st' = c.firstStage := by
  cases hs : c.stage? n with
  | some st =>
    rcases h.stage hs with same | ⟨st₁, next, moved⟩
    · exact .inl (same.symm.trans hn)
    · obtain rfl := Option.some.inj (moved.symm.trans hn)
      exact .inr (.inl ⟨st, rfl, next⟩)
  | none =>
    have missing {u : Nat} {st₀ : CallStage} (st₁ : CallStage) (hu : c.stage? u = some st₀) :
        (c.setStage u st₁).stage? n = none := by
      refine (stage?_setStage_of_ne c st₁ ?_).trans hs
      rintro rfl
      rw [hs] at hu
      cases hu
    have absent (same : c'.stage? n = none) : False := by
      rw [same] at hn
      cases hn
    cases h with
    | aside _ calls => exact (absent (by rwa [stage?, calls])).elim
    | begin =>
      rw [stage?_begin] at hn
      split at hn
      · exact .inr (.inr ⟨rfl, (Option.some.inj hn).symm⟩)
      · exact (absent (by rwa [stage?_begin, if_neg ‹_›])).elim
    | number hu => exact (absent (missing _ hu)).elim
    | register hu => exact (absent (missing _ hu)).elim
    | sent hu => exact (absent (missing _ hu)).elim
    | unsent _ hu => exact (absent (missing _ hu)).elim
    | sleep hu => exact (absent (missing _ hu)).elim
    | expire hu => exact (absent (missing _ hu)).elim
    | cancel hu => exact (absent (missing _ hu)).elim
    | collect hu => exact (absent (missing _ hu)).elim
    | withdraw hu => exact (absent (missing _ hu)).elim
    | hand => exact (absent ((stage?_setMail c _ _ n).trans hs)).elim
    | tell => exact (absent ((stage?_setMail c _ _ n).trans hs)).elim
    | _ => exact (absent hs).elim

/-- The receiver has a reply in hand for a call that it has just matched with it, or had it before. -/
theorem Turn.handing (h : Turn c a c') {reply : Reply} (hi' : c'.intake = .handing n reply) :
    c.intake = .handing n reply ∨ ∃ p, a = .take p ∧ c.intake = .listening ∧ p.reply? = some reply ∧
      c.pending.find? p.id = some n := by
  cases h with
  | aside _ _ _ _ intake => exact .inl (intake.symm.trans hi')
  | @matched p _ _ hi hr hp =>
    obtain ⟨rfl, rfl⟩ := Intake.handing.inj hi'
    exact .inr ⟨p, rfl, hi, hr, hp⟩
  | hand => cases hi'
  | leave => cases hi'
  | announce => cases hi'
  | empty => cases hi'
  | tell => cases hi'
  | done => cases hi'
  | _ => exact .inl hi'

/-- A call gets mail only from a receiver that has it in hand. -/
theorem Turn.mail (h : Turn c a c') (n : Nat) :
    c'.mail? n = c.mail? n ∨ (∃ reply, c.intake = .handing n reply ∧ c'.mail? n = some (.ok reply)) ∨
      ∃ ns, c.intake = .closing (n :: ns) ∧ c'.mail? n = some (.error .closed) := by
  cases h with
  | aside _ calls => exact .inl (by rw [mail?, calls, mail?])
  | begin => exact .inl (mail?_begin c _ _ _ n)
  | @hand u reply hi =>
    rcases mail?_setMail c u (.ok reply) n with same | ⟨rfl, mail⟩
    · exact .inl same
    · exact .inr (.inl ⟨reply, hi, mail⟩)
  | @tell u ns hi =>
    rcases mail?_setMail c u (.error .closed) n with same | ⟨rfl, mail⟩
    · exact .inl same
    · exact .inr (.inr ⟨ns, hi, mail⟩)
  | matched => exact .inl rfl
  | leave => exact .inl rfl
  | announce => exact .inl rfl
  | empty => exact .inl rfl
  | done => exact .inl rfl
  | _ => exact .inl (mail?_setStage c _ _ n)

private theorem Turn.rest (c : Connection) (a : Action) : Turn c a c := .aside a rfl rfl rfl rfl id

private theorem take_turn (c : Connection) (p : Packet) : Turn c (.take p) (c.take p) := by
  rw [take]
  split
  · rename_i hi
    split
    · rename_i reply hr
      split
      · rename_i n hp
        exact .matched hi hr hp
      · exact .rest c _
    · split
      · split
        · exact .aside _ rfl rfl rfl rfl id
        · exact .leave _ hi
      · exact .rest c _
  · exact .rest c _

private theorem breakOff_turn (c : Connection) (a : Action) : Turn c a c.breakOff := by
  rw [breakOff]
  split
  · exact .leave a ‹_›
  · exact .rest c a

/-- Every action does one of these. -/
theorem perform_turn (c : Connection) (a : Action) : Turn c a (c.perform a) := by
  cases a with
  | begin set number payload => exact .begin set number payload
  | number n =>
    rw [perform, number]
    split
    · exact .number ‹_›
    · exact .rest c _
  | register n =>
    rw [perform, register]
    split
    · exact .register ‹_›
    · exact .rest c _
  | write n failure =>
    rw [perform, write.eq_def]
    split
    · exact .sent ‹_›
    · exact .unsent _ ‹_›
    · exact .rest c _
  | sleep n =>
    rw [perform, sleep]
    split
    · split
      · exact .rest c _
      · exact .sleep ‹_› ‹_› (Bool.eq_false_iff.mpr ‹_›)
    · exact .rest c _
  | expire n =>
    rw [perform, expire]
    split
    · split
      · rename_i hs
        refine .expire ‹_› ‹_› ?_
        simpa using hs
      · exact .rest c _
    · exact .rest c _
  | cancel n =>
    rw [perform, cancel]
    split
    · split
      · exact .cancel ‹_› ‹_›
      · exact .rest c _
    · exact .rest c _
  | collect n =>
    rw [perform, collect]
    split
    · exact .collect ‹_› ‹_›
    · exact .rest c _
  | withdraw n =>
    rw [perform, withdraw]
    split
    · exact .withdraw ‹_›
    · exact .rest c _
  | take p => exact take_turn c p
  | hand =>
    rw [perform, hand]
    split
    · exact .hand ‹_›
    · exact .rest c _
  | breakOff => exact breakOff_turn c _
  | heed =>
    rw [perform, heed]
    split
    · exact breakOff_turn c _
    · exact .rest c _
  | announce =>
    rw [perform, announce]
    split
    · exact .announce ‹_›
    · exact .rest c _
  | empty =>
    rw [perform, empty]
    split
    · exact .empty ‹_›
    · exact .rest c _
  | tell =>
    rw [perform, tell]
    split
    · exact .tell ‹_›
    · exact .done ‹_›
    · exact .rest c _
  | shutdown => exact .aside _ rfl rfl rfl rfl fun _ => rfl
  | setTimeout limit => exact .aside _ rfl rfl rfl rfl id
  | setSizes sizes => exact .aside _ rfl rfl rfl rfl id
  | setCapabilities capabilities => exact .aside _ rfl rfl rfl rfl id
  | keep input => exact .aside _ rfl rfl rfl rfl id

end Connection

end Debugger.Wire
