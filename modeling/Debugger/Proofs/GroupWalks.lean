import Debugger.Machine.Calls
import Debugger.Proofs.Chores
import Debugger.Proofs.LinkedWalks
import Debugger.Proofs.MachineResumes

/-! # Walks through thread groups

Whether a thread is the machine's own is found out on a walk from the thread's group to the outermost one.  The
machine lists the groups: which threads are in a group, what it is called and which group it is in.  A question may
fail all the same, and nobody has seen to it that a group is not inside itself.
-/

namespace Debugger

/-! ## The groups that a machine lists -/

/-- What a walk looks for in the name of a group. -/
def soughtGroup (name : String) : Option Unit := if name = mainGroup then some () else none

section

variable (groups : GroupId → Option Machine.Group)

/-- The group is in another one, or in none. -/
def parentOf (g : GroupId) : Option (Option GroupId) := (groups g).map (·.parent)

/-- Neither the group nor any that it is in is called like the program's. -/
def OutsideMain (g : GroupId) : Prop :=
  ∀ outer, Relation.ReflTransGen (NextTo (parentOf groups)) g outer →
    ∀ r, groups outer = some r → r.name ≠ mainGroup

/-- What the walk comes upon in a group: the program's group, or the way to the next one. -/
def groupLinks : GroupId → Option (Sight GroupId Unit) :=
  sights (fun g => (groups g).map (·.name)) soughtGroup (parentOf groups)

end

/-- A walk that comes to its end has found the program's group if there is one on the way. -/
theorem Arrives.outsideMain_iff {groups : GroupId → Option Machine.Group} {start : Option GroupId} {r : Option Unit}
    (h : Arrives (groupLinks groups) start r) : r = none ↔ ∀ g, start = some g → OutsideMain groups g := by
  rw [h.eq_none_iff]
  simp [OutsideMain, soughtGroup]

/-! ## Asking about groups -/

section

variable {σ : Type} [Session σ]

/-- Looks at one group on the way. -/
def lookAtGroup : GroupId → Call σ (Sight GroupId Unit) :=
  lookFor Session.groupName soughtGroup Session.groupParent

/-- The way outwards is a walk that looks for the program's group. -/
theorem outsideMain_eq_follow (fuel : Nat) (start : Option GroupId) :
    (outsideMain fuel start : Call σ (Option Bool)) =
      (do return (← follow lookAtGroup fuel start).map Option.isNone) := by
  induction fuel generalizing start with
  | zero => cases start <;> simp [outsideMain, follow]
  | succ fuel ih =>
    cases start with
    | none => simp [outsideMain, follow]
    | some g =>
      simp only [outsideMain, follow, lookAtGroup, lookFor, bind_assoc]
      refine bind_congr fun name => ?_
      by_cases main : name = mainGroup
      · simp [main, soughtGroup]
      · simp [main, soughtGroup, ih, lookAtGroup]

/-- While `S` holds the machine lists these groups, with their threads.  It may fail to answer; what it is asked when
a debugger is attached leaves `S` as it is. -/
structure ListsGroups (S : σ → Prop) (groupOf : ThreadId → Option (Option GroupId))
    (groups : GroupId → Option Machine.Group) : Prop where
  group (t : ThreadId) : Honest S (Session.threadGroup t) (groupOf t)
  name (g : GroupId) : Honest S (Session.groupName g) ((groups g).map (·.name))
  parent (g : GroupId) : Honest S (Session.groupParent g) (parentOf groups g)
  listed : ∀ m, S m → S (stateAfter Session.allThreads m)
  suspended (t : ThreadId) : ∀ m, S m → S (stateAfter (Session.threadIsSuspended t) m)

/-- While `S` holds every question about these groups is answered. -/
structure AnswersGroups (S : σ → Prop) (groups : GroupId → Option Machine.Group) : Prop where
  name (g : GroupId) : Answers S (Session.groupName g) ((groups g).map (·.name))
  parent (g : GroupId) : Answers S (Session.groupParent g) (parentOf groups g)

variable {S : σ → Prop} {groupOf : ThreadId → Option (Option GroupId)} {groups : GroupId → Option Machine.Group}
  {m : σ}

theorem ListsGroups.look (lists : ListsGroups S groupOf groups) (g : GroupId) :
    Honest S (lookAtGroup g) (groupLinks groups g) :=
  lookFor_honest lists.name lists.parent soughtGroup g

theorem AnswersGroups.look (answers : AnswersGroups S groups) (g : GroupId) :
    Answers S (lookAtGroup g) (groupLinks groups g) :=
  lookFor_answers answers.name answers.parent soughtGroup g

/-- Numbers of groups are few enough. -/
private theorem groupId_distinct : Function.Injective (fun g : GroupId => (⟨g.toNat, g.toNat_lt⟩ : Fin groupLimit)) :=
  fun _ _ h => UInt64.toNat_inj.mp (Fin.mk.inj h)

/-- A walk through groups that do not go in a circle ends: with the right answer, or where a question fails. -/
theorem ListsGroups.outsideMain_ends (lists : ListsGroups S groupOf groups) {start : Option GroupId}
    (straight : ∀ g, start = some g → ¬ Circles (groupLinks groups) g) (h : S m) {fuel : Nat}
    (enough : groupLimit ≤ fuel) :
    (∃ b m', S m' ∧ outsideMain fuel start m = .ok (some b) m' ∧
        (b = true ↔ ∀ g, start = some g → OutsideMain groups g)) ∨
      ∃ e m', S m' ∧ outsideMain fuel start m = .error e m' ∧ Fails lookAtGroup start m e m' := by
  rw [outsideMain_eq_follow]
  rcases follow_ends lists.look groupId_distinct enough straight h with
    ⟨r, m', arrives, h', run⟩ | ⟨e, m', fails, h', run⟩
  · refine .inl ⟨r.isNone, m', h', ?_, ?_⟩
    · rw [run_ok_bind run]
      rfl
    · rw [Option.isNone_iff_eq_none, arrives.outsideMain_iff]
  · refine .inr ⟨e, m', h', ?_, fails⟩
    simp only [Bind.bind, EStateM.bind, run]

/-- A walk through groups that go in a circle never ends while all questions are answered. -/
theorem AnswersGroups.outsideMain_circles (answers : AnswersGroups S groups) {g : GroupId}
    (circles : Circles (groupLinks groups) g) (h : S m) (fuel : Nat) :
    ∃ m', S m' ∧ outsideMain fuel (some g) m = .ok none m' := by
  obtain ⟨m', h', run⟩ := follow_circles answers.look circles h fuel
  refine ⟨m', h', ?_⟩
  rw [outsideMain_eq_follow, run_ok_bind run]
  rfl

/-- The first question about a thread's groups that fails. -/
def GroupsFail (t : ThreadId) (m : σ) (e : SessionError) (m' : σ) : Prop :=
  Session.threadGroup t m = .error e m' ∨
    ∃ start m₁, Session.threadGroup t m = .ok start m₁ ∧ Fails lookAtGroup start m₁ e m'

/-- Whose thread it is, is found out, or the first question that fails is to blame. -/
theorem ListsGroups.isSystemThread_cases (lists : ListsGroups S groupOf groups) {t : ThreadId}
    (straight : ∀ g, groupOf t = some (some g) → ¬ Circles (groupLinks groups) g) (h : S m) :
    (∃ b m', S m' ∧ isSystemThread t m = .ok b m' ∧
        (b = true ↔ ∃ g, groupOf t = some (some g) ∧ OutsideMain groups g)) ∨
      ∃ e m', S m' ∧ isSystemThread t m = .error e m' ∧ GroupsFail t m e m' := by
  obtain ⟨m₁, h₁, ⟨e, failed⟩ | ⟨start, member, told⟩⟩ := lists.group t m h
  · refine .inr ⟨e, m₁, h₁, ?_, .inl failed⟩
    simp only [isSystemThread, Bind.bind, EStateM.bind, failed]
  · rw [isSystemThread, run_ok_bind told]
    cases start with
    | none =>
      refine .inl ⟨false, m₁, h₁, rfl, ?_⟩
      simp [member]
    | some g =>
      have straight' : ∀ g', some g = some g' → ¬ Circles (groupLinks groups) g' := by
        rintro _ ⟨⟩
        apply straight g member
      rcases lists.outsideMain_ends straight' h₁ (Nat.le_refl groupLimit) with
        ⟨b, m', h', run, right⟩ | ⟨e, m', h', run, fails⟩
      · refine .inl ⟨b, m', h', ?_, ?_⟩
        · exact (run_ok_bind run).trans rfl
        · simpa [member] using right
      · refine .inr ⟨e, m', h', ?_, .inr ⟨some g, m₁, told, fails⟩⟩
        simp only [Option.isNone_some, Bool.false_eq_true, if_false, Bind.bind, EStateM.bind, run, Pure.pure]

/-! ## Attaching -/

/-- The thread is marked as its groups say, unless a question about them has failed; then it counts as the
program's. -/
def Marked (S : σ → Prop) (groupOf : ThreadId → Option (Option GroupId)) (groups : GroupId → Option Machine.Group)
    (th : Thread) : Prop :=
  (th.system = true ↔ ∃ g, groupOf th.id = some (some g) ∧ OutsideMain groups g) ∨
    th.system = false ∧ ∃ m e m', S m ∧ GroupsFail th.id m e m'

/-- Every thread is marked as its groups say. -/
def System.AllMarked (S : σ → Prop) (groupOf : ThreadId → Option (Option GroupId))
    (groups : GroupId → Option Machine.Group) (s : System σ) : Prop :=
  S s.session ∧ ∀ t < s.threads.size, Marked S groupOf groups (s.thread t)

variable {s : System σ} (lists : ListsGroups S groupOf groups)
  (straight : ∀ t g, groupOf t = some (some g) → ¬ Circles (groupLinks groups) g)
include lists straight

private theorem createThread_marked (id : ThreadId) (h : S s.session) :
    ∃ m th, S m ∧ Marked S groupOf groups th ∧
      createThread id s = (s.threads.size, { s with session := m, threads := s.threads.push th }) := by
  rcases lists.isSystemThread_cases (straight id) h with ⟨b, m, hm, run, right⟩ | ⟨e, m, hm, run, fails⟩
  · obtain ⟨suspended, asked⟩ := ask_answer (Session.threadIsSuspended id) { s with session := m }
    rw [createThread, run_ask_ok run, run_bind asked]
    exact ⟨_, _, lists.suspended id m hm, .inl right, rfl⟩
  · obtain ⟨suspended, asked⟩ := ask_answer (Session.threadIsSuspended id) { s with session := m }
    rw [createThread, run_ask_error run, run_bind asked]
    exact ⟨_, _, lists.suspended id m hm, .inr ⟨rfl, s.session, e, m, h, fails⟩, rfl⟩

private theorem addThread_marked (id : ThreadId) (h : s.AllMarked S groupOf groups) :
    (addThread id s).2.AllMarked S groupOf groups := by
  rw [addThread, run_get_bind]
  cases s.find? id with
  | some t => exact h
  | none =>
    obtain ⟨m, th, hm, marked, created⟩ := createThread_marked lists straight id h.1
    dsimp only
    rw [run_bind created]
    refine ⟨hm, ?_⟩
    intro t ht
    change t < (s.threads.push th).size at ht
    rw [Array.size_push] at ht
    change Marked S groupOf groups ((s.threads.push th)[t]?.getD default)
    rw [Array.getElem?_push]
    by_cases last : t = s.threads.size
    · rw [if_pos last]
      exact marked
    · rw [if_neg last]
      apply h.2 t (by omega)

/-- When a debugger was attached, the groups of every thread have been walked through to the end. -/
theorem attach_marked {settings : TargetSettings} (h : S m) (attached : attach m settings = .ok s) :
    s.AllMarked S groupOf groups := by
  have order : IsPreorder (System σ) fun s s' => s.AllMarked S groupOf groups → s'.AllMarked S groupOf groups :=
    { refl := fun _ h => h
      trans := fun _ _ _ first second h => second (first h) }
  apply attach_within (R := fun s s' => s.AllMarked S groupOf groups → s'.AllMarked S groupOf groups) _ _ _ attached
  · refine ⟨h, ?_⟩
    intro t ht
    cases ht
  · apply Within.askFor
    intro s hs
    exact ⟨lists.listed _ hs.1, hs.2⟩
  · intro id s
    apply addThread_marked lists straight
  · intro s hs
    exact hs

end

/-! ## The machine in memory -/

namespace Machine

/-- The group of a thread, if the machine tells it. -/
def groupOf (m : Machine) (t : ThreadId) : Option (Option GroupId) :=
  if m.hidesGroups then none else (m.task? t).map (·.group)

variable (m : Machine)

theorem find_honest {α : Type} (t : ThreadId) (f : Task → α) :
    Honest (· = m) (do return f (← find t)) ((m.task? t).map f) := by
  rintro m rfl
  refine ⟨m, rfl, ?_⟩
  cases here : m.task? t with
  | some task => exact .inr ⟨f task, rfl, run_ok_bind (find_some here)⟩
  | none =>
    refine .inl ⟨unknownThread t, ?_⟩
    simp only [Bind.bind, EStateM.bind, find_none here]

theorem findGroup_answers {α : Type} (g : GroupId) (f : Group → α) :
    Answers (· = m) (do return f (← findGroup g)) ((m.groups.find? g).map f) := by
  rintro a given m rfl
  obtain ⟨r, here, rfl⟩ := Option.map_eq_some_iff.mp given
  refine ⟨m, rfl, ?_⟩
  simp only [findGroup, bind_assoc, act_get_bind, here, pure_bind]
  rfl

theorem findGroup_honest {α : Type} (g : GroupId) (f : Group → α) :
    Honest (· = m) (do return f (← findGroup g)) ((m.groups.find? g).map f) := by
  rintro m rfl
  cases here : m.groups.find? g with
  | some r =>
    obtain ⟨_, rfl, run⟩ := findGroup_answers m g f (f r) (by rw [here]; rfl) m rfl
    exact ⟨_, rfl, .inr ⟨f r, rfl, run⟩⟩
  | none =>
    refine ⟨m, rfl, .inl ⟨.objectCollected, ?_⟩⟩
    simp only [findGroup, bind_assoc, act_get_bind, here]
    rfl

theorem threadGroup_honest (t : ThreadId) : Honest (· = m) (Session.threadGroup t) (m.groupOf t) := by
  rintro m rfl
  by_cases hidden : m.hidesGroups
  · refine ⟨m, rfl, .inl ⟨.unsupported, ?_⟩⟩
    simp only [Session.threadGroup, act_get_bind, hidden]
    rfl
  · have told := find_honest m t (·.group) m rfl
    simpa only [Session.threadGroup, act_get_bind, groupOf, if_neg hidden] using told

/-- The machine never gives a wrong answer, and no question changes it. -/
theorem listsGroups : ListsGroups (· = m) m.groupOf m.groups.find? where
  group := m.threadGroup_honest
  name g := m.findGroup_honest g (·.name)
  parent g := m.findGroup_honest g (·.parent)
  listed := by
    rintro m rfl
    rfl
  suspended t := by
    rintro m rfl
    obtain ⟨_, rfl, ⟨e, failed⟩ | ⟨suspended, -, told⟩⟩ := find_honest m t (·.suspended) m rfl
    · exact stateAfter_of_error failed
    · exact stateAfter_of_ok told

theorem answersGroups : AnswersGroups (· = m) m.groups.find? where
  name g := m.findGroup_answers g (·.name)
  parent g := m.findGroup_answers g (·.parent)

end Machine

namespace Faulty

variable {σ α : Type} {m : σ}

theorem guarded_inner {call : Call σ α} (h : stateAfter call m = m) (kind : CallKind) {f : Faulty σ}
    (hf : f.inner = m) : (stateAfter (guarded kind call) f).inner = m := by
  subst hf
  rcases guarded_cases kind call f with ⟨a, f', run, inner, -⟩ | ⟨e, f', run, unmoved | inner, -⟩
  · rw [stateAfter_of_ok run, ← stateAfter_of_ok inner, h]
  · rw [stateAfter_of_error run, unmoved]
  · rw [stateAfter_of_error run, ← stateAfter_of_error inner, h]

/-- A schedule of failures makes no answer wrong. -/
theorem guarded_honest {call : Call σ α} {truth : Option α} (h : Honest (· = m) call truth) (kind : CallKind) :
    Honest (fun f : Faulty σ => f.inner = m) (guarded kind call) truth := by
  intro f hf
  obtain ⟨m', rfl, told⟩ := h m rfl
  have stays : stateAfter call m' = m' := by
    obtain ⟨e, failed⟩ | ⟨a, -, answered⟩ := told
    · exact stateAfter_of_error failed
    · exact stateAfter_of_ok answered
  refine ⟨stateAfter (guarded kind call) f, guarded_inner stays kind hf, ?_⟩
  rcases guarded_cases kind call f with ⟨a, f', run, inner, -⟩ | ⟨e, f', run, -⟩
  · rw [stateAfter_of_ok run]
    rw [hf] at inner
    obtain ⟨e, failed⟩ | ⟨b, truth, answered⟩ := told
    · cases inner.symm.trans failed
    · obtain ⟨rfl, -⟩ := EStateM.Result.ok.inj (inner.symm.trans answered)
      exact .inr ⟨a, truth, run⟩
  · rw [stateAfter_of_error run]
    exact .inl ⟨e, run⟩

theorem listsGroups [Session σ] {groupOf : ThreadId → Option (Option GroupId)}
    {groups : GroupId → Option Machine.Group} (lists : ListsGroups (· = m) groupOf groups) :
    ListsGroups (fun f : Faulty σ => f.inner = m) groupOf groups where
  group t := guarded_honest (lists.group t) .threadGroup
  name g := guarded_honest (lists.name g) .groupName
  parent g := guarded_honest (lists.parent g) .groupParent
  listed _ := guarded_inner (lists.listed m rfl) .allThreads
  suspended t _ := guarded_inner (lists.suspended t m rfl) .threadIsSuspended

end Faulty

end Debugger
