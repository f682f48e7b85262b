import Debugger.Proofs.CodeAccounts
import Debugger.Proofs.GroupWalks

/-! # Walks through superclasses

A thread's priority is in a field that its class or a class above it declares.  The machine says which fields each
class declares and what its superclass is, and nobody has seen to it that no class is above itself.  With the walks
through thread groups these are the only ways that lead as far as the machine's data go.
-/

namespace Debugger.Wire

/-- What a machine says of a class. -/
structure ClassRecord where
  fields : List Member
  superclass : Option TypeId

open WireSession

/-- What a walk looks for among the fields of a class. -/
def soughtField (fields : List Member) : Option Member := fields.find? (·.name = priorityField)

section

variable (classes : TypeId → Option ClassRecord)

/-- The class has a superclass, or none. -/
def superclassOf (c : TypeId) : Option (Option TypeId) := (classes c).map (·.superclass)

/-- What the walk comes upon in a class: the field, or the way to the superclass. -/
def classLinks : TypeId → Option (Sight TypeId Member) :=
  sights (fun c => (classes c).map (·.fields)) soughtField (superclassOf classes)

/-- Neither the class nor any above it declares such a field. -/
def NoneDeclares (c : TypeId) : Prop :=
  ∀ above, Relation.ReflTransGen (NextTo (superclassOf classes)) c above →
    ∀ r, classes above = some r → ∀ f ∈ r.fields, f.name ≠ priorityField

/-- The field is the first such one of the nearest class, from the one given upwards, that declares any. -/
def NearestDeclares (c : TypeId) (f : Member) : Prop :=
  ∃ above, Relation.ReflTransGen (Leads (classLinks classes)) c above ∧
    ∃ r, classes above = some r ∧ soughtField r.fields = some f

end

/-- While `Q` holds the machine tells of these classes, and of which class a thread is.  It may fail to answer. -/
structure ListsClasses {π : Type} [Peer π] (Q : Resolver π → Prop) (classOf : ThreadId → Option TypeId)
    (classes : TypeId → Option ClassRecord) : Prop where
  type (t : ThreadId) : Honest Q (Resolver.ask (.objectType t)) (classOf t)
  fields (c : TypeId) : Honest Q (Resolver.ask (.fields c)) ((classes c).map (·.fields))
  superclass (c : TypeId) : Honest Q (Resolver.ask (.superclass c)) (superclassOf classes c)

/-- While `Q` holds every question about these classes is answered. -/
structure AnswersClasses {π : Type} [Peer π] (Q : Resolver π → Prop) (classes : TypeId → Option ClassRecord) :
    Prop where
  fields (c : TypeId) : Answers Q (Resolver.ask (.fields c)) ((classes c).map (·.fields))
  superclass (c : TypeId) : Answers Q (Resolver.ask (.superclass c)) (superclassOf classes c)

section

variable {π : Type} [Peer π]

/-- Looks at one class on the way. -/
def lookAtClass : TypeId → Resolve π (Sight TypeId Member) :=
  lookFor (fun c => Resolver.ask (.fields c)) soughtField fun c => Resolver.ask (.superclass c)

/-- The way upwards is a walk that looks for the field. -/
theorem fieldFrom_eq_follow (fuel : Nat) (start : Option TypeId) :
    (fieldFrom priorityField fuel start : Resolve π _) = follow lookAtClass fuel start := by
  induction fuel generalizing start with
  | zero => cases start <;> rfl
  | succ fuel ih =>
    cases start with
    | none => rfl
    | some c =>
      simp only [fieldFrom, follow, lookAtClass, lookFor, bind_assoc]
      refine bind_congr fun fields => ?_
      rw [soughtField]
      cases fields.find? (·.name = priorityField) with
      | some f => rfl
      | none => simp [ih, lookAtClass]

/-- The value in a field of the thread's object. -/
def readPriority (t : ThreadId) (f : Member) : Resolve π Int32 := do
  match (← Resolver.ask (.fieldValues t [f.id])).head? with
  | some (.int v) => return v
  | other => throw (.protocol ("unexpected priority value " ++ Value.describe? other))

theorem priority_eq (t : ThreadId) : (priority t : Resolve π Int32) = (do
    let type ← Resolver.ask (.objectType t)
    match (← fieldFrom priorityField typeLimit (some type)).join with
    | none => throw (.protocol "thread object has no priority field")
    | some f => readPriority t f) := rfl

/-- The first question about a thread's classes that fails. -/
def ClassesFail (t : ThreadId) (r : Resolver π) (e : SessionError) (r' : Resolver π) : Prop :=
  Resolver.ask (.objectType t) r = .error e r' ∨
    ∃ c r₁, Resolver.ask (.objectType t) r = .ok c r₁ ∧ Fails lookAtClass (some c) r₁ e r'

variable {Q : Resolver π → Prop} {classOf : ThreadId → Option TypeId} {classes : TypeId → Option ClassRecord}
  {r : Resolver π}

theorem ListsClasses.look (lists : ListsClasses Q classOf classes) (c : TypeId) :
    Honest Q (lookAtClass c) (classLinks classes c) :=
  lookFor_honest lists.fields lists.superclass soughtField c

theorem AnswersClasses.look (answers : AnswersClasses Q classes) (c : TypeId) :
    Answers Q (lookAtClass c) (classLinks classes c) :=
  lookFor_answers answers.fields answers.superclass soughtField c

/-- Numbers of types are few enough. -/
private theorem typeId_distinct : Function.Injective (fun c : TypeId => (⟨c.toNat, c.toNat_lt⟩ : Fin typeLimit)) :=
  fun _ _ h => UInt64.toNat_inj.mp (Fin.mk.inj h)

/-- A walk through classes that do not go in a circle ends: with the nearest field, or without any if there is none,
or where a question fails. -/
theorem ListsClasses.fieldFrom_ends (lists : ListsClasses Q classOf classes) {c : TypeId}
    (straight : ¬ Circles (classLinks classes) c) (h : Q r) {fuel : Nat} (enough : typeLimit ≤ fuel) :
    (∃ r', Q r' ∧ NoneDeclares classes c ∧ fieldFrom priorityField fuel (some c) r = .ok (some none) r') ∨
      (∃ f r', Q r' ∧ NearestDeclares classes c f ∧
        fieldFrom priorityField fuel (some c) r = .ok (some (some f)) r') ∨
      ∃ e r', Fails lookAtClass (some c) r e r' ∧ fieldFrom priorityField fuel (some c) r = .error e r' := by
  have straight' : ∀ c', some c = some c' → ¬ Circles (classLinks classes) c' := by
    rintro _ ⟨⟩
    exact straight
  rw [fieldFrom_eq_follow]
  rcases follow_ends lists.look typeId_distinct enough straight' h with
    ⟨found, r', arrives, h', run⟩ | ⟨e, r', fails, -, run⟩
  · cases found with
    | none =>
      refine .inl ⟨r', h', ?_, run⟩
      intro above path record there f hf same
      have nothing := arrives.eq_none_iff.mp rfl c rfl above path record.fields (by rw [there]; rfl)
      rw [soughtField, List.find?_eq_none] at nothing
      apply nothing f hf
      simpa using same
    | some f =>
      obtain ⟨above, path, fields, declared, first⟩ := arrives.found_at
      obtain ⟨record, there, rfl⟩ := Option.map_eq_some_iff.mp declared
      exact .inr (.inl ⟨f, r', h', ⟨above, path, record, there, first⟩, run⟩)
  · exact .inr (.inr ⟨e, r', fails, run⟩)

/-- A walk through classes that go in a circle never ends while all questions are answered. -/
theorem AnswersClasses.fieldFrom_circles (answers : AnswersClasses Q classes) {c : TypeId}
    (circles : Circles (classLinks classes) c) (h : Q r) (fuel : Nat) :
    ∃ r', Q r' ∧ fieldFrom priorityField fuel (some c) r = .ok none r' := by
  rw [fieldFrom_eq_follow]
  apply follow_circles answers.look circles h

/-- A thread's priority is read from the nearest field, or there is none, or the first question that fails is to
blame. -/
theorem ListsClasses.priority_cases (lists : ListsClasses Q classOf classes) {t : ThreadId}
    (straight : ∀ c, classOf t = some c → ¬ Circles (classLinks classes) c) (h : Q r) :
    (∃ c r', classOf t = some c ∧ NoneDeclares classes c ∧
        priority t r = .error (.protocol "thread object has no priority field") r') ∨
      (∃ c f r', classOf t = some c ∧ NearestDeclares classes c f ∧ Q r' ∧ priority t r = readPriority t f r') ∨
      ∃ e r', ClassesFail t r e r' ∧ priority t r = .error e r' := by
  obtain ⟨r₁, h₁, ⟨e, failed⟩ | ⟨c, type, told⟩⟩ := lists.type t r h
  · refine .inr (.inr ⟨e, r₁, .inl failed, ?_⟩)
    simp only [priority, Bind.bind, EStateM.bind, failed]
  · rw [priority_eq, run_ok_bind told]
    rcases lists.fieldFrom_ends (straight c type) h₁ (Nat.le_refl typeLimit) with
      ⟨r', -, nothing, walk⟩ | ⟨f, r', h', nearest, walk⟩ | ⟨e, r', fails, walk⟩
    · exact .inl ⟨c, r', type, nothing, run_ok_bind walk⟩
    · exact .inr (.inl ⟨c, f, r', type, nearest, h', run_ok_bind walk⟩)
    · refine .inr (.inr ⟨e, r', .inr ⟨c, r₁, told, fails⟩, ?_⟩)
      simp only [Bind.bind, EStateM.bind, walk]

/-- What a session tells of a priority is what its resolver finds out. -/
theorem resultOf_threadPriority (t : ThreadId) (s : WireSession π) :
    resultOf (Session.threadPriority t) s = resultOf (priority t) s.resolver := by
  change resultOf (WireSession.within (priority t)) s = _
  rw [resultOf, resultOf, WireSession.within]
  cases priority t s.resolver <;> rfl

end

/-! ## All walks -/

/-- How walks through thread groups end. -/
structure GroupWalksEnd {σ : Type} [Session σ] (S : σ → Prop) (groupOf : ThreadId → Option (Option GroupId))
    (groups : GroupId → Option Machine.Group) : Prop where
  /-- A walk that does not get into a circle comes to its end, however much longer it might go on. -/
  ends {m m' : σ} {g : GroupId} {fuel : Nat} (h : S m) (straight : ¬ Circles (groupLinks groups) g)
    (enough : groupLimit ≤ fuel) : outsideMain fuel (some g) m ≠ .ok none m'
  /-- A walk that gets into one does not, unless a question fails. -/
  endless (answers : AnswersGroups S groups) {m : σ} {g : GroupId} (h : S m) (circles : Circles (groupLinks groups) g)
    (fuel : Nat) : ∃ m', outsideMain fuel (some g) m = .ok none m'
  /-- At the end there is the right answer or the first failure. -/
  answer {m : σ} {t : ThreadId} (h : S m)
    (straight : ∀ g, groupOf t = some (some g) → ¬ Circles (groupLinks groups) g) :
    (∃ b m', isSystemThread t m = .ok b m' ∧ (b = true ↔ ∃ g, groupOf t = some (some g) ∧ OutsideMain groups g)) ∨
      ∃ e m', isSystemThread t m = .error e m' ∧ GroupsFail t m e m'
  /-- So it is for every thread that there is when a debugger was attached. -/
  attached {m : σ} {settings : TargetSettings} {s : System σ} (h : S m)
    (straight : ∀ t g, groupOf t = some (some g) → ¬ Circles (groupLinks groups) g)
    (attached : attach m settings = .ok s) : s.AllMarked S groupOf groups

/-- How walks through superclasses end. -/
structure ClassWalksEnd {π : Type} [Peer π] (Q : Resolver π → Prop) (classOf : ThreadId → Option TypeId)
    (classes : TypeId → Option ClassRecord) : Prop where
  /-- A walk that does not get into a circle comes to its end, however much longer it might go on. -/
  ends {r r' : Resolver π} {c : TypeId} {fuel : Nat} (h : Q r) (straight : ¬ Circles (classLinks classes) c)
    (enough : typeLimit ≤ fuel) : fieldFrom priorityField fuel (some c) r ≠ .ok none r'
  /-- A walk that gets into one does not, unless a question fails. -/
  endless (answers : AnswersClasses Q classes) {r : Resolver π} {c : TypeId} (h : Q r)
    (circles : Circles (classLinks classes) c) (fuel : Nat) :
    ∃ r', fieldFrom priorityField fuel (some c) r = .ok none r'
  /-- At the end there is the nearest field, or none, or the first failure. -/
  answer {s : WireSession π} {t : ThreadId} (h : Q s.resolver)
    (straight : ∀ c, classOf t = some c → ¬ Circles (classLinks classes) c) :
    (∃ c, classOf t = some c ∧ NoneDeclares classes c ∧
        resultOf (Session.threadPriority t) s = .error (.protocol "thread object has no priority field")) ∨
      (∃ c f r, classOf t = some c ∧ NearestDeclares classes c f ∧ Q r ∧
        resultOf (Session.threadPriority t) s = resultOf (readPriority t f) r) ∨
      ∃ e r, ClassesFail t s.resolver e r ∧ resultOf (Session.threadPriority t) s = .error e

/-- The walks along what a machine reports of its groups and of its classes end, except those that get into a
circle. -/
theorem walks_end {σ π : Type} [Session σ] [Peer π] {S : σ → Prop} {groupOf : ThreadId → Option (Option GroupId)}
    {groups : GroupId → Option Machine.Group} {Q : Resolver π → Prop} {classOf : ThreadId → Option TypeId}
    {classes : TypeId → Option ClassRecord} (grouped : ListsGroups S groupOf groups)
    (classified : ListsClasses Q classOf classes) :
    GroupWalksEnd S groupOf groups ∧ ClassWalksEnd Q classOf classes := by
  constructor
  · constructor
    case ends =>
      intro m m' g fuel h straight enough endless
      have straight' : ∀ g', some g = some g' → ¬ Circles (groupLinks groups) g' := by
        rintro _ ⟨⟩
        exact straight
      rcases grouped.outsideMain_ends straight' h enough with ⟨b, m₁, -, run, -⟩ | ⟨e, m₁, -, run, -⟩
      · cases endless.symm.trans run
      · cases endless.symm.trans run
    case endless =>
      intro answers m g h circles fuel
      obtain ⟨m', -, run⟩ := answers.outsideMain_circles circles h fuel
      exact ⟨m', run⟩
    case answer =>
      intro m t h straight
      rcases grouped.isSystemThread_cases straight h with ⟨b, m', -, run, right⟩ | ⟨e, m', -, run, fails⟩
      · exact .inl ⟨b, m', run, right⟩
      · exact .inr ⟨e, m', run, fails⟩
    case attached =>
      intro m settings s h straight
      apply attach_marked grouped straight h
  · constructor
    case ends =>
      intro r r' c fuel h straight enough endless
      rcases classified.fieldFrom_ends straight h enough with
        ⟨r₁, -, -, run⟩ | ⟨f, r₁, -, -, run⟩ | ⟨e, r₁, -, run⟩
      · cases endless.symm.trans run
      · cases endless.symm.trans run
      · cases endless.symm.trans run
    case endless =>
      intro answers r c h circles fuel
      obtain ⟨r', -, run⟩ := answers.fieldFrom_circles circles h fuel
      exact ⟨r', run⟩
    case answer =>
      intro s t h straight
      rw [resultOf_threadPriority]
      rcases classified.priority_cases straight h with
        ⟨c, r', type, nothing, run⟩ | ⟨c, f, r', type, nearest, h', run⟩ | ⟨e, r', fails, run⟩
      · exact .inl ⟨c, type, nothing, by rw [resultOf, run]⟩
      · exact .inr (.inl ⟨c, f, r', type, nearest, h', by rw [resultOf, run, resultOf]⟩)
      · exact .inr (.inr ⟨e, r', fails, by rw [resultOf, run]⟩)

/-! ### Groups and classes that do not go in a circle, and some that do -/

/-- A class that declares the priority's field, and has no superclass. -/
def priorityClass : ClassRecord := ⟨[⟨3, priorityField, "I", 2⟩], none⟩

namespace Recital

/-- A machine of which all classes declare these fields and have the same superclass. -/
def declaring (fields : List Member) (superclass : TypeId) : Recital where
  replies set number :=
    match set.toNat, number.toNat with
    | 2, 4 => Encode.list (fun m => Encode.u64 m.id ++ Encode.text m.name ++ Encode.text m.signature ++
        Encode.u32 m.modifiers) fields
    | 3, 1 => Encode.u64 superclass
    | 9, 1 => Encode.u8 1 ++ Encode.u64 7
    | _, _ => []

/-- The resolver is over a client that hears the machine. -/
def Heard (p : Recital) (r : Resolver Recital) : Prop := p.Hears r.client

theorem heard_new (p : Recital) : p.Heard { client := { connection := .new none 4, peer := p } } :=
  ⟨⟨rfl, rfl, rfl, rfl⟩, nofun, rfl, rfl⟩

theorem answers {p : Recital} {α : Type} {q : Query α} {b : α}
    (short : Packet.headerSize + (p.replies q.set q.number).length ≤ Packet.maxSize)
    (reads : (q.reply {}).run (p.replies q.set q.number) = .ok b) : Answers p.Heard (Resolver.ask q) (some b) := by
  rintro _ ⟨⟩ r hears
  obtain ⟨_, run, client, hears', rfl⟩ := Resolver.gives_within (gives hears short reads)
  exact ⟨{ r with client }, hears', run⟩

/-- A class above itself that declares nothing. -/
theorem answersClasses_circular :
    AnswersClasses (declaring [] 7).Heard fun _ => some ⟨[], some 7⟩ where
  fields _ := answers (Nat.le_of_ble_eq_true rfl) rfl
  superclass _ := answers (Nat.le_of_ble_eq_true rfl) rfl

private theorem fields_short :
    Packet.headerSize + ((declaring priorityClass.fields 0).replies 2 4).length ≤ Packet.maxSize := by
  decide +kernel

private theorem fields_read : ((Query.fields 7).reply {}).run ((declaring priorityClass.fields 0).replies 2 4) =
    .ok priorityClass.fields := by decide +kernel

theorem listsClasses_declaring :
    ListsClasses (declaring priorityClass.fields 0).Heard (fun _ => some 7) fun _ => some priorityClass where
  type _ := Answers.honest (answers (Nat.le_of_ble_eq_true rfl) rfl)
  fields _ := Answers.honest (answers fields_short fields_read)
  superclass _ := Answers.honest (answers (Nat.le_of_ble_eq_true rfl) rfl)

end Recital

/-- A thread in a group of that parent. -/
def groupedMachine (parent : GroupId) : Machine where
  tasks := [⟨1, "worker", some 7, 5, false, []⟩]
  groups := (Table.empty.put 8 ⟨"system", none⟩).put 7 ⟨"workers", some parent⟩

/-- Groups one in another, and a class that has no superclass: the thread is the machine's or a question failed, and
its priority is in the field or a question failed. -/
theorem walks_end_grouped :
    ListsGroups (fun f : Faulty Machine => f.inner = groupedMachine 8) (groupedMachine 8).groupOf
        (groupedMachine 8).groups.find? ∧
      ListsClasses (Recital.declaring priorityClass.fields 0).Heard (fun _ => some 7)
        (fun _ => some priorityClass) ∧
      GroupWalksEnd (fun f : Faulty Machine => f.inner = groupedMachine 8) (groupedMachine 8).groupOf
        (groupedMachine 8).groups.find? ∧
      ¬ Circles (groupLinks (groupedMachine 8).groups.find?) 7 ∧
      ClassWalksEnd (Recital.declaring priorityClass.fields 0).Heard (fun _ => some 7)
        (fun _ => some priorityClass) ∧
      ¬ Circles (classLinks fun _ => some priorityClass) 7 := by
  have ends := walks_end (Faulty.listsGroups (groupedMachine 8).listsGroups) Recital.listsClasses_declaring
  refine ⟨Faulty.listsGroups (groupedMachine 8).listsGroups, Recital.listsClasses_declaring, ends.1, ?_, ends.2, ?_⟩
  · have outermost : Arrives (groupLinks (groupedMachine 8).groups.find?) (some 8) none := .onward rfl .nowhere
    exact (Arrives.onward (a := 7) rfl outermost).not_circles
  · exact (Arrives.found (a := 7) rfl).not_circles

/-- A group that is in itself is no way to the program's group, and the walk from it never ends; nor does the walk
from a class that is its own superclass. -/
theorem walks_endless :
    (groupedMachine 7).groupOf 1 = some (some 7) ∧ OutsideMain (groupedMachine 7).groups.find? 7 ∧
      (∀ fuel, outsideMain fuel (some 7) (groupedMachine 7) = .ok none (groupedMachine 7)) ∧
      ∀ fuel, ∃ r, fieldFrom priorityField fuel (some 7)
        ({ client := { connection := .new none 4, peer := .declaring [] 7 } } : Resolver Recital) = .ok none r := by
  refine ⟨rfl, ?_, ?_, ?_⟩
  · have stays {outer : GroupId}
        (path : Relation.ReflTransGen (NextTo (parentOf (groupedMachine 7).groups.find?)) 7 outer) : outer = 7 := by
      induction path with
      | refl => rfl
      | tail _ up ih =>
        subst ih
        exact (Option.some.inj (Option.some.inj up)).symm
    intro outer path r there
    obtain rfl := stays path
    cases there
    decide
  · intro fuel
    have circle : Circles (groupLinks (groupedMachine 7).groups.find?) 7 := ⟨7, .refl, .single rfl⟩
    obtain ⟨_, rfl, run⟩ := (groupedMachine 7).answersGroups.outsideMain_circles circle rfl fuel
    exact run
  · intro fuel
    have circle : Circles (classLinks fun _ => some ⟨[], some 7⟩) 7 := ⟨7, .refl, .single rfl⟩
    obtain ⟨r, -, run⟩ := Recital.answersClasses_circular.fieldFrom_circles circle (Recital.heard_new _) fuel
    exact ⟨r, run⟩

end Debugger.Wire
