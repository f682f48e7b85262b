import Debugger.Proofs.CodeAccounts
import Mathlib.Data.List.Induction
import Mathlib.Data.List.Nodup

/-! # Where a breakpoint is set

A breakpoint at a line is requested at one place: in the first method that has code of the line, where that code
begins.  Looking the place up again gives the line, although a line is looked up by the entry that begins last before
an index, and an index by the entries of a line.
-/

namespace Debugger.Wire

namespace LineTable

variable {t : LineTable} {line : Int32} {index : UInt64} {es : List LineEntry} {e : LineEntry}

/-- The code of the line begins at that index: no other entry of the line has a smaller one. -/
def BeginsAt (t : LineTable) (line : Int32) (index : UInt64) : Prop :=
  ⟨index, line⟩ ∈ t.lines ∧ ∀ e ∈ t.lines, e.line = line → index ≤ e.index

theorem firstIndexOf?_eq_some_iff : t.firstIndexOf? line = some index ↔ t.BeginsAt line index := by
  rw [firstIndexOf?, List.min?_eq_some_iff]
  constructor
  · rintro ⟨there, least⟩
    obtain ⟨e, he, rfl⟩ := List.mem_map.mp there
    obtain ⟨mem, same⟩ := List.mem_filter.mp he
    obtain rfl := of_decide_eq_true same
    exact ⟨mem, fun e' he' same' =>
      least e'.index (List.mem_map.mpr ⟨e', List.mem_filter.mpr ⟨he', decide_eq_true same'⟩, rfl⟩)⟩
  · rintro ⟨mem, least⟩
    refine ⟨List.mem_map.mpr ⟨⟨index, line⟩, List.mem_filter.mpr ⟨mem, decide_eq_true rfl⟩, rfl⟩, ?_⟩
    intro i hi
    obtain ⟨e, he, rfl⟩ := List.mem_map.mp hi
    obtain ⟨he, same⟩ := List.mem_filter.mp he
    exact least e he (of_decide_eq_true same)

theorem firstIndexOf?_eq_none_iff : t.firstIndexOf? line = none ↔ ∀ e ∈ t.lines, e.line ≠ line := by
  simp [firstIndexOf?, List.min?_eq_none_iff]

/-- The latest entry is one of them, and none begins after it. -/
theorem latest_spec : es ≠ [] → ∃ b, latest es = some b ∧ b ∈ es ∧ ∀ e ∈ es, e.index ≤ b.index := by
  induction es using List.reverseRecOn with
  | nil => exact fun h => (h rfl).elim
  | append_singleton es e ih =>
    intro _
    rw [latest, List.foldl_append, List.foldl_cons, List.foldl_nil, ← latest]
    by_cases none : es = []
    · subst none
      exact ⟨e, rfl, by simp, by simp⟩
    · obtain ⟨b, found, mem, last⟩ := ih none
      rw [found]
      dsimp only
      split
      · next later =>
        refine ⟨e, rfl, by simp, fun e' he' => ?_⟩
        rcases List.mem_append.mp he' with he' | he'
        · exact UInt64.le_trans (last e' he') later
        · rw [List.mem_singleton.mp he']
          exact UInt64.le_refl _
      · next earlier =>
        refine ⟨b, rfl, List.mem_append_left _ mem, fun e' he' => ?_⟩
        rcases List.mem_append.mp he' with he' | he'
        · exact last e' he'
        · rw [List.mem_singleton.mp he']
          exact UInt64.le_of_lt (UInt64.not_le.mp earlier)

/-- At the index of an entry there is the line of that entry, unless another entry begins there too. -/
theorem lineAt?_of_mem (distinct : (t.lines.map (·.index)).Nodup) (h : ⟨index, line⟩ ∈ t.lines) :
    t.lineAt? index = some line := by
  have here : (⟨index, line⟩ : LineEntry) ∈ t.lines.filter fun e => e.index ≤ index :=
    List.mem_filter.mpr ⟨h, decide_eq_true (UInt64.le_refl index)⟩
  obtain ⟨b, found, mem, last⟩ := latest_spec (List.ne_nil_of_mem here)
  obtain ⟨mem, before⟩ := List.mem_filter.mp mem
  have same : b.index = index := UInt64.le_antisymm (of_decide_eq_true before) (last _ here)
  rw [lineAt?, found, List.inj_on_of_nodup_map distinct mem h same]
  rfl

end LineTable

namespace Account

variable (a : Account)

/-- The method has code of the line. -/
def Maps (t : TypeId) (m : MethodId) (line : Int32) : Prop :=
  ∃ table, a.lineTable? t m = .ok (some table) ∧ ∃ e ∈ table.lines, e.line = line

def placeIn (type : LoadedType) (line : Int32) : List Member → Except SessionError (Option CodePlace)
  | [] => return none
  | m :: ms => do
    match (← a.lineTable? type.type m.id).bind (·.firstIndexOf? line) with
    | some index => return some ⟨type.tag, type.type, m.id, index⟩
    | none => placeIn type line ms

/-- The place where the code of a line begins, in the first method of the type that has such code. -/
def placeOfLine (typeName : String) (line : Int32) : Except SessionError CodePlace := do
  match ← (a.loadedTypes (Signature.ofClassName typeName)).mapError WireError.toSession with
  | [] => throw (.protocol ("class " ++ typeName ++ " is not loaded"))
  | type :: _ =>
    match ← a.placeIn type line (← a.members type.type) with
    | some p => return p
    | none => throw (.protocol ("no code at " ++ typeName ++ ":" ++ toString line))

variable {a} {type : LoadedType} {ms : List Member}

/-- The first method that has code of the line is found, or none has any. -/
theorem placeIn_cases (line : Int32) (tables : ∀ m ∈ ms, ∃ table, a.lineTable? type.type m.id = .ok table) :
    (∃ before m after table index, ms = before ++ m :: after ∧
      (∀ b ∈ before, ¬ a.Maps type.type b.id line) ∧ a.lineTable? type.type m.id = .ok (some table) ∧
      table.BeginsAt line index ∧ a.placeIn type line ms = .ok (some ⟨type.tag, type.type, m.id, index⟩)) ∨
    ((∀ m ∈ ms, ¬ a.Maps type.type m.id line) ∧ a.placeIn type line ms = .ok none) := by
  induction ms with
  | nil => exact .inr ⟨fun _ h => absurd h List.not_mem_nil, rfl⟩
  | cons m ms ih =>
    obtain ⟨table?, known⟩ := tables m List.mem_cons_self
    rw [placeIn, known]
    cases begins : table?.bind (·.firstIndexOf? line) with
    | some index =>
      obtain ⟨table, rfl, found⟩ := Option.bind_eq_some_iff.mp begins
      refine .inl ⟨[], m, ms, table, index, rfl, fun _ h => absurd h List.not_mem_nil, known,
        LineTable.firstIndexOf?_eq_some_iff.mp found, ?_⟩
      simp only [bind, Except.bind, begins]
      rfl
    | none =>
      have aside : ¬ a.Maps type.type m.id line := by
        rintro ⟨table, same, e, he, hl⟩
        rw [known] at same
        cases same
        exact LineTable.firstIndexOf?_eq_none_iff.mp begins e he hl
      have on : (do
          match (← (Except.ok table? : Except SessionError _)).bind (·.firstIndexOf? line) with
          | some index => return some ⟨type.tag, type.type, m.id, index⟩
          | none => a.placeIn type line ms) = a.placeIn type line ms := by
        simp only [bind, Except.bind, begins]
      rw [on]
      rcases ih fun m hm => tables m (List.mem_cons_of_mem _ hm) with
        ⟨before, m', after, table, index, rfl, others, found⟩ | ⟨others, found⟩
      · exact .inl ⟨m :: before, m', after, table, index, rfl, List.forall_mem_cons.mpr ⟨aside, others⟩, found⟩
      · exact .inr ⟨List.forall_mem_cons.mpr ⟨aside, others⟩, found⟩

end Account

variable {π : Type} [Peer π] {P : Client π → Prop} {a : Account}

namespace Resolver

variable {r : Resolver π}

theorem gives_search {Q : Resolver π → Prop} (consults : Consults Q a) (type : LoadedType) (line : Int32)
    (ms : List Member) {r : Resolver π} (h : Q r) :
    Gives Q (placeOfLine.search line type ms) r (a.placeIn type line ms) := by
  induction ms generalizing r with
  | nil => exact .pure none h
  | cons m ms ih =>
    refine (gives_lineTable? consults h type.type m.id).bind fun table r' _ hr => ?_
    cases table.bind (·.firstIndexOf? line) with
    | some index => exact .pure _ hr
    | none => exact ih hr

/-- The place, when the machine has told which types are loaded. -/
theorem gives_placeOfLine {Q : Resolver π → Prop} (consults : Consults Q a) {typeName : String} (line : Int32)
    (asked : Gives Q (ask (.loadedTypes (Signature.ofClassName typeName))) r
      ((a.loadedTypes (Signature.ofClassName typeName)).mapError WireError.toSession)) :
    Gives Q (placeOfLine typeName line) r (a.placeOfLine typeName line) := by
  refine asked.bind fun types r' _ hr => ?_
  cases types with
  | nil => exact .throw _ hr
  | cons type others =>
    refine (gives_methods consults hr type.type).bind fun ms r' _ hr => ?_
    refine (gives_search consults type line ms hr).bind fun p r' _ hr => ?_
    cases p with
    | some p => exact .pure p hr
    | none => exact .throw _ hr

end Resolver

/-! ### The request -/

/-- The machine grants every request for events that such a client makes. -/
def GrantsRequests (P : Client π → Prop) : Prop :=
  ∀ {c : Client π}, P c → ∀ kind policy conditions,
    ∃ id, Gives P (Client.ask (.setRequest kind policy conditions)) c (.ok id)

namespace Connection

/-- Every request for events that was sent, as it was written. -/
def eventRequests (c : Connection) : List Bytes := c.asked 15 1

end Connection

/-- How a breakpoint is asked for: the kind of event, the policy, and the place as the only condition. -/
def breakpointOrder (sizes : IdSizes) (policy : SuspendPolicy) (p : CodePlace) : Bytes :=
  Encode.u8 2 ++ Encode.u8 (WireSession.policyCode policy) ++ (Encode.count 1 ++ (Encode.u8 7 ++ Encode.place sizes p))

namespace WireSession

variable {s : WireSession π}

/-- One request is sent if the place is found, and none if it is not. -/
theorem gives_requestBreakpoint (faithful : Faithful P a) (granted : GrantsRequests P)
    (informed : Informed P a s.resolver) (r : BreakpointRequest) :
    (∀ p, a.placeOfLine r.typeName r.line = .ok p → ∃ id s',
      Session.createBreakpointRequest r s = .ok id s' ∧ Informed P a s'.resolver ∧
        s'.connection.eventRequests =
          s.connection.eventRequests ++ [breakpointOrder s.connection.sizes r.policy p]) ∧
    ∀ e, a.placeOfLine r.typeName r.line = .error e → ∃ s',
      Session.createBreakpointRequest r s = .error e s' ∧ Informed P a s'.resolver ∧
        s'.connection.eventRequests = s.connection.eventRequests := by
  have apart : ((15, 1) : UInt8 × UInt8) ∉ accountCommands := by decide
  have has : Informed (HasAsked P 15 1 s.connection.eventRequests s.connection.sizes) a s.resolver :=
    ⟨⟨informed.1, rfl, rfl⟩, informed.2⟩
  have told := (faithful.hasAsked apart).loadedTypes has.1 (Signature.ofClassName r.typeName)
  have looked := Resolver.gives_placeOfLine (faithful.hasAsked apart).consults r.line (has.2.gives_within told)
  refine ⟨fun p found => ?_, fun e missing => ?_⟩
  · obtain ⟨r', run, has'⟩ := found ▸ looked
    obtain ⟨id, granted⟩ := granted has'.1.stands EventKind.breakpoint (policyCode r.policy) [.location p]
    have requested : Gives _ (requestBreakpoint r) s.resolver (.ok id) :=
      .congr (run_ok_bind run) (has'.2.gives_within (has'.1.gives granted))
    obtain ⟨s', ended, has''⟩ := gives_within (faithful.hasAsked apart) requested
    refine ⟨id, s', ended, ⟨has''.1.stands, has''.2⟩, has''.1.asked.trans ?_⟩
    simp [breakpointOrder, Query.setRequest, EventKind.breakpoint, Encode.list, Encode.modifier, EventModifier.kind]
  · rw [missing] at looked
    have failed : Gives _ (requestBreakpoint r) s.resolver (.error e) :=
      looked.bind (g := fun _ => .error e) fun _ _ found _ => by cases found
    obtain ⟨s', ended, has''⟩ := gives_within (faithful.hasAsked apart) failed
    exact ⟨s', ended, ⟨has''.1.stands, has''.2⟩, has''.1.asked⟩

end WireSession

theorem Account.location_of_named {p : CodePlace} {ms : List Member} {m : Member} {name : String} {table : LineTable}
    (named : a.signature p.type = .ok name) (reported : a.methods p.type = .ok ms) (listed : m ∈ ms)
    (same : m.id = p.method) (known : a.lineTable? p.type p.method = .ok (some table)) :
    ∃ l, a.location p = .ok l ∧ l.method.id = ⟨p.type, p.method⟩ ∧ l.codeIndex = p.index ∧
      l.line = table.lineAt? p.index := by
  cases found : ms.find? (·.id = p.method) with
  | none => exact (List.find?_eq_none.mp found m listed (decide_eq_true same)).elim
  | some member =>
    refine ⟨⟨⟨⟨p.type, p.method⟩, member.name, Signature.typeName name, member.signature, member.modifiers⟩, p.index,
      table.lineAt? p.index⟩, ?_, rfl, rfl, rfl⟩
    have declaring : a.typeName p.type = .ok (Signature.typeName name) := by
      rw [Account.typeName, named]
      rfl
    have members : a.members p.type = .ok ms := by rw [Account.members, reported, Except.mapError]
    simp only [Account.location, Account.method, declaring, members, known, bind, Except.bind, found, Option.bind]
    rfl

/-- A breakpoint at a line of a loaded class is requested once, at the place where the code of the line begins in the
first method that has any, as the machine lists them; that place is of the line.  If no method has code of the line,
the breakpoint fails, and no event is requested. -/
theorem breakpoint_set_at_line {s : WireSession π} {r : BreakpointRequest} {type : LoadedType}
    {others : List LoadedType} {ms : List Member} {name : String} (faithful : Faithful P a)
    (granted : GrantsRequests P) (informed : Informed P a s.resolver)
    (loaded : a.loadedTypes (Signature.ofClassName r.typeName) = .ok (type :: others))
    (named : a.signature type.type = .ok name) (reported : a.methods type.type = .ok ms)
    (tables : ∀ m ∈ ms, ∃ table, a.lineTable? type.type m.id = .ok table)
    (distinct : ∀ m ∈ ms, ∀ table, a.lineTable? type.type m.id = .ok (some table) →
      (table.lines.map (·.index)).Nodup) :
    ((∃ m ∈ ms, a.Maps type.type m.id r.line) →
      ∃ before m after table index id s', ms = before ++ m :: after ∧
        (∀ b ∈ before, ¬ a.Maps type.type b.id r.line) ∧
        a.lineTable? type.type m.id = .ok (some table) ∧ table.BeginsAt r.line index ∧
        Session.createBreakpointRequest r s = .ok id s' ∧
        s'.connection.eventRequests = s.connection.eventRequests ++
          [breakpointOrder s.connection.sizes r.policy ⟨type.tag, type.type, m.id, index⟩] ∧
        Informed P a s'.resolver ∧
        ∀ resolver, Informed P a resolver → ∃ l resolver',
          Resolver.location ⟨type.tag, type.type, m.id, index⟩ resolver = .ok l resolver' ∧
            l.method.id = ⟨type.type, m.id⟩ ∧ l.codeIndex = index ∧ l.line = some r.line) ∧
    ((∀ m ∈ ms, ¬ a.Maps type.type m.id r.line) →
      ∃ e s', Session.createBreakpointRequest r s = .error e s' ∧
        s'.connection.eventRequests = s.connection.eventRequests) := by
  have searched : a.placeOfLine r.typeName r.line = (do
      match ← a.placeIn type r.line ms with
      | some p => return p
      | none => throw (.protocol ("no code at " ++ r.typeName ++ ":" ++ toString r.line))) := by
    simp only [Account.placeOfLine, Account.members, loaded, reported, Except.mapError, bind, Except.bind]
  obtain ⟨sent, failed⟩ := WireSession.gives_requestBreakpoint faithful granted informed r
  rcases Account.placeIn_cases r.line tables with
    ⟨before, m, after, table, index, rfl, first, known, begins, found⟩ | ⟨nowhere, missing⟩
  · have listed : m ∈ before ++ m :: after := List.mem_append_right _ List.mem_cons_self
    refine ⟨fun _ => ?_, fun nowhere => ?_⟩
    · obtain ⟨id, s', run, informed', asked⟩ := sent _ (by rw [searched, found]; rfl)
      refine ⟨before, m, after, table, index, id, s', rfl, first, known, begins, run, asked, informed', ?_⟩
      intro resolver told
      obtain ⟨l, same, method, code, line⟩ := Account.location_of_named
        (p := ⟨type.tag, type.type, m.id, index⟩) named reported listed rfl known
      obtain ⟨resolver', run, -⟩ := same ▸ Resolver.gives_location faithful.consults told _
      refine ⟨l, resolver', run, method, code, line.trans ?_⟩
      exact LineTable.lineAt?_of_mem (distinct m listed table known) begins.1
    · exact (nowhere m listed ⟨table, known, _, begins.1, rfl⟩).elim
  · refine ⟨?_, fun _ => ?_⟩
    · rintro ⟨m, hm, maps⟩
      exact (nowhere m hm maps).elim
    · obtain ⟨s', run, -, asked⟩ := failed _ (by rw [searched, missing]; rfl)
      exact ⟨_, s', run, asked⟩

open Recital in
/-- The breakpoint is requested where the code of the line begins in the first method. -/
theorem breakpoint_set_in_first_method :
    ∃ index id s', sampleLines.BeginsAt 10 index ∧
      Session.createBreakpointRequest ⟨"Main", 10, .thread⟩ sampleSession = .ok id s' ∧
      s'.connection.eventRequests = [breakpointOrder {} .thread ⟨1, 7, 1, index⟩] := by
  have granted : GrantsRequests sample.Hears := fun hears _ _ _ =>
    ⟨3, Recital.gives hears (Nat.le_of_ble_eq_true rfl) rfl⟩
  have maps (m : Member) : sampleAccount.Maps 7 m.id 10 := ⟨sampleLines, rfl, ⟨9, 10⟩, by decide, rfl⟩
  obtain ⟨before, m, after, table, index, id, s', listed, first, known, begins, run, asked, -⟩ :=
    (breakpoint_set_at_line (r := ⟨"Main", 10, .thread⟩) sample_faithful granted sampleSession_informed rfl rfl rfl
      (fun _ _ => ⟨_, rfl⟩) (fun _ _ table same => by cases same; decide)).1 ⟨_, List.mem_cons_self, maps _⟩
  cases known
  cases before with
  | nil =>
    obtain ⟨rfl, -⟩ := List.cons.inj listed
    exact ⟨index, id, s', begins, run, asked⟩
  | cons b before => exact (first b List.mem_cons_self (maps b)).elim

end Debugger.Wire
