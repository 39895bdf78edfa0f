import CallDiagram.Proofs.Index.Sound

/-! # Callees

Every recorded call is the reference to something that is called in the statements of the module. So
what holds of the references to all of these holds of all recorded calls. Main statement:
`records_moduleIndex`.
-/

namespace CallDiagram.Source

mutual

/-- What is called in an expression, an outer call before the calls in its parts. -/
def Expr.callees : Expr → List Expr
  | .name .. | .text _ => []
  | .attribute value _ _ | .await value | .starred value => value.callees
  | .call func arguments named =>
    func :: (func.callees ++ calleesOfAll arguments ++ calleesOfAll named)
  | .subscript value index => value.callees ++ index.callees
  | .compound _ parts => calleesOfAll parts

def calleesOfAll : List Expr → List Expr
  | [] => []
  | e :: rest => e.callees ++ calleesOfAll rest

end

mutual

/-- What is called in a statement, but for the annotations of results. -/
def Stmt.callees : Stmt → List Expr
  | .simple parts => calleesOfAll parts
  | .assign targets value => calleesOfAll targets ++ value.callees
  | .annotate target annotation value => calleesOfAll (target :: annotation :: value.toList)
  | .importModules _ | .importNames .. => []
  | .function _ decorators parameters _ body =>
    calleesOfAll (decorators ++ parameters) ++ calleesOf body
  | .classDef _ bases named body decorators =>
    calleesOfAll (bases ++ named) ++ calleesOf body ++ calleesOfAll decorators
  | .compound clauses => calleesIn clauses

def calleesOf : List Stmt → List Expr
  | [] => []
  | st :: rest => st.callees ++ calleesOf rest

def calleesIn : List Clause → List Expr
  | [] => []
  | .mk heads body :: rest => calleesOfAll heads ++ calleesOf body ++ calleesIn rest

end

end CallDiagram.Source

namespace CallDiagram.Index

open Source

variable {s : Setting} {scope : Scope} {m : Module} {P : CallReference → Prop}

mutual

theorem calls_eq_filterMap : (e : Expr) → s.calls e = e.callees.filterMap s.reference?
  | .name .. | .text _ => rfl
  | .attribute value _ _ | .await value | .starred value => calls_eq_filterMap value
  | .call func arguments named => by
      rw [Setting.calls, Expr.callees, calls_eq_filterMap func, callsOfAll_eq_filterMap arguments,
        callsOfAll_eq_filterMap named, List.filterMap_cons]
      cases s.reference? func <;> simp
  | .subscript value index => by
      rw [Setting.calls, Expr.callees, calls_eq_filterMap value, calls_eq_filterMap index,
        List.filterMap_append]
  | .compound _ parts => callsOfAll_eq_filterMap parts

theorem callsOfAll_eq_filterMap :
    (es : List Expr) → s.callsOfAll es = (calleesOfAll es).filterMap s.reference?
  | [] => rfl
  | e :: rest => by
      rw [Setting.callsOfAll, calleesOfAll, calls_eq_filterMap e, callsOfAll_eq_filterMap rest,
        List.filterMap_append]

end

/-- All recorded calls have the property. -/
def Module.Records (m : Module) (P : CallReference → Prop) : Prop :=
  ∀ calls ∈ m.definitions.map (·.calls), ∀ r ∈ calls, P r

/-- What some expressions call is referred to with the property. -/
def Setting.Refers (s : Setting) (callees : List Expr) (P : CallReference → Prop) : Prop :=
  ∀ func ∈ callees, ∀ r, s.reference? func = some r → P r

theorem Setting.Refers.append {xs ys : List Expr} (refers : s.Refers (xs ++ ys) P) :
    s.Refers xs P ∧ s.Refers ys P :=
  List.forall_mem_append.mp refers

theorem Setting.Refers.calls {e : Expr} (refers : s.Refers e.callees P) :
    ∀ r ∈ s.calls e, P r := by
  intro r member
  rw [calls_eq_filterMap] at member
  obtain ⟨func, called, made⟩ := List.mem_filterMap.mp member
  exact refers func called r made

theorem Setting.Refers.callsOfAll {es : List Expr} (refers : s.Refers (calleesOfAll es) P) :
    ∀ r ∈ s.callsOfAll es, P r := by
  intro r member
  rw [callsOfAll_eq_filterMap] at member
  obtain ⟨func, called, made⟩ := List.mem_filterMap.mp member
  exact refers func called r made

namespace Module.Records

theorem congr {m' : Module} (records : m.Records P)
    (same : m'.definitions.map (·.calls) = m.definitions.map (·.calls)) : m'.Records P := by
  rw [Records, same]
  exact records

theorem recordCalls (records : m.Records P) {calls : List CallReference}
    (all : ∀ r ∈ calls, P r) : (Index.recordCalls scope calls m).Records P := by
  unfold Index.recordCalls
  split
  · intro others listed r member
    obtain ⟨d, changed, rfl⟩ := List.mem_map.mp listed
    rcases mem_modify changed with old | ⟨old, known, rfl⟩
    · exact records _ (List.mem_map_of_mem old) r member
    · rcases List.mem_append.mp member with before | new
      · exact records _ (List.mem_map_of_mem known) r before
      · exact all r new
  · exact records

theorem recordType (records : m.Records P) (target : Expr) (type : Option String) :
    (Index.recordType s scope target type m).Records P :=
  records.congr (Node.agrees_recordType target type).calls

theorem addFunction (records : m.Records P) (item : Item) :
    (Index.addFunction scope item m).Records P := by
  intro calls listed r member
  rw [Node.definitions_addFunction, List.map_append] at listed
  rcases List.mem_append.mp listed with old | new
  · exact records calls old r member
  · cases List.mem_singleton.mp new
    cases member

end Module.Records

mutual

/-- The recursion is the collector's own. -/
theorem records_collect : (st : Stmt) → ∀ {scope m}, s.Refers st.callees P → m.Records P →
    (collect s scope m st).Records P
  | .simple _, _, _, refers, before => before.recordCalls refers.callsOfAll
  | .assign targets value, _, _, refers, before => by
      obtain ⟨left, right⟩ := refers.append
      apply Module.Records.recordCalls
      · exact before.congr (Node.agrees_foldl_recordType targets (constructedClass? value)).calls
      · exact List.forall_mem_append.mpr ⟨left.callsOfAll, right.calls⟩
  | .annotate _ _ _, _, _, refers, before =>
      (before.recordType _ _).recordCalls refers.callsOfAll
  | .importModules _, _, _, _, before => before.congr rfl
  | .importNames .., _, _, _, before => before.congr rfl
  | .function heading decorators _ _ body, scope, _, refers, before => by
      obtain ⟨outside, inside⟩ := refers.append
      have added : (addFunction scope _ _).Records P :=
        before.addFunction (functionItem s scope heading decorators)
      exact records_collectAll body inside (added.recordCalls outside.callsOfAll)
  | .classDef heading bases _ body _, scope, m, refers, before => by
      obtain ⟨front, behind⟩ := refers.append
      obtain ⟨outside, inside⟩ := front.append
      have added : (addClass scope (classItem s scope heading) bases m).Records P :=
        before.congr rfl
      apply Module.Records.recordCalls _ behind.callsOfAll
      exact records_collectAll body inside (added.recordCalls outside.callsOfAll)
  | .compound clauses, _, _, refers, before => records_collectClauses clauses refers before

theorem records_collectAll : (body : List Stmt) → ∀ {scope m}, s.Refers (calleesOf body) P →
    m.Records P → (collectAll s scope m body).Records P
  | [], _, _, _, before => before
  | st :: rest, _, _, refers, before => by
      obtain ⟨here, later⟩ := refers.append
      exact records_collectAll rest later (records_collect st here before)

theorem records_collectClauses : (clauses : List Clause) → ∀ {scope m},
    s.Refers (calleesIn clauses) P → m.Records P → (collectClauses s scope m clauses).Records P
  | [], _, _, _, before => before
  | .mk heads body :: rest, _, _, refers, before => by
      obtain ⟨here, later⟩ := refers.append
      obtain ⟨front, inside⟩ := here.append
      apply records_collectClauses rest later
      exact records_collectAll body inside (before.recordCalls front.callsOfAll)

end

/-- What holds of the references to all callees holds of all recorded calls. -/
theorem records_moduleIndex {statements : List Stmt} (refers : s.Refers (calleesOf statements) P) :
    (moduleIndex s statements).Records P :=
  records_collectAll statements refers fun _ none => nomatch none

end CallDiagram.Index
