import CallDiagram.Index.Collect

/-! # What every step of the collector keeps

The collector changes a module in five ways. A property of modules that none of them breaks holds
of every module that is collected.
-/

namespace CallDiagram.Index

open Source

/-- A property of modules that no step of the collector breaks. -/
structure Keeps (s : Setting) (I : Module → Prop) : Prop where
  calls : ∀ {m} scope calls, I m → I (recordCalls scope calls m)
  type : ∀ {m} scope target type, I m → I (recordType s scope target type m)
  imports : ∀ {m} imports, I m → I { m with imports := imports }
  function : ∀ {m} scope heading decorators, I m →
    I (addFunction scope (functionItem s scope heading decorators) m)
  classDef : ∀ {m} scope heading bases, I m → I (addClass scope (classItem s scope heading) bases m)

namespace Keeps

variable {s : Setting} {I : Module → Prop} {m : Module}

theorem types (keeps : Keeps s I) (scope : Scope) (type : Option String) (targets : List Expr)
    (before : I m) : I (targets.foldl (fun m target => recordType s scope target type m) m) := by
  induction targets generalizing m with
  | nil => exact before
  | cons target targets ih => exact ih (keeps.type scope target type before)

mutual

/-- The recursion is the collector's own. -/
theorem collect (keeps : Keeps s I) : (st : Stmt) → ∀ {scope m}, I m →
    I (Index.collect s scope m st)
  | .simple _, _, _, before => keeps.calls _ _ before
  | .assign targets value, scope, _, before =>
      keeps.calls _ _ (keeps.types scope (constructedClass? value) targets before)
  | .annotate _ _ _, _, _, before => keeps.calls _ _ (keeps.type _ _ _ before)
  | .importModules _, _, _, before => keeps.imports _ before
  | .importNames .., _, _, before => keeps.imports _ before
  | .function heading decorators _ _ body, scope, _, before => by
      have added := keeps.function scope heading decorators before
      exact keeps.collectAll body (keeps.calls _ _ added)
  | .classDef heading bases _ body _, scope, _, before => by
      have added := keeps.classDef scope heading bases before
      exact keeps.calls _ _ (keeps.collectAll body (keeps.calls _ _ added))
  | .compound clauses, _, _, before => keeps.collectClauses clauses before

theorem collectAll (keeps : Keeps s I) : (body : List Stmt) → ∀ {scope m}, I m →
    I (Index.collectAll s scope m body)
  | [], _, _, before => before
  | st :: rest, _, _, before => keeps.collectAll rest (keeps.collect st before)

theorem collectClauses (keeps : Keeps s I) : (clauses : List Clause) → ∀ {scope m}, I m →
    I (Index.collectClauses s scope m clauses)
  | [], _, _, before => before
  | .mk _ body :: rest, _, _, before =>
      keeps.collectClauses rest (keeps.collectAll body (keeps.calls _ _ before))

end

/-- What holds of an empty module and is kept by every step holds of the collected module. -/
theorem moduleIndex (keeps : Keeps s I) (statements : List Stmt)
    (start : I ⟨s.path, s.moduleName, s.isPackage, [], [], [], [], []⟩) :
    I (Index.moduleIndex s statements) :=
  keeps.collectAll statements start

end Keeps

end CallDiagram.Index
