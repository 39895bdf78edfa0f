import CallDiagram.Proofs.Index.Places
import CallDiagram.Proofs.Source.Headings

/-! # Where definitions stand

A module lists its classes and its definitions in the order in which they are declared, and each
starts on a line of its own. An identity holds the line, so no two classes and no two definitions
of a parsed module share one.
-/

namespace CallDiagram

open Source

/-! ## What an identity tells -/

theorem Position.line_eq_of_toString_eq {p q : Position} (same : toString p = toString q) :
    p.line = q.line := by
  have colon (n : Int) : ':' ∉ n.repr.toList := notMem_repr_int (by decide) (by decide) n
  have written (p : Position) :
      (toString p).toList = p.line.repr.toList ++ ':' :: p.character.repr.toList := by
    have written : toString p = p.line.repr ++ ":" ++ p.character.repr := rfl
    simp [written]
  have letters := congrArg String.toList same
  rw [written, written] at letters
  obtain ⟨lines, -⟩ := (List.append_cons_inj_of_notMem (colon _) (colon _)).mp letters
  exact repr_int_inj (String.toList_inj.mp lines)

/-- An identity tells the file and the line on which the declaration starts. -/
theorem Item.eq_of_identity_eq {i j : Item} (word : IsWord i.name) (word' : IsWord j.name)
    (same : i.identity = j.identity) :
    i.uri = j.uri ∧ i.range.start.line = j.range.start.line := by
  have file := Item.uri_eq_of_identity_eq word word' same
  refine ⟨file, Position.line_eq_of_toString_eq ?_⟩
  have written (i : Item) : i.identity.toList =
      (i.uri ++ "#").toList ++ (i.name.toList ++ '@' :: (toString i.range.start).toList) := by
    have written : i.identity = i.uri ++ "#" ++ i.name ++ "@" ++ toString i.range.start := rfl
    simp [written]
  have letters := congrArg String.toList same
  rw [written, written, file] at letters
  have sign (p : Position) : '@' ∉ (toString p).toList :=
    Position.notMem_toString (by decide) (by decide) (by decide) p
  have behind := List.append_cancel_left letters
  have name : '@' ∉ i.name.toList := word.notMem (by decide)
  obtain ⟨-, -, places⟩ := (List.append_cons_inj_of_notMem name (sign _)).mp behind
  exact String.toList_inj.mp places

/-! ## What is collected -/

namespace Source.Declaration

def class? : Declaration → Option Heading
  | .classDef heading => some heading
  | .function _ => none

def function? : Declaration → Option Heading
  | .function heading => some heading
  | .classDef _ => none

end Source.Declaration

namespace Index

variable {s : Setting} {scope : Scope} {m m' : Module} {ds : List Declaration}

def Module.classItems (m : Module) : List Item :=
  m.classStatements.map (·.item)

theorem classItems_addFunction (item : Item) :
    (addFunction scope item m).classItems = m.classItems := by
  rw [Module.classItems, Node.classStatements_addFunction]
  split
  · refine Node.map_modify_of_eq ?_ ..
    intro
    rfl
  · rfl

theorem classItems_addClass (item : Item) (bases : List Expr) :
    (addClass scope item bases m).classItems = m.classItems ++ [item] :=
  List.map_append

/-- What an item shows of its declaration. -/
structure Label where
  file : String
  name : String
  range : Range
  selection : Range

def label (item : Item) : Label :=
  ⟨item.uri, item.name, item.range, item.selection⟩

/-- What an item of a declaration with that keyword and heading shows. -/
def Setting.label (s : Setting) (keyword : String) (heading : Heading) : Label :=
  ⟨s.path, heading.name, s.range heading.span, s.nameRange heading keyword⟩

/-- The module lists the declarations in their order. -/
structure Module.Declares (s : Setting) (m : Module) (ds : List Declaration) : Prop where
  classes : m.classItems.map label = (ds.filterMap Declaration.class?).map (s.label "class")
  definitions : (Node.items m).map label =
    (ds.filterMap Declaration.function?).map (s.label "def")

namespace Module.Declares

theorem congr (declares : m.Declares s ds) (classes : m'.classItems = m.classItems)
    (items : Node.items m' = Node.items m) : m'.Declares s ds :=
  ⟨classes ▸ declares.classes, items ▸ declares.definitions⟩

theorem recordCalls (declares : m.Declares s ds) (calls : List CallReference) :
    (recordCalls scope calls m).Declares s ds :=
  declares.congr (by rw [classItems, Node.classStatements_recordCalls, classItems])
    Node.items_recordCalls

theorem recordType (declares : m.Declares s ds) (target : Expr) (type : Option String) :
    (recordType s scope target type m).Declares s ds :=
  declares.congr (classItems_recordType target type) (Node.agrees_recordType target type).items

theorem types (declares : m.Declares s ds) (type : Option String) (targets : List Expr) :
    (targets.foldl (fun m target => Index.recordType s scope target type m) m).Declares s ds := by
  induction targets generalizing m with
  | nil => exact declares
  | cons target targets ih => exact ih (declares.recordType target type)

theorem addFunction (declares : m.Declares s ds) (heading : Heading) (decorators : List Expr) :
    (Index.addFunction scope (functionItem s scope heading decorators) m).Declares s
      (ds ++ [.function heading]) where
  classes := by
    rw [classItems_addFunction, declares.classes]
    simp [Declaration.class?]
  definitions := by
    rw [Sound.items_addFunction, List.map_append, declares.definitions]
    simp [Declaration.function?, label, Setting.label, functionItem]

theorem addClass (declares : m.Declares s ds) (heading : Heading) (bases : List Expr) :
    (Index.addClass scope (classItem s scope heading) bases m).Declares s
      (ds ++ [.classDef heading]) where
  classes := by
    rw [classItems_addClass, List.map_append, declares.classes]
    simp [Declaration.class?, label, Setting.label, classItem]
  definitions := by
    have items : Node.items (Index.addClass scope (classItem s scope heading) bases m) =
      Node.items m := rfl
    rw [items, declares.definitions]
    simp [Declaration.function?]

end Module.Declares

mutual

theorem declares_collect : (st : Stmt) → ∀ {scope m ds}, m.Declares s ds →
    (collect s scope m st).Declares s (ds ++ st.declarations)
  | .simple _, _, _, ds, before => by
      rw [Stmt.declarations, List.append_nil]
      exact before.recordCalls _
  | .assign targets value, _, _, ds, before => by
      rw [Stmt.declarations, List.append_nil]
      exact (before.types (constructedClass? value) targets).recordCalls _
  | .annotate _ _ _, _, _, ds, before => by
      rw [Stmt.declarations, List.append_nil]
      exact (before.recordType _ _).recordCalls _
  | .importModules _, _, _, ds, before => by
      rw [Stmt.declarations, List.append_nil]
      exact before.congr rfl rfl
  | .importNames .., _, _, ds, before => by
      rw [Stmt.declarations, List.append_nil]
      exact before.congr rfl rfl
  | .function heading decorators _ _ body, scope, _, ds, before => by
      have added : (addFunction scope _ _).Declares s _ := before.addFunction heading decorators
      rw [Stmt.declarations, List.append_cons]
      exact declares_collectAll body (added.recordCalls _)
  | .classDef heading bases _ body _, scope, _, ds, before => by
      have added : (addClass scope _ _ _).Declares s _ := before.addClass heading bases
      rw [Stmt.declarations, List.append_cons]
      exact (declares_collectAll body (added.recordCalls _)).recordCalls _
  | .compound clauses, _, _, _, before => declares_collectClauses clauses before

theorem declares_collectAll : (body : List Stmt) → ∀ {scope m ds}, m.Declares s ds →
    (collectAll s scope m body).Declares s (ds ++ declarationsOf body)
  | [], _, _, ds, before => (List.append_nil ds).symm ▸ before
  | st :: rest, _, _, ds, before => by
      rw [declarationsOf, ← List.append_assoc]
      exact declares_collectAll rest (declares_collect st before)

theorem declares_collectClauses : (clauses : List Clause) → ∀ {scope m ds}, m.Declares s ds →
    (collectClauses s scope m clauses).Declares s (ds ++ declarationsIn clauses)
  | [], _, _, ds, before => (List.append_nil ds).symm ▸ before
  | .mk _ body :: rest, _, _, ds, before => by
      rw [declarationsIn, ← List.append_assoc]
      exact declares_collectClauses rest (declares_collectAll body (before.recordCalls _))

end

theorem declares_moduleIndex (s : Setting) (statements : List Stmt) :
    (moduleIndex s statements).Declares s (declarationsOf statements) := by
  rw [← List.nil_append (declarationsOf statements)]
  exact declares_collectAll statements ⟨rfl, rfl⟩

/-! ## Distinct identities -/

/-- No two classes and no two definitions of the module share an identity. -/
structure Module.Distinct (m : Module) : Prop where
  classes : (m.classItems.map (·.identity)).Nodup
  definitions : ((Node.items m).map (·.identity)).Nodup

/-- The item stands in the file under a word for a name. -/
def IsNamedIn (file : String) (item : Item) : Prop :=
  item.uri = file ∧ IsWord item.name

theorem isNamedIn_of_mem {keyword : String} {headings : List Heading} {items : List Item}
    {item : Item} (labels : items.map label = headings.map (s.label keyword)) (h : item ∈ items) :
    IsNamedIn s.path item := by
  have listed : label item ∈ headings.map (s.label keyword) := labels ▸ List.mem_map_of_mem h
  obtain ⟨heading, -, same⟩ := List.mem_map.mp listed
  injection same with file name
  exact ⟨file.symm, name ▸ heading.spelled⟩

/-- Items of headings that start on lines of their own do so too. -/
theorem pairwise_lines {keyword : String} {headings : List Heading} {items : List Item}
    (labels : items.map label = headings.map (s.label keyword))
    (lines : headings.Pairwise fun h h' => h.span.start.line < h'.span.start.line) :
    items.Pairwise fun i j => i.range.start.line < j.range.start.line := by
  have apart : (items.map label).Pairwise fun l l' => l.range.start.line < l'.range.start.line := by
    rw [labels, List.pairwise_map]
    refine lines.imp fun line => ?_
    simp only [Setting.label, Setting.range, Setting.position]
    omega
  rwa [List.pairwise_map] at apart

theorem nodup_identities {keyword : String} {headings : List Heading} {items : List Item}
    (labels : items.map label = headings.map (s.label keyword))
    (lines : headings.Pairwise fun h h' => h.span.start.line < h'.span.start.line) :
    (items.map (·.identity)).Nodup := by
  rw [List.Nodup, List.pairwise_map]
  refine (pairwise_lines labels lines).imp_of_mem fun {i j} listed listed' line same => ?_
  have word := (isNamedIn_of_mem labels listed).2
  have word' := (isNamedIn_of_mem labels listed').2
  exact Int.ne_of_lt line (Item.eq_of_identity_eq word word' same).2

theorem pairwise_functions {text : String} {statements : List Stmt}
    (parsed : parseModule text = .ok statements) :
    ((declarationsOf statements).filterMap Declaration.function?).Pairwise fun h h' =>
      h.span.start.line < h'.span.start.line := by
  refine (pairwise_declarations parsed).filterMap _ ?_
  rintro (h | h) (h' | h') line _ ⟨⟩ _ ⟨⟩
  exact line

theorem distinct_moduleIndex {text : String} {statements : List Stmt}
    (parsed : parseModule text = .ok statements) : (moduleIndex s statements).Distinct := by
  have declares := declares_moduleIndex s statements
  constructor
  · refine nodup_identities declares.classes ((pairwise_declarations parsed).filterMap _ ?_)
    rintro (h | h) (h' | h') line _ ⟨⟩ _ ⟨⟩
    exact line
  · exact nodup_identities declares.definitions (pairwise_functions parsed)

end Index

end CallDiagram
