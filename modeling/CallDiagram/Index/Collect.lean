import CallDiagram.Index.Module
import CallDiagram.Source.Syntax
import CallDiagram.Text.Blank
import CallDiagram.Text.Case
import CallDiagram.Text.Split
import CallDiagram.Text.Word

/-! # Collecting definitions and calls

One pass over the statements of a module. A call belongs to the innermost function whose body it
stands in; decorators, defaults and annotations of parameters belong to the enclosing function,
and the annotation of a result to none.
-/

namespace CallDiagram.Index

open Source Text

/-! ## Places -/

/-- How many characters of a line lie within its first bytes. -/
def charOffset : List Char → Nat → Nat
  | [], _ => 0
  | c :: line, bytes => if c.utf8Size ≤ bytes then charOffset line (bytes - c.utf8Size) + 1 else 0

structure Setting where
  path : String
  moduleName : String
  isPackage : Bool
  lines : List (List Char)
  selfTokens : List String

def Setting.line (s : Setting) (number : Nat) : List Char :=
  if number = 0 then [] else (s.lines[number - 1]?).getD []

/-- The place of a mark, counted in characters. -/
def Setting.position (s : Setting) (m : Mark) : Position :=
  ⟨(m.line : Int) - 1, charOffset (s.line m.line) m.column⟩

def Setting.range (s : Setting) (span : Span) : Range :=
  ⟨s.position span.start, s.position span.stop⟩

/-- Whether a word ends between two neighbours, or starts there. -/
def wordBoundary (before : Option Char) (after : List Char) : Bool :=
  let wordAfter := !endsWord after
  let wordBefore := (before.map isWordChar).getD false
  wordBefore != wordAfter

/-- How far behind the start of a text a name ends, if the text starts with the keyword, white
space and the name as a whole word: where the name starts and where it ends. -/
def nameAfterKeyword? (keyword name text : List Char) : Option (Nat × Nat) := do
  let behind ← afterPrefix? keyword text
  let blanks := (behind.takeWhile isBlank).length
  if blanks = 0 then none
  let rest ← afterPrefix? name (behind.drop blanks)
  if wordBoundary name.getLast? rest then
    let start := keyword.length + blanks
    some (start, start + name.length)
  else none

/-- The first place from the given one on where a definition of the name is written. -/
def findName? (keyword name : List Char) : (text : List Char) → (place : Nat) → Option (Nat × Nat)
  | [], place => (nameAfterKeyword? keyword name []).map fun (a, b) => (place + a, place + b)
  | c :: text, place =>
    match nameAfterKeyword? keyword name (c :: text) with
    | some (a, b) => some (place + a, place + b)
    | none => findName? keyword name text (place + 1)

/-- Where the name of a definition stands on the line that the definition starts on. -/
def Setting.nameRange (s : Setting) (heading : Heading) (keyword : String) : Range :=
  let line := s.line heading.span.start.line
  let start := charOffset line heading.span.start.column
  let name := heading.name.toList
  let (first, last) := (findName? keyword.toList name (line.drop start) start).getD
    (start, start + name.length)
  let row : Int := (heading.span.start.line : Int) - 1
  ⟨⟨row, first⟩, ⟨row, last⟩⟩

/-! ## Expressions -/

/-- The reference that a call makes: to a name, or to an attribute of something. -/
def Setting.reference? (s : Setting) : Expr → Option CallReference
  | .name id span => some ⟨id, s.range span, none, false⟩
  | .attribute value attr stop =>
    let stop := s.position stop
    let start : Position := ⟨stop.line, stop.character - attr.length⟩
    some ⟨attr, ⟨start, stop⟩, value.dottedName?, true⟩
  | _ => none

mutual

/-- The calls in an expression: an outer call before the calls in its parts. -/
def Setting.calls (s : Setting) : Expr → List CallReference
  | .name .. | .text _ => []
  | .attribute value _ _ | .await value | .starred value => s.calls value
  | .call func arguments named =>
    (s.reference? func).toList ++ s.calls func ++ s.callsOfAll arguments ++ s.callsOfAll named
  | .subscript value index => s.calls value ++ s.calls index
  | .compound _ parts => s.callsOfAll parts

def Setting.callsOfAll (s : Setting) : List Expr → List CallReference
  | [] => []
  | e :: rest => s.calls e ++ s.callsOfAll rest

end

/-- The class that an expression makes an instance of, by the case of its last name. -/
def constructedClass? (e : Expr) : Option String :=
  match (match e with | .await value => value | e => e) with
  | .call func _ _ => do
    let name ← func.dottedName?
    let first ← ((dotted name).getLastD "").toList.head?
    if isUpper first then some name else none
  | _ => none

/-- The class that an annotation names: a dotted name, a quoted name, or what stands in the
brackets behind one. -/
def annotatedClass? : Expr → Option String
  | .text value =>
    let name := dropEnds (fun c => c == '\'' || c == '"') value.toList
    if name.isEmpty then none else some (String.ofList name)
  | .subscript _ index => annotatedClass? index
  | e => e.dottedName?

/-! ## Statements -/

/-- A class whose body is being read. -/
structure OpenClass where
  place : Nat
  name : String
  detail : String

structure OpenDefinition where
  place : Nat
  detail : String
  className : Option String

/-- What encloses a statement, innermost first. -/
structure Scope where
  classes : List OpenClass
  definitions : List OpenDefinition
  inClass : Bool

/-- The definition that owns the calls of a statement. -/
def Scope.owner? (scope : Scope) : Option OpenDefinition :=
  scope.definitions.head?

def recordCalls (scope : Scope) (calls : List CallReference) (m : Module) : Module :=
  match scope.owner? with
  | some owner =>
    { m with definitions := m.definitions.modify owner.place fun d =>
        { d with calls := d.calls ++ calls } }
  | none => m

/-- Notes the class of a variable or, in a method of the innermost class, of an attribute of the
instance. -/
def recordType (s : Setting) (scope : Scope) (target : Expr) (type : Option String) (m : Module) :
    Module :=
  match type, scope.owner? with
  | some type, some owner =>
    match target with
    | .name id _ =>
      { m with definitions := m.definitions.modify owner.place fun d =>
          { d with localTypes := d.localTypes.set id type } }
    | .attribute (.name id _) attr _ =>
      match scope.classes.head? with
      | some c =>
        if s.selfTokens.contains id && owner.className = some c.name then
          { m with classStatements := m.classStatements.modify c.place fun info =>
              { info with attributeTypes := info.attributeTypes.set attr type } }
        else m
      | none => m
    | _ => m
  | _, _ => m

/-- The first elements of a list up to a place; a negative place counts from the end. -/
def takeTo {α : Type} (place : Int) (xs : List α) : List α :=
  if 0 ≤ place then xs.take place.toNat else xs.take (xs.length + place).toNat

/-- The dotted name in front of the names of a `from` import. -/
def importBase (s : Setting) (level : Nat) (source : Option String) : String :=
  if level = 0 then source.getD "" else
  let package := dotted s.moduleName
  let package := if s.isPackage then package else package.dropLast
  let package := if 1 < level then takeTo ((package.length : Int) - (level - 1)) package
    else package
  let package := package ++ (source.map dotted).getD []
  ".".intercalate (package.filter (· ≠ ""))

def bindModules (names : List Alias) (m : Module) : Module :=
  { m with imports := names.foldl (fun imports a =>
      match a.rename with
      | some name => imports.set name a.name
      | none =>
        let first := (dotted a.name).headD ""
        imports.set first first) m.imports }

def bindNames (base : String) (names : List Alias) (m : Module) : Module :=
  { m with imports := names.foldl (fun imports a =>
      if a.name = "*" then imports
      else imports.set (a.rename.getD a.name)
        (if base = "" then a.name else base ++ "." ++ a.name)) m.imports }

/-- Decorators that turn a method into a property. -/
def propertyDecorators : List String :=
  ["property", "cached_property", "functools.cached_property"]

def functionItem (s : Setting) (scope : Scope) (heading : Heading) (decorators : List Expr) :
    Item :=
  let isProperty := (decorators.filterMap Expr.dottedName?).any propertyDecorators.contains
  let enclosing := if scope.inClass then scope.classes.head?.map (·.detail)
    else scope.definitions.head?.map (·.detail)
  { name := heading.name
    kind := if !scope.inClass then .function else if isProperty then .property else .method
    uri := s.path
    range := s.range heading.span
    selection := s.nameRange heading "def"
    detail := match enclosing with
      | some detail => detail ++ "." ++ heading.name
      | none => heading.name }

def classItem (s : Setting) (scope : Scope) (heading : Heading) : Item :=
  { name := heading.name
    kind := .classType
    uri := s.path
    range := s.range heading.span
    selection := s.nameRange heading "class"
    detail := ".".intercalate ((scope.classes.map (·.name)).reverse ++ [heading.name]) }

def addFunction (scope : Scope) (item : Item) (m : Module) : Module :=
  let className := if scope.inClass then scope.classes.head?.map (·.name) else none
  let m := { m with definitions := m.definitions ++ [⟨item, className, [], []⟩] }
  if scope.inClass then
    match scope.classes.head? with
    | some c =>
      { m with classStatements := m.classStatements.modify c.place fun info =>
          { info with methods := info.methods.setDefault item.name item } }
    | none => m
  else if scope.definitions.isEmpty then
    { m with functions := m.functions.set item.name item }
  else m

def addClass (scope : Scope) (item : Item) (bases : List Expr) (m : Module) : Module :=
  let place := m.classStatements.length
  let info : ClassInfo := ⟨item.name, item, bases.filterMap Expr.dottedName?, [], []⟩
  { m with
    classStatements := m.classStatements ++ [info]
    classPlaces := if scope.definitions.isEmpty then m.classPlaces.set item.name place
      else m.classPlaces }

mutual

def collect (s : Setting) (scope : Scope) (m : Module) : Stmt → Module
  | .simple parts => recordCalls scope (s.callsOfAll parts) m
  | .assign targets value =>
    let type := constructedClass? value
    let m := targets.foldl (fun m target => recordType s scope target type m) m
    recordCalls scope (s.callsOfAll targets ++ s.calls value) m
  | .annotate target annotation value =>
    let m := recordType s scope target (annotatedClass? annotation) m
    recordCalls scope (s.callsOfAll (target :: annotation :: value.toList)) m
  | .importModules names => bindModules names m
  | .importNames level source names => bindNames (importBase s level source) names m
  | .function heading decorators parameters _ body =>
    let item := functionItem s scope heading decorators
    let place := m.definitions.length
    let className := if scope.inClass then scope.classes.head?.map (·.name) else none
    let m := addFunction scope item m
    let m := recordCalls scope (s.callsOfAll (decorators ++ parameters)) m
    let scope := { scope with
      definitions := ⟨place, item.detail, className⟩ :: scope.definitions, inClass := false }
    collectAll s scope m body
  | .classDef heading bases named body decorators =>
    let item := classItem s scope heading
    let place := m.classStatements.length
    let m := addClass scope item bases m
    let inner := { scope with
      classes := ⟨place, item.name, item.detail⟩ :: scope.classes, inClass := true }
    let m := recordCalls scope (s.callsOfAll (bases ++ named)) m
    let m := collectAll s inner m body
    recordCalls scope (s.callsOfAll decorators) m
  | .compound clauses => collectClauses s scope m clauses

def collectAll (s : Setting) (scope : Scope) (m : Module) : List Stmt → Module
  | [] => m
  | stmt :: rest => collectAll s scope (collect s scope m stmt) rest

def collectClauses (s : Setting) (scope : Scope) (m : Module) : List Clause → Module
  | [] => m
  | .mk heads body :: rest =>
    let m := recordCalls scope (s.callsOfAll heads) m
    collectClauses s scope (collectAll s scope m body) rest

end

def moduleIndex (s : Setting) (statements : List Stmt) : Module :=
  collectAll s ⟨[], [], false⟩ ⟨s.path, s.moduleName, s.isPackage, [], [], [], [], []⟩ statements

end CallDiagram.Index
