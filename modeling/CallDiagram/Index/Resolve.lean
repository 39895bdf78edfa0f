import CallDiagram.Index.Graph

/-! # What calls refer to

A call by a bare name is looked up from the inside out: functions inside the caller, functions and
classes of the module, imports, and at last the functions of the project if only one has the name.
A call on something is looked up by what the receiver may be: the instance itself, one of its
attributes, a local variable, a class, a module, and at last any class with such a method if there
is only one.
-/

namespace CallDiagram.Index.ProjectGraph

open Text

variable (g : ProjectGraph)

def only? {α : Type} : List α → Option α
  | [a] => some a
  | _ => none

/-- What a local name and the names behind it stand for, if the name is imported. -/
def imported? (m : Module) (name : String) : Option String :=
  let (head, rest) := partition '.' name.toList
  (m.imports.get? (String.ofList head)).map fun base =>
    if rest.isEmpty then base else base ++ "." ++ String.ofList rest

def classByDotted? (dotted : String) : Option ClassInfo := do
  let (home, name) := partitionLast '.' dotted.toList
  let m ← g.modulesByName.get? (String.ofList home)
  m.class? (String.ofList name)

/-- The class of a name in a module: its own, an imported one, or, if that is allowed, the only
one of the project with that last name. -/
def classByName? (m : Module) (name : String) (allowUnique : Bool) : Option ClassInfo :=
  match m.class? name with
  | some c => some c
  | none =>
    match imported? m name >>= g.classByDotted? with
    | some c => some c
    | none =>
      if allowUnique then
        let short := (dotted name).getLastD ""
        only? (g.modules.values.filterMap (·.class? short))
      else none

def basesOf (c : ClassInfo) : List ClassInfo :=
  match g.modules.get? c.item.uri with
  | some m => c.bases.filterMap (g.classByName? m · true)
  | none => []

/-- The identities of all classes that a look-up can meet. -/
def classIdentities : List String :=
  (g.modules.values ++ g.modulesByName.values).flatMap fun m =>
    m.classStatements.map (·.item.identity)

/-- The method of the first class of the pending ones, or of those that they derive from, depth
first. Classes that are not among the unseen ones were looked at before. -/
def methodAmong? (name : String) (unseen : List String) : (pending : List ClassInfo) → Option Item
  | [] => none
  | c :: rest =>
    if c.item.identity ∈ unseen then
      match c.methods.get? name with
      | some method => some method
      | none => methodAmong? name (unseen.erase c.item.identity) (g.basesOf c ++ rest)
    else methodAmong? name unseen rest
termination_by pending => (unseen.length, pending.length)
decreasing_by
  · apply Prod.Lex.left
    rw [List.length_erase_of_mem (by assumption)]
    have := List.length_pos_of_mem (by assumption : c.item.identity ∈ unseen)
    omega
  · apply Prod.Lex.right
    simp

def method? (c : ClassInfo) (name : String) : Option Item :=
  g.methodAmong? name (c.item.identity :: g.classIdentities).eraseDups [c]

def uniqueFunction? (name : String) : Option Item :=
  only? (g.modules.values.filterMap (·.functions.get? name))

/-- The method of that name, if only one class of the project has one. -/
def uniqueMethod? (name : String) : Option Item :=
  only? (g.modules.values.flatMap fun m => m.classes.filterMap (·.methods.get? name))

def localFunction? (d : Indexed) (name : String) : Option Item :=
  let detail := d.definition.item.detail ++ "." ++ name
  (d.module.definitions.find? fun c => c.item.detail = detail && c.className.isNone).map (·.item)

def memberByDotted? (dotted : String) : Option Item := do
  if dotted = "" then none
  let (home, name) := partitionLast '.' dotted.toList
  let m ← g.modulesByName.get? (String.ofList home)
  m.member? (String.ofList name)

def resolveName? (d : Indexed) (name : String) : Option Item :=
  localFunction? d name
    <|> d.module.member? name
    <|> g.memberByDotted? ((d.module.imports.get? name).getD "")
    <|> g.uniqueFunction? name

/-- The class whose body the definition stands in, by its name. -/
def ownClass? (d : Indexed) : Option ClassInfo := do
  let name ← d.definition.className
  if name = "" then none
  d.module.class? name

def resolveOnSelf? (d : Indexed) (receiver name : String) : Option Item := do
  let own ← ownClass? d
  if g.selfTokens.contains receiver then g.method? own name else none

def resolveOnAttribute? (d : Indexed) (receiver name : String) : Option Item := do
  let own ← ownClass? d
  let (owner, field) := partition '.' receiver.toList
  if !g.selfTokens.contains (String.ofList owner) || field.isEmpty || field.contains '.' then none
  let type ← own.attributeTypes.get? (String.ofList field)
  let c ← g.classByName? d.module type true
  g.method? c name

def resolveOnLocal? (d : Indexed) (receiver name : String) : Option Item := do
  let type ← d.definition.localTypes.get? receiver
  let c ← g.classByName? d.module type true
  g.method? c name

def resolveOnClass? (d : Indexed) (receiver name : String) : Option Item := do
  let c ← g.classByName? d.module receiver false
  g.method? c name

def resolveOnModule? (d : Indexed) (receiver name : String) : Option Item := do
  let dotted ← imported? d.module receiver
  let m ← g.modulesByName.get? dotted
  m.member? name

def resolveAttribute? (d : Indexed) (receiver : Option String) (name : String) : Option Item :=
  (receiver >>= fun receiver =>
    g.resolveOnSelf? d receiver name
      <|> g.resolveOnAttribute? d receiver name
      <|> g.resolveOnLocal? d receiver name
      <|> g.resolveOnClass? d receiver name
      <|> g.resolveOnModule? d receiver name)
    <|> g.uniqueMethod? name

def resolve? (d : Indexed) (r : CallReference) : Option Item :=
  if r.isAttribute then g.resolveAttribute? d r.receiver r.name else g.resolveName? d r.name

def groupCall (groups : Table String OutgoingCall) (target : Item) (range : Range) :
    Table String OutgoingCall :=
  match groups.get? target.identity with
  | some group => groups.set target.identity { group with ranges := group.ranges ++ [range] }
  | none => groups.set target.identity ⟨target, [range]⟩

/-- The calls of a definition that refer to something, grouped by what they call, in the order of
the first call of each. -/
def callsOf (d : Indexed) : List OutgoingCall :=
  let groups : Table String OutgoingCall := d.definition.calls.foldl (fun groups r =>
    match g.resolve? d r with
    | some target => groupCall groups target r.range
    | none => groups) []
  groups.values

def outgoingCalls (item : Item) : List OutgoingCall :=
  match g.definitionOf? item with
  | some d => g.callsOf d
  | none => []

end CallDiagram.Index.ProjectGraph
