import CallDiagram.CallSite.Listing
import CallDiagram.Diagram.Basic
import CallDiagram.Diagram.Number
import CallDiagram.Skip
import CallDiagram.Text.Wrap
import CallDiagram.Trace

/-! # Traversals

A diagram is built by following the calls of the entry function depth first, in the order in which
they are carried out. Each call gives a message to the callee, the messages of the callee's own
calls, and a message back. At the greatest depth the callee's calls are only probed: a note tells
that there are some. A function that cannot be analyzed counts as one without calls, so only a
cancellation can keep a diagram from being built.
-/

namespace CallDiagram

open Text

structure Traversal where
  provider : Provider
  settings : Settings
  rules : SkipConfiguration
  root : String
  /-- The traversal is cancelled from this question for calls on, if it is cancelled at all. -/
  cancelAt : Option Nat := none

structure TraversalState where
  registry : Registry := {}
  /-- The class names of functions by identity; empty for functions without class. -/
  classNames : Table String String := []
  visited : Nat := 0
  skipped : Nat := 0
  failed : Nat := 0
  /-- How often the calls of a function were asked for. -/
  asked : Nat := 0
  style : TraceStyle := {}
  trace : List TraceLine := []

structure Cancelled where
  deriving Repr, DecidableEq

def Cancelled.message (_ : Cancelled) : String :=
  "Sequence diagram generation cancelled"

abbrev Walk := ExceptT Cancelled (StateM TraversalState)

inductive Nested where
  | shown (messages : List Message)
  /-- There are calls, but they are too deep to be shown. -/
  | truncated
  deriving Repr, DecidableEq, Inhabited

namespace Traversal

variable (t : Traversal)

def note (severity : Severity) (text : String) : Walk Unit :=
  modify fun s => { s with trace := s.trace ++ [⟨severity, text⟩] }

def noteCall (text : TraceStyle → String) : Walk Unit :=
  modify fun s => { s with trace := s.trace ++ [⟨.info, s.style.indented (text s.style)⟩] }

def deeper {α : Type} (step : Walk α) : Walk α :=
  ExceptT.mk do
    modify fun s => { s with style := s.style.indent }
    let result ← step.run
    modify fun s => { s with style := s.style.outdent }
    return result

def checkCancelled : Walk Unit := do
  match t.cancelAt with
  | none => return
  | some question => if question ≤ (← get).asked then throw ⟨⟩

/-- The class around a function, asked for once. -/
def className (item : Item) : Walk String := do
  match (← get).classNames.get? item.identity with
  | some name => return name
  | none =>
    let name ← match t.provider.containerName item.uri item.selection.start with
      | .ok name => pure (name.getD "")
      | .error cause =>
        note .warning s!"⚠️ No class name for {item.name}: {cause.message}"
        pure ""
    modify fun s => { s with classNames := s.classNames.set item.identity name }
    return name

/-- The participant of a function on an object of that name. A function without class takes part
under the name of its file. -/
def participant (item : Item) (objectName : String) : Walk Participant := do
  let className ← t.className item
  let className := if className = "" then (Path.ofString item.uri).stem else className
  let key : ParticipantKey := ⟨relativeNamespace item.uri t.root, className, objectName⟩
  let s ← get
  let (lifeline, registry) := s.registry.register key
  set { s with registry }
  return lifeline.toParticipant

def squeezeBlanks : List Char → List Char
  | [] => []
  | c :: rest =>
    if isBlank c then
      if rest.head?.any isBlank then squeezeBlanks rest else ' ' :: squeezeBlanks rest
    else c :: squeezeBlanks rest

/-- How long labels are wrapped. -/
def wrapper (s : Settings) : Wrapper where
  width := s.wrapWidth.val
  softLimit := s.softWrapLimit.val
  marker := ['\n']
  width_pos := s.wrapWidth.property
  softLimit_pos := s.softWrapLimit.property
  marker_ne_nil := List.cons_ne_nil _ _

def label (s : Settings) (site : CallSite) : String :=
  if s.omitMessageDetails then site.target.name ++ "()"
  else
    let arguments := strip (squeezeBlanks site.reading.arguments.toList)
    site.target.name ++ "(" ++ String.ofList ((wrapper s).wrap arguments) ++ ")"

/-- Leaves out the call sites that the rules skip. While probing, this is neither counted nor
noted. -/
def surviving (node : Item) (probing : Bool) : List (CallSite × Nat) → Walk (List CallSite)
  | [] => return []
  | (site, index) :: sites => do
    match skipReason? site.target.kind site.target.uri t.rules with
    | none => return site :: (← surviving node probing sites)
    | some reason =>
      if !probing then
        modify fun s => { s with skipped := s.skipped + 1 }
        noteCall fun style =>
          s!"Call {index} from {style.method node.name} to {style.method site.target.name} "
            ++ s!"{reason.text} and is therefore skipped"
      surviving node probing sites

/-- The call sites of a function that are shown; none if the function cannot be analyzed. -/
def shownSites (node : Item) (probing : Bool) : Walk (List CallSite) := do
  modify fun s => { s with asked := s.asked + 1 }
  match t.provider.callSites t.settings node with
  | .error e =>
    modify fun s => { s with failed := s.failed + 1 }
    note .warning s!"⚠️ {e.message}, treating it as a leaf"
    return []
  | .ok (sites, warnings) =>
    warnings.forM fun w => note .warning w.message
    t.surviving node probing (sites.zipIdx 1)

def objectName (callerName : String) : Qualifier → String
  | .sameObject => callerName
  | .named name => name

def block (s : Settings) (caller callee : Participant) (site : CallSite) (number : String)
    (nested : Nested) : List Message :=
  let inside := match nested with
    | .shown messages => messages
    | .truncated => [⟨callee, callee, truncationNote, number, .note⟩]
  ⟨caller, callee, label s site, number, .call⟩ :: inside
    ++ [⟨callee, caller, s.returnMessageLabel, number, .return⟩]

/-- The messages of the calls of one function, `visit` giving what is shown below each. -/
def messagesOf (visit : Item → (name number : String) → Walk Nested) (node : Item)
    (name number : String) (caller : Participant) : List (CallSite × Nat) → Walk (List Message)
  | [] => return []
  | (site, index) :: sites => do
    let callNumber := numberBelow number index
    let object := objectName name site.reading.qualifier
    let callee ← t.participant site.target object
    noteCall fun style =>
      s!"Call {callNumber}: {style.object caller.key.className}.{style.method node.name} ->> "
        ++ s!"{style.object callee.key.className}.{style.method site.target.name}"
    let nested ← deeper (visit site.target object callNumber)
    let rest ← messagesOf visit node name number caller sites
    return block t.settings caller callee site callNumber nested ++ rest

/-- What is shown below a call to a function on an object of that name: its messages, as many
levels of calls deep as `depth` says. -/
def visit : (depth : Nat) → (node : Item) → (name number : String) → Walk Nested
  | 0, node, _, _ => do
    t.checkCancelled
    let sites ← t.shownSites node true
    return if sites.isEmpty then .shown [] else .truncated
  | depth + 1, node, name, number => do
    t.checkCancelled
    modify fun s => { s with visited := s.visited + 1 }
    let sites ← t.shownSites node false
    if sites.isEmpty then return .shown []
    let caller ← t.participant node name
    return .shown (← t.messagesOf (visit depth) node name number caller (sites.zipIdx 1))

def build (entry : Item) : Walk Diagram := do
  modify fun s => { s with style := s.style.reset }
  noteCall fun style => s!"Building sequence diagram of {style.method entry.name} in {entry.uri}"
  let _ ← t.participant entry entry.name
  let messages ← match ← t.visit t.settings.maxCallDepth.val entry entry.name "" with
    | .shown messages => pure messages
    | .truncated => pure []
  modify fun s => { s with registry := s.registry.finalize }
  let s ← get
  note .info (s!"✓ Sequence diagram built: {s.registry.size} participants, "
    ++ s!"{messages.length} messages ({s.visited} nodes visited, {s.skipped} calls skipped, "
    ++ s!"{s.failed} nodes failed)")
  let entryClass ← t.className entry
  return { entry, registry := (← get).registry, messages, entryClass, workspaceRoot := t.root }

end Traversal

/-- The roots that the settings name, else those of the provider; none if it does not know them. -/
def Provider.roots (p : Provider) (s : Settings) : List String × List TraceLine :=
  if !s.workspaceRoots.isEmpty then (s.workspaceRoots, [])
  else match p.workspaceRoots with
    | .ok roots => (roots, [])
    | .error cause =>
      ([], [⟨.warning, s!"⚠️ Workspace roots unavailable, paths stay absolute: {cause.message}"⟩])

def Provider.traversal (p : Provider) (s : Settings) (cancelAt : Option Nat := none) :
    Traversal :=
  let roots := (p.roots s).1
  { provider := p, settings := s, rules := .ofSettings s roots, root := commonRoot roots, cancelAt }

def Provider.diagram (p : Provider) (s : Settings) (entry : Item) (cancelAt : Option Nat := none) :
    Except Cancelled Diagram × List TraceLine :=
  let (result, state) := (((p.traversal s cancelAt).build entry).run { trace := (p.roots s).2 })
  (result, state.trace)

end CallDiagram
