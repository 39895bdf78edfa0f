import CallDiagram.Traversal

/-! # Steps of a traversal

A walk either returns a value in a new state or is cancelled. `Walk.Returns` is the first of these
outcomes as a relation between two states, and a run of several steps is taken apart by it at each
bind. Every small step has one lemma here that says all that it does; later modules cite these and
open no step.
-/

namespace CallDiagram

namespace Walk

variable {α β : Type}

def outcome (step : Walk α) (before : TraversalState) : Except Cancelled α × TraversalState :=
  ExceptT.run step before

/-- A step, begun in one state, returns a value in another. -/
def Returns (step : Walk α) (before : TraversalState) (value : α) (after : TraversalState) : Prop :=
  outcome step before = (.ok value, after)

theorem outcome_bind (step : Walk α) (next : α → Walk β) (σ : TraversalState) :
    outcome (step >>= next) σ = match outcome step σ with
      | (.ok a, ρ) => outcome (next a) ρ
      | (.error e, ρ) => (.error e, ρ) := by
  simp only [outcome, bind, ExceptT.run, ExceptT.bind, ExceptT.mk, StateT.bind]
  rcases step σ with ⟨_ | _, _⟩ <;> rfl

@[simp] theorem returns_pure {a b : α} {σ τ : TraversalState} :
    Returns (pure a) σ b τ ↔ b = a ∧ τ = σ := by
  constructor
  · intro done
    cases done
    exact ⟨rfl, rfl⟩
  · rintro ⟨rfl, rfl⟩
    rfl

/-- A run of two steps is a run of the first and, from where it ends, one of the second. -/
theorem returns_bind {step : Walk α} {next : α → Walk β} {b : β} {σ τ : TraversalState} :
    Returns (step >>= next) σ b τ ↔ ∃ a ρ, Returns step σ a ρ ∧ Returns (next a) ρ b τ := by
  rw [Returns, outcome_bind]
  simp only [Returns]
  rcases outcome step σ with ⟨_ | a, ρ⟩
  · simp
  · simp only [Prod.mk.injEq, Except.ok.injEq]
    constructor
    · intro rest
      exact ⟨a, ρ, ⟨rfl, rfl⟩, rest⟩
    · rintro ⟨_, _, ⟨rfl, rfl⟩, rest⟩
      exact rest

@[simp] theorem returns_modify {f : TraversalState → TraversalState} {u : Unit}
    {σ τ : TraversalState} : Returns (modify f) σ u τ ↔ τ = f σ := by
  constructor
  · intro done
    cases done
    rfl
  · rintro rfl
    rfl

@[simp] theorem returns_throw {e : Cancelled} {a : α} {σ τ : TraversalState} :
    ¬ Returns (throw e) σ a τ := by
  intro done
  cases done

theorem returns_bind_of {step : Walk α} {next : α → Walk β} {a : α} {b : β}
    {ρ σ τ : TraversalState} (ran : Returns step σ a ρ) :
    Returns (step >>= next) σ b τ ↔ Returns (next a) ρ b τ := by
  have once : outcome step σ = (.ok a, ρ) := ran
  rw [Returns, outcome_bind, once]
  rfl

@[simp] theorem returns_get_bind {next : TraversalState → Walk β} {b : β} {σ τ : TraversalState} :
    Returns (get >>= next) σ b τ ↔ Returns (next σ) σ b τ :=
  returns_bind_of rfl

@[simp] theorem returns_modify_bind {f : TraversalState → TraversalState} {next : Unit → Walk β}
    {b : β} {σ τ : TraversalState} :
    Returns (modify f >>= next) σ b τ ↔ Returns (next ()) (f σ) b τ :=
  returns_bind_of rfl

@[simp] theorem returns_set_bind {ρ : TraversalState} {next : PUnit → Walk β} {b : β}
    {σ τ : TraversalState} :
    Returns (set ρ >>= next) σ b τ ↔ Returns (next ()) ρ b τ :=
  returns_bind_of rfl

@[simp] theorem returns_map {step : Walk α} {f : α → β} {b : β} {σ τ : TraversalState} :
    Returns (f <$> step) σ b τ ↔ ∃ a, Returns step σ a τ ∧ b = f a := by
  rw [map_eq_pure_bind, returns_bind]
  constructor
  · rintro ⟨a, ρ, ran, rest⟩
    obtain ⟨rfl, rfl⟩ := returns_pure.mp rest
    exact ⟨a, ran, rfl⟩
  · rintro ⟨a, ran, rfl⟩
    exact ⟨a, τ, ran, returns_pure.mpr ⟨rfl, rfl⟩⟩

/-- A step that cannot be cancelled. -/
def Total (step : Walk α) : Prop :=
  ∀ σ, ∃ a τ, Returns step σ a τ

theorem Total.bind {step : Walk α} {next : α → Walk β} (first : Total step)
    (rest : ∀ a, Total (next a)) : Total (step >>= next) := by
  intro σ
  obtain ⟨a, ρ, ran⟩ := first σ
  obtain ⟨b, τ, ended⟩ := rest a ρ
  exact ⟨b, τ, returns_bind.mpr ⟨a, ρ, ran, ended⟩⟩

end Walk

/-- The class around a function, empty if there is none or if it is not known. -/
def Provider.classOf (p : Provider) (item : Item) : String :=
  match p.containerName item.uri item.selection.start with
  | .ok name => name.getD ""
  | .error _ => ""

def Provider.classNotes (p : Provider) (item : Item) : List TraceLine :=
  match p.containerName item.uri item.selection.start with
  | .ok _ => []
  | .error cause => [⟨.warning, s!"⚠️ No class name for {item.name}: {cause.message}"⟩]

/-- The participant that a function of a class takes part as, on an object of that name. -/
def Item.participantKey (item : Item) (root className objectName : String) : ParticipantKey :=
  ⟨relativeNamespace item.uri root,
    if className = "" then (Path.ofString item.uri).stem else className, objectName⟩

namespace Traversal

open Walk

variable {α : Type} {t : Traversal} {σ τ : TraversalState}

/-- The class of a function as a state knows it, or else as the provider does. -/
def classIn (t : Traversal) (σ : TraversalState) (item : Item) : String :=
  (σ.classNames.get? item.identity).getD (t.provider.classOf item)

/-- The key of a function on an object of that name, as a state knows its class. -/
def keyIn (t : Traversal) (σ : TraversalState) (item : Item) (objectName : String) :
    ParticipantKey :=
  item.participantKey t.root (t.classIn σ item) objectName

def withClass (t : Traversal) (σ : TraversalState) (item : Item) : TraversalState :=
  if (σ.classNames.get? item.identity).isSome then σ
  else
    { σ with
      classNames := σ.classNames.set item.identity (t.provider.classOf item)
      trace := σ.trace ++ t.provider.classNotes item }

@[simp] theorem returns_note {severity : Severity} {text : String} {u : Unit} :
    Returns (note severity text) σ u τ ↔ τ = { σ with trace := σ.trace ++ [⟨severity, text⟩] } :=
  returns_modify

@[simp] theorem returns_noteCall {text : TraceStyle → String} {u : Unit} :
    Returns (noteCall text) σ u τ ↔
      τ = { σ with trace := σ.trace ++ [⟨.info, σ.style.indented (text σ.style)⟩] } :=
  returns_modify

theorem outcome_deeper (step : Walk α) (σ : TraversalState) :
    outcome (deeper step) σ =
      ((outcome step { σ with style := σ.style.indent }).1,
        { (outcome step { σ with style := σ.style.indent }).2 with
          style := (outcome step { σ with style := σ.style.indent }).2.style.outdent }) :=
  rfl

theorem returns_deeper {step : Walk α} {a : α} :
    Returns (deeper step) σ a τ ↔
      ∃ ρ, Returns step { σ with style := σ.style.indent } a ρ ∧
        τ = { ρ with style := ρ.style.outdent } := by
  simp only [Returns, outcome_deeper]
  rcases outcome step { σ with style := σ.style.indent } with ⟨result, ρ⟩
  simp only [Prod.mk.injEq]
  constructor
  · rintro ⟨rfl, rfl⟩
    exact ⟨ρ, ⟨rfl, rfl⟩, rfl⟩
  · rintro ⟨_, ⟨rfl, rfl⟩, rfl⟩
    exact ⟨rfl, rfl⟩

theorem returns_checkCancelled {u : Unit} :
    Returns t.checkCancelled σ u τ ↔
      τ = σ ∧ ∀ question, t.cancelAt = some question → σ.asked < question := by
  unfold checkCancelled
  cases t.cancelAt with
  | none => simp
  | some question =>
      simp only [returns_get_bind]
      split
      · next late => simp [Nat.not_lt.mpr late]
      · next early => simp [Nat.lt_of_not_le early]

theorem returns_className {item : Item} {c : String} :
    Returns (t.className item) σ c τ ↔ c = t.classIn σ item ∧ τ = t.withClass σ item := by
  unfold className classIn withClass
  rw [returns_get_bind]
  cases known : σ.classNames.get? item.identity with
  | some name => simp
  | none =>
      unfold Provider.classOf Provider.classNotes
      cases answer : t.provider.containerName item.uri item.selection.start with
      | ok name => simp [and_comm]
      | error cause => simp [note, and_comm]

theorem returns_participant {item : Item} {objectName : String} {p : Participant} :
    Returns (t.participant item objectName) σ p τ ↔
      p = (σ.registry.register (t.keyIn σ item objectName)).1.toParticipant ∧
        τ = { t.withClass σ item with
          registry := (σ.registry.register (t.keyIn σ item objectName)).2 } := by
  have kept : (t.withClass σ item).registry = σ.registry := by
    unfold withClass
    split <;> rfl
  have named : Returns (t.className item) σ (t.classIn σ item) (t.withClass σ item) :=
    returns_className.mpr ⟨rfl, rfl⟩
  unfold participant
  rw [returns_bind_of named]
  simp only [returns_get_bind, returns_set_bind, returns_pure, kept]
  rfl

theorem returns_notes {severity : Severity} {text : α → String} {xs : List α} {u : PUnit} :
    Returns (xs.forM fun x => note severity (text x)) σ u τ ↔
      τ = { σ with trace := σ.trace ++ xs.map fun x => ⟨severity, text x⟩ } := by
  induction xs generalizing σ with
  | nil => simp
  | cons x xs ih =>
      have one : Returns (note severity (text x)) σ () _ := returns_note.mpr rfl
      change Returns (note severity (text x) >>= fun _ => _) σ u τ ↔ _
      rw [returns_bind_of one, ih]
      simp

def keeps (t : Traversal) (site : CallSite) : Bool :=
  (skipReason? site.target.kind site.target.uri t.rules).isNone

/-- The call sites of a function that a diagram shows, in the order in which they are carried out.
There are none if the function cannot be analyzed. -/
def keptSites (t : Traversal) (node : Item) : List CallSite :=
  match t.provider.callSites t.settings node with
  | .error _ => []
  | .ok (sites, _) => sites.filter t.keeps

theorem returns_surviving {node : Item} {probing : Bool} {sites : List (CallSite × Nat)}
    {kept : List CallSite} (ran : Returns (t.surviving node probing sites) σ kept τ) :
    kept = (sites.map (·.1)).filter t.keeps ∧
      ∃ skipped trace, τ = { σ with skipped := skipped, trace := trace } := by
  induction sites generalizing σ kept with
  | nil =>
      obtain ⟨rfl, rfl⟩ := returns_pure.mp ran
      exact ⟨rfl, _, _, rfl⟩
  | cons head sites ih =>
      obtain ⟨site, index⟩ := head
      unfold surviving at ran
      cases reason : skipReason? site.target.kind site.target.uri t.rules with
      | none =>
          have shown : t.keeps site = true := by simp [keeps, reason]
          simp only [reason, returns_bind] at ran
          obtain ⟨others, ρ, ran, ended⟩ := ran
          obtain ⟨rfl, rfl⟩ := returns_pure.mp ended
          obtain ⟨rfl, rest⟩ := ih ran
          exact ⟨by simp [shown], rest⟩
      | some reason' =>
          have hidden : t.keeps site = false := by simp [keeps, reason]
          simp only [reason] at ran
          cases probing with
          | true =>
              obtain ⟨rfl, rest⟩ := ih ran
              exact ⟨by simp [hidden], rest⟩
          | false =>
              simp only [Bool.not_false, if_true, returns_modify_bind, noteCall] at ran
              obtain ⟨rfl, skipped, trace, rfl⟩ := ih ran
              exact ⟨by simp [hidden], skipped, trace, rfl⟩

/-- Listing the calls of a function leaves participants and classes alone, and asks once. -/
theorem returns_shownSites {node : Item} {probing : Bool} {sites : List CallSite}
    (ran : Returns (t.shownSites node probing) σ sites τ) :
    sites = t.keptSites node ∧ ∃ skipped failed trace,
      τ = { σ with asked := σ.asked + 1, skipped, failed, trace } := by
  unfold shownSites at ran
  rw [returns_modify_bind] at ran
  unfold keptSites
  cases listed : t.provider.callSites t.settings node with
  | error e =>
      simp only [listed, returns_modify_bind, note] at ran
      obtain ⟨rfl, rfl⟩ := returns_pure.mp ran
      exact ⟨rfl, _, _, _, rfl⟩
  | ok answer =>
      obtain ⟨all, warnings⟩ := answer
      simp only [listed] at ran
      rw [returns_bind_of (returns_notes (u := ⟨⟩).mpr rfl)] at ran
      obtain ⟨rfl, skipped, trace, rfl⟩ := returns_surviving ran
      exact ⟨by rw [List.zipIdx_map_fst], skipped, _, trace, rfl⟩

def callText (caller callee : Participant) (node target : Item) (number : String)
    (style : TraceStyle) : String :=
  s!"Call {number}: {style.object caller.key.className}.{style.method node.name} ->> "
    ++ s!"{style.object callee.key.className}.{style.method target.name}"

def announcing (text : TraceStyle → String) (σ : TraversalState) : TraversalState :=
  { σ with
    trace := σ.trace ++ [⟨.info, σ.style.indented (text σ.style)⟩]
    style := σ.style.indent }

theorem returns_messagesOf_nil {below : Item → (name number : String) → Walk Nested} {node : Item}
    {name number : String} {caller : Participant} {ms : List Message} :
    Returns (t.messagesOf below node name number caller []) σ ms τ ↔ ms = [] ∧ τ = σ :=
  returns_pure

theorem returns_messagesOf_cons {below : Item → (name number : String) → Walk Nested} {node : Item}
    {name number : String} {caller : Participant} {site : CallSite} {index : Nat}
    {sites : List (CallSite × Nat)} {ms : List Message} :
    Returns (t.messagesOf below node name number caller ((site, index) :: sites)) σ ms τ ↔
      ∃ callee ρ nested ρ' rest,
        Returns (t.participant site.target (objectName name site.reading.qualifier)) σ callee ρ ∧
        Returns
          (below site.target (objectName name site.reading.qualifier) (numberBelow number index))
          (announcing (callText caller callee node site.target (numberBelow number index)) ρ)
          nested ρ' ∧
        Returns (t.messagesOf below node name number caller sites)
          { ρ' with style := ρ'.style.outdent } rest τ ∧
        ms = block t.settings caller callee site (numberBelow number index) nested ++ rest := by
  rw [messagesOf]
  simp only [returns_bind, returns_noteCall, returns_deeper, returns_pure]
  constructor
  · rintro ⟨callee, ρ, looked, _, _, rfl, nested, _, ⟨ρ', went, rfl⟩, rest, _, others, rfl, rfl⟩
    exact ⟨callee, ρ, nested, ρ', rest, looked, went, others, rfl⟩
  · rintro ⟨callee, ρ, nested, ρ', rest, looked, went, others, rfl⟩
    exact ⟨callee, ρ, looked, (), _, rfl, nested, _, ⟨ρ', went, rfl⟩, rest, τ, others, rfl, rfl⟩

def GoesOn (t : Traversal) (σ : TraversalState) : Prop :=
  ∀ question, t.cancelAt = some question → σ.asked < question

theorem returns_visit_zero {node : Item} {name number : String} {nested : Nested} :
    Returns (t.visit 0 node name number) σ nested τ ↔
      t.GoesOn σ ∧ ∃ sites, Returns (t.shownSites node true) σ sites τ ∧
        nested = if sites.isEmpty then .shown [] else .truncated := by
  unfold visit
  simp only [returns_bind, returns_checkCancelled, returns_pure]
  constructor
  · rintro ⟨_, _, ⟨rfl, on⟩, sites, _, listed, rfl, rfl⟩
    exact ⟨on, sites, listed, rfl⟩
  · rintro ⟨on, sites, listed, rfl⟩
    exact ⟨(), σ, ⟨rfl, on⟩, sites, τ, listed, rfl, rfl⟩

theorem returns_visit_succ {depth : Nat} {node : Item} {name number : String} {nested : Nested} :
    Returns (t.visit (depth + 1) node name number) σ nested τ ↔
      t.GoesOn σ ∧ ∃ sites ρ,
        Returns (t.shownSites node false) { σ with visited := σ.visited + 1 } sites ρ ∧
        ((sites = [] ∧ nested = .shown [] ∧ τ = ρ) ∨
          sites ≠ [] ∧ ∃ caller ρ' ms,
            Returns (t.participant node name) ρ caller ρ' ∧
            Returns (t.messagesOf (t.visit depth) node name number caller (sites.zipIdx 1)) ρ' ms τ ∧
            nested = .shown ms) := by
  rw [visit]
  simp only [returns_bind, returns_checkCancelled, returns_modify]
  constructor
  · rintro ⟨_, _, ⟨rfl, on⟩, _, _, rfl, sites, ρ, listed, rest⟩
    refine ⟨on, sites, ρ, listed, ?_⟩
    cases sites with
    | nil =>
        obtain ⟨rfl, rfl⟩ := returns_pure.mp rest
        exact .inl ⟨rfl, rfl, rfl⟩
    | cons site sites =>
        simp only [List.isEmpty_cons, Bool.false_eq_true, if_false, returns_bind, returns_pure] at rest
        obtain ⟨caller, ρ', looked, ms, _, others, rfl, rfl⟩ := rest
        exact .inr ⟨List.cons_ne_nil _ _, caller, ρ', ms, looked, others, rfl⟩
  · rintro ⟨on, sites, ρ, listed, rest⟩
    refine ⟨(), σ, ⟨rfl, on⟩, (), _, rfl, sites, ρ, listed, ?_⟩
    rcases rest with ⟨rfl, rfl, rfl⟩ | ⟨some, caller, ρ', ms, looked, others, rfl⟩
    · exact returns_pure.mpr ⟨rfl, rfl⟩
    · simp only [List.isEmpty_iff, some, if_false, returns_bind, returns_pure]
      exact ⟨caller, ρ', looked, ms, τ, others, rfl, rfl⟩

def shownMessages : Nested → List Message
  | .shown messages => messages
  | .truncated => []

def starting (entry : Item) (σ : TraversalState) : TraversalState :=
  { σ with
    style := σ.style.reset
    trace := σ.trace ++ [⟨.info, σ.style.reset.indented
      s!"Building sequence diagram of {σ.style.reset.method entry.name} in {entry.uri}"⟩] }

/-- A state in which the diagram is complete but for the class of its entry. -/
def finishing (messages : List Message) (σ : TraversalState) : TraversalState :=
  { σ with
    registry := σ.registry.finalize
    trace := σ.trace ++ [⟨.info,
      s!"✓ Sequence diagram built: {σ.registry.finalize.size} participants, "
        ++ s!"{messages.length} messages ({σ.visited} nodes visited, {σ.skipped} calls skipped, "
        ++ s!"{σ.failed} nodes failed)"⟩] }

def diagramOf (t : Traversal) (entry : Item) (messages : List Message) (σ : TraversalState) :
    Diagram :=
  { entry, registry := σ.registry.finalize, messages, entryClass := t.classIn σ entry,
    workspaceRoot := t.root }

theorem returns_build {entry : Item} {d : Diagram} :
    Returns (t.build entry) σ d τ ↔
      ∃ first ρ nested ρ',
        Returns (t.participant entry entry.name) (starting entry σ) first ρ ∧
        Returns (t.visit t.settings.maxCallDepth.val entry entry.name "") ρ nested ρ' ∧
        d = t.diagramOf entry (shownMessages nested) ρ' ∧
        τ = t.withClass (finishing (shownMessages nested) ρ') entry := by
  have named : ∀ ρ, Returns (t.className entry) ρ (t.classIn ρ entry) (t.withClass ρ entry) :=
    fun ρ => returns_className.mpr ⟨rfl, rfl⟩
  have registered : ∀ ρ, (t.withClass ρ entry).registry = ρ.registry := by
    intro ρ
    unfold withClass
    split <;> rfl
  unfold build
  rw [returns_modify_bind, returns_bind_of (returns_noteCall (u := ()).mpr rfl), returns_bind]
  simp only [exists_and_left]
  refine exists_congr fun first => exists_congr fun ρ => and_congr Iff.rfl ?_
  rw [returns_bind]
  refine exists_congr fun nested => exists_congr fun ρ' => and_congr Iff.rfl ?_
  cases nested <;>
    · simp only [pure_bind, returns_modify_bind, returns_get_bind, note, returns_bind_of (named _),
        returns_pure, registered]
      rfl

/-! ## Without a cancellation every step returns -/

theorem total_participant (t : Traversal) (item : Item) (objectName : String) :
    Total (t.participant item objectName) :=
  fun _ => ⟨_, _, returns_participant.mpr ⟨rfl, rfl⟩⟩

theorem total_surviving (t : Traversal) (node : Item) (probing : Bool)
    (sites : List (CallSite × Nat)) : Total (t.surviving node probing sites) := by
  induction sites with
  | nil => exact fun σ => ⟨[], σ, returns_pure.mpr ⟨rfl, rfl⟩⟩
  | cons head sites ih =>
      obtain ⟨site, index⟩ := head
      rw [surviving]
      split
      · exact ih.bind fun _ σ => ⟨_, σ, returns_pure.mpr ⟨rfl, rfl⟩⟩
      · cases probing with
        | true => exact ih
        | false =>
            intro σ
            simp only [Bool.not_false, if_true, returns_modify_bind, noteCall]
            exact ih _

theorem total_shownSites (t : Traversal) (node : Item) (probing : Bool) :
    Total (t.shownSites node probing) := by
  intro σ
  rw [shownSites]
  simp only [returns_modify_bind]
  split
  · simp only [returns_modify_bind, note]
    exact ⟨[], _, returns_pure.mpr ⟨rfl, rfl⟩⟩
  · simp only [returns_bind_of (returns_notes (u := ⟨⟩).mpr rfl)]
    exact total_surviving t node probing _ _

theorem total_messagesOf {below : Item → (name number : String) → Walk Nested}
    (total : ∀ item name number, Total (below item name number)) (node : Item)
    (name number : String) (caller : Participant) (sites : List (CallSite × Nat)) :
    Total (t.messagesOf below node name number caller sites) := by
  induction sites with
  | nil => exact fun σ => ⟨[], σ, returns_messagesOf_nil.mpr ⟨rfl, rfl⟩⟩
  | cons head sites ih =>
      intro σ
      obtain ⟨site, index⟩ := head
      obtain ⟨callee, ρ, looked⟩ :=
        total_participant t site.target (objectName name site.reading.qualifier) σ
      obtain ⟨nested, ρ', went⟩ := total _ _ _ (announcing _ ρ)
      obtain ⟨rest, τ, others⟩ := ih { ρ' with style := ρ'.style.outdent }
      exact ⟨_, τ, returns_messagesOf_cons.mpr ⟨callee, ρ, nested, ρ', rest, looked, went, others, rfl⟩⟩

/-- A traversal that nothing cancels visits every function to the end. -/
theorem total_visit (free : t.cancelAt = none) (depth : Nat) (node : Item) (name number : String) :
    Total (t.visit depth node name number) := by
  have on : ∀ σ, t.GoesOn σ := by simp [GoesOn, free]
  induction depth generalizing node name number with
  | zero =>
      intro σ
      obtain ⟨sites, τ, listed⟩ := total_shownSites t node true σ
      exact ⟨_, τ, returns_visit_zero.mpr ⟨on σ, sites, listed, rfl⟩⟩
  | succ depth ih =>
      intro σ
      obtain ⟨sites, ρ, listed⟩ := total_shownSites t node false { σ with visited := σ.visited + 1 }
      by_cases leaf : sites = []
      · exact ⟨_, ρ, returns_visit_succ.mpr ⟨on σ, sites, ρ, listed, .inl ⟨leaf, rfl, rfl⟩⟩⟩
      · obtain ⟨caller, ρ', looked⟩ := total_participant t node name ρ
        obtain ⟨ms, τ, others⟩ :=
          total_messagesOf (t := t) ih node name number caller (sites.zipIdx 1) ρ'
        exact ⟨_, τ, returns_visit_succ.mpr
          ⟨on σ, sites, ρ, listed, .inr ⟨leaf, caller, ρ', ms, looked, others, rfl⟩⟩⟩

end Traversal

end CallDiagram
