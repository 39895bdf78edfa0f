import CallDiagram.Proofs.Traversal.Diagram

/-! # The participants of a diagram

Besides the entry, only the receivers of shown calls take part, and they are entered in the order in
which the calls are shown: a function that is visited already takes part, so entering it again as
the sender of its own calls changes nothing, and what is skipped or only probed is never entered.
-/

namespace CallDiagram

open Walk

/-- The participants that the calls among some messages go to, in order. -/
def receivers (messages : List Message) : List ParticipantKey :=
  (messages.filter (·.kind = .call)).map (·.receiver.key)

@[simp] theorem receivers_append (messages others : List Message) :
    receivers (messages ++ others) = receivers messages ++ receivers others := by
  simp [receivers]

namespace Traversal

variable {t : Traversal} {σ τ : TraversalState}

@[simp] theorem receivers_inside (callee : Participant) (number : String) (nested : Nested) :
    receivers (inside callee number nested) = receivers (shownMessages nested) := by
  cases nested <;> rfl

theorem receivers_block (s : Settings) (caller callee : Participant) (site : CallSite)
    (number : String) (nested : Nested) :
    receivers (block s caller callee site number nested) =
      callee.key :: receivers (shownMessages nested) := by
  have answer : receivers [⟨callee, caller, s.returnMessageLabel, number, .return⟩] = [] := rfl
  rw [block_eq, receivers_append, answer, List.append_nil, ← receivers_inside callee number nested]
  rfl

/-- A function on an object takes part. -/
def TakesPart (t : Traversal) (σ : TraversalState) (item : Item) (objectName : String) : Prop :=
  ∃ n, σ.registry.numberOf? (t.keyIn σ item objectName) = some n

theorem takesPart_participant {item : Item} {objectName : String} {p : Participant}
    (looked : Returns (t.participant item objectName) σ p τ) : t.TakesPart τ item objectName := by
  have settled : t.participantIn τ item objectName = p := (participant_settled looked).2 τ (.refl τ)
  obtain ⟨rfl, after⟩ := returns_participant.mp looked
  have sameKey : t.keyIn τ item objectName = t.keyIn σ item objectName := by
    rw [Registry.register_toParticipant] at settled
    exact congrArg Participant.key settled
  have entered := Registry.numberOf?_register_self σ.registry (t.keyIn σ item objectName)
  refine ⟨(σ.registry.register (t.keyIn σ item objectName)).1.number, ?_⟩
  rw [sameKey, after]
  exact entered

theorem registry_shownSites {node : Item} {probing : Bool} {sites : List CallSite}
    (ran : Returns (t.shownSites node probing) σ sites τ) :
    τ.registry = σ.registry ∧ τ.classNames = σ.classNames := by
  obtain ⟨-, _, _, _, rfl⟩ := returns_shownSites ran
  exact ⟨rfl, rfl⟩

theorem registry_messagesOf {below : Item → (name number : String) → Walk Nested}
    (deep : ∀ {item name number σ nested τ}, Returns (below item name number) σ nested τ →
      t.TakesPart σ item name →
        τ.registry = σ.registry.enter (receivers (shownMessages nested)))
    {node : Item} {name number : String} {caller : Participant} {sites : List (CallSite × Nat)}
    {ms : List Message}
    (ran : Returns (t.messagesOf below node name number caller sites) σ ms τ) :
    τ.registry = σ.registry.enter (receivers ms) := by
  induction sites generalizing σ ms with
  | nil =>
      obtain ⟨rfl, rfl⟩ := returns_messagesOf_nil.mp ran
      rfl
  | cons c sites ih =>
      obtain ⟨callee, ρ, nested, ρ', rest, found, went, others, rfl⟩ :=
        returns_messagesOf_cons.mp ran
      have takesPart : t.TakesPart ρ c.1.target (objectName name c.1.reading.qualifier) :=
        takesPart_participant found
      have below : ρ'.registry = ρ.registry.enter (receivers (shownMessages nested)) :=
        (deep went takesPart :)
      have entered : ρ.registry = (σ.registry.register callee.key).2 := by
        obtain ⟨rfl, rfl⟩ := returns_participant.mp found
        rw [Registry.register_toParticipant]
      rw [ih others, receivers_append, receivers_block, Registry.enter_append, Registry.enter_cons,
        ← entered, ← below]

/-- A visit of a function that takes part enters the receivers of the calls that it shows. -/
theorem registry_visit {depth : Nat} {node : Item} {name number : String} {nested : Nested}
    (ran : Returns (t.visit depth node name number) σ nested τ)
    (takesPart : t.TakesPart σ node name) :
    τ.registry = σ.registry.enter (receivers (shownMessages nested)) := by
  induction depth generalizing node name number nested σ τ with
  | zero =>
      obtain ⟨-, sites, listed, rfl⟩ := returns_visit_zero.mp ran
      rw [(registry_shownSites listed).1]
      cases sites <;> rfl
  | succ depth ih =>
      obtain ⟨-, sites, ρ, listed, rest⟩ := returns_visit_succ.mp ran
      obtain ⟨sameRegistry, sameClasses⟩ := registry_shownSites listed
      rcases rest with ⟨-, rfl, rfl⟩ | ⟨-, caller, ρ', ms, found, others, rfl⟩
      · exact sameRegistry
      · obtain ⟨n, known⟩ := takesPart
        have sameKey : t.keyIn ρ node name = t.keyIn σ node name := by
          simp only [keyIn, classIn, sameClasses]
        have again : ρ'.registry = σ.registry := by
          obtain ⟨-, rfl⟩ := returns_participant.mp found
          rw [sameKey, sameRegistry]
          exact Registry.register_of_known known
        rw [registry_messagesOf ih others, again]
        rfl

theorem registry_build {entry : Item} {d : Diagram} (new : σ.registry = {})
    (unnamed : σ.classNames = []) (ran : Returns (t.build entry) σ d τ) :
    d.registry = (Registry.enter {}
      (entry.participantKey t.root (t.provider.classOf entry) entry.name
        :: receivers d.messages)).finalize := by
  obtain ⟨first, ρ, nested, ρ', looked, went, rfl, -⟩ := returns_build.mp ran
  have entered := registry_visit went (takesPart_participant looked)
  obtain ⟨-, rfl⟩ := returns_participant.mp looked
  have key : t.keyIn (starting entry σ) entry entry.name =
      entry.participantKey t.root (t.provider.classOf entry) entry.name := by
    simp [keyIn, classIn, starting, unnamed]
  rw [diagramOf, entered, Registry.enter_cons, key]
  simp only [starting, new]

end Traversal

/-- The participants of a diagram are the entry and the receivers of its calls, in the order in
which they first appear. -/
theorem Provider.registry_diagram {p : Provider} {s : Settings} {entry : Item}
    {cancelAt : Option Nat} {d : Diagram} (built : (p.diagram s entry cancelAt).1 = .ok d) :
    d.registry = (Registry.enter {}
      (entry.participantKey d.workspaceRoot d.entryClass entry.name
        :: receivers d.messages)).finalize := by
  obtain ⟨τ, finished⟩ := finished_diagram built
  obtain ⟨_, ran⟩ := returns_of_built built
  rw [finished.root_eq, finished.entryClass_eq]
  exact Traversal.registry_build rfl rfl ran

end CallDiagram
