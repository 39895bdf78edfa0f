import CallDiagram.Proofs.Diagram.Numbering
import CallDiagram.Proofs.Diagram.Registry
import CallDiagram.Proofs.Traversal.Walk

/-! # Outlines

What a traversal returns is fixed by the call sites that are kept and by the participants that take
part: `outline` says so without any state. What a visit returns
is the outline as every later state names the participants, since a state never forgets a class or
a number.
-/

namespace CallDiagram

/-- A state that knows at least what another one knows, by the same names and numbers. -/
structure TraversalState.Extends (σ τ : TraversalState) : Prop where
  classes : ∀ {identity c}, σ.classNames.get? identity = some c →
    τ.classNames.get? identity = some c
  numbers : ∀ {key n}, σ.registry.numberOf? key = some n → τ.registry.numberOf? key = some n

namespace TraversalState.Extends

variable {σ τ ρ : TraversalState}

theorem refl (σ : TraversalState) : σ.Extends σ :=
  ⟨id, id⟩

theorem trans (first : σ.Extends ρ) (second : ρ.Extends τ) : σ.Extends τ :=
  ⟨fun known => second.classes (first.classes known),
    fun known => second.numbers (first.numbers known)⟩

theorem of_eq (classes : τ.classNames = σ.classNames) (numbers : τ.registry = σ.registry) :
    σ.Extends τ :=
  ⟨fun known => by rw [classes]; exact known, fun known => by rw [numbers]; exact known⟩

end TraversalState.Extends

namespace Traversal

open Walk

def inside (callee : Participant) (number : String) : Nested → List Message
  | .shown messages => messages
  | .truncated => [⟨callee, callee, truncationNote, number, .note⟩]

@[simp] theorem inside_shown (callee : Participant) (number : String) (messages : List Message) :
    inside callee number (.shown messages) = messages := rfl

@[simp] theorem inside_truncated (callee : Participant) (number : String) :
    inside callee number .truncated = [⟨callee, callee, truncationNote, number, .note⟩] := rfl

theorem block_eq (s : Settings) (caller callee : Participant) (site : CallSite) (number : String)
    (nested : Nested) :
    block s caller callee site number nested =
      ⟨caller, callee, label s site, number, .call⟩ :: inside callee number nested
        ++ [⟨callee, caller, s.returnMessageLabel, number, .return⟩] := by
  cases nested <;> rfl

variable (t : Traversal)

/-- What a diagram shows of the calls of a function, if `who` says which participant a function on
an object takes part as. -/
def outline (who : Item → (objectName : String) → Participant) :
    (depth : Nat) → (node : Item) → (name number : String) → Nested
  | 0, node, _, _ => if (t.keptSites node).isEmpty then .shown [] else .truncated
  | depth + 1, node, name, number =>
    .shown <| ((t.keptSites node).zipIdx 1).flatMap fun (site, index) =>
      let object := objectName name site.reading.qualifier
      let callNumber := numberBelow number index
      block t.settings (who node name) (who site.target object) site callNumber
        (outline who depth site.target object callNumber)

/-- The participant of a function on an object of that name, as a state knows it. -/
def participantIn (σ : TraversalState) (item : Item) (objectName : String) : Participant :=
  ⟨t.keyIn σ item objectName, (σ.registry.numberOf? (t.keyIn σ item objectName)).getD 0⟩

variable {t} {σ ρ τ : TraversalState}

theorem extends_withClass (t : Traversal) (σ : TraversalState) (item : Item) :
    σ.Extends (t.withClass σ item) := by
  unfold withClass
  split
  · exact .refl σ
  · next unknown =>
    refine ⟨fun {identity c} known => ?_, id⟩
    have different : item.identity ≠ identity := by
      rintro rfl
      exact unknown (Option.isSome_of_eq_some known)
    simp only [Table.get?_set, if_neg different, known]

theorem get?_withClass (t : Traversal) (σ : TraversalState) (item : Item) :
    (t.withClass σ item).classNames.get? item.identity = some (t.classIn σ item) := by
  unfold withClass classIn
  cases known : σ.classNames.get? item.identity with
  | some name => simp [known]
  | none => simp [Table.get?_set]

/-- A participant that was looked up is the one that every later state knows. -/
theorem participant_settled {item : Item} {objectName : String} {p : Participant}
    (looked : Returns (t.participant item objectName) σ p ρ) :
    σ.Extends ρ ∧ ∀ τ, ρ.Extends τ → t.participantIn τ item objectName = p := by
  obtain ⟨rfl, rfl⟩ := returns_participant.mp looked
  constructor
  · exact ⟨(extends_withClass t σ item).classes, fun known => Registry.numberOf?_register known _⟩
  · intro τ later
    have sameClass : t.classIn τ item = t.classIn σ item := by
      rw [classIn, later.classes (get?_withClass t σ item)]
      rfl
    have sameKey : t.keyIn τ item objectName = t.keyIn σ item objectName := by
      rw [keyIn, sameClass, keyIn]
    have sameNumber := later.numbers
      (Registry.numberOf?_register_self σ.registry (t.keyIn σ item objectName))
    rw [participantIn, sameKey, sameNumber, Registry.register_toParticipant]
    rfl

/-- A property of states that no step can break: looking up a participant keeps it, and nothing else
can touch it. -/
structure Keeps (t : Traversal) (I : TraversalState → Prop) : Prop where
  looked : ∀ {item objectName σ p τ}, I σ → Returns (t.participant item objectName) σ p τ → I τ
  ignored : ∀ {σ τ}, I σ → τ.classNames = σ.classNames → τ.registry = σ.registry → I τ

namespace Keeps

variable {I : TraversalState → Prop}

theorem shownSites (keeps : t.Keeps I) {node : Item} {probing : Bool} {sites : List CallSite}
    (ran : Returns (t.shownSites node probing) σ sites τ) (before : I σ) : I τ := by
  obtain ⟨-, _, _, _, rfl⟩ := returns_shownSites ran
  exact keeps.ignored before rfl rfl

theorem messagesOf (keeps : t.Keeps I) {below : Item → (name number : String) → Walk Nested}
    (deep : ∀ {item name number σ nested τ},
      Returns (below item name number) σ nested τ → I σ → I τ)
    {node : Item} {name number : String} {caller : Participant} {sites : List (CallSite × Nat)}
    {ms : List Message}
    (ran : Returns (t.messagesOf below node name number caller sites) σ ms τ) (before : I σ) :
    I τ := by
  induction sites generalizing σ ms with
  | nil =>
      obtain ⟨-, rfl⟩ := returns_messagesOf_nil.mp ran
      exact before
  | cons c sites ih =>
      obtain ⟨callee, ρ, nested, ρ', rest, found, went, others, -⟩ := returns_messagesOf_cons.mp ran
      have entered : I ρ' := deep went (keeps.ignored (keeps.looked before found) rfl rfl)
      exact ih others (keeps.ignored entered rfl rfl)

/-- A whole visit keeps what its steps keep. -/
theorem visit (keeps : t.Keeps I) {depth : Nat} {node : Item} {name number : String}
    {nested : Nested} (ran : Returns (t.visit depth node name number) σ nested τ)
    (before : I σ) : I τ := by
  induction depth generalizing node name number nested σ τ with
  | zero =>
      obtain ⟨-, sites, ran, -⟩ := returns_visit_zero.mp ran
      exact keeps.shownSites ran before
  | succ depth ih =>
      obtain ⟨-, sites, ρ, ran, rest⟩ := returns_visit_succ.mp ran
      have listed : I ρ := keeps.shownSites ran (keeps.ignored before rfl rfl)
      rcases rest with ⟨-, -, rfl⟩ | ⟨-, caller, ρ', ms, found, others, -⟩
      · exact listed
      · exact keeps.messagesOf ih others (keeps.looked listed found)

end Keeps

theorem keeps_extends (t : Traversal) (σ : TraversalState) : t.Keeps σ.Extends where
  looked := fun before found => before.trans (participant_settled found).1
  ignored := fun before classes numbers => before.trans (.of_eq classes numbers)

def callMessages (t : Traversal) (who : Item → (objectName : String) → Participant) (depth : Nat)
    (node : Item) (name number : String) (c : CallSite × Nat) : List Message :=
  block t.settings (who node name) (who c.1.target (objectName name c.1.reading.qualifier)) c.1
    (numberBelow number c.2)
    (t.outline who depth c.1.target (objectName name c.1.reading.qualifier) (numberBelow number c.2))

theorem outline_succ (t : Traversal) (who : Item → (objectName : String) → Participant)
    (depth : Nat) (node : Item) (name number : String) :
    t.outline who (depth + 1) node name number =
      .shown (((t.keptSites node).zipIdx 1).flatMap (t.callMessages who depth node name number)) :=
  rfl

theorem messagesOf_outline {depth : Nat}
    (deep : ∀ {item name number σ nested ρ}, Returns (t.visit depth item name number) σ nested ρ →
      ∀ τ, ρ.Extends τ → nested = t.outline (t.participantIn τ) depth item name number)
    {node : Item} {name number : String} {caller : Participant} {sites : List (CallSite × Nat)}
    {ms : List Message} (settled : ∀ τ, σ.Extends τ → t.participantIn τ node name = caller)
    (ran : Returns (t.messagesOf (t.visit depth) node name number caller sites) σ ms ρ)
    (later : ρ.Extends τ) :
    ms = sites.flatMap (t.callMessages (t.participantIn τ) depth node name number) := by
  induction sites generalizing σ ms with
  | nil => exact (returns_messagesOf_nil.mp ran).1
  | cons c sites ih =>
      obtain ⟨callee, ρ₁, nested, ρ₂, rest, found, went, others, rfl⟩ :=
        returns_messagesOf_cons.mp ran
      have toCallee : σ.Extends ρ₁ := (participant_settled found).1
      have toReturn : ρ₁.Extends ρ₂ :=
        (keeps_extends t ρ₁).visit went (.of_eq rfl rfl)
      have toEnd : ρ₂.Extends ρ :=
        (keeps_extends t ρ₂).messagesOf (keeps_extends t ρ₂).visit others (.of_eq rfl rfl)
      have callerHere : t.participantIn τ node name = caller :=
        settled τ (toCallee.trans (toReturn.trans (toEnd.trans later)))
      have calleeHere : t.participantIn τ c.1.target (objectName name c.1.reading.qualifier) = callee :=
        (participant_settled found).2 τ (toReturn.trans (toEnd.trans later))
      have below := deep went τ (toEnd.trans later)
      have siblings :
          rest = sites.flatMap (t.callMessages (t.participantIn τ) depth node name number) := by
        refine ih (fun τ' onward => settled τ' ?_) others
        exact toCallee.trans (toReturn.trans ⟨onward.classes, onward.numbers⟩)
      rw [List.flatMap_cons, ← siblings, callMessages, callerHere, calleeHere, ← below]

/-- What a visit returns is the outline, with the participants of any later state. -/
theorem visit_outline {depth : Nat} {node : Item} {name number : String} {nested : Nested}
    (ran : Returns (t.visit depth node name number) σ nested ρ) (later : ρ.Extends τ) :
    nested = t.outline (t.participantIn τ) depth node name number := by
  induction depth generalizing node name number nested σ ρ τ with
  | zero =>
      obtain ⟨-, sites, listed, rfl⟩ := returns_visit_zero.mp ran
      obtain ⟨rfl, -⟩ := returns_shownSites listed
      rfl
  | succ depth ih =>
      obtain ⟨-, sites, ρ₁, listed, rest⟩ := returns_visit_succ.mp ran
      obtain ⟨rfl, -⟩ := returns_shownSites listed
      rw [outline_succ]
      rcases rest with ⟨leaf, rfl, -⟩ | ⟨-, caller, ρ₂, ms, found, others, rfl⟩
      · rw [leaf]
        rfl
      · exact congrArg _ (messagesOf_outline (fun ran _ => ih ran) (participant_settled found).2
          others later)

/-! ## Where the messages of an outline stand in the tree -/

variable {who : Item → (objectName : String) → Participant}

theorem callMessages_eq (t : Traversal) (who : Item → (objectName : String) → Participant)
    (depth : Nat) (node : Item) (name number : String) (site : CallSite) (index : Nat) :
    t.callMessages who depth node name number (site, index) =
      ⟨who node name, who site.target (objectName name site.reading.qualifier),
          label t.settings site, numberBelow number index, .call⟩ ::
        inside (who site.target (objectName name site.reading.qualifier)) (numberBelow number index)
          (t.outline who depth site.target (objectName name site.reading.qualifier)
            (numberBelow number index)) ++
        [⟨who site.target (objectName name site.reading.qualifier), who node name,
          t.settings.returnMessageLabel, numberBelow number index, .return⟩] :=
  block_eq ..

theorem mem_inside {callee : Participant} {number : String} {nested : Nested} {m : Message}
    (member : m ∈ inside callee number nested) :
    m = ⟨callee, callee, truncationNote, number, .note⟩ ∨ m ∈ shownMessages nested := by
  cases nested with
  | shown messages => exact .inr member
  | truncated => exact .inl (List.mem_singleton.mp member)

theorem mem_callMessages {depth : Nat} {node : Item} {name number : String} {site : CallSite}
    {index : Nat} {m : Message}
    (member : m ∈ t.callMessages who depth node name number (site, index)) :
    m.number = numberBelow number index ∨
      m ∈ shownMessages (t.outline who depth site.target
        (objectName name site.reading.qualifier) (numberBelow number index)) := by
  rw [callMessages_eq] at member
  rcases List.mem_append.mp member with early | late
  · rcases List.mem_cons.mp early with rfl | within
    · exact .inl rfl
    · exact (mem_inside within).imp_left fun same => by rw [same]
  · rw [List.mem_singleton.mp late]
    exact .inl rfl

theorem shownMessages_zero (t : Traversal) (who : Item → (objectName : String) → Participant)
    (node : Item) (name number : String) :
    shownMessages (t.outline who 0 node name number) = [] := by
  unfold outline
  split <;> rfl

/-- What is shown below a number has that number's components and at least one more, and at most
as many more as the outline is deep. -/
theorem below_of_mem_outline {depth : Nat} {node : Item} {name number : String} {m : Message}
    (member : m ∈ shownMessages (t.outline who depth node name number)) :
    numberDepth m.number ≤ numberDepth number + depth ∧
      ∃ index : Nat, 1 ≤ index ∧ components (numberBelow number index) <+: components m.number := by
  induction depth generalizing node name number with
  | zero =>
      rw [shownMessages_zero] at member
      exact absurd member List.not_mem_nil
  | succ depth ih =>
      rw [outline_succ] at member
      obtain ⟨⟨site, index⟩, listed, within⟩ := List.mem_flatMap.mp member
      have positive : 1 ≤ index := List.le_snd_of_mem_zipIdx listed
      rcases mem_callMessages within with same | deeper
      · rw [same, numberDepth_numberBelow]
        exact ⟨by omega, index, positive, List.prefix_rfl⟩
      · obtain ⟨bound, inner, -, onward⟩ := ih deeper
        rw [numberDepth_numberBelow] at bound
        refine ⟨by omega, index, positive, .trans ?_ onward⟩
        rw [components_numberBelow _ inner]
        exact List.prefix_append _ _

theorem deeper_of_mem_outline {depth : Nat} {node : Item} {name number : String} {m : Message}
    (member : m ∈ shownMessages (t.outline who depth node name number)) :
    numberDepth number < numberDepth m.number := by
  obtain ⟨-, index, -, onward⟩ := below_of_mem_outline member
  have long := onward.length_le
  rw [components_numberBelow, List.length_append, List.length_singleton] at long
  exact long

end Traversal

end CallDiagram
