import CallDiagram.Proofs.Traversal.Classes

/-! # Finished diagrams

Everything that holds of a diagram whenever one is built: its messages are an outline, its
participants have the numbers of its register, and the classes that were used are those of the
functions that were looked up.
-/

namespace CallDiagram

open Walk

namespace Traversal

variable {t : Traversal} {σ τ : TraversalState}

/-- A diagram with the state in which its last call was visited. -/
structure Finished (t : Traversal) (entry : Item) (d : Diagram) (τ : TraversalState) : Prop where
  entry_eq : d.entry = entry
  root_eq : d.workspaceRoot = t.root
  entryClass_eq : d.entryClass = t.provider.classOf entry
  registry_eq : d.registry = τ.registry.finalize
  /-- The entry takes part as the first participant. -/
  first : t.participantIn τ entry entry.name =
    ⟨entry.participantKey t.root (t.provider.classOf entry) entry.name, 1⟩
  classes : τ.classNames =
    t.provider.remember [] (entry :: t.lookups t.settings.maxCallDepth.val entry)
  outline : t.outline (t.participantIn τ) t.settings.maxCallDepth.val entry entry.name "" =
    .shown d.messages

theorem Finished.numberOf?_first {entry : Item} {d : Diagram} (finished : t.Finished entry d τ) :
    d.registry.numberOf? (entry.participantKey d.workspaceRoot d.entryClass entry.name) = some 1 := by
  obtain ⟨sameKey, number⟩ := Participant.mk.inj finished.first
  rw [sameKey] at number
  rw [finished.root_eq, finished.entryClass_eq, finished.registry_eq, Registry.numberOf?_finalize]
  cases known : τ.registry.numberOf? _ with
  | none => simp [known] at number
  | some n => simpa [known] using number

/-- Every function counts to the class of the first one with its identity that was looked up. -/
theorem Finished.classIn_eq {entry : Item} {d : Diagram} (finished : t.Finished entry d τ)
    (item : Item) :
    t.classIn τ item = t.provider.classOf
      (((entry :: t.lookups t.settings.maxCallDepth.val entry).find?
        (·.identity = item.identity)).getD item) := by
  rw [classIn, finished.classes, Provider.get?_remember, Table.get?_nil, Option.none_or]
  cases (entry :: t.lookups t.settings.maxCallDepth.val entry).find? _ <;> rfl

theorem Finished.mem_outline {entry : Item} {d : Diagram} (finished : t.Finished entry d τ)
    {m : Message} (member : m ∈ d.messages) :
    m ∈ shownMessages
      (t.outline (t.participantIn τ) t.settings.maxCallDepth.val entry entry.name "") := by
  rw [finished.outline]
  exact member

theorem finished_build {entry : Item} {d : Diagram} (new : σ.registry = {})
    (unnamed : σ.classNames = []) (ran : Returns (t.build entry) σ d τ) :
    ∃ ρ, t.Finished entry d ρ := by
  obtain ⟨first, ρ, nested, ρ', looked, went, rfl, -⟩ := returns_build.mp ran
  have onward : ρ.Extends ρ' := (keeps_extends t ρ).visit went (.refl ρ)
  have firstClass : t.classIn (starting entry σ) entry = t.provider.classOf entry := by
    simp [classIn, starting, unnamed]
  have classes : ρ'.classNames =
      t.provider.remember [] (entry :: t.lookups t.settings.maxCallDepth.val entry) := by
    rw [Provider.remember_cons _ _ _ (t.lookups _ _), classNames_visit went,
      classNames_participant looked, starting, unnamed]
  have lastClass : t.classIn ρ' entry = t.provider.classOf entry := by
    obtain ⟨-, rfl⟩ := returns_participant.mp looked
    rw [classIn, onward.classes (get?_withClass t (starting entry σ) entry), firstClass]
    rfl
  have number : first = ⟨entry.participantKey t.root (t.provider.classOf entry) entry.name, 1⟩ := by
    obtain ⟨rfl, -⟩ := returns_participant.mp looked
    rw [Registry.register_toParticipant, keyIn, firstClass]
    simp [starting, new, Registry.register, Registry.get?, Registry.size]
  obtain ⟨depth, positive⟩ := Nat.exists_eq_add_of_le' t.settings.maxCallDepth.property.1
  have shown := visit_outline went (.refl ρ')
  rw [positive, outline_succ] at shown
  refine ⟨ρ', rfl, rfl, lastClass, rfl, ?_, classes, ?_⟩
  · rw [(participant_settled looked).2 ρ' onward, number]
  · rw [positive, outline_succ, shown]
    rfl

end Traversal

theorem Provider.returns_of_built {p : Provider} {s : Settings} {entry : Item}
    {cancelAt : Option Nat} {d : Diagram} (built : (p.diagram s entry cancelAt).1 = .ok d) :
    ∃ τ, Returns ((p.traversal s cancelAt).build entry) { trace := (p.roots s).2 } d τ :=
  ⟨_, Prod.ext built rfl⟩

theorem Provider.finished_diagram {p : Provider} {s : Settings} {entry : Item}
    {cancelAt : Option Nat} {d : Diagram} (built : (p.diagram s entry cancelAt).1 = .ok d) :
    ∃ τ, (p.traversal s cancelAt).Finished entry d τ := by
  obtain ⟨τ, ran⟩ := returns_of_built built
  exact Traversal.finished_build rfl rfl ran

/-- Nothing but a cancellation keeps a diagram from being built. -/
theorem Provider.diagram_built (p : Provider) (s : Settings) (entry : Item) :
    ∃ d, (p.diagram s entry).1 = .ok d := by
  obtain ⟨first, ρ, looked⟩ := Traversal.total_participant (p.traversal s) entry entry.name
    (Traversal.starting entry { trace := (p.roots s).2 })
  obtain ⟨nested, ρ', went⟩ := Traversal.total_visit (t := p.traversal s) rfl
    s.maxCallDepth.val entry entry.name "" ρ
  have ran := Traversal.returns_build.mpr ⟨first, ρ, nested, ρ', looked, went, rfl, rfl⟩
  exact ⟨_, congrArg Prod.fst ran⟩

/-- A function that only calls itself. -/
def Item.countdown : Item :=
  ⟨"count", .function, "/w/a.py", ⟨⟨0, 0⟩, ⟨1, 16⟩⟩, ⟨⟨0, 4⟩, ⟨0, 9⟩⟩, "count"⟩

def Provider.countdown : Provider where
  prepare := fun _ _ => [.countdown]
  findFunction? := fun _ _ => some .countdown
  outgoingCalls := fun _ => .ok [⟨.countdown, [⟨⟨1, 4⟩, ⟨1, 9⟩⟩]⟩]
  sourceText := fun _ => .ok "def count(n):\n    count(n - 1)\n"
  workspaceRoots := .ok ["/w"]
  containerName := fun _ _ => .ok none
  entryPoints := [.countdown]

end CallDiagram
