import CallDiagram.Proofs.Traversal.Participants
import CallDiagram.Proofs.Traversal.Renaming

/-! # What fixes a diagram

`drawing` gives the diagram of an entry without walking: the kept call sites fix which functions are
looked up and so the class of each, the keys of the participants fix the register, and the register
fixes the numbers in the messages. Every diagram that is built is this one. So two traversals build
the same diagram as soon as they show the same calls.
-/

namespace CallDiagram

open Walk

theorem receivers_mapParticipants {f : Participant → Participant} (keeps : ∀ p, (f p).key = p.key)
    (messages : List Message) :
    receivers (messages.map (Message.mapParticipants f)) = receivers messages := by
  simp only [receivers, List.filter_map, List.map_map]
  exact List.map_congr_left fun m _ => keeps m.receiver

theorem receivers_mapLabel (f : String → String) (messages : List Message) :
    receivers (messages.map (Message.mapLabel f)) = receivers messages := by
  simp [receivers, List.filter_map, Function.comp_def]

namespace Traversal

variable {t u : Traversal} {f : String → String} {entry : Item}

/-- The class that counts for a function in the diagram of an entry: that of the first function of
its identity that is looked up. -/
def classFor (t : Traversal) (entry item : Item) : String :=
  t.provider.classOf (((entry :: t.lookups t.settings.maxCallDepth.val entry).find?
    (·.identity = item.identity)).getD item)

def keyFor (t : Traversal) (entry item : Item) (objectName : String) : ParticipantKey :=
  item.participantKey t.root (t.classFor entry item) objectName

def messagesFor (t : Traversal) (entry : Item)
    (who : Item → (objectName : String) → Participant) : List Message :=
  shownMessages (t.outline who t.settings.maxCallDepth.val entry entry.name "")

/-- The keys of the participants in the order in which they first appear. -/
def registryFor (t : Traversal) (entry : Item) : Registry :=
  Registry.enter {} (t.keyFor entry entry entry.name
    :: receivers (t.messagesFor entry fun item objectName => ⟨t.keyFor entry item objectName, 0⟩))

def participantFor (t : Traversal) (entry item : Item) (objectName : String) : Participant :=
  ⟨t.keyFor entry item objectName,
    ((t.registryFor entry).numberOf? (t.keyFor entry item objectName)).getD 0⟩

/-- The diagram of an entry. -/
def drawing (t : Traversal) (entry : Item) : Diagram where
  entry := entry
  registry := (t.registryFor entry).finalize
  messages := t.messagesFor entry (t.participantFor entry)
  entryClass := t.provider.classOf entry
  workspaceRoot := t.root

theorem keyFor_entry (t : Traversal) (entry : Item) (objectName : String) :
    t.keyFor entry entry objectName =
      entry.participantKey t.root (t.provider.classOf entry) objectName := by
  simp [keyFor, classFor]

theorem eq_drawing_of_finished {d : Diagram} {τ : TraversalState} (finished : t.Finished entry d τ)
    (registered : d.registry = (Registry.enter {}
      (entry.participantKey t.root (t.provider.classOf entry) entry.name
        :: receivers d.messages)).finalize) :
    d = t.drawing entry := by
  have keys : t.keyIn τ = t.keyFor entry := by
    funext item objectName
    rw [keyIn, finished.classIn_eq, keyFor, classFor]
  have drawn : t.messagesFor entry (t.participantIn τ) = d.messages :=
    congrArg shownMessages finished.outline
  have called : receivers d.messages =
      receivers (t.messagesFor entry fun item objectName => ⟨t.keyFor entry item objectName, 0⟩) := by
    have renamed := outline_mapParticipants (fun p => ⟨p.key, 0⟩) t (t.participantIn τ)
      t.settings.maxCallDepth.val entry entry.name ""
    rw [finished.outline] at renamed
    rw [← keys, ← receivers_mapParticipants (f := fun p => ⟨p.key, 0⟩) (fun _ => rfl)]
    exact congrArg (fun nested => receivers (shownMessages nested)) renamed
  have registry : d.registry = (t.registryFor entry).finalize := by
    rw [registered, called, ← keyFor_entry]
    rfl
  have who : t.participantIn τ = t.participantFor entry := by
    funext item objectName
    have number : τ.registry.numberOf? (t.keyIn τ item objectName) =
        (t.registryFor entry).numberOf? (t.keyIn τ item objectName) := by
      rw [← Registry.numberOf?_finalize, ← finished.registry_eq, registry,
        Registry.numberOf?_finalize]
    rw [participantIn, participantFor, number, keys]
  obtain ⟨entry', registry', messages', entryClass', root'⟩ := d
  obtain rfl : entry' = entry := finished.entry_eq
  obtain rfl : entryClass' = t.provider.classOf entry' := finished.entryClass_eq
  obtain rfl : root' = t.root := finished.root_eq
  rw [drawing, ← who, drawn, ← registry]

/-! ## Traversals that draw the same -/

/-- Two traversals differ in nothing that a diagram shows, up to how labels are changed. -/
structure DrawsLike (t : Traversal) (f : String → String) (u : Traversal) : Prop
    extends t.ShowsLike f u where
  depth : t.settings.maxCallDepth = u.settings.maxCallDepth
  classes : ∀ item, t.provider.classOf item = u.provider.classOf item
  root : t.root = u.root

theorem ShowsLike.lookups (alike : t.ShowsLike f u) (depth : Nat) (node : Item) :
    t.lookups depth node = u.lookups depth node := by
  induction depth generalizing node with
  | zero => rfl
  | succ depth ih =>
      have below : ∀ {kept others : List CallSite}, List.Forall₂ (t.LooksLike f u) kept others →
          kept.flatMap (fun site => site.target :: t.lookups depth site.target) =
            others.flatMap (fun site => site.target :: u.lookups depth site.target) := by
        intro kept others sites
        induction sites with
        | nil => rfl
        | cons head _ rest => rw [List.flatMap_cons, List.flatMap_cons, rest, head.target, ih]
      have sites := alike.calls node
      rw [Traversal.lookups, Traversal.lookups, below sites]
      generalize t.keptSites node = kept, u.keptSites node = others at sites ⊢
      cases sites <;> rfl

theorem DrawsLike.keyFor (alike : t.DrawsLike f u) (entry : Item) :
    t.keyFor entry = u.keyFor entry := by
  funext item objectName
  rw [Traversal.keyFor, Traversal.keyFor, alike.root, classFor, classFor, alike.depth,
    alike.lookups, alike.classes]

theorem ShowsLike.messagesFor (alike : t.ShowsLike f u)
    (depth : t.settings.maxCallDepth = u.settings.maxCallDepth) (entry : Item)
    (who : Item → (objectName : String) → Participant) :
    (t.messagesFor entry who).map (Message.mapLabel f) =
      (u.messagesFor entry who).map (Message.mapLabel f) := by
  have outlines := alike.outline who t.settings.maxCallDepth.val entry entry.name ""
  have shown : ∀ nested : Nested,
      (shownMessages nested).map (Message.mapLabel f) = shownMessages (nested.mapLabels f) := by
    intro nested
    cases nested <;> rfl
  rw [Traversal.messagesFor, Traversal.messagesFor, shown, shown, ← depth, outlines]

theorem DrawsLike.registryFor (alike : t.DrawsLike f u) (entry : Item) :
    t.registryFor entry = u.registryFor entry := by
  rw [Traversal.registryFor, Traversal.registryFor, alike.keyFor, ← receivers_mapLabel f,
    alike.messagesFor alike.depth, receivers_mapLabel]

/-- Traversals that show the same draw the same, up to how labels are changed. -/
theorem DrawsLike.drawing (alike : t.DrawsLike f u) (entry : Item) :
    (t.drawing entry).registry = (u.drawing entry).registry ∧
      (t.drawing entry).messages.map (Message.mapLabel f) =
        (u.drawing entry).messages.map (Message.mapLabel f) := by
  have who : t.participantFor entry = u.participantFor entry := by
    funext item objectName
    rw [participantFor, participantFor, alike.keyFor, alike.registryFor]
  constructor
  · exact congrArg Registry.finalize (alike.registryFor entry)
  · rw [Traversal.drawing, Traversal.drawing, who]
    exact alike.messagesFor alike.depth entry _

theorem DrawsLike.drawing_eq (alike : t.DrawsLike id u) (entry : Item) :
    t.drawing entry = u.drawing entry := by
  obtain ⟨registry, messages⟩ := alike.drawing entry
  rw [Message.mapLabel_id, List.map_id, List.map_id] at messages
  rw [Traversal.drawing, Traversal.drawing] at registry messages ⊢
  simp only [Diagram.mk.injEq]
  exact ⟨trivial, registry, messages, alike.classes entry, alike.root⟩

end Traversal

/-- Whatever is built for an entry is its drawing, whether it could have been cancelled or not. -/
theorem Provider.diagram_eq_drawing {p : Provider} {s : Settings} {entry : Item}
    {cancelAt : Option Nat} {d : Diagram} (built : (p.diagram s entry cancelAt).1 = .ok d) :
    d = (p.traversal s cancelAt).drawing entry := by
  obtain ⟨τ, finished⟩ := finished_diagram built
  have registered := registry_diagram built
  rw [finished.root_eq, finished.entryClass_eq] at registered
  exact Traversal.eq_drawing_of_finished finished registered

theorem Provider.diagram_drawing (p : Provider) (s : Settings) (entry : Item) :
    (p.diagram s entry).1 = .ok ((p.traversal s).drawing entry) := by
  obtain ⟨d, built⟩ := p.diagram_built s entry
  rw [built, diagram_eq_drawing built]

/-- Providers of which the same calls are kept give the same diagrams, if they agree on classes and
roots. -/
theorem Provider.diagram_eq_of_keptSites {p q : Provider} {s : Settings}
    (kept : ∀ node, (q.traversal s).keptSites node = (p.traversal s).keptSites node)
    (classes : ∀ item, q.classOf item = p.classOf item) (roots : (q.roots s).1 = (p.roots s).1)
    (entry : Item) : (q.diagram s entry).1 = (p.diagram s entry).1 := by
  have alike : (q.traversal s).DrawsLike id (p.traversal s) :=
    { calls := fun node => by
        rw [kept]
        exact List.forall₂_same.mpr fun _ _ => ⟨rfl, rfl, rfl⟩
      answers := rfl
      depth := rfl
      classes
      root := congrArg commonRoot roots }
  rw [q.diagram_drawing, p.diagram_drawing, alike.drawing_eq]

end CallDiagram
