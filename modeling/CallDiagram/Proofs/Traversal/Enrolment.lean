import CallDiagram.Proofs.Traversal.Drawing
import CallDiagram.Proofs.Traversal.Nesting
import CallDiagram.Proofs.Traversal.Skipping
import Mathlib.Data.List.Nodup

/-! # The order of participants

The participants of a finished diagram are numbered in the order in which they first appear: the
entry, then the receivers of the calls. Nobody else takes part, and every message is between
participants, since whoever sends one was called before or is the entry.
-/

namespace CallDiagram

/-- Whoever sends or receives a message of a block makes its calls or receives one of them. -/
theorem Block.endpoints {depth index : Nat} {first : Participant} {number : String}
    {ms : List Message} (block : Block depth first number index ms) :
    ∀ m ∈ ms, m.sender.key ∈ first.key :: receivers ms ∧
      m.receiver.key ∈ first.key :: receivers ms := by
  induction block with
  | done => exact fun _ member => absurd member List.not_mem_nil
  | @nested sender receiver number label answer index body rest _ _ inner later =>
      have all : receivers (⟨sender, receiver, label, numberBelow number index, .call⟩ :: body
            ++ ⟨receiver, sender, answer, numberBelow number index, .return⟩ :: rest) =
          receiver.key :: receivers body ++ receivers rest := receivers_append ..
      rw [all]
      simp only [List.forall_mem_append, List.forall_mem_cons]
      refine ⟨⟨by simp, fun m member => ?_⟩, by simp, fun m member => ?_⟩
      · have within := inner m member
        simp only [List.mem_cons, List.mem_append] at within ⊢
        tauto
      · have within := later m member
        simp only [List.mem_cons, List.mem_append] at within ⊢
        tauto
  | @noted sender receiver number label remark answer index rest _ _ later =>
      have all : receivers (⟨sender, receiver, label, numberBelow number index, .call⟩
            :: ⟨receiver, receiver, remark, numberBelow number index, .note⟩
            :: ⟨receiver, sender, answer, numberBelow number index, .return⟩ :: rest) =
          receiver.key :: receivers rest := rfl
      rw [all]
      simp only [List.forall_mem_cons]
      refine ⟨by simp, by simp, by simp, fun m member => ?_⟩
      have within := later m member
      simp only [List.mem_cons] at within ⊢
      tauto

/-- The messages name every participant by the number of its key. -/
theorem Traversal.Finished.numbers {t : Traversal} {τ : TraversalState} {entry : Item} {d : Diagram}
    (finished : t.Finished entry d τ) :
    ∀ m ∈ d.messages, m.sender.number = (d.registry.numberOf? m.sender.key).getD 0 ∧
      m.receiver.number = (d.registry.numberOf? m.receiver.key).getD 0 := by
  let renumber : Participant → Participant :=
    fun p => ⟨p.key, (d.registry.numberOf? p.key).getD 0⟩
  have fixed : (fun item objectName => renumber (t.participantIn τ item objectName)) =
      t.participantIn τ := by
    funext item objectName
    simp only [renumber, participantIn, finished.registry_eq, Registry.numberOf?_finalize]
  have same : d.messages.map (Message.mapParticipants renumber) = d.messages := by
    have renamed := outline_mapParticipants renumber t (t.participantIn τ)
      t.settings.maxCallDepth.val entry entry.name ""
    rw [fixed, finished.outline] at renamed
    exact Nested.shown.inj renamed
  intro m member
  have unchanged := List.map_inj_left.mp (same.trans (List.map_id _).symm) m member
  have sender : renumber m.sender = m.sender := congrArg Message.sender unchanged
  have receiver : renumber m.receiver = m.receiver := congrArg Message.receiver unchanged
  exact ⟨(congrArg Participant.number sender).symm, (congrArg Participant.number receiver).symm⟩

/-- The participants of the diagram of an entry, in the order in which they first appear. -/
structure Diagram.Enrols (d : Diagram) (entry : Item) : Prop where
  final : d.registry.isFinal = true
  distinct : (d.registry.participants.map (·.key)).Nodup
  /-- The entry comes first, then the receivers of the calls, each where it is first called. -/
  order : d.registry.participants.map (·.key) =
    (entry.participantKey d.workspaceRoot d.entryClass entry.name :: receivers d.messages).eraseDups
  ids : d.registry.participants.map (·.id) =
    (List.range' 1 d.registry.size).map fun number => s!"p{number}"
  endpoints : ∀ m ∈ d.messages,
    m.sender ∈ d.registry.participants ∧ m.receiver ∈ d.registry.participants
  /-- Nobody but the entry takes part without being called. -/
  called : ∀ q ∈ d.registry.participants, q.id ≠ "p1" → ∃ m ∈ d.calls, m.receiver = q

/-- The participants of a finished diagram are numbered in the order in which they first appear. -/
theorem Provider.diagram_enrols (p : Provider) (s : Settings) (entry : Item)
    (cancelAt : Option Nat) (d : Diagram) (built : (p.diagram s entry cancelAt).1 = .ok d) :
    d.Enrols entry := by
  obtain ⟨τ, finished⟩ := finished_diagram built
  let first := entry.participantKey d.workspaceRoot d.entryClass entry.name
  have registry : d.registry = (Registry.enter {} (first :: receivers d.messages)).finalize :=
    registry_diagram built
  have participants : d.registry.participants =
      Registry.numbered (first :: receivers d.messages).eraseDups := by
    rw [registry, Registry.participants_finalize, Registry.participants_enter]
  have order : d.registry.participants.map (·.key) =
      (first :: receivers d.messages).eraseDups := by
    rw [participants, Registry.map_key_numbered]
  have distinct : (d.registry.participants.map (·.key)).Nodup := by
    rw [order]
    exact Registry.nodup_eraseDups _
  have enrolled : ∀ q : Participant, q.key ∈ first :: receivers d.messages →
      q.number = (d.registry.numberOf? q.key).getD 0 → q ∈ d.registry.participants := by
    intro q appears number
    rw [← List.mem_eraseDups, ← order] at appears
    obtain ⟨n, known⟩ := Registry.numberOf?_of_mem appears
    rw [known, Option.getD_some] at number
    subst number
    exact Registry.mem_participants_of_numberOf? known
  have endpoints : ∀ m ∈ d.messages,
      m.sender ∈ d.registry.participants ∧ m.receiver ∈ d.registry.participants := by
    intro m member
    have keys := finished.block.endpoints m member
    have numbers := finished.numbers m member
    exact ⟨enrolled m.sender keys.1 numbers.1, enrolled m.receiver keys.2 numbers.2⟩
  constructor
  case final => rw [registry, Registry.isFinal_finalize]
  case distinct => exact distinct
  case order => exact order
  case endpoints => exact endpoints
  case ids =>
    have size : d.registry.size = (first :: receivers d.messages).eraseDups.length := by
      rw [← order, Registry.participants, List.length_map, List.length_map, Registry.size]
    have ids : d.registry.participants.map (·.id) =
        (d.registry.participants.map (·.number)).map fun number => s!"p{number}" := by
      rw [List.map_map]
      rfl
    rw [ids, participants, Registry.map_number_numbered, size]
  case called =>
    intro q member other
    have appears : q.key ∈ first :: receivers d.messages := by
      rw [← List.mem_eraseDups, ← order]
      exact List.mem_map_of_mem member
    rcases List.mem_cons.mp appears with same | called
    · -- The participant of the entry has the first number.
      have known := finished.numberOf?_first
      have here : (⟨first, 1⟩ : Participant) ∈ d.registry.participants :=
        Registry.mem_participants_of_numberOf? known
      have entrant : q = ⟨first, 1⟩ := List.inj_on_of_nodup_map distinct member here same
      have named : s!"p{1}" = "p1" := by decide
      refine absurd ?_ other
      rw [entrant]
      exact named
    · obtain ⟨m, call, same⟩ := List.mem_map.mp called
      have receiver := (endpoints m (List.mem_filter.mp call).1).2
      exact ⟨m, call, List.inj_on_of_nodup_map distinct receiver member same⟩

/-- A function that calls itself takes part on two objects, the skipped one not at all. -/
theorem Provider.leaving_enrols :
    let s : Settings := { maxCallDepth := ⟨2, by decide⟩ }
    ∃ d, (leaving.diagram s .nesting).1 = .ok d ∧ d.Enrols .nesting ∧
      d.registry.participants.map (fun q => (q.id, q.key.className, q.key.objectName)) =
        [("p1", "a", "f"), ("p2", "a", "")] := by
  intro s
  obtain ⟨d, built⟩ := leaving.diagram_built s .nesting
  have pruned : ((leaving.pruned s).diagram s .nesting).1 = .ok d :=
    (diagram_eq_of_keptSites (keptSites_pruned separateNames_leaving s) (fun _ => rfl) rfl _).trans
      built
  have participants : ((leaving.pruned s).diagram s .nesting).1.toOption.map
      (·.registry.participants.map fun q => (q.id, q.key.className, q.key.objectName)) =
        some [("p1", "a", "f"), ("p2", "a", "")] := by
    decide +kernel
  rw [pruned] at participants
  exact ⟨d, built, leaving.diagram_enrols s .nesting none d built, Option.some.inj participants⟩

end CallDiagram
