import CallDiagram.Proofs.Traversal.Diagram

/-! # The nesting of messages

The messages of every finished diagram form a forest. Each call is answered by a return with the
same number, what stands between the two is sent by the participant that was called, and the calls
of one function are numbered from 1 on without gaps. A note stands in place of the calls below a
call only where the numbers have as many components as the settings allow.
-/

namespace CallDiagram

/-- The messages of the calls that a participant makes below a number, from an index on, in a
diagram of the given depth. -/
inductive Block (depth : Nat) : (sender : Participant) → (number : String) → (index : Nat) →
    List Message → Prop where
  | done {sender : Participant} {number : String} {index : Nat} :
      Block depth sender number index []
  /-- A call with the calls of its receiver, which may be none. -/
  | nested {sender receiver : Participant} {number label answer : String} {index : Nat}
      {body rest : List Message} :
      Block depth receiver (numberBelow number index) 1 body →
      Block depth sender number (index + 1) rest →
      Block depth sender number index
        (⟨sender, receiver, label, numberBelow number index, .call⟩ :: body
          ++ ⟨receiver, sender, answer, numberBelow number index, .return⟩ :: rest)
  /-- A call with a note, as deep as calls are followed. -/
  | noted {sender receiver : Participant} {number label remark answer : String} {index : Nat}
      {rest : List Message} :
      numberDepth (numberBelow number index) = depth →
      Block depth sender number (index + 1) rest →
      Block depth sender number index
        (⟨sender, receiver, label, numberBelow number index, .call⟩
          :: ⟨receiver, receiver, remark, numberBelow number index, .note⟩
          :: ⟨receiver, sender, answer, numberBelow number index, .return⟩ :: rest)

namespace Traversal

variable {t : Traversal} {who : Item → (objectName : String) → Participant}

theorem callMessages_block {limit depth : Nat} {node : Item} {name number : String}
    (levels : numberDepth number + (depth + 1) = limit)
    (deep : ∀ {item name number ms}, numberDepth number + depth = limit →
      t.outline who depth item name number = .shown ms → Block limit (who item name) number 1 ms)
    (sites : List CallSite) (index : Nat) :
    Block limit (who node name) number index
      ((sites.zipIdx index).flatMap (t.callMessages who depth node name number)) := by
  induction sites generalizing index with
  | nil => exact .done
  | cons site sites ih =>
      have levelsBelow : numberDepth (numberBelow number index) + depth = limit := by
        rw [numberDepth_numberBelow]
        omega
      rw [List.zipIdx_cons, List.flatMap_cons, callMessages_eq]
      cases below : t.outline who depth site.target (objectName name site.reading.qualifier)
          (numberBelow number index) with
      | shown messages =>
          simpa using Block.nested (deep levelsBelow below) (ih (index + 1))
      | truncated =>
          -- Only an outline of depth 0 ends in a note.
          have bottom : depth = 0 := by
            cases depth with
            | zero => rfl
            | succ depth => cases below
          have atLimit : numberDepth (numberBelow number index) = limit := by omega
          simpa using Block.noted atLimit (ih (index + 1))

theorem outline_block {limit depth : Nat} {node : Item} {name number : String}
    {ms : List Message} (levels : numberDepth number + depth = limit)
    (shown : t.outline who depth node name number = .shown ms) :
    Block limit (who node name) number 1 ms := by
  induction depth generalizing node name number ms with
  | zero =>
      have nothing := shownMessages_zero t who node name number
      rw [shown] at nothing
      cases nothing
      exact .done
  | succ depth ih =>
      rw [outline_succ] at shown
      cases shown
      exact callMessages_block levels ih _ 1

theorem Finished.block {τ : TraversalState} {entry : Item} {d : Diagram}
    (finished : t.Finished entry d τ) :
    Block t.settings.maxCallDepth.val
      ⟨entry.participantKey d.workspaceRoot d.entryClass entry.name, 1⟩ "" 1 d.messages := by
  rw [finished.root_eq, finished.entryClass_eq, ← finished.first]
  exact outline_block (by simp) finished.outline

end Traversal

/-- A finished diagram is one block of the entry's participant, no deeper than the settings allow. -/
theorem Provider.diagram_block (p : Provider) (s : Settings) (entry : Item)
    (cancelAt : Option Nat) (d : Diagram) (built : (p.diagram s entry cancelAt).1 = .ok d) :
    let first : Participant := ⟨entry.participantKey d.workspaceRoot d.entryClass entry.name, 1⟩
    d.registry.numberOf? first.key = some first.number ∧
      Block s.maxCallDepth.val first "" 1 d.messages ∧
      ∀ m ∈ d.messages, numberDepth m.number ≤ s.maxCallDepth.val := by
  obtain ⟨τ, finished⟩ := finished_diagram built
  have levels : numberDepth "" + s.maxCallDepth.val = s.maxCallDepth.val := by simp
  refine ⟨finished.numberOf?_first, ?_, ?_⟩
  · rw [finished.root_eq, finished.entryClass_eq, ← finished.first]
    exact Traversal.outline_block levels finished.outline
  · intro m member
    have bound := (Traversal.below_of_mem_outline (finished.mem_outline member)).1
    rwa [Provider.traversal, levels] at bound

theorem Provider.countdown_block :
    let s : Settings := { maxCallDepth := ⟨2, by decide⟩ }
    ∃ d, (countdown.diagram s .countdown).1 = .ok d ∧ d.messages.length = 5 ∧
      Block 2 ⟨Item.countdown.participantKey d.workspaceRoot d.entryClass "count", 1⟩ "" 1
        d.messages := by
  intro s
  obtain ⟨d, built⟩ := countdown.diagram_built s .countdown
  have counted : (countdown.diagram s .countdown).1.toOption.map (·.messages.length) = some 5 := by
    decide +kernel
  rw [built] at counted
  have block := (countdown.diagram_block s .countdown none d built).2.1
  exact ⟨d, built, Option.some.inj counted, block⟩

end CallDiagram
