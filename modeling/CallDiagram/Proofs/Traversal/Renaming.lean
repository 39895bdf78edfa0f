import CallDiagram.Proofs.Traversal.Outline
import Mathlib.Data.List.Forall2

/-! # Other names for what a diagram shows

The shape of an outline depends neither on who takes part nor on how calls are labelled: renaming
the participants of an outline gives the outline of the renamed participants, and where labels are
changed alike, two outlines agree as soon as the calls that they show do.
-/

namespace CallDiagram

def Message.mapParticipants (f : Participant → Participant) (m : Message) : Message :=
  { m with sender := f m.sender, receiver := f m.receiver }

/-- A message with another label. A note keeps its own. -/
def Message.mapLabel (f : String → String) (m : Message) : Message :=
  if m.kind = .note then m else { m with label := f m.label }

@[simp] theorem Message.kind_mapLabel (f : String → String) (m : Message) :
    (m.mapLabel f).kind = m.kind := by
  unfold mapLabel
  split <;> rfl

@[simp] theorem Message.receiver_mapLabel (f : String → String) (m : Message) :
    (m.mapLabel f).receiver = m.receiver := by
  unfold mapLabel
  split <;> rfl

@[simp] theorem Message.mapLabel_id : Message.mapLabel id = id := by
  funext m
  unfold mapLabel
  split <;> rfl

def Nested.mapParticipants (f : Participant → Participant) : Nested → Nested
  | .shown messages => .shown (messages.map (Message.mapParticipants f))
  | .truncated => .truncated

def Nested.mapLabels (f : String → String) : Nested → Nested
  | .shown messages => .shown (messages.map (Message.mapLabel f))
  | .truncated => .truncated

namespace Traversal

theorem block_mapParticipants (f : Participant → Participant) (s : Settings)
    (caller callee : Participant) (site : CallSite) (number : String) (nested : Nested) :
    (block s caller callee site number nested).map (Message.mapParticipants f) =
      block s (f caller) (f callee) site number (nested.mapParticipants f) := by
  rw [block_eq, block_eq]
  cases nested <;> simp [Message.mapParticipants, Nested.mapParticipants]

theorem outline_mapParticipants (f : Participant → Participant) (t : Traversal)
    (who : Item → (objectName : String) → Participant) (depth : Nat) (node : Item)
    (name number : String) :
    (t.outline who depth node name number).mapParticipants f =
      t.outline (fun item objectName => f (who item objectName)) depth node name number := by
  induction depth generalizing node name number with
  | zero =>
      unfold outline
      split <;> rfl
  | succ depth ih =>
      rw [outline_succ, outline_succ, Nested.mapParticipants, List.map_flatMap]
      refine congrArg (fun below => Nested.shown (List.flatMap below _)) (funext fun c => ?_)
      rw [callMessages, block_mapParticipants, ih]
      rfl

/-! ## Labels -/

theorem block_mapLabel (f : String → String) (s : Settings) (caller callee : Participant)
    (site : CallSite) (number : String) (nested : Nested) :
    (block s caller callee site number nested).map (Message.mapLabel f) =
      ⟨caller, callee, f (label s site), number, .call⟩ ::
        inside callee number (nested.mapLabels f) ++
        [⟨callee, caller, f s.returnMessageLabel, number, .return⟩] := by
  rw [block_eq]
  cases nested <;> simp [Message.mapLabel, Nested.mapLabels]

/-- Two call sites that look alike in the diagrams of two traversals, up to how labels are
changed. -/
structure LooksLike (t : Traversal) (f : String → String) (u : Traversal)
    (site other : CallSite) : Prop where
  target : site.target = other.target
  qualifier : site.reading.qualifier = other.reading.qualifier
  label : f (label t.settings site) = f (label u.settings other)

/-- Two traversals show the same calls, up to how labels are changed. -/
structure ShowsLike (t : Traversal) (f : String → String) (u : Traversal) : Prop where
  calls : ∀ node, List.Forall₂ (t.LooksLike f u) (t.keptSites node) (u.keptSites node)
  answers : f t.settings.returnMessageLabel = f u.settings.returnMessageLabel

variable {t u : Traversal} {f : String → String}

theorem callMessages_mapLabel (answers : f t.settings.returnMessageLabel =
      f u.settings.returnMessageLabel) {who : Item → (objectName : String) → Participant}
    {depth : Nat} (deep : ∀ node name number,
      (t.outline who depth node name number).mapLabels f =
        (u.outline who depth node name number).mapLabels f)
    {node : Item} {name number : String} {site other : CallSite}
    (alike : t.LooksLike f u site other) (index : Nat) :
    (t.callMessages who depth node name number (site, index)).map (Message.mapLabel f) =
      (u.callMessages who depth node name number (other, index)).map (Message.mapLabel f) := by
  rw [callMessages, callMessages, block_mapLabel, block_mapLabel, deep, answers]
  simp only [alike.target, alike.qualifier, alike.label]

/-- Traversals that show the same calls have the same outlines, up to how labels are changed. -/
theorem ShowsLike.outline (alike : t.ShowsLike f u)
    (who : Item → (objectName : String) → Participant) (depth : Nat) (node : Item)
    (name number : String) :
    (t.outline who depth node name number).mapLabels f =
      (u.outline who depth node name number).mapLabels f := by
  induction depth generalizing node name number with
  | zero =>
      have sites := alike.calls node
      unfold Traversal.outline
      generalize t.keptSites node = kept, u.keptSites node = others at sites ⊢
      cases sites <;> rfl
  | succ depth ih =>
      rw [outline_succ, outline_succ, Nested.mapLabels, Nested.mapLabels, List.map_flatMap,
        List.map_flatMap]
      refine congrArg Nested.shown ?_
      generalize 1 = first
      have sites := alike.calls node
      generalize t.keptSites node = kept, u.keptSites node = others at sites ⊢
      induction sites generalizing first with
      | nil => rfl
      | cons head _ rest =>
          rw [List.zipIdx_cons, List.zipIdx_cons, List.flatMap_cons, List.flatMap_cons, rest,
            callMessages_mapLabel alike.answers ih head]

end Traversal

end CallDiagram
