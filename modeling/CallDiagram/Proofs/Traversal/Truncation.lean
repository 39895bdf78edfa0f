import CallDiagram.Proofs.Traversal.Renaming
import CallDiagram.Proofs.Traversal.Unfolding
import Mathlib.Data.List.Basic

/-! # Truncated diagrams

A diagram that is less deep can be cut out of a deeper one: what lies too deep is left out, and a
note stands in for it. Only the numbers of the participants may differ, since the deeper traversal
meets participants that the other one meets later or never.
-/

namespace CallDiagram

/-- A message whose participants are known by their keys only. -/
def Message.unnumbered : Message → Message :=
  mapParticipants fun p => ⟨p.key, 0⟩

/-- Of what follows a call, the messages up to its return. -/
def Message.body (call : Message) (following : List Message) : List Message :=
  following.takeWhile fun m => !(m.kind = .return && m.number = call.number)

/-- Messages without those that are deeper than some depth. A note is put into every call of that
depth whose body is not empty. -/
def truncate (depth : Nat) : List Message → List Message
  | [] => []
  | m :: rest =>
    if depth < numberDepth m.number then truncate depth rest
    else if m.kind = .call ∧ numberDepth m.number = depth ∧ m.body rest ≠ [] then
      m :: ⟨m.receiver, m.receiver, truncationNote, m.number, .note⟩ :: truncate depth rest
    else m :: truncate depth rest

theorem truncate_cons (depth : Nat) (m : Message) (rest : List Message) :
    truncate depth (m :: rest) =
      if depth < numberDepth m.number then truncate depth rest
      else if m.kind = .call ∧ numberDepth m.number = depth ∧ m.body rest ≠ [] then
        m :: ⟨m.receiver, m.receiver, truncationNote, m.number, .note⟩ :: truncate depth rest
      else m :: truncate depth rest :=
  rfl

theorem Message.body_map (f : Participant → Participant) (call : Message)
    (following : List Message) :
    (call.mapParticipants f).body (following.map (mapParticipants f)) =
      (call.body following).map (mapParticipants f) := by
  rw [body, body, List.takeWhile_map]
  rfl

theorem truncate_map (f : Participant → Participant) (depth : Nat) (messages : List Message) :
    truncate depth (messages.map (Message.mapParticipants f)) =
      (truncate depth messages).map (Message.mapParticipants f) := by
  induction messages with
  | nil => rfl
  | cons m rest ih =>
      have number : (m.mapParticipants f).number = m.number := rfl
      have kind : (m.mapParticipants f).kind = m.kind := rfl
      simp only [List.map_cons, truncate_cons, number, kind, Message.body_map, ih, ne_eq,
        List.map_eq_nil_iff]
      split
      · rfl
      · split <;> rfl

/-- Truncating adds nothing but notes. -/
theorem mem_of_mem_truncate {depth : Nat} {messages : List Message} {m : Message}
    (member : m ∈ truncate depth messages) (other : m.kind ≠ .note) : m ∈ messages := by
  induction messages with
  | nil => exact member
  | cons first rest ih =>
      rw [truncate_cons] at member
      split at member
      · exact List.mem_cons_of_mem _ (ih member)
      · split at member
        · rcases List.mem_cons.mp member with rfl | later
          · exact List.mem_cons_self
          · rcases List.mem_cons.mp later with rfl | later
            · exact absurd rfl other
            · exact List.mem_cons_of_mem _ (ih later)
        · rcases List.mem_cons.mp member with rfl | later
          · exact List.mem_cons_self
          · exact List.mem_cons_of_mem _ (ih later)

theorem truncate_of_deep {depth : Nat} {messages : List Message}
    (deep : ∀ m ∈ messages, depth < numberDepth m.number) (rest : List Message) :
    truncate depth (messages ++ rest) = truncate depth rest := by
  induction messages with
  | nil => rfl
  | cons m messages ih =>
      rw [List.cons_append, truncate_cons, if_pos (deep m List.mem_cons_self)]
      exact ih fun m member => deep m (List.mem_cons_of_mem _ member)

theorem truncate_of_above {depth : Nat} (m : Message) (above : numberDepth m.number < depth)
    (rest : List Message) : truncate depth (m :: rest) = m :: truncate depth rest := by
  rw [truncate_cons, if_neg (by omega), if_neg]
  rintro ⟨-, same, -⟩
  omega

theorem truncate_of_not_call {depth : Nat} (m : Message) (bound : numberDepth m.number ≤ depth)
    (other : m.kind ≠ .call) (rest : List Message) :
    truncate depth (m :: rest) = m :: truncate depth rest := by
  rw [truncate_cons, if_neg (by omega), if_neg]
  rintro ⟨call, -⟩
  exact other call

/-- The body of a call is what stands in front of the first return with its number. -/
theorem Message.body_of_inner {call answer : Message} {inner : List Message}
    (within : ∀ m ∈ inner, ¬(m.kind = .return ∧ m.number = call.number))
    (answers : answer.kind = .return) (same : answer.number = call.number) (rest : List Message) :
    call.body (inner ++ answer :: rest) = inner := by
  have passed : ∀ m ∈ inner, (!(m.kind = .return && m.number = call.number)) = true := by
    intro m member
    rw [Bool.not_eq_true', Bool.eq_false_iff]
    intro both
    exact within m member (by simpa using both)
  rw [body, List.takeWhile_append_of_pos passed, List.takeWhile_cons]
  simp [answers, same]

theorem Message.body_of_below {call answer : Message} {inner : List Message}
    (below : ∀ m ∈ inner, numberDepth call.number < numberDepth m.number)
    (answers : answer.kind = .return) (same : answer.number = call.number) (rest : List Message) :
    call.body (inner ++ answer :: rest) = inner := by
  refine body_of_inner (fun m member ⟨_, equal⟩ => ?_) answers same rest
  have deeper := below m member
  rw [equal] at deeper
  exact Nat.lt_irrefl _ deeper

/-- A call at the depth keeps no more than a note. -/
theorem truncate_of_bottom (call answer : Message) {inner : List Message} (calls : call.kind = .call)
    (below : ∀ m ∈ inner, numberDepth call.number < numberDepth m.number)
    (answers : answer.kind = .return) (same : answer.number = call.number) (rest : List Message) :
    truncate (numberDepth call.number) (call :: (inner ++ answer :: rest)) =
      call :: ((if inner = [] then []
          else [⟨call.receiver, call.receiver, truncationNote, call.number, .note⟩]) ++
        answer :: truncate (numberDepth call.number) rest) := by
  have behind : truncate (numberDepth call.number) (inner ++ answer :: rest) =
      answer :: truncate (numberDepth call.number) rest := by
    rw [truncate_of_deep below, truncate_of_not_call answer (Nat.le_of_eq (by rw [same]))
      (by simp [answers])]
  rw [truncate_cons, if_neg (Nat.lt_irrefl _), Message.body_of_below below answers same, behind]
  by_cases nothing : inner = [] <;> simp [calls, nothing]

namespace Traversal

variable {t u : Traversal} {who who' : Item → (objectName : String) → Participant}

/-! ## Outlines with other participants -/

/-- Outlines agree if their participants do, for all functions that can be met. -/
theorem outline_congr {entry : Item}
    (agree : ∀ item, t.provider.Reaches entry item → ∀ objectName,
      who item objectName = who' item objectName)
    (depth : Nat) {node : Item} (reached : t.provider.Reaches entry node) (name number : String) :
    t.outline who depth node name number = t.outline who' depth node name number := by
  induction depth generalizing node name number with
  | zero => rfl
  | succ depth ih =>
      rw [outline_succ, outline_succ]
      refine congrArg Nested.shown (List.flatMap_congr fun c listed => ?_)
      have target := reaches_keptSites reached (List.fst_mem_of_mem_zipIdx listed)
      rw [callMessages, callMessages, agree node reached, agree c.1.target target, ih target]

theorem outline_maxCallDepth (p : Provider) (s : Settings) (cancelAt : Option Nat)
    (limit : Depth) (who : Item → (objectName : String) → Participant)
    (depth : Nat) (node : Item) (name number : String) :
    (p.traversal { s with maxCallDepth := limit } cancelAt).outline who depth node name number =
      (p.traversal s).outline who depth node name number := by
  induction depth generalizing node name number with
  | zero => rfl
  | succ depth ih =>
      rw [outline_succ, outline_succ]
      refine congrArg (fun below => Nested.shown (List.flatMap below _)) (funext fun c => ?_)
      rw [callMessages, callMessages, ih]
      rfl

/-! ## Truncating an outline -/

theorem shownMessages_eq_nil {depth : Nat} {node : Item} {name number : String} :
    shownMessages (t.outline who (depth + 1) node name number) = [] ↔ t.keptSites node = [] := by
  rw [outline_succ, shownMessages, List.flatMap_eq_nil_iff]
  constructor
  · intro nothing
    cases sites : t.keptSites node with
    | nil => rfl
    | cons site sites' =>
        rw [sites] at nothing
        have first := nothing (site, 1) (by simp)
        simp [callMessages_eq] at first
  · intro leaf
    simp [leaf]

theorem inside_outline_succ (callee : Participant) (callNumber : String) (depth : Nat) (node : Item)
    (name number : String) :
    inside callee callNumber (t.outline who (depth + 1) node name number) =
      shownMessages (t.outline who (depth + 1) node name number) :=
  rfl

theorem truncate_callMessages_bottom {limit deep : Nat} {node : Item} {name number : String}
    {site : CallSite} {index : Nat} (levels : numberDepth number + 1 = limit)
    (rest : List Message) :
    truncate limit (t.callMessages who (deep + 1) node name number (site, index) ++ rest) =
      t.callMessages who 0 node name number (site, index) ++ truncate limit rest := by
  have level : numberDepth (numberBelow number index) = limit := by
    rw [numberDepth_numberBelow, levels]
  rw [callMessages_eq, callMessages_eq]
  rw [inside_outline_succ]
  generalize inner_eq : shownMessages (t.outline who (deep + 1) site.target
    (objectName name site.reading.qualifier) (numberBelow number index)) = inner
  have below : ∀ m ∈ inner, numberDepth (numberBelow number index) < numberDepth m.number := by
    intro m member
    rw [← inner_eq] at member
    exact deeper_of_mem_outline member
  have empty : inner = [] ↔ t.keptSites site.target = [] := by
    rw [← inner_eq]
    exact shownMessages_eq_nil
  let callee := who site.target (objectName name site.reading.qualifier)
  let call : Message :=
    ⟨who node name, callee, label t.settings site, numberBelow number index, .call⟩
  let answer : Message :=
    ⟨callee, who node name, t.settings.returnMessageLabel, numberBelow number index, .return⟩
  have cut := truncate_of_bottom call answer rfl below rfl rfl rest
  rw [List.append_assoc, List.cons_append, List.singleton_append, ← level]
  refine cut.trans ?_
  by_cases leaf : t.keptSites site.target = [] <;>
    simp [call, answer, callee, outline, leaf, empty]

theorem truncate_callMessages_above {limit depth deep : Nat} {node : Item} {name number : String}
    {site : CallSite} {index : Nat} (levels : numberDepth number + (depth + 2) = limit)
    (below : ∀ rest, truncate limit (shownMessages (t.outline who (deep + 1) site.target
        (objectName name site.reading.qualifier) (numberBelow number index)) ++ rest) =
      shownMessages (t.outline who (depth + 1) site.target
        (objectName name site.reading.qualifier) (numberBelow number index)) ++ truncate limit rest)
    (rest : List Message) :
    truncate limit (t.callMessages who (deep + 1) node name number (site, index) ++ rest) =
      t.callMessages who (depth + 1) node name number (site, index) ++ truncate limit rest := by
  have level : numberDepth (numberBelow number index) < limit := by
    rw [numberDepth_numberBelow]
    omega
  rw [callMessages_eq, callMessages_eq]
  let callee := who site.target (objectName name site.reading.qualifier)
  let call : Message :=
    ⟨who node name, callee, label t.settings site, numberBelow number index, .call⟩
  let answer : Message :=
    ⟨callee, who node name, t.settings.returnMessageLabel, numberBelow number index, .return⟩
  have before := truncate_of_above call level
  have behind := truncate_of_not_call answer (Nat.le_of_lt level) (by simp [answer])
  rw [inside_outline_succ, inside_outline_succ, List.append_assoc, List.cons_append,
    List.singleton_append, before, below, behind]
  simp [call, answer, callee]

/-- Cut at its depth, an outline is the one of that depth. -/
theorem truncate_outline {limit depth deep : Nat} {node : Item} {name number : String}
    (levels : numberDepth number + depth = limit) (deeper : depth < deep) (rest : List Message) :
    truncate limit (shownMessages (t.outline who deep node name number) ++ rest) =
      shownMessages (t.outline who depth node name number) ++ truncate limit rest := by
  induction depth generalizing deep node name number rest with
  | zero =>
      have below : ∀ m ∈ shownMessages (t.outline who deep node name number),
          limit < numberDepth m.number := by
        intro m member
        rw [← levels]
        exact deeper_of_mem_outline member
      rw [truncate_of_deep below, shownMessages_zero, List.nil_append]
  | succ depth ih =>
      obtain ⟨deep, rfl⟩ := Nat.exists_eq_add_of_le' (show 2 ≤ deep by omega)
      rw [outline_succ, outline_succ, shownMessages, shownMessages]
      generalize (t.keptSites node).zipIdx 1 = sites
      induction sites generalizing rest with
      | nil => rfl
      | cons c sites others =>
          obtain ⟨site, index⟩ := c
          rw [List.flatMap_cons, List.flatMap_cons, List.append_assoc, List.append_assoc, ← others]
          cases depth with
          | zero => exact truncate_callMessages_bottom levels _
          | succ depth =>
              refine truncate_callMessages_above levels (fun rest => ?_) _
              exact ih (by rw [numberDepth_numberBelow]; omega) (by omega) rest

/-! ## Finished diagrams -/

def ownParticipant (t : Traversal) (item : Item) (objectName : String) : Participant :=
  ⟨item.participantKey t.root (t.provider.classOf item) objectName, 0⟩

/-- Without the numbers of its participants, an outline is the one with everyone's own class, if a
state knows the classes. -/
theorem map_unnumbered_outline {entry node : Item} {τ : TraversalState}
    (own : ∀ item, t.provider.Reaches entry item → ∀ objectName, t.keyIn τ item objectName =
      item.participantKey t.root (t.provider.classOf item) objectName)
    (reached : t.provider.Reaches entry node) (depth : Nat) (name number : String) :
    (shownMessages (t.outline (t.participantIn τ) depth node name number)).map
        Message.unnumbered =
      shownMessages (t.outline t.ownParticipant depth node name number) := by
  have known : t.outline (fun item objectName => ⟨(t.participantIn τ item objectName).key, 0⟩)
        depth node name number =
      t.outline t.ownParticipant depth node name number :=
    outline_congr (fun item met objectName => congrArg (Participant.mk · 0) (own item met objectName))
      _ reached _ _
  rw [← known, ← outline_mapParticipants (fun p => ⟨p.key, 0⟩)]
  cases t.outline (t.participantIn τ) depth node name number <;> rfl

theorem Finished.map_unnumbered {entry : Item} {d : Diagram} {τ : TraversalState}
    (finished : t.Finished entry d τ) (identifies : t.provider.Identifies entry) :
    d.messages.map Message.unnumbered = shownMessages
      (t.outline t.ownParticipant t.settings.maxCallDepth.val entry entry.name "") := by
  rw [← map_unnumbered_outline (fun _ met => finished.keyIn_eq identifies met) .entry,
    finished.outline]
  rfl

end Traversal

/-- A diagram of less depth is the deeper one, truncated, but for the numbers of participants. -/
theorem Provider.diagram_truncate (p : Provider) (s : Settings) (entry : Item)
    (identifies : p.Identifies entry) (less more : Depth) (deeper : less.val < more.val) :
    (∃ shallow, (p.diagram { s with maxCallDepth := less } entry).1 = .ok shallow) ∧
      (∃ deep, (p.diagram { s with maxCallDepth := more } entry).1 = .ok deep) ∧
      ∀ cancelLess cancelMore shallow deep,
        (p.diagram { s with maxCallDepth := less } entry cancelLess).1 = .ok shallow →
        (p.diagram { s with maxCallDepth := more } entry cancelMore).1 = .ok deep →
        shallow.messages.map Message.unnumbered =
          (truncate less.val deep.messages).map Message.unnumbered := by
  refine ⟨p.diagram_built _ entry, p.diagram_built _ entry, ?_⟩
  intro cancelLess cancelMore shallow deep builtLess builtMore
  obtain ⟨τ, finishedLess⟩ := finished_diagram builtLess
  obtain ⟨ρ, finishedMore⟩ := finished_diagram builtMore
  have levels : numberDepth "" + less.val = less.val := by simp
  let own := (p.traversal s).ownParticipant
  have cut : truncate less.val (Traversal.shownMessages
        ((p.traversal s).outline own more.val entry entry.name "") ++ []) =
      Traversal.shownMessages ((p.traversal s).outline own less.val entry entry.name "") ++
        truncate less.val [] :=
    Traversal.truncate_outline levels deeper []
  rw [List.append_nil, truncate, List.append_nil] at cut
  have shallow_eq := finishedLess.map_unnumbered identifies
  have deep_eq := finishedMore.map_unnumbered identifies
  rw [Traversal.outline_maxCallDepth] at shallow_eq deep_eq
  calc
    shallow.messages.map Message.unnumbered
      = Traversal.shownMessages
          ((p.traversal s).outline own less.val entry entry.name "") := shallow_eq
    _ = truncate less.val (Traversal.shownMessages
          ((p.traversal s).outline own more.val entry entry.name "")) := cut.symm
    _ = truncate less.val (deep.messages.map Message.unnumbered) :=
          congrArg (truncate less.val) deep_eq.symm
    _ = (truncate less.val deep.messages).map Message.unnumbered := truncate_map _ _ _

theorem Provider.countdown_truncate :
    let s : Settings := {}
    countdown.Identifies .countdown ∧ ∃ shallow deep,
      (countdown.diagram { s with maxCallDepth := ⟨1, by decide⟩ } .countdown).1 = .ok shallow ∧
      (countdown.diagram { s with maxCallDepth := ⟨3, by decide⟩ } .countdown).1 = .ok deep ∧
      shallow.messages.length = 3 ∧ deep.messages.length = 7 ∧
      shallow.messages.map Message.unnumbered =
        (truncate 1 deep.messages).map Message.unnumbered := by
  intro s
  obtain ⟨⟨shallow, builtLess⟩, ⟨deep, builtMore⟩, same⟩ :=
    countdown.diagram_truncate s .countdown identifies_countdown ⟨1, by decide⟩ ⟨3, by decide⟩
      (by decide)
  have few : (countdown.diagram { s with maxCallDepth := ⟨1, by decide⟩ } .countdown).1.toOption.map
      (·.messages.length) = some 3 := by
    decide +kernel
  have many : (countdown.diagram { s with maxCallDepth := ⟨3, by decide⟩ } .countdown).1.toOption.map
      (·.messages.length) = some 7 := by
    decide +kernel
  rw [builtLess] at few
  rw [builtMore] at many
  exact ⟨identifies_countdown, shallow, deep, builtLess, builtMore, Option.some.inj few,
    Option.some.inj many, same none none shallow deep builtLess builtMore⟩

/-- Where functions share an identity, the deeper traversal can meet another class first. -/
theorem Provider.namesakes_not_truncated :
    let p := RecordedHierarchy.namesakes.provider
    let s : Settings := {}
    (∀ a b, p.Reaches .outermost a → p.Reaches .outermost b → a.identity = b.identity →
        a.selection.start = b.selection.start) ∧
      ∃ shallow deep,
        (p.diagram { s with maxCallDepth := ⟨1, by decide⟩ } .outermost).1 = .ok shallow ∧
        (p.diagram { s with maxCallDepth := ⟨2, by decide⟩ } .outermost).1 = .ok deep ∧
        shallow.messages.map Message.unnumbered ≠
          (truncate 1 deep.messages).map Message.unnumbered := by
  intro p s
  refine ⟨fun a b => RecordedHierarchy.namesakes_places, ?_⟩
  obtain ⟨shallow, builtLess⟩ :=
    p.diagram_built { s with maxCallDepth := ⟨1, by decide⟩ } .outermost
  obtain ⟨deep, builtMore⟩ :=
    p.diagram_built { s with maxCallDepth := ⟨2, by decide⟩ } .outermost
  refine ⟨shallow, deep, builtLess, builtMore, fun same => ?_⟩
  have few : shallow.calls.map (fun m => (m.number, m.receiver.key.className)) =
      [("1", "step"), ("2", "Outer")] :=
    RecordedHierarchy.namesakes_calls _ builtLess
  have many : deep.calls.map (fun m => (m.number, m.receiver.key.className)) =
      [("1", "step"), ("1.1", "Inner"), ("2", "Inner")] :=
    RecordedHierarchy.namesakes_calls _ builtMore
  have second : ("2", "Outer") ∈
      shallow.calls.map fun m => (m.number, m.receiver.key.className) := by
    rw [few]
    decide
  obtain ⟨m, call, shown⟩ := List.mem_map.mp second
  obtain ⟨member, isCall⟩ := List.mem_filter.mp call
  have kept : m.unnumbered ∈ (truncate 1 deep.messages).map Message.unnumbered := by
    rw [← same]
    exact List.mem_map_of_mem member
  obtain ⟨m', deeper, equal⟩ := List.mem_map.mp kept
  have kind : m'.kind = .call := (congrArg Message.kind equal).trans (of_decide_eq_true isCall)
  have class_eq : (m'.number, m'.receiver.key.className) = ("2", "Outer") :=
    (congrArg (fun m => (m.number, m.receiver.key.className)) equal).trans shown
  have listed : m' ∈ deep.calls :=
    List.mem_filter.mpr ⟨mem_of_mem_truncate deeper (by simp [kind]), decide_eq_true kind⟩
  have absent : ("2", "Outer") ∈ [("1", "step"), ("1.1", "Inner"), ("2", "Inner")] := by
    rw [← many, ← class_eq]
    exact List.mem_map_of_mem listed
  exact absurd absent (by decide)

end CallDiagram
