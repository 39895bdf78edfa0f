import CallDiagram.Proofs.Traversal.Truncation

/-! # Blocks without their context

What stands between a call and its return is fixed by the function that is called, the object, and
how many levels are left: it is what a traversal of its own shows of that function, with the number
of the call in front of the numbers. Where the call stands in the diagram and what was met before
does not matter.
-/

namespace CallDiagram

open Walk

/-! ## Numbers below a number -/

/-- A number with the components of another one in front. -/
def numberWithin (outer inner : String) : String :=
  if inner = "" then outer else outer ++ "." ++ inner

theorem ne_empty_of_numberDepth {number : String} (deep : 0 < numberDepth number) :
    number ≠ "" := by
  rintro rfl
  rw [numberDepth_empty] at deep
  exact Nat.lt_irrefl _ deep

theorem numberBelow_ne_empty (number : String) (index : Nat) : numberBelow number index ≠ "" := by
  apply ne_empty_of_numberDepth
  rw [numberDepth_numberBelow]
  exact Nat.succ_pos _

theorem numberBelow_numberWithin {outer : String} (some : outer ≠ "") (inner : String)
    (index : Nat) :
    numberBelow (numberWithin outer inner) index = outer ++ "." ++ numberBelow inner index := by
  unfold numberWithin
  by_cases top : inner = ""
  · rw [if_pos top, top, numberBelow, if_neg some, numberBelow, if_pos rfl]
  · have joined : outer ++ "." ++ inner ≠ "" := by
      intro empty
      have length := congrArg String.length empty
      simp at length
    rw [if_neg top, numberBelow, if_neg joined, numberBelow, if_neg top]
    simp only [String.append_assoc]

/-- A message with the components of a number in front of its own. -/
def Message.below (number : String) (m : Message) : Message :=
  { m with number := number ++ "." ++ m.number }

def Nested.below (number : String) : Nested → Nested
  | .shown messages => .shown (messages.map (Message.below number))
  | .truncated => .truncated

/-! ## Blocks -/

/-- The messages between a call and its return, the next one with the call's number. -/
def Encloses (messages : List Message) (call : Message) (block : List Message) : Prop :=
  call.kind = .call ∧ (∀ m ∈ block, ¬(m.kind = .return ∧ m.number = call.number)) ∧
    ∃ before answer rest, messages = before ++ call :: (block ++ answer :: rest) ∧
      answer.kind = .return ∧ answer.number = call.number

/-- The number of a call leads to the function that is called and to the name of the object; the
empty number leads to the entry. -/
inductive Provider.Targets (p : Provider) (s : Settings) (entry : Item) :
    (number : String) → (target : Item) → (objectName : String) → Prop where
  | entry : p.Targets s entry "" entry entry.name
  | call {number name : String} {node : Item} {site : CallSite} {index : Nat} :
      p.Targets s entry number node name → (site, index) ∈ (p.shownCalls s node).zipIdx 1 →
        p.Targets s entry (numberBelow number index) site.target
          (Traversal.objectName name site.reading.qualifier)

/-- What a traversal of its own shows of a function on an object, some levels deep. -/
def Provider.shownAlone (p : Provider) (s : Settings) (levels : Depth) (function : Item)
    (objectName : String) : Except Cancelled Nested :=
  (outcome ((p.traversal { s with maxCallDepth := levels }).visit levels.val function objectName "")
    {}).1

/-- A number leads to one function and one object. -/
theorem Provider.Targets.unique {p : Provider} {s : Settings} {entry : Item}
    {number number' name name' : String} {target target' : Item}
    (first : p.Targets s entry number target name)
    (second : p.Targets s entry number' target' name')
    (same : components number = components number') : target = target' ∧ name = name' := by
  induction first generalizing number' target' name' with
  | entry =>
      cases second with
      | entry => exact ⟨rfl, rfl⟩
      | call => simp at same
  | @call _ _ _ site index _ listed ih =>
      cases second with
      | entry => simp at same
      | @call _ _ _ site' index' above listed' =>
          rw [components_numberBelow, components_numberBelow] at same
          obtain ⟨parents, indices⟩ := List.append_inj' same rfl
          obtain ⟨rfl, rfl⟩ := ih above parents
          obtain rfl : index = index' := repr_inj.mp (List.singleton_inj.mp indices)
          rw [List.mk_mem_zipIdx_iff_le_and_getElem?_sub] at listed listed'
          obtain rfl : site = site' := Option.some.inj (listed.2.symm.trans listed'.2)
          exact ⟨rfl, rfl⟩

theorem Provider.Targets.reaches {p : Provider} {s : Settings} {entry target : Item}
    {number name : String} (leads : p.Targets s entry number target name) :
    p.Reaches entry target := by
  induction leads with
  | entry => exact .entry
  | call _ listed ih =>
      exact Traversal.reaches_keptSites (t := p.traversal s) ih (List.fst_mem_of_mem_zipIdx listed)

namespace Traversal

variable {t : Traversal} {who : Item → (objectName : String) → Participant}

/-! ## Blocks of an outline -/

theorem exists_of_flatMap_eq {α β : Type} {f : α → List β} {xs : List α} {before after : List β}
    {b : β} (split : xs.flatMap f = before ++ b :: after) :
    ∃ x ∈ xs, ∃ early late rest, f x = early ++ b :: late ∧ after = late ++ rest := by
  induction xs generalizing before with
  | nil => simp at split
  | cons x xs ih =>
      rw [List.flatMap_cons, List.append_eq_append_iff] at split
      rcases split with ⟨skipped, -, later⟩ | ⟨tail, here, later⟩
      · obtain ⟨y, member, found⟩ := ih later
        exact ⟨y, List.mem_cons_of_mem _ member, found⟩
      · rcases List.cons_eq_append_iff.mp later with ⟨rfl, later⟩ | ⟨late, rfl, rest⟩
        · obtain ⟨y, member, found⟩ := @ih [] later.symm
          exact ⟨y, List.mem_cons_of_mem _ member, found⟩
        · exact ⟨x, List.mem_cons_self, before, late, _, here, rest⟩

/-- What ends in one more element holds another element before that end. -/
theorem exists_of_concat_eq {α : Type} {xs early late : List α} {a b : α} (different : b ≠ a)
    (split : xs ++ [a] = early ++ b :: late) :
    ∃ within, xs = early ++ b :: within ∧ late = within ++ [a] := by
  rcases List.append_eq_append_iff.mp split with ⟨_, -, ended⟩ | ⟨within, here, ended⟩
  · rcases List.cons_eq_append_iff.mp ended with ⟨-, same⟩ | ⟨_, -, nothing⟩
    · exact absurd (List.cons.inj same).1 different
    · simp at nothing
  · rcases List.cons_eq_append_iff.mp ended with ⟨-, same⟩ | ⟨within, rfl, late⟩
    · exact absurd (List.cons.inj same).1.symm different
    · exact ⟨within, here, late⟩

/-- A call inside a call is one of the messages shown there, not the note. -/
theorem shownMessages_of_inside {callee : Participant} {number : String} {nested : Nested}
    {early late : List Message} {call : Message} (isCall : call.kind = .call)
    (split : inside callee number nested = early ++ call :: late) :
    shownMessages nested = early ++ call :: late := by
  cases nested with
  | shown messages => exact split
  | truncated =>
      have isNote : call = ⟨callee, callee, truncationNote, number, .note⟩ := by
        have member : call ∈ inside callee number .truncated := by simp [split]
        simpa using member
      rw [isNote] at isCall
      cases isCall

/-- A call within an outline is followed by what the outline shows below it, and by its return. -/
theorem block_of_outline {p : Provider} {s : Settings} {cancelAt : Option Nat} {entry : Item}
    {depth : Nat} {node : Item} {name number : String} {before after : List Message}
    {call : Message} (leads : p.Targets s entry number node name)
    (split : shownMessages ((p.traversal s cancelAt).outline who depth node name number) =
      before ++ call :: after) (isCall : call.kind = .call) :
    ∃ target objectName left answer rest, p.Targets s entry call.number target objectName ∧
      numberDepth call.number + left = numberDepth number + depth ∧
      call.receiver = who target objectName ∧
      after = inside call.receiver call.number
        ((p.traversal s cancelAt).outline who left target objectName call.number) ++ answer :: rest ∧
      answer.kind = .return ∧ answer.number = call.number := by
  induction depth generalizing node name number before after with
  | zero =>
      rw [shownMessages_zero] at split
      simp at split
  | succ depth ih =>
      rw [outline_succ, shownMessages] at split
      obtain ⟨⟨site, index⟩, listed, early, late, more, here, rfl⟩ := exists_of_flatMap_eq split
      have below := leads.call listed
      have levels := numberDepth_numberBelow number index
      rw [callMessages_eq] at here
      rcases List.cons_eq_append_iff.mp here with ⟨-, first⟩ | ⟨early, -, further⟩
      · obtain ⟨rfl, rfl⟩ := List.cons.inj first
        refine ⟨_, _, depth, _, more, below, ?_, rfl, List.append_assoc .., rfl, rfl⟩
        change numberDepth (numberBelow number index) + depth = _
        omega
      · obtain ⟨within, nested, rfl⟩ := exists_of_concat_eq (by rintro rfl; cases isCall) further
        obtain ⟨target, objectName, left, answer, rest, found, deeper, receiver, rfl, answers⟩ :=
          ih below (shownMessages_of_inside isCall nested)
        exact ⟨target, objectName, left, answer, _, found, by omega, receiver,
          (List.append_assoc ..).trans (List.append_assoc ..), answers⟩

/-! ## Outlines below a number -/

theorem block_below (k : String) (s : Settings) (caller callee : Participant) (site : CallSite)
    (number : String) (nested : Nested) :
    (block s caller callee site number nested).map (Message.below k) =
      block s caller callee site (k ++ "." ++ number) (nested.below k) := by
  rw [block_eq, block_eq]
  cases nested <;> simp [Message.below, Nested.below]

/-- Below a number, an outline is the one below none with that number in front. -/
theorem outline_below {k : String} (some : k ≠ "") (t : Traversal)
    (who : Item → (objectName : String) → Participant) (depth : Nat) (node : Item)
    (name number : String) :
    t.outline who depth node name (numberWithin k number) =
      (t.outline who depth node name number).below k := by
  induction depth generalizing node name number with
  | zero =>
      unfold outline
      split <;> rfl
  | succ depth ih =>
      rw [outline_succ, outline_succ, Nested.below, List.map_flatMap]
      refine congrArg (fun below => Nested.shown (List.flatMap below _)) (funext fun c => ?_)
      have deeper := ih c.1.target (objectName name c.1.reading.qualifier) (numberBelow number c.2)
      rw [numberWithin, if_neg (numberBelow_ne_empty number c.2)] at deeper
      rw [callMessages, callMessages, block_below, numberBelow_numberWithin some, deeper]

theorem map_unnumbered_below {k : String} (some : k ≠ "") {entry node : Item} {τ : TraversalState}
    (own : ∀ item, t.provider.Reaches entry item → ∀ objectName, t.keyIn τ item objectName =
      item.participantKey t.root (t.provider.classOf item) objectName)
    (reached : t.provider.Reaches entry node) (depth : Nat) (name : String) :
    (shownMessages (t.outline (t.participantIn τ) depth node name k)).map Message.unnumbered =
      (shownMessages (t.outline t.ownParticipant depth node name "")).map (Message.below k) := by
  have within := outline_below some t t.ownParticipant depth node name ""
  rw [numberWithin, if_pos rfl] at within
  rw [map_unnumbered_outline own reached, within]
  cases t.outline t.ownParticipant depth node name "" <;> rfl

/-! ## Fresh traversals -/

/-- A traversal of its own always shows something: the outline with everyone's own class. -/
theorem shownAlone_eq (p : Provider) (s : Settings) (levels : Depth) (target : Item)
    (name : String) :
    ∃ shown, p.shownAlone s levels target name = .ok (.shown shown) ∧
      ∀ entry, p.Identifies entry → p.Reaches entry target →
        shown.map Message.unnumbered = shownMessages
          ((p.traversal s).outline (p.traversal s).ownParticipant levels.val target name "") := by
  let t := p.traversal { s with maxCallDepth := levels }
  obtain ⟨nested, τ, went⟩ := total_visit (t := t) rfl levels.val target name "" {}
  have outlined := visit_outline went (.refl τ)
  obtain ⟨depth, positive⟩ := Nat.exists_eq_add_of_le' levels.property.1
  have isShown : nested = .shown (shownMessages nested) := by
    rw [outlined, positive]
    rfl
  rw [isShown] at went
  refine ⟨_, congrArg Prod.fst went, fun entry identifies reached => ?_⟩
  have own : ∀ item, t.provider.Reaches entry item → ∀ objectName, t.keyIn τ item objectName =
      item.participantKey t.root (p.classOf item) objectName := fun item met objectName =>
    keyIn_of_remember (classNames_visit went)
      (fun _ looked => reaches_lookups (t := t) reached looked) identifies met objectName
  rw [outlined, map_unnumbered_outline own reached, outline_maxCallDepth]
  rfl

end Traversal

namespace Traversal.Finished

variable {p : Provider} {s : Settings} {cancelAt : Option Nat} {entry : Item} {d : Diagram}
  {τ : TraversalState}

/-- A call of a finished diagram encloses what is shown below its number. -/
theorem encloses (finished : (p.traversal s cancelAt).Finished entry d τ)
    {before after : List Message} {call : Message} (split : d.messages = before ++ call :: after)
    (isCall : call.kind = .call) :
    ∃ target objectName left, p.Targets s entry call.number target objectName ∧
      numberDepth call.number + left = s.maxCallDepth.val ∧
      call.receiver = (p.traversal s cancelAt).participantIn τ target objectName ∧
      Encloses d.messages call (call.body after) ∧
      call.body after = inside call.receiver call.number ((p.traversal s cancelAt).outline
        ((p.traversal s cancelAt).participantIn τ) left target objectName call.number) := by
  have shown := congrArg shownMessages finished.outline
  obtain ⟨target, objectName, left, answer, rest, leads, levels, receiver, rfl, answers, same⟩ :=
    block_of_outline .entry (shown.trans split) isCall
  rw [numberDepth_empty, Nat.zero_add] at levels
  have inner : ∀ m ∈ inside call.receiver call.number ((p.traversal s cancelAt).outline
      ((p.traversal s cancelAt).participantIn τ) left target objectName call.number),
      ¬(m.kind = .return ∧ m.number = call.number) := by
    rintro m member ⟨isReturn, same⟩
    rcases mem_inside member with rfl | deeper
    · cases isReturn
    · have deep := deeper_of_mem_outline deeper
      rw [same] at deep
      exact Nat.lt_irrefl _ deep
  have body := Message.body_of_inner inner answers same rest
  refine ⟨target, objectName, left, leads, levels, receiver, ?_, body⟩
  rw [body]
  exact ⟨isCall, inner, before, answer, rest, split, answers, same⟩

end Traversal.Finished

/-! ## Diagrams -/

/-- The block of a call is what a traversal of its own shows of the function that is called. -/
theorem Provider.diagram_blocks (p : Provider) (s : Settings) (entry : Item)
    (identifies : p.Identifies entry) (cancelAt : Option Nat) (d : Diagram)
    (built : (p.diagram s entry cancelAt).1 = .ok d) :
    (∀ call ∈ d.calls, ∃ target objectName block,
      p.Targets s entry call.number target objectName ∧
        call.receiver.key =
          target.participantKey d.workspaceRoot (p.classOf target) objectName ∧
        Encloses d.messages call block) ∧
      ∀ target objectName levels, ∃ shown,
        p.shownAlone s levels target objectName = .ok (.shown shown) ∧
        ∀ call block, Encloses d.messages call block →
          p.Targets s entry call.number target objectName →
          numberDepth call.number + levels.val = s.maxCallDepth.val →
          block.map Message.unnumbered =
            shown.map fun m => (m.below call.number).unnumbered := by
  obtain ⟨τ, finished⟩ := finished_diagram built
  have keys := fun item (met : (p.traversal s cancelAt).provider.Reaches entry item) =>
    finished.keyIn_eq identifies met
  refine ⟨fun call member => ?_, fun target objectName levels => ?_⟩
  · obtain ⟨listed, isCall⟩ := List.mem_filter.mp member
    obtain ⟨before, after, split⟩ := List.append_of_mem listed
    obtain ⟨target, objectName, left, leads, -, receiver, encloses, -⟩ :=
      finished.encloses split (of_decide_eq_true isCall)
    refine ⟨target, objectName, _, leads, ?_, encloses⟩
    rw [receiver, finished.root_eq]
    exact keys target leads.reaches objectName
  · obtain ⟨shown, alone, erased⟩ := Traversal.shownAlone_eq p s levels target objectName
    refine ⟨shown, alone, fun call block encloses leads depth => ?_⟩
    obtain ⟨isCall, inner, before, answer, rest, split, answers, same⟩ := encloses
    obtain ⟨target', objectName', left, leads', levels', -, -, body⟩ :=
      finished.encloses split isCall
    obtain ⟨rfl, rfl⟩ := leads.unique leads' rfl
    obtain rfl : left = levels.val := by omega
    obtain ⟨depth', positive⟩ := Nat.exists_eq_add_of_le' levels.property.1
    have member : call ∈ d.messages := by simp [split]
    have deep := Traversal.deeper_of_mem_outline (finished.mem_outline member)
    rw [numberDepth_empty] at deep
    have placed := Traversal.map_unnumbered_below (ne_empty_of_numberDepth deep) keys
      leads.reaches levels.val objectName
    rw [Message.body_of_inner inner answers same, positive, Traversal.inside_outline_succ,
      ← positive] at body
    calc
      block.map Message.unnumbered
        = _ := by rw [body, placed]
      _ = (shown.map Message.unnumbered).map (Message.below call.number) := by
            rw [erased entry identifies leads.reaches]
            exact congrArg (fun nested => (Traversal.shownMessages nested).map _)
              (Traversal.outline_maxCallDepth p s cancelAt s.maxCallDepth _ levels.val target
                objectName "")
      _ = shown.map fun m => (m.below call.number).unnumbered := by
            rw [List.map_map]
            rfl

theorem Provider.countdown_blocks :
    let s : Settings := { maxCallDepth := ⟨3, by decide⟩ }
    countdown.Identifies .countdown ∧ ∃ d call block shown,
      (countdown.diagram s .countdown).1 = .ok d ∧ Encloses d.messages call block ∧
      call.number = "1" ∧ countdown.Targets s .countdown "1" .countdown "" ∧
      countdown.shownAlone s ⟨2, by decide⟩ .countdown "" = .ok (.shown shown) ∧
      shown.map (·.number) = ["1", "1.1", "1.1", "1.1", "1"] ∧
      block.map Message.unnumbered = shown.map fun m => (m.below "1").unnumbered := by
  intro s
  obtain ⟨d, built⟩ := countdown.diagram_built s .countdown
  obtain ⟨calls, blocks⟩ := countdown.diagram_blocks s .countdown identifies_countdown none d built
  obtain ⟨shown, alone, enclosed⟩ := blocks .countdown "" ⟨2, by decide⟩
  have numbers : (countdown.diagram s .countdown).1.toOption.map (·.calls.map (·.number)) =
      some ["1", "1.1", "1.1.1"] := by decide +kernel
  have numbersAlone : ((countdown.shownAlone s ⟨2, by decide⟩ .countdown "").toOption.map
      fun nested => (Traversal.shownMessages nested).map (·.number)) =
      some ["1", "1.1", "1.1", "1.1", "1"] := by decide +kernel
  rw [built] at numbers
  rw [alone] at numbersAlone
  have first : "1" ∈ d.calls.map (·.number) :=
    (Option.some.inj numbers : d.calls.map (·.number) = _) ▸ List.mem_cons_self
  obtain ⟨call, member, number⟩ := List.mem_map.mp first
  obtain ⟨-, -, block, -, -, encloses⟩ := calls call member
  have sites : (countdown.shownCalls s .countdown).map
      (fun site => (site.target, Traversal.objectName "count" site.reading.qualifier)) =
      [(.countdown, "")] := by decide +kernel
  have leads : countdown.Targets s .countdown "1" .countdown "" := by
    obtain ⟨site, only, same⟩ := List.map_eq_singleton_iff.mp sites
    obtain ⟨target, objectName⟩ := Prod.mk.inj same
    have listed : (site, 1) ∈ (countdown.shownCalls s .countdown).zipIdx 1 := by simp [only]
    have below := Targets.entry.call listed
    rw [target] at below
    exact objectName ▸ below
  have same := enclosed call block encloses (number ▸ leads) (by rw [number]; decide)
  rw [number] at same
  exact ⟨identifies_countdown, d, call, block, shown, built, encloses, number, leads, alone,
    Option.some.inj numbersAlone, same⟩

/-! ### Namesakes met before -/

/-- A function whose callee calls another function of its identity. -/
def RecordedHierarchy.metBefore : RecordedHierarchy where
  sources :=
    [("/w/lib.py#x", "class Inner:\n    def run(self):\n        step()\n"),
      ("/w/step.py", "def step():\n    run()\n"),
      ("/w/lib.py", "class Outer:\n    def run(self):\n        pass\n")]
  calls :=
    [(.firstNamesake, [⟨.stepping, [⟨⟨2, 8⟩, ⟨2, 12⟩⟩]⟩]),
      (.stepping, [⟨.secondNamesake, [⟨⟨1, 4⟩, ⟨1, 7⟩⟩]⟩])]
  roots := ["/w"]

theorem RecordedHierarchy.mem_of_reaches_metBefore {item : Item}
    (reached : metBefore.provider.Reaches .firstNamesake item) :
    item ∈ [Item.firstNamesake, .stepping, .secondNamesake] := by
  induction reached with
  | entry => decide
  | call reached answered known ih =>
      have listed : ∀ node ∈ [Item.firstNamesake, .stepping, .secondNamesake],
          ∀ call ∈ metBefore.callsOf node,
            call.target ∈ [Item.firstNamesake, .stepping, .secondNamesake] := by
        decide
      cases answered
      exact listed _ ih _ known

theorem RecordedHierarchy.metBefore_places {a b : Item}
    (metA : metBefore.provider.Reaches .firstNamesake a)
    (metB : metBefore.provider.Reaches .firstNamesake b) (same : a.identity = b.identity) :
    a.selection.start = b.selection.start := by
  have places : ∀ a ∈ [Item.firstNamesake, .stepping, .secondNamesake],
      ∀ b ∈ [Item.firstNamesake, .stepping, .secondNamesake],
        a.identity = b.identity → a.selection.start = b.selection.start := by
    decide
  exact places a (mem_of_reaches_metBefore metA) b (mem_of_reaches_metBefore metB) same

/-- The class that was met first is kept within a block, but not without its context. -/
theorem Provider.metBefore_block_differs :
    let p := RecordedHierarchy.metBefore.provider
    let s : Settings := { maxCallDepth := ⟨2, by decide⟩ }
    (∀ a b, p.Reaches .firstNamesake a → p.Reaches .firstNamesake b → a.identity = b.identity →
        a.selection.start = b.selection.start) ∧
      ∃ d call block shown, (p.diagram s .firstNamesake).1 = .ok d ∧
        Encloses d.messages call block ∧ p.Targets s .firstNamesake call.number .stepping "" ∧
        p.shownAlone s ⟨1, by decide⟩ .stepping "" = .ok (.shown shown) ∧
        block.map Message.unnumbered ≠
          shown.map fun m => (m.below call.number).unnumbered := by
  intro p s
  refine ⟨fun a b => RecordedHierarchy.metBefore_places, ?_⟩
  obtain ⟨d, built⟩ := p.diagram_built s .firstNamesake
  obtain ⟨shown, alone, -⟩ := Traversal.shownAlone_eq p s ⟨1, by decide⟩ .stepping ""
  have listed : (p.diagram s .firstNamesake).1.toOption.map
      (·.messages.map fun m => (m.kind, m.number, m.receiver.key.className)) =
      some [(.call, "1", "step"), (.call, "1.1", "Inner"), (.return, "1.1", "step"),
        (.return, "1", "Inner")] := by decide +kernel
  have listedAlone : (p.shownAlone s ⟨1, by decide⟩ .stepping "").toOption.map
      (fun nested => (Traversal.shownMessages nested).map (·.receiver.key.className)) =
      some ["Outer", "step"] := by decide +kernel
  rw [built] at listed
  rw [alone] at listedAlone
  have classes : d.messages.map (fun m => (m.kind, m.number, m.receiver.key.className)) = _ :=
    Option.some.inj listed
  have classesAlone : shown.map (·.receiver.key.className) = _ := Option.some.inj listedAlone
  obtain ⟨call, _, split, first, classes⟩ := List.map_eq_cons_iff.mp classes
  obtain ⟨inner, _, rfl, second, classes⟩ := List.map_eq_cons_iff.mp classes
  obtain ⟨back, _, rfl, third, classes⟩ := List.map_eq_cons_iff.mp classes
  obtain ⟨answer, rfl, last⟩ := List.map_eq_singleton_iff.mp classes
  simp only [Prod.mk.injEq] at first second third last
  refine ⟨d, call, [inner, back], shown, built, ⟨first.1, ?_, [], answer, [], split, last.1, ?_⟩,
    ?_, alone, fun same => ?_⟩
  · intro m member
    rcases List.mem_pair.mp member with rfl | rfl
    · rw [second.1]
      exact fun both => nomatch both.1
    · rw [third.2.1, first.2.1]
      exact fun both => absurd both.2 (by decide)
  · rw [last.2.1, first.2.1]
  · have sites : (p.shownCalls s .firstNamesake).map
        (fun site => (site.target, Traversal.objectName "run" site.reading.qualifier)) =
        [(.stepping, "")] := by decide +kernel
    obtain ⟨site, only, same⟩ := List.map_eq_singleton_iff.mp sites
    obtain ⟨target, objectName⟩ := Prod.mk.inj same
    have listed : (site, 1) ∈ (p.shownCalls s .firstNamesake).zipIdx 1 := by simp [only]
    have below := Targets.entry.call listed
    rw [target] at below
    rw [first.2.1]
    exact objectName ▸ below
  · have erased := congrArg (List.map (·.receiver.key.className)) same
    have alike : [inner.receiver.key.className, back.receiver.key.className] =
        shown.map (·.receiver.key.className) := by
      rw [List.map_map, List.map_map] at erased
      exact erased
    rw [classesAlone, second.2.2, third.2.2] at alike
    exact absurd alike (by decide)

end CallDiagram
