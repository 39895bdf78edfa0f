import CallDiagram.Hierarchy.Recorded
import CallDiagram.Proofs.Traversal.Tracing

/-! # Diagrams as unfoldings of the call relation

A finished diagram shows the relation of kept call sites, unfolded as deep as the settings say: the
calls directly below a call are those of its target, one for one and in order. The participants are
those of the targets wherever identities tell declarations apart.
-/

namespace CallDiagram

/-- The call sites of a function that its diagrams show, in the order in which they are carried
out. -/
def Provider.shownCalls (p : Provider) (s : Settings) (function : Item) : List CallSite :=
  (p.traversal s).keptSites function

/-- The identities of the functions that an entry leads to tell their declarations apart. -/
def Provider.Identifies (p : Provider) (entry : Item) : Prop :=
  ∀ a b, p.Reaches entry a → p.Reaches entry b → a.identity = b.identity →
    a.uri = b.uri ∧ a.selection.start = b.selection.start

/-- The calls of a diagram, with their sites, unfold the relation of shown call sites. -/
structure Provider.Unfolds (p : Provider) (s : Settings) (d : Diagram) (calls : List TracedCall) :
    Prop where
  /-- There is a site for every call. -/
  all : calls.map (·.message) = d.calls
  /-- The calls with one component are those of the entry. -/
  top : callsBelow calls "" =
    numberedCalls ⟨d.entry.participantKey d.workspaceRoot d.entryClass d.entry.name, 1⟩ ""
      (p.shownCalls s d.entry)
  /-- The calls directly below a call are those of its target. -/
  below : ∀ c ∈ calls, numberDepth c.message.number < s.maxCallDepth.val →
    callsBelow calls c.message.number =
      numberedCalls c.message.receiver c.message.number (p.shownCalls s c.site.target)
  /-- There are no other calls. -/
  above : ∀ c ∈ calls, numberDepth c.message.number ≤ s.maxCallDepth.val ∧
    (isDirectlyBelow "" c.message.number = true ∨
      ∃ above ∈ calls, isDirectlyBelow above.message.number c.message.number = true)
  label : ∀ c ∈ calls, c.message.label = Traversal.label s c.site
  receiver : ∀ c ∈ calls, c.message.receiver.key =
    c.site.target.participantKey d.workspaceRoot (p.classOf c.site.target)
      (Traversal.objectName c.message.sender.key.objectName c.site.reading.qualifier)
  /-- At the bottom a note tells whether there are further calls. -/
  bottom : ∀ c ∈ calls, numberDepth c.message.number = s.maxCallDepth.val →
    ∃ answer : Message, answer.kind = .return ∧ answer.number = c.message.number ∧
      c.message ::
          (if p.shownCalls s c.site.target = [] then []
            else [⟨c.message.receiver, c.message.receiver, truncationNote, c.message.number, .note⟩])
          ++ [answer]
        <:+: d.messages

namespace Traversal

variable {t : Traversal} {τ : TraversalState}

/-- Where only functions that an entry leads to have been looked up, every such function has a class
of its own. -/
theorem keyIn_of_remember {entry item : Item} {items : List Item}
    (known : τ.classNames = t.provider.remember [] items)
    (met : ∀ a ∈ items, t.provider.Reaches entry a)
    (identifies : t.provider.Identifies entry) (reached : t.provider.Reaches entry item)
    (objectName : String) :
    t.keyIn τ item objectName =
      item.participantKey t.root (t.provider.classOf item) objectName := by
  have own : t.classIn τ item = t.provider.classOf item := by
    rw [classIn, known, Provider.get?_remember, Table.get?_nil, Option.none_or]
    cases found : items.find? (·.identity = item.identity) with
    | none => rfl
    | some other =>
        have reachedOther := met other (List.mem_of_find?_eq_some found)
        have same : other.identity = item.identity := by simpa using List.find?_some found
        obtain ⟨sameFile, samePlace⟩ := identifies other item reachedOther reached same
        simp only [Option.map_some, Option.getD_some, Provider.classOf, sameFile, samePlace]
  rw [keyIn, own]

theorem Finished.keyIn_eq {entry item : Item} {d : Diagram} (finished : t.Finished entry d τ)
    (identifies : t.provider.Identifies entry) (reached : t.provider.Reaches entry item)
    (objectName : String) :
    t.keyIn τ item objectName =
      item.participantKey t.root (t.provider.classOf item) objectName := by
  refine keyIn_of_remember finished.classes (fun a met => ?_) identifies reached objectName
  rcases List.mem_cons.mp met with rfl | below
  · exact .entry
  · exact reaches_lookups .entry below

end Traversal

/-- A diagram is always built, and a finished one is the unfolding of the shown calls. -/
theorem Provider.diagram_unfolds (p : Provider) (s : Settings) (entry : Item)
    (identifies : p.Identifies entry) :
    (∃ d, (p.diagram s entry).1 = .ok d) ∧
      ∀ cancelAt d, (p.diagram s entry cancelAt).1 = .ok d → ∃ calls, p.Unfolds s d calls := by
  refine ⟨p.diagram_built s entry, fun cancelAt d built => ?_⟩
  obtain ⟨τ, finished⟩ := finished_diagram built
  let t := p.traversal s cancelAt
  let who := t.participantIn τ
  refine ⟨t.tracedCalls who s.maxCallDepth.val entry entry.name "", ?_⟩
  have levels : numberDepth "" + s.maxCallDepth.val = s.maxCallDepth.val := by simp
  have outline : Traversal.shownMessages (t.outline who s.maxCallDepth.val entry entry.name "") =
      d.messages := congrArg Traversal.shownMessages finished.outline
  have named : ∀ item objectName, (who item objectName).key.objectName = objectName :=
    fun _ _ => rfl
  constructor
  case all =>
    rw [Traversal.map_tracedCalls, outline]
    rfl
  case top =>
    obtain ⟨depth, positive⟩ := Nat.exists_eq_add_of_le' s.maxCallDepth.property.1
    rw [positive, Traversal.callsBelow_tracedCalls, finished.entry_eq, finished.root_eq,
      finished.entryClass_eq]
    exact congrArg (numberedCalls · "" _) finished.first
  case below =>
    intro c member shallow
    exact Traversal.callsBelow_of_mem member (by rwa [levels])
  case above =>
    intro c member
    have bound := (Traversal.below_of_mem_tracedCalls member).1
    exact ⟨by rwa [levels] at bound, Traversal.parent_of_mem member⟩
  case label =>
    intro c member
    exact (Traversal.receiver_of_mem named member).1
  case receiver =>
    intro c member
    rw [(Traversal.receiver_of_mem named member).2, finished.root_eq]
    exact finished.keyIn_eq identifies (Traversal.reaches_of_mem .entry member) _
  case bottom =>
    intro c member atLimit
    have answered := Traversal.bottom_of_mem member (by rwa [levels])
    rw [outline] at answered
    let answer : Message :=
      ⟨c.message.receiver, c.message.sender, s.returnMessageLabel, c.message.number, .return⟩
    exact ⟨answer, rfl, rfl, answered⟩

theorem Provider.identifies_countdown : countdown.Identifies .countdown := by
  have alone : ∀ a, countdown.Reaches .countdown a → a = .countdown := by
    intro a reached
    induction reached with
    | entry => rfl
    | call _ answered known =>
        cases answered
        rw [List.mem_singleton.mp known]
  intro a b metA metB _
  rw [alone a metA, alone b metB]
  exact ⟨rfl, rfl⟩

theorem Provider.countdown_unfolds :
    let s : Settings := { maxCallDepth := ⟨2, by decide⟩ }
    countdown.Identifies .countdown ∧
      ∃ d, (countdown.diagram s .countdown).1 = .ok d ∧ d.calls.length = 2 ∧
        ∃ calls, countdown.Unfolds s d calls := by
  intro s
  obtain ⟨⟨d, built⟩, unfolds⟩ := countdown.diagram_unfolds s .countdown identifies_countdown
  have counted : (countdown.diagram s .countdown).1.toOption.map (·.calls.length) = some 2 := by
    decide +kernel
  rw [built] at counted
  exact ⟨identifies_countdown, d, built, Option.some.inj counted, unfolds none d built⟩

/-! ## Namesakes

An identity joins a uri and a name by `#`, and both may contain that character. Functions of two
files can have one identity, and the class that was found first counts for both.
-/

def Item.outermost : Item :=
  ⟨"main", .function, "/w/main.py", ⟨⟨0, 0⟩, ⟨2, 9⟩⟩, ⟨⟨0, 4⟩, ⟨0, 8⟩⟩, ""⟩

def Item.stepping : Item :=
  ⟨"step", .function, "/w/step.py", ⟨⟨0, 0⟩, ⟨1, 9⟩⟩, ⟨⟨0, 4⟩, ⟨0, 8⟩⟩, ""⟩

def Item.firstNamesake : Item :=
  ⟨"run", .method, "/w/lib.py#x", ⟨⟨1, 4⟩, ⟨2, 12⟩⟩, ⟨⟨1, 8⟩, ⟨1, 11⟩⟩, ""⟩

def Item.secondNamesake : Item :=
  ⟨"x#run", .method, "/w/lib.py", ⟨⟨1, 4⟩, ⟨2, 12⟩⟩, ⟨⟨1, 8⟩, ⟨1, 11⟩⟩, ""⟩

/-- Calls of two functions that share an identity, one below a call and one behind it. -/
def RecordedHierarchy.namesakes : RecordedHierarchy where
  sources :=
    [("/w/main.py", "def main():\n    step()\n    run()\n"),
      ("/w/step.py", "def step():\n    run()\n"),
      ("/w/lib.py#x", "class Inner:\n    def run(self):\n        pass\n"),
      ("/w/lib.py", "class Outer:\n    def run(self):\n        pass\n")]
  calls :=
    [(.outermost, [⟨.stepping, [⟨⟨1, 4⟩, ⟨1, 8⟩⟩]⟩, ⟨.secondNamesake, [⟨⟨2, 4⟩, ⟨2, 7⟩⟩]⟩]),
      (.stepping, [⟨.firstNamesake, [⟨⟨1, 4⟩, ⟨1, 7⟩⟩]⟩])]
  roots := ["/w"]

theorem RecordedHierarchy.mem_of_reaches_namesakes {item : Item}
    (reached : namesakes.provider.Reaches .outermost item) :
    item ∈ [Item.outermost, .stepping, .firstNamesake, .secondNamesake] := by
  induction reached with
  | entry => decide
  | call reached answered known ih =>
      have listed : ∀ node ∈ [Item.outermost, .stepping, .firstNamesake, .secondNamesake],
          ∀ call ∈ namesakes.callsOf node,
            call.target ∈ [Item.outermost, .stepping, .firstNamesake, .secondNamesake] := by
        decide
      cases answered
      exact listed _ ih _ known

theorem RecordedHierarchy.namesakes_places {a b : Item}
    (metA : namesakes.provider.Reaches .outermost a)
    (metB : namesakes.provider.Reaches .outermost b) (same : a.identity = b.identity) :
    a.selection.start = b.selection.start := by
  have places : ∀ a ∈ [Item.outermost, .stepping, .firstNamesake, .secondNamesake],
      ∀ b ∈ [Item.outermost, .stepping, .firstNamesake, .secondNamesake],
        a.identity = b.identity → a.selection.start = b.selection.start := by
    decide
  exact places a (mem_of_reaches_namesakes metA) b (mem_of_reaches_namesakes metB) same

/-- The call sites of the namesakes, as long as nothing but the depth is set. -/
theorem RecordedHierarchy.namesakes_keptSites :
    let t := namesakes.provider.traversal {}
    ∃ a b c : CallSite,
      a.target = .stepping ∧ b.target = .secondNamesake ∧ c.target = .firstNamesake ∧
        t.keptSites .outermost = [a, b] ∧ t.keptSites .stepping = [c] ∧
        t.keptSites .firstNamesake = [] ∧ t.keptSites .secondNamesake = [] := by
  intro t
  let caller := Document.ofString "def main():\n    step()\n    run()\n"
  let a := (namesakes.provider.callSite {} caller .stepping ⟨⟨1, 4⟩, ⟨1, 8⟩⟩).1
  let b := (namesakes.provider.callSite {} caller .secondNamesake ⟨⟨2, 4⟩, ⟨2, 7⟩⟩).1
  let reading : SiteReading := { isCall := true, argumentRange := some ⟨⟨1, 7⟩, ⟨1, 9⟩⟩ }
  let c : CallSite := ⟨.firstNamesake, ⟨⟨1, 4⟩, ⟨1, 7⟩⟩, reading⟩
  have source : namesakes.provider.sourceText Item.outermost.uri =
      .ok "def main():\n    step()\n    run()\n" := rfl
  obtain ⟨warnings, listed⟩ := Provider.callSites_of (s := {}) (by rfl) source
  have read : namesakes.provider.readSites {} caller (namesakes.callsOf .outermost) = [a, b] := by
    decide
  have order : CallSite.inOrder [a, b] = [a, b] := by
    rw [CallSite.inOrder_pair, if_neg (by decide)]
  have shown : [a, b].filter t.keeps = [a, b] := by decide
  have kept : t.keptSites .outermost = [a, b] := by
    have known : t.provider.callSites t.settings .outermost = .ok ([a, b], warnings) :=
      listed.trans (by rw [← order, ← read])
    rw [Traversal.keptSites, known]
    exact shown
  have single : t.keptSites .stepping = [c] := by decide +kernel
  exact ⟨a, b, c, rfl, rfl, rfl, kept, single, by decide +kernel, by decide +kernel⟩

/-- Below the depth of the first namesake the second one is taken for it. -/
theorem RecordedHierarchy.namesakes_calls {depth : Nat} (bounds : 1 ≤ depth ∧ depth ≤ 32)
    {d : Diagram}
    (built : (namesakes.provider.diagram { maxCallDepth := ⟨depth, bounds⟩ } .outermost).1 = .ok d) :
    d.calls.map (fun m => (m.number, m.receiver.key.className)) =
      if depth = 1 then [("1", "step"), ("2", "Outer")]
      else [("1", "step"), ("1.1", "Inner"), ("2", "Inner")] := by
  obtain ⟨τ, finished⟩ := Provider.finished_diagram built
  obtain ⟨a, b, c, ha, hb, hc, main, step, first, second⟩ := namesakes_keptSites
  let t := namesakes.provider.traversal { maxCallDepth := ⟨depth, bounds⟩ }
  replace main : t.keptSites .outermost = [a, b] := main
  replace step : t.keptSites .stepping = [c] := step
  replace first : t.keptSites .firstNamesake = [] := first
  replace second : t.keptSites .secondNamesake = [] := second
  have shown : d.calls =
      (t.tracedCalls (t.participantIn τ) depth .outermost "main" "").map (·.message) := by
    rw [Traversal.map_tracedCalls]
    exact congrArg (fun nested => (Traversal.shownMessages nested).filter (·.kind = .call))
      finished.outline.symm
  have classes (items : List Item) (looked : .outermost :: t.lookups depth .outermost = items)
      (item : Item) : t.classIn τ item =
        namesakes.provider.classOf ((items.find? (·.identity = item.identity)).getD item) := by
    rw [← looked]
    exact finished.classIn_eq item
  rw [shown]
  cases depth with
  | zero => omega
  | succ depth =>
      cases depth with
      | zero =>
          have looked := classes [.outermost, .outermost, .stepping, .secondNamesake]
            (by simp [Traversal.lookups, main, ha, hb])
          have stepping : t.classIn τ .stepping = "" := (looked _).trans (by decide)
          have behind : t.classIn τ .secondNamesake = "Outer" := (looked _).trans (by decide)
          simp [Traversal.tracedCalls, main, ha, hb, Traversal.tracedCall, Traversal.participantIn,
            Traversal.keyIn, Item.participantKey, stepping, behind]
          decide
      | succ depth =>
          have looked := classes [.outermost, .outermost, .stepping, .stepping, .firstNamesake,
              .secondNamesake]
            (by simp [Traversal.lookups, main, ha, hb, step, hc, Traversal.lookups_of_leaf first, second])
          have stepping : t.classIn τ .stepping = "" := (looked _).trans (by decide)
          have below : t.classIn τ .firstNamesake = "Inner" := (looked _).trans (by decide)
          have behind : t.classIn τ .secondNamesake = "Inner" := (looked _).trans (by decide)
          simp [Traversal.tracedCalls, main, ha, hb, step, hc, Traversal.tracedCalls_of_leaf first,
            second, Traversal.tracedCall, Traversal.participantIn,
            Traversal.keyIn, Item.participantKey, stepping, below, behind]
          decide

/-- Equal places of the names are not enough for identities to tell declarations apart. -/
theorem Provider.namesakes_not_unfolded :
    let p := RecordedHierarchy.namesakes.provider
    let s : Settings := { maxCallDepth := ⟨2, by decide⟩ }
    (∀ a b, p.Reaches .outermost a → p.Reaches .outermost b → a.identity = b.identity →
        a.selection.start = b.selection.start) ∧
      ∃ d, (p.diagram s .outermost).1 = .ok d ∧ ¬ ∃ calls, p.Unfolds s d calls := by
  intro p s
  refine ⟨fun a b => RecordedHierarchy.namesakes_places, ?_⟩
  obtain ⟨d, built⟩ := p.diagram_built s .outermost
  refine ⟨d, built, fun ⟨calls, unfolds⟩ => ?_⟩
  have named : d.calls.map (fun m => (m.number, m.receiver.key.className)) =
      [("1", "step"), ("1.1", "Inner"), ("2", "Inner")] :=
    RecordedHierarchy.namesakes_calls _ built
  obtain ⟨a, b, _, -, target, -, main, -⟩ := RecordedHierarchy.namesakes_keptSites
  obtain ⟨τ, finished⟩ := finished_diagram built
  have top := unfolds.top
  rw [finished.entry_eq, show p.shownCalls s .outermost = [a, b] from main] at top
  have listed : ∃ call ∈ callsBelow calls "", call.2 = (numberBelow "" 2, b) := by
    rw [top]
    exact ⟨_, .tail _ (.head _), rfl⟩
  obtain ⟨_, listed, same⟩ := listed
  obtain ⟨c, member, rfl⟩ := List.mem_map.mp listed
  obtain ⟨number, site⟩ := Prod.mk.inj same
  have message : c.message ∈ d.calls := by
    rw [← unfolds.all]
    exact List.mem_map_of_mem (List.mem_filter.mp member).1
  have inner : (c.message.number, c.message.receiver.key.className) ∈
      [("1", "step"), ("1.1", "Inner"), ("2", "Inner")] := by
    rw [← named]
    exact List.mem_map_of_mem message
  have outer : p.classOf .secondNamesake = "Outer" := by decide
  rw [unfolds.receiver c (List.mem_filter.mp member).1, number, site, target, outer] at inner
  replace inner : (numberBelow "" 2, "Outer") ∈ [("1", "step"), ("1.1", "Inner"), ("2", "Inner")] :=
    inner
  exact absurd inner (by decide)

end CallDiagram
