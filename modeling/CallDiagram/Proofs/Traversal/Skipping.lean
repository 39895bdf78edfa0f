import CallDiagram.Proofs.CallSite.Selection
import CallDiagram.Proofs.Traversal.Drawing

/-! # Skipped calls

A call that the rules skip is sorted among the others and left out behind that. As each call has its
place whatever the others are, the diagram is the one of a provider that never told of the skipped
calls: numbers, participants and notes close up.
-/

namespace CallDiagram

namespace Provider

/-- Whether the settings let calls to a function be shown. -/
def admits (p : Provider) (s : Settings) (target : Item) : Bool :=
  (skipReason? target.kind target.uri (.ofSettings s (p.roots s).1)).isNone

/-- A provider that tells only of calls that the settings let be shown. -/
def pruned (p : Provider) (s : Settings) : Provider :=
  { p with
    outgoingCalls := fun function =>
      (p.outgoingCalls function).map (·.filter fun call => p.admits s call.target) }

/-- The names of all calls that a provider tells of can be names and stand apart. -/
def SeparateNames (p : Provider) : Prop :=
  ∀ function calls text, p.outgoingCalls function = .ok calls →
    p.sourceText function.uri = .ok text → (Document.ofString text).Separate (flattenCalls calls)

theorem keptSites_pruned {p : Provider} (separate : p.SeparateNames) (s : Settings) (node : Item) :
    ((p.pruned s).traversal s).keptSites node = (p.traversal s).keptSites node := by
  have selected : ∀ calls text, (Document.ofString text).Separate (flattenCalls calls) →
      (CallSite.inOrder (p.readSites s (.ofString text) calls)).filter (p.traversal s).keeps =
        CallSite.inOrder (p.readSites s (.ofString text)
          (calls.filter fun call => p.admits s call.target)) :=
    fun _ _ separate => p.filter_inOrder_readSites s separate (p.admits s)
  rw [Traversal.keptSites_eq, Traversal.keptSites_eq]
  simp only [traversal, pruned]
  cases answered : p.outgoingCalls node with
  | error cause => rfl
  | ok calls =>
      cases source : p.sourceText node.uri with
      | error cause => rfl
      | ok text =>
          have apart := separate node calls text answered source
          have fewer : (Document.ofString text).Separate
              (flattenCalls (calls.filter fun call => p.admits s call.target)) := by
            rw [flattenCalls_filter]
            exact apart.filter _
          refine (selected _ text fewer).trans (Eq.trans ?_ (selected calls text apart).symm)
          simp only [List.filter_filter, Bool.and_self]

/-- A diagram does not show that there were calls that the rules skip. -/
theorem diagram_pruned {p : Provider} (separate : p.SeparateNames) (s : Settings) (entry : Item) :
    ∃ d, (p.diagram s entry).1 = .ok d ∧ ((p.pruned s).diagram s entry).1 = .ok d := by
  obtain ⟨d, built⟩ := p.diagram_built s entry
  have same := diagram_eq_of_keptSites (keptSites_pruned separate s) (fun _ => rfl) rfl entry
  exact ⟨d, built, same.trans built⟩

end Provider

def Item.foreign : Item :=
  ⟨"g", .function, "/x/b.py", ⟨⟨0, 0⟩, ⟨0, 6⟩⟩, ⟨⟨0, 0⟩, ⟨0, 1⟩⟩, ""⟩

/-- A function that calls itself in the arguments of a call that leaves the workspace. -/
def Provider.leaving : Provider :=
  { countdown with
    outgoingCalls := fun _ =>
      .ok [⟨.foreign, [⟨⟨0, 0⟩, ⟨0, 1⟩⟩]⟩, ⟨.nesting, [⟨⟨0, 2⟩, ⟨0, 3⟩⟩]⟩]
    sourceText := fun _ => .ok "g(f())" }

theorem Provider.separateNames_leaving : leaving.SeparateNames := by
  intro function calls text answered source
  cases answered
  cases source
  have outer : (Document.ofString "g(f())").IsName ⟨⟨0, 0⟩, ⟨0, 1⟩⟩ := by
    refine ⟨⟨_, rfl, by decide, by decide⟩, ⟨_, rfl, by decide, by decide⟩, by decide, ?_⟩
    intro cs covered
    cases covered
    have letter : ∀ c ∈ ['g'], Text.isBlank c = false ∧ c ≠ '(' ∧ c ≠ ')' :=
      List.forall_mem_singleton.mpr ⟨by decide, by decide, by decide⟩
    exact letter
  have inner : (Document.ofString "g(f())").IsName ⟨⟨0, 2⟩, ⟨0, 3⟩⟩ := by
    refine ⟨⟨_, rfl, by decide, by decide⟩, ⟨_, rfl, by decide, by decide⟩, by decide, ?_⟩
    intro cs covered
    cases covered
    have letter : ∀ c ∈ ['f'], Text.isBlank c = false ∧ c ≠ '(' ∧ c ≠ ')' :=
      List.forall_mem_singleton.mpr ⟨by decide, by decide, by decide⟩
    exact letter
  refine ⟨fun site member => ?_, .cons (by simp [Range.Apart]; decide) (.cons (by simp) .nil)⟩
  rcases List.mem_cons.mp member with rfl | member
  · exact outer
  · rw [List.mem_singleton.mp member]
    exact inner

theorem Provider.leaving_pruned :
    let s : Settings := { maxCallDepth := ⟨2, by decide⟩ }
    leaving.SeparateNames ∧ leaving.admits s .foreign = false ∧
      ∃ d, (leaving.diagram s .nesting).1 = .ok d ∧
        ((leaving.pruned s).diagram s .nesting).1 = .ok d ∧
        d.calls.map (·.number) = ["1", "1.1"] := by
  intro s
  obtain ⟨d, built, pruned⟩ := diagram_pruned separateNames_leaving s .nesting
  have numbers : ((leaving.pruned s).diagram s .nesting).1.toOption.map
      (·.calls.map (·.number)) = some ["1", "1.1"] := by decide +kernel
  rw [pruned] at numbers
  exact ⟨separateNames_leaving, by decide +kernel, d, built, pruned, Option.some.inj numbers⟩

end CallDiagram
