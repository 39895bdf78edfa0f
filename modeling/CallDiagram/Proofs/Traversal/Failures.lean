import CallDiagram.Proofs.CallSite.Reading
import CallDiagram.Proofs.Traversal.Drawing

/-! # Failing providers

A diagram is built whatever a provider fails to answer, and it is the one that a provider without
failures gives if it has nothing to tell in their place. Of the readings of call sites, only those
of missing texts and lines fail.
-/

namespace CallDiagram

namespace Provider

/-- A provider that has nothing to tell wherever another one fails. A function also has no calls
where its text is not to be had. -/
def patched (p : Provider) : Provider :=
  { p with
    outgoingCalls := fun function =>
      match p.outgoingCalls function, p.sourceText function.uri with
      | .ok calls, .ok _ => .ok calls
      | _, _ => .ok []
    containerName := fun uri place => .ok ((p.containerName uri place).toOption.getD none)
    workspaceRoots := .ok (p.workspaceRoots.toOption.getD []) }

theorem classOf_patched (p : Provider) (item : Item) : p.patched.classOf item = p.classOf item := by
  simp only [classOf, patched]
  cases p.containerName item.uri item.selection.start <;> rfl

theorem roots_patched (p : Provider) (s : Settings) : (p.patched.roots s).1 = (p.roots s).1 := by
  simp only [roots, patched]
  split
  · rfl
  · cases p.workspaceRoots <;> rfl

theorem keptSites_patched (p : Provider) (s : Settings) (node : Item) :
    (p.patched.traversal s).keptSites node = (p.traversal s).keptSites node := by
  have rules : (p.patched.traversal s).keeps = (p.traversal s).keeps := by
    unfold Traversal.keeps traversal
    rw [roots_patched]
  have nothing : ∀ text,
      (CallSite.inOrder (p.patched.readSites s (.ofString text) [])).filter
        (p.traversal s).keeps = [] := by
    intro text
    simp [readSites, flattenCalls, CallSite.inOrder]
  rw [Traversal.keptSites_eq, Traversal.keptSites_eq, rules]
  simp only [traversal, patched]
  cases p.outgoingCalls node with
  | error cause =>
      cases p.sourceText node.uri with
      | error cause => rfl
      | ok text => exact nothing text
  | ok calls => cases p.sourceText node.uri <;> rfl

/-- Failures leave something out of a diagram and never keep it from being built. -/
theorem diagram_patched (p : Provider) (s : Settings) (entry : Item) :
    (∃ d, (p.diagram s entry).1 = .ok d ∧ (p.patched.diagram s entry).1 = .ok d) ∧
      ∀ function sites warnings, p.callSites s function = .ok (sites, warnings) →
        ∀ warning ∈ warnings, warning.MissesSource := by
  constructor
  · obtain ⟨d, built⟩ := p.diagram_built s entry
    have same := diagram_eq_of_keptSites (p.keptSites_patched s) p.classOf_patched
      (p.roots_patched s) entry
    exact ⟨d, built, same.trans built⟩
  · intro function sites warnings listed warning warned
    exact missesSource_of_callSites listed warned

end Provider

def Item.unanswered : Item :=
  ⟨"load", .function, "/w/b.py", ⟨⟨0, 0⟩, ⟨1, 8⟩⟩, ⟨⟨0, 4⟩, ⟨0, 8⟩⟩, ""⟩

/-- A function with a call at a line that its text does not have, to a function of which nothing is
known. -/
def Provider.outage : Provider :=
  { countdown with
    outgoingCalls := fun function =>
      if function = .countdown then .ok [⟨.unanswered, [⟨⟨9, 4⟩, ⟨9, 8⟩⟩]⟩]
      else .error (.failed "no answer")
    containerName := fun _ _ => .error (.failed "no answer")
    workspaceRoots := .error (.failed "no answer") }

theorem Provider.outage_patched :
    let s : Settings := { ignoreNonWorkspaceFiles := false }
    (∃ d, (outage.diagram s .countdown).1 = .ok d ∧
        (outage.patched.diagram s .countdown).1 = .ok d ∧ d.messages.length = 2) ∧
      ∃ sites warning, outage.callSites s .countdown = .ok (sites, [warning]) ∧
        warning.MissesSource := by
  intro s
  obtain ⟨⟨d, built, patched⟩, foreseen⟩ := outage.diagram_patched s .countdown
  have counted : (outage.diagram s .countdown).1.toOption.map (·.messages.length) = some 2 := by
    decide +kernel
  rw [built] at counted
  refine ⟨⟨d, built, patched, Option.some.inj counted⟩, ?_⟩
  let range : Range := ⟨⟨9, 4⟩, ⟨9, 8⟩⟩
  have listed : outage.callSites s .countdown =
      .ok ([⟨.unanswered, range, {}⟩], [.reading (.call range (.noLine 9 3))]) := by
    decide +kernel
  exact ⟨_, _, listed, foreseen _ _ _ listed _ List.mem_cons_self⟩

end CallDiagram
