import CallDiagram.Proofs.CallSite.Reading
import CallDiagram.Proofs.Traversal.Drawing

/-! # Presentation

Some settings only tell how calls are labelled, and some are for the later use of a diagram. They do
not change its shape: the parameters or arguments of a call are read beside its qualifier and its
place, and no comparison of call sites looks at them.
-/

namespace CallDiagram

/-- Settings for which the same calls are shown, to the same depth and on the same objects. -/
structure Settings.SameCalls (s other : Settings) : Prop where
  maxCallDepth : s.maxCallDepth = other.maxCallDepth
  selfTokens : s.selfTokens = other.selfTokens
  workspaceRoots : s.workspaceRoots = other.workspaceRoots
  ignoreOnGenerate : s.ignoreOnGenerate = other.ignoreOnGenerate
  ignoreNonWorkspaceFiles : s.ignoreNonWorkspaceFiles = other.ignoreNonWorkspaceFiles
  ignoreThirdPartyPackages : s.ignoreThirdPartyPackages = other.ignoreThirdPartyPackages
  interpreterPath : s.interpreterPath = other.interpreterPath
  venvFolders : s.venvFolders = other.venvFolders
  venvPath : s.venvPath = other.venvPath

/-! ## Call sites without their arguments -/

def CallSite.withoutArguments (site : CallSite) : CallSite :=
  { site with reading := site.reading.withoutArguments }

theorem CallSite.inOrder_withoutArguments (sites : List CallSite) :
    (inOrder sites).map withoutArguments = inOrder (sites.map withoutArguments) :=
  List.map_mergeSort fun _ _ _ _ => rfl

namespace Provider

variable {s other : Settings}

theorem readSites_withoutArguments (p : Provider) (tokens : s.selfTokens = other.selfTokens)
    (caller : Document) (calls : List OutgoingCall) :
    (p.readSites s caller calls).map CallSite.withoutArguments =
      (p.readSites other caller calls).map CallSite.withoutArguments := by
  have read : ∀ target range, (p.callSite s caller target range).1.withoutArguments =
      (p.callSite other caller target range).1.withoutArguments := by
    intro target range
    refine congrArg (CallSite.mk target range) ?_
    change (caller.readSite ..).1.withoutArguments = (caller.readSite ..).1.withoutArguments
    rw [Document.readSite_withoutArguments, Document.readSite_withoutArguments, tokens]
  rw [readSites, readSites, List.map_map, List.map_map]
  exact List.map_congr_left fun site _ => read site.1 site.2

theorem roots_of_sameCalls (p : Provider) (same : s.SameCalls other) :
    p.roots s = p.roots other := by
  rw [roots, roots, same.workspaceRoots]

theorem keeps_of_sameCalls (p : Provider) (same : s.SameCalls other) :
    (p.traversal s).keeps = (p.traversal other).keeps := by
  have paths : s.thirdPartyPaths = other.thirdPartyPaths := by
    rw [Settings.thirdPartyPaths, Settings.thirdPartyPaths, same.interpreterPath, same.venvFolders,
      same.venvPath]
  have rules : (p.traversal s).rules = (p.traversal other).rules := by
    simp only [traversal, SkipConfiguration.ofSettings, p.roots_of_sameCalls same,
      same.workspaceRoots, same.ignoreOnGenerate, same.ignoreNonWorkspaceFiles,
      same.ignoreThirdPartyPackages, paths]
  funext site
  rw [Traversal.keeps, Traversal.keeps, rules]

theorem keptSites_of_sameCalls (p : Provider) (same : s.SameCalls other) (node : Item) :
    ((p.traversal s).keptSites node).map CallSite.withoutArguments =
      ((p.traversal other).keptSites node).map CallSite.withoutArguments := by
  have kept : ∀ (t : Traversal) (sites : List CallSite),
      (sites.filter t.keeps).map CallSite.withoutArguments =
        (sites.map CallSite.withoutArguments).filter t.keeps := by
    intro t sites
    rw [List.filter_map]
    rfl
  rw [Traversal.keptSites_eq, Traversal.keptSites_eq]
  simp only [traversal]
  cases p.outgoingCalls node with
  | error cause => rfl
  | ok calls =>
      cases p.sourceText node.uri with
      | error cause => rfl
      | ok text =>
          dsimp only
          rw [kept, kept, CallSite.inOrder_withoutArguments, CallSite.inOrder_withoutArguments,
            p.readSites_withoutArguments same.selfTokens]
          exact congrArg (List.filter · _) (p.keeps_of_sameCalls same)

theorem drawsLike_of_sameCalls (p : Provider) (same : s.SameCalls other) :
    (p.traversal s).DrawsLike (fun _ => "") (p.traversal other) where
  calls node := by
    have equal : List.Forall₂ (· = ·)
        (((p.traversal s).keptSites node).map CallSite.withoutArguments)
        (((p.traversal other).keptSites node).map CallSite.withoutArguments) := by
      rw [p.keptSites_of_sameCalls same]
      exact List.forall₂_refl _
    rw [List.forall₂_map_left_iff, List.forall₂_map_right_iff] at equal
    exact equal.imp fun _ _ eq =>
      ⟨(congrArg CallSite.target eq :), (congrArg (·.reading.qualifier) eq :), rfl⟩
  answers := rfl
  depth := same.maxCallDepth
  classes _ := rfl
  root := by simp only [traversal, p.roots_of_sameCalls same]

/-- Settings for which the same calls are shown give diagrams of one shape: the participants are the
same, and the messages differ in the labels of calls and answers at most. -/
theorem diagram_sameCalls (p : Provider) (same : s.SameCalls other) (entry : Item) :
    ∃ d d', (p.diagram s entry).1 = .ok d ∧ (p.diagram other entry).1 = .ok d' ∧
      d.registry = d'.registry ∧
      d.messages.map (Message.mapLabel fun _ => "") =
        d'.messages.map (Message.mapLabel fun _ => "") := by
  obtain ⟨registry, messages⟩ := (p.drawsLike_of_sameCalls same).drawing entry
  exact ⟨_, _, p.diagram_drawing s entry, p.diagram_drawing other entry, registry, messages⟩

theorem countdown_sameCalls :
    let signed : Settings := { showSignatures := true, returnMessageLabel := "" }
    Settings.SameCalls {} signed ∧
      ∃ d d', (countdown.diagram {} .countdown).1 = .ok d ∧
        (countdown.diagram signed .countdown).1 = .ok d' ∧
        d.registry = d'.registry ∧
        d.messages.map (Message.mapLabel fun _ => "") =
          d'.messages.map (Message.mapLabel fun _ => "") ∧
        d.messages.head?.map (·.label) = some "count(n - 1)" ∧
        d'.messages.head?.map (·.label) = some "count(n)" := by
  intro signed
  have same : Settings.SameCalls {} signed := ⟨rfl, rfl, rfl, rfl, rfl, rfl, rfl, rfl, rfl⟩
  obtain ⟨d, d', built, built', registry, messages⟩ := countdown.diagram_sameCalls same .countdown
  have first : (countdown.diagram {} .countdown).1.toOption.map
      (·.messages.head?.map (·.label)) = some (some "count(n - 1)") := by decide +kernel
  have first' : (countdown.diagram signed .countdown).1.toOption.map
      (·.messages.head?.map (·.label)) = some (some "count(n)") := by decide +kernel
  rw [built] at first
  rw [built'] at first'
  exact ⟨same, d, d', built, built', registry, messages, Option.some.inj first,
    Option.some.inj first'⟩

end Provider

end CallDiagram
